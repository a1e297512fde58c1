import DebugLaunch.Text.Basic

/-! The words of a command line. Blanks separate words; single quotes keep everything, double
quotes keep everything but a backslash in front of a backslash or a double quote; outside of
quotes a backslash keeps the character behind it. -/
namespace DebugLaunch.Shell

/-- Why a text cannot be cut into words. -/
inductive WordsFault where
  | noClosingQuotation
  | noEscapedCharacter
  deriving DecidableEq, Repr, Inhabited

/-- The text of a fault. -/
def WordsFault.message : WordsFault → Text
  | noClosingQuotation => "No closing quotation".toList
  | noEscapedCharacter => "No escaped character".toList

/-- The blanks between words. -/
def isSeparator (c : Char) : Bool := c = ' ' || c = '\t' || c = '\r' || c = '\n'

/-- Where in a command line a character stands: between words, in a word, in quotes, or behind a
backslash outside of quotes or in double quotes. -/
inductive Position where
  | between
  | inWord
  | inQuotes (quote : Char)
  | escaped
  | escapedInQuotes
  deriving DecidableEq, Repr, Inhabited

/-- The words from a position on; `word` holds the one being read, last character first. -/
def wordsFrom (position : Position) (word : Text) : Text → Except WordsFault (List Text)
  | [] =>
    match position with
    | .between => .ok []
    | .inWord => .ok [word.reverse]
    | .inQuotes _ => .error .noClosingQuotation
    | .escaped | .escapedInQuotes => .error .noEscapedCharacter
  | c :: rest =>
    match position with
    | .between | .inWord =>
      if isSeparator c then
        if position = .inWord then (wordsFrom .between [] rest).map (word.reverse :: ·)
        else wordsFrom .between [] rest
      else if c = '\'' || c = '"' then wordsFrom (.inQuotes c) word rest
      else if c = '\\' then wordsFrom .escaped word rest
      else wordsFrom .inWord (c :: word) rest
    | .inQuotes quote =>
      if c = quote then wordsFrom .inWord word rest
      else if c = '\\' && quote = '"' then wordsFrom .escapedInQuotes word rest
      else wordsFrom (.inQuotes quote) (c :: word) rest
    | .escaped => wordsFrom .inWord (c :: word) rest
    | .escapedInQuotes =>
      wordsFrom (.inQuotes '"') (if c = '\\' || c = '"' then c :: word else c :: '\\' :: word) rest

/-- The words of a command line. -/
def words (text : Text) : Except WordsFault (List Text) := wordsFrom .between [] text

end DebugLaunch.Shell
