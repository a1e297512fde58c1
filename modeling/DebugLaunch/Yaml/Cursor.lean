import DebugLaunch.Text.Basic

/-! A place in a YAML text: what is still to be read, and the line and column that indentation is
judged by. Behind the last character one reads null characters, which no YAML text holds. -/
namespace DebugLaunch.Yaml

/-- A character that ends a line. Carriage returns have become line feeds before. -/
def isBreak (c : Char) : Bool := c = '\n' || c = '\u0085' || c = '\u2028' || c = '\u2029'

/-- The end of a line or of the text. -/
def isLineEnd (c : Char) : Bool := c = '\x00' || isBreak c

/-- A space, a tab, or the end of a line or of the text. -/
def isGap (c : Char) : Bool := c = ' ' || c = '\t' || isLineEnd c

/-- Characters of the names of anchors, handles and directives. -/
def isNameChar (c : Char) : Bool := c.isAlphanum || c = '-' || c = '_'

/-- What a line break is read as. -/
def breakText (c : Char) : Text := if c = '\n' || c = '\u0085' then ['\n'] else [c]

/-- Whether a text begins with a mark that starts or ends a document. -/
def isMarker (text : Text) : Bool :=
  (text.take 3 = ['-', '-', '-'] || text.take 3 = ['.', '.', '.']) && isGap (text.getD 3 '\x00')

/-- A place by numbers, all from zero on: the characters in front of it, its line and its column. -/
structure Mark where
  index : Nat := 0
  line : Nat := 0
  column : Nat := 0
  deriving DecidableEq, Repr, Inhabited

/-- A place in a text with what follows it. -/
structure Cursor where
  rest : Text
  index : Nat := 0
  line : Nat := 0
  column : Nat := 0
  deriving DecidableEq, Repr, Inhabited

namespace Cursor

/-- The place of a cursor. -/
def mark (cursor : Cursor) : Mark := ⟨cursor.index, cursor.line, cursor.column⟩

/-- The character at an offset from the cursor. -/
def peekAt (cursor : Cursor) (offset : Nat) : Char := cursor.rest.getD offset '\x00'

/-- The character at the cursor. -/
def peek (cursor : Cursor) : Char := cursor.peekAt 0

/-- The place behind one more character. A byte order mark takes no column. -/
def next (cursor : Cursor) : Cursor :=
  match cursor.rest with
  | [] => cursor
  | c :: rest =>
    if isBreak c then ⟨rest, cursor.index + 1, cursor.line + 1, 0⟩
    else
      let column := if c = '\uFEFF' then cursor.column else cursor.column + 1
      ⟨rest, cursor.index + 1, cursor.line, column⟩

/-- The place a number of characters further. -/
def skip (cursor : Cursor) : Nat → Cursor
  | 0 => cursor
  | count + 1 => cursor.next.skip count

/-- The longest run of characters that satisfy `p`, and the place behind it. -/
def span (cursor : Cursor) (p : Char → Bool) : Text × Cursor :=
  let run := cursor.rest.takeWhile p
  (run, cursor.skip run.length)

/-- The place behind spaces. -/
def skipSpaces (cursor : Cursor) : Cursor := (cursor.span (· = ' ')).2

/-- The place behind a comment, if there is one. -/
def skipComment (cursor : Cursor) : Cursor :=
  if cursor.peek = '#' then (cursor.span fun c => !isLineEnd c).2 else cursor

/-- A line break if there is one, and the place behind it. -/
def lineBreak (cursor : Cursor) : Text × Cursor :=
  if isBreak cursor.peek then (breakText cursor.peek, cursor.next) else ([], cursor)

end Cursor
end DebugLaunch.Yaml
