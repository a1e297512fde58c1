import DebugLaunch.Text.Blank
import DebugLaunch.Text.Digit

/-! Literals, as the arguments of an event handler are written: numbers, quoted texts, constants,
and tuples, sets and dictionaries of literals. Only whether a text is one is of interest here, and
of its value no more than that takes: a sign needs a number behind it, a sum needs a real and an
imaginary number, and what is kept in a set has to be of a fixed value. -/
namespace DebugLaunch.Display

/-- What a literal is. -/
inductive Literal where
  | real
  | signedReal
  | imaginary
  | fixed
  | changeable
  deriving DecidableEq, Repr, Inhabited

namespace Literal

/-- A literal at the front of a text, and the text behind it. -/
abbrev Found := Option (Literal × Text)

/-- Blanks between the parts of a literal. A line may end inside of brackets only, and a comment
ends with it. -/
def skipBlanks (inside : Bool) : Nat → Text → Text
  | 0, text => text
  | _, [] => []
  | fuel + 1, c :: rest =>
    if c = ' ' || c = '\t' || c = '\x0c' || (inside && c = '\n') then skipBlanks inside fuel rest
    else if c = '#' then skipBlanks inside fuel (rest.dropWhile (· != '\n'))
    else c :: rest

/-- Digits that satisfy `p`, with single underscores between them. -/
def takeDigits (p : Char → Bool) : Text → Option (Text × Text)
  | [] => none
  | c :: rest =>
    if p c then
      match rest with
      | '_' :: rest => (takeDigits p rest).map fun (digits, behind) => (c :: digits, behind)
      | rest =>
        let (digits, behind) := (takeDigits p rest).getD ([], rest)
        some (c :: digits, behind)
    else none

/-- Whether a character would go on with a number or name. -/
def goesOn (c : Char) : Bool := c.isAlphanum || c = '_' || 128 ≤ c.toNat

/-- A literal, unless something follows that would go on with it. -/
def ended (literal : Literal) (behind : Text) : Found :=
  if (behind.head?.map goesOn).getD false then none else some (literal, behind)

/-- The digits of a whole number in the base that its mark names. -/
def ofMark? (mark : Char) : Option (Char → Bool) :=
  match mark.toLower with
  | 'x' => some fun c => (Text.letterValue? c).any (· < 16)
  | 'o' => some fun c => '0' ≤ c && c ≤ '7'
  | 'b' => some fun c => c = '0' || c = '1'
  | _ => none

/-- The longest whole number in base ten, in digits. -/
def maxDigits : Nat := 4300

/-- The exponent of a number and the text behind it, if there is one. -/
def takeExponent (text : Text) : Option Text :=
  match text with
  | e :: rest =>
    if e = 'e' || e = 'E' then
      let digits := match rest with
        | '-' :: rest => rest
        | '+' :: rest => rest
        | rest => rest
      (takeDigits Char.isDigit digits).map Prod.snd
    else none
  | [] => none

/-- A number at the front of a text. -/
def takeNumber (text : Text) : Found :=
  match text with
  | '0' :: mark :: rest =>
    match ofMark? mark with
    | some p =>
      let rest := match rest with
        | '_' :: rest => rest
        | rest => rest
      (takeDigits p rest).bind fun (_, behind) => ended .real behind
    | none => takeDecimal ('0' :: mark :: rest)
  | text => takeDecimal text
where
  /-- A number in base ten. -/
  takeDecimal (text : Text) : Found :=
    let (whole, behind) := (takeDigits Char.isDigit text).getD ([], text)
    let (fraction, isWhole, behind) := match behind with
      | '.' :: rest =>
        let (fraction, behind) := (takeDigits Char.isDigit rest).getD ([], rest)
        (fraction, false, behind)
      | behind => ([], true, behind)
    if whole = [] && fraction = [] then none
    else
      let (isWhole, behind) := match takeExponent behind with
        | some behind => (false, behind)
        | none => (isWhole, behind)
      match behind with
      | 'j' :: behind | 'J' :: behind => ended .imaginary behind
      | behind =>
        let superfluous := whole.head? = some '0' && whole.any (· != '0')
        if isWhole && (superfluous || maxDigits < whole.length) then none
        else ended .real behind

/-- How many hexadecimal digits follow a character behind a backslash. -/
def escapeDigits? : Char → Option Nat
  | 'x' => some 2
  | 'u' => some 4
  | 'U' => some 8
  | _ => none

/-- The text behind the name of a character in braces, as it follows a backslash and an `N`. Only
the form of the name is looked at: the table of names is left out, and any name that is written as
names are counts as one that a character has. -/
def behindName? : Text → Option Text
  | '\x7b' :: rest =>
    let isNameChar (c : Char) : Bool := c.isAlphanum || c = ' ' || c = '-'
    match Text.breakAt (· = '\x7d') rest with
    | (name, _ :: behind) => if name != [] && name.all isNameChar then some behind else none
    | (_, []) => none
  | _ => none

/-- The text behind the closing quotes of a quoted text; `raw` tells whether backslashes stand for
themselves, and `bytes` whether it may hold ASCII characters only. -/
def takeQuoted (quotes : Text) (raw bytes : Bool) : Nat → Text → Option Text
  | 0, _ => none
  | _, [] => none
  | fuel + 1, c :: rest =>
    if quotes.isPrefixOf (c :: rest) then some ((c :: rest).drop quotes.length)
    else if (c = '\n' && quotes.length = 1) || (bytes && 128 ≤ c.toNat) then none
    else if c = '\\' then
      match rest with
      | [] => none
      | d :: rest =>
        let digits := if raw || (bytes && d != 'x') then none else escapeDigits? d
        match digits with
        | none =>
          if d = 'N' && !raw && !bytes then
            (behindName? rest).bind (takeQuoted quotes raw bytes fuel)
          else takeQuoted quotes raw bytes fuel rest
        | some count =>
          let value := (rest.take count).foldlM (fun value c =>
            ((Text.letterValue? c).filter (· < 16)).map (16 * value + ·)) 0
          if rest.length < count || !value.any (· < 0x110000) then none
          else takeQuoted quotes raw bytes fuel (rest.drop count)
    else takeQuoted quotes raw bytes fuel rest

/-- The kinds of quoted texts by the letters in front of them: whether backslashes stand for
themselves, and whether they are bytes. -/
def quotedKinds : List (Text × Bool × Bool) :=
  [([], false, false), (['r'], true, false), (['u'], false, false), (['b'], false, true),
    (['b', 'r'], true, true), (['r', 'b'], true, true)]

/-- A quoted text at the front of a text: whether it is bytes, and the text behind it. -/
def takeText? (text : Text) : Option (Bool × Text) :=
  let letters := text.takeWhile Char.isAlpha
  let quoted := text.drop letters.length
  match quoted, quotedKinds.lookup (letters.map Char.toLower) with
  | quote :: rest, some (raw, bytes) =>
    if quote = '\'' || quote = '"' then
      let quotes := if [quote, quote].isPrefixOf rest then [quote, quote, quote] else [quote]
      let inside := quoted.drop quotes.length
      if quotes.length = 3 && !(takeQuoted quotes raw bytes (inside.length + 1) inside).isSome then
        if [quote, quote].isPrefixOf quoted then some (bytes, quoted.drop 2) else none
      else (takeQuoted quotes raw bytes (inside.length + 1) inside).map fun behind =>
        (bytes, behind)
    else none
  | _, _ => none

/-- Quoted texts one behind the other, which are one text, all of bytes or none. -/
def takeTexts (inside : Bool) : Nat → Text → Option (Bool × Text)
  | 0, _ => none
  | fuel + 1, text =>
    match takeText? text with
    | none => none
    | some (bytes, behind) =>
      let next := skipBlanks inside (behind.length + 1) behind
      match takeText? next with
      | none => some (bytes, behind)
      | some _ =>
        match takeTexts inside fuel next with
        | some (same, behind) => if same = bytes then some (bytes, behind) else none
        | none => none

/-- The constants by name. -/
def constants : List Text := ["True".toList, "False".toList, "None".toList]

mutual

/-- A literal without a sign in front of it. -/
def takeAtom (inside : Bool) : Nat → Text → Found
  | 0, _ => none
  | fuel + 1, text =>
    match text with
    | '(' :: rest =>
      let rest := skipBlanks true (rest.length + 1) rest
      match rest with
      | ')' :: behind => some (.fixed, behind)
      | rest => do
        let (literal, count, behind) ← takeItems fuel rest
        match behind with
        | ')' :: behind => some (if count = 0 then literal else
            if literal = .changeable then .changeable else .fixed, behind)
        | _ => none
    | '\x7b' :: rest =>
      let rest := skipBlanks true (rest.length + 1) rest
      match rest with
      | '\x7d' :: behind => some (.changeable, behind)
      | rest => do
        let behind ← takeEntries fuel none rest
        some (.changeable, behind)
    | '.' :: '.' :: '.' :: behind => some (.fixed, behind)
    | text =>
      match takeTexts inside (text.length + 1) text with
      | some (_, behind) => some (.fixed, behind)
      | none =>
        let name := text.takeWhile goesOn
        let behind := text.drop name.length
        if constants.contains name then some (.fixed, behind)
        else if name = "set".toList then
          match skipBlanks inside (behind.length + 1) behind with
          | '(' :: rest =>
            match skipBlanks true (rest.length + 1) rest with
            | ')' :: behind => some (.changeable, behind)
            | _ => none
          | _ => none
        else takeNumber text

/-- A literal with a sign or without one, or the sum of a real and an imaginary number, and the
text behind it and the blanks there. -/
def takeSum (inside : Bool) : Nat → Text → Found
  | 0, _ => none
  | fuel + 1, text => do
    let skip (text : Text) : Text := skipBlanks inside (text.length + 1) text
    let (left, behind) ←
      if text.head? = some '-' || text.head? = some '+' then do
        let (number, behind) ← takeAtom inside fuel (skip text.tail)
        match number with
        | .real => some (Literal.signedReal, behind)
        | .imaginary => some (.fixed, behind)
        | _ => none
      else takeAtom inside fuel text
    let behind := skip behind
    if behind.head? = some '-' || behind.head? = some '+' then
      if left = .real || left = .signedReal then do
        let (right, behind) ← takeAtom inside fuel (skip behind.tail)
        if right = .imaginary then some (.fixed, skip behind) else none
      else none
    else some (left, behind)

/-- Literals with commas between them: the first one, or one that may change if there is one; the
number of commas; and the text behind them. -/
def takeItems : Nat → Text → Option (Literal × Nat × Text)
  | 0, _ => none
  | fuel + 1, text => do
    let (literal, behind) ← takeSum true fuel text
    match behind with
    | ',' :: rest =>
      let rest := skipBlanks true (rest.length + 1) rest
      if rest.head? = some ')' then some (literal, 1, rest)
      else do
        let (other, count, behind) ← takeItems fuel rest
        some (if literal = .changeable then literal else other, count + 1, behind)
    | behind => some (literal, 0, behind)

/-- The entries of a set or a dictionary, up to its end; `keyed` tells which of the two it is, if
that is known. -/
def takeEntries : Nat → Option Bool → Text → Option Text
  | 0, _, _ => none
  | fuel + 1, keyed, text => do
    let (literal, behind) ← takeSum true fuel text
    if literal = .changeable then none
    let (isKeyed, behind) ← match behind with
      | ':' :: rest => do
        let (_, behind) ← takeSum true fuel (skipBlanks true (rest.length + 1) rest)
        some (true, behind)
      | behind => some (false, behind)
    if keyed = some !isKeyed then none
    match behind with
    | '\x7d' :: behind => some behind
    | ',' :: rest =>
      match skipBlanks true (rest.length + 1) rest with
      | '\x7d' :: behind => some behind
      | rest => takeEntries fuel (some isKeyed) rest
    | _ => none

end

/-- Whether a text is a literal, or several with commas between them, which are a tuple. -/
def readsFrom : Nat → Text → Bool
  | 0, _ => false
  | fuel + 1, text =>
    match takeSum false (3 * text.length + 3) text with
    | none => false
    | some (_, behind) =>
      match behind with
      | [] => true
      | ',' :: rest =>
        let rest := skipBlanks false (rest.length + 1) rest
        rest = [] || readsFrom fuel rest
      | _ => false

/-- Whether a text is a literal. -/
def reads (text : Text) : Bool :=
  let text := skipBlanks false (text.length + 1) text
  readsFrom (text.length + 1) text

end Literal
end DebugLaunch.Display
