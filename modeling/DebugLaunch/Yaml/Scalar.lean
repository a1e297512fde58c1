import DebugLaunch.Yaml.Fault

/-! The scalars of YAML: plain ones, ones in single or double quotes, and blocks. In all but the
literal blocks a single line break is read as a space, and of several ones the first is dropped.
Every reader is given the place where the scalar starts, because faults name it. -/
namespace DebugLaunch.Yaml

/-- Folded line breaks: what the first of several breaks and those behind it are read as. -/
def foldBreaks (first breaks : Text) : Text :=
  (if first != ['\n'] then first else if breaks = [] then [' '] else []) ++ breaks

/-- What a scalar writes: a text, or the code points of something that is none because halves of
pairs are among them. -/
inductive Written where
  | text (text : Text)
  | broken (points : List Nat)
  deriving DecidableEq, Repr, Inhabited

namespace Plain

/-- The brackets and the comma that end a plain scalar inside brackets. -/
def isFlowIndicator (c : Char) : Bool :=
  c = ',' || c = '[' || c = ']' || c = '\x7b' || c = '\x7d'

/-- The word of a plain scalar at the front of a text. -/
def word (inFlow : Bool) : Text → Text
  | [] => []
  | c :: rest =>
    let next := rest.headD '\x00'
    if isGap c || (c = ':' && (isGap next || (inFlow && isFlowIndicator next))) ||
      (inFlow && (c = '?' || isFlowIndicator c)) then []
    else c :: word inFlow rest

/-- The line breaks and spaces behind the first line break of a gap: the breaks, whether a mark of
a document stops them, and the number of characters. -/
def gapLines : Text → Text × Bool × Nat
  | [] => ([], false, 0)
  | c :: rest =>
    if c = ' ' then
      let (breaks, stopped, count) := gapLines rest
      (breaks, stopped, count + 1)
    else if isBreak c then
      if isMarker rest then (breakText c, true, 1)
      else
        let (breaks, stopped, count) := gapLines rest
        (breakText c ++ breaks, stopped, count + 1)
    else ([], false, 0)

/-- A gap between words: what it is read as, which is nothing where a document ends, whether it
spans lines, and the place behind it. -/
def gap (cursor : Cursor) : Text × Bool × Cursor :=
  let (blanks, cursor) := cursor.span (· = ' ')
  if isBreak cursor.peek then
    let (first, cursor) := cursor.lineBreak
    if isMarker cursor.rest then ([], true, cursor)
    else
      let (breaks, stopped, count) := gapLines cursor.rest
      (if stopped then [] else foldBreaks first breaks, true, cursor.skip count)
  else (blanks, false, cursor)

/-- Reads a plain scalar word by word: its text, whether the last gap spans lines, and the place
behind it. `done` is the text read so far and `pending` the gap behind it. -/
def readFrom (inFlow : Bool) (indent : Nat) :
    Nat → Text → Text → Bool → Cursor → Text × Bool × Cursor
  | 0, done, _, spans, cursor => (done, spans, cursor)
  | fuel + 1, done, pending, spans, cursor =>
    let part := word inFlow cursor.rest
    if cursor.peek = '#' || part = [] then (done, spans, cursor)
    else
      let done := done ++ pending ++ part
      let (pending, spans, cursor) := gap (cursor.skip part.length)
      if pending = [] || cursor.peek = '#' || (!inFlow && cursor.column < indent) then
        (done, spans, cursor)
      else readFrom inFlow indent fuel done pending spans cursor

/-- Reads a plain scalar. -/
def read (inFlow : Bool) (indent : Nat) (cursor : Cursor) : Text × Bool × Cursor :=
  readFrom inFlow indent (cursor.rest.length + 1) [] [] false cursor

end Plain

namespace Quote

/-- What a character behind a backslash stands for. -/
def escape? : Char → Option Char
  | '0' => some '\x00'
  | 'a' => some '\x07'
  | 'b' => some '\x08'
  | 't' | '\t' => some '\t'
  | 'n' => some '\n'
  | 'v' => some '\x0b'
  | 'f' => some '\x0c'
  | 'r' => some '\r'
  | 'e' => some '\x1b'
  | ' ' => some ' '
  | '"' => some '"'
  | '\\' => some '\\'
  | '/' => some '/'
  | 'N' => some '\u0085'
  | '_' => some '\u00A0'
  | 'L' => some '\u2028'
  | 'P' => some '\u2029'
  | _ => none

/-- How many hexadecimal digits follow a character behind a backslash. -/
def escapeDigits? : Char → Option Nat
  | 'x' => some 2
  | 'u' => some 4
  | 'U' => some 8
  | _ => none

/-- The breaks behind a line break between quotes, with their number of characters; blanks between
them are dropped. Where a mark of a document stands, which may not be, the number of characters in
front of it. -/
def breaks (lineStart : Bool) (text : Text) : Except Nat (Text × Nat) :=
  if lineStart && isMarker text then .error 0
  else match text with
    | [] => .ok ([], 0)
    | c :: rest =>
      if c = ' ' || c = '\t' then
        match breaks false rest with
        | .ok (found, count) => .ok (found, count + 1)
        | .error count => .error (count + 1)
      else if isBreak c then
        match breaks true rest with
        | .ok (found, count) => .ok (breakText c ++ found, count + 1)
        | .error count => .error (count + 1)
      else .ok ([], 0)

/-- The place behind breaks, and what they are read as. -/
def skipBreaks (start : Mark) (cursor : Cursor) : Except Fault (Text × Cursor) :=
  match breaks true cursor.rest with
  | .ok (found, count) => .ok (found, cursor.skip count)
  | .error count => .error (.foundIn .quoted start (cursor.skip count).mark .documentMark)

/-- What was read of a scalar, as code points: halves of pairs can be among them. -/
structure Reading where
  points : List Nat := []
  deriving DecidableEq, Repr, Inhabited

/-- Adds code points to what was read. -/
def Reading.addPoints (reading : Reading) (points : List Nat) : Reading :=
  ⟨reading.points ++ points⟩

/-- Adds a text to what was read. -/
def Reading.add (reading : Reading) (text : Text) : Reading :=
  reading.addPoints (text.map Char.toNat)

/-- What is written with the code points that were read. -/
def Reading.written (reading : Reading) : Written :=
  if reading.points.all fun point => point.isValidChar then
    .text (reading.points.map Char.ofNat)
  else .broken reading.points

/-- Reads what stands behind a backslash. -/
def readEscape (start : Mark) (reading : Reading) (cursor : Cursor) :
    Except Fault (Reading × Cursor) := do
  let c := cursor.peek
  match escape? c with
  | some replacement => .ok (reading.add [replacement], cursor.next)
  | none =>
    match escapeDigits? c with
    | some size =>
      let place := cursor.next
      let isDigit (c : Char) : Bool := (Numeral.digitOf? 16 c).isSome
      let digits := (place.rest.takeWhile isDigit).take size
      let value := (Numeral.natural? 16 digits).getD 0
      if digits.length < size then
        let found := place.peekAt digits.length
        .error (.foundIn .doubleQuoted start place.mark (.character (.hexadecimal size) found))
      else if 0x80000000 ≤ value then .error (.scalar .codePointTooLarge place.mark)
      else if 0x110000 ≤ value then .error (.scalar .codePoint place.mark)
      else .ok (reading.addPoints [value], place.skip size)
    | none =>
      if isBreak c then
        let (breaks, cursor) ← skipBreaks start cursor.next
        .ok (reading.add breaks, cursor)
      else .error (.foundIn .doubleQuoted start cursor.mark (.unknownEscape c))

/-- Reads blanks between words, and the line breaks among them. -/
def readGap (start : Mark) (reading : Reading) (cursor : Cursor) :
    Except Fault (Reading × Cursor) := do
  let (blanks, cursor) := cursor.span fun c => c = ' ' || c = '\t'
  if cursor.peek = '\x00' then .error (.foundIn .quoted start cursor.mark .endOfText)
  else if isBreak cursor.peek then
    let (first, cursor) := cursor.lineBreak
    let (breaks, cursor) ← skipBreaks start cursor
    .ok (reading.add (foldBreaks first breaks), cursor)
  else .ok (reading.add blanks, cursor)

/-- Reads up to the closing quote. -/
def readFrom (quote : Char) (start : Mark) :
    Nat → Reading → Cursor → Except Fault (Reading × Cursor)
  | 0, _, cursor => .error (.foundIn .quoted start cursor.mark .endOfText)
  | fuel + 1, reading, cursor =>
    let c := cursor.peek
    if c = quote then
      if quote = '\'' && cursor.peekAt 1 = '\'' then
        readFrom quote start fuel (reading.add ['\'']) (cursor.skip 2)
      else .ok (reading, cursor.next)
    else if quote = '"' && c = '\\' then do
      let (reading, cursor) ← readEscape start reading cursor.next
      readFrom quote start fuel reading cursor
    else if isGap c then do
      let (reading, cursor) ← readGap start reading cursor
      readFrom quote start fuel reading cursor
    else
      let (run, behind) := cursor.span fun c => !(isGap c || c = '\'' || c = '"' || c = '\\')
      if run = [] then readFrom quote start fuel (reading.add [c]) cursor.next
      else readFrom quote start fuel (reading.add run) behind

/-- Reads a quoted scalar from its opening quote on. -/
def read (cursor : Cursor) : Except Fault (Reading × Cursor) :=
  readFrom cursor.peek cursor.mark (cursor.rest.length + 1) {} cursor.next

end Quote

namespace Block

/-- What becomes of the line breaks at the end of a block: one is kept, all are, or none is. -/
inductive Chomping where
  | clip
  | keep
  | strip
  deriving DecidableEq, Repr, Inhabited

/-- The chomping that a sign asks for. -/
def Chomping.ofSign? : Char → Option Chomping
  | '+' => some keep
  | '-' => some strip
  | _ => none

/-- Reads a digit that says how far a block is indented. -/
def readIndent (start : Mark) (cursor : Cursor) : Except Fault (Option Nat × Cursor) :=
  let c := cursor.peek
  if !c.isDigit then .ok (none, cursor)
  else if c = '0' then .error (.foundIn .blockScalar start cursor.mark .zeroIndent)
  else .ok (some (c.toNat - '0'.toNat), cursor.next)

/-- Reads the signs behind the indicator of a block, in either order. -/
def readHeader (start : Mark) (cursor : Cursor) :
    Except Fault (Chomping × Option Nat × Cursor) := do
  let (chomping, indent, cursor) ← match Chomping.ofSign? cursor.peek with
    | some chomping => do
      let (indent, cursor) ← readIndent start cursor.next
      pure (chomping, indent, cursor)
    | none => do
      let (indent, cursor) ← readIndent start cursor
      match indent, Chomping.ofSign? cursor.peek with
      | some _, some chomping => pure (chomping, indent, cursor.next)
      | _, _ => pure (.clip, indent, cursor)
  let c := cursor.peek
  if c = ' ' || isLineEnd c then .ok (chomping, indent, cursor)
  else .error (.foundIn .blockScalar start cursor.mark (.character .blockSign c))

/-- Skips what may stand at the end of the line of an indicator or a directive. -/
def skipLine (activity : Activity) (start : Mark) (cursor : Cursor) : Except Fault Cursor :=
  let cursor := cursor.skipSpaces.skipComment
  let c := cursor.peek
  if isLineEnd c then .ok cursor.lineBreak.2
  else .error (.foundIn activity start cursor.mark (.character .commentOrBreak c))

/-- The blank lines that a block begins with: their breaks, the deepest column of a space among
them, and the number of characters. -/
def leading (column deepest : Nat) : Text → Text × Nat × Nat
  | [] => ([], deepest, 0)
  | c :: rest =>
    if c = ' ' then
      let (breaks, deepest, count) := leading (column + 1) (max deepest (column + 1)) rest
      (breaks, deepest, count + 1)
    else if isBreak c then
      let (breaks, deepest, count) := leading 0 deepest rest
      (breakText c ++ breaks, deepest, count + 1)
    else ([], deepest, 0)

/-- The blank lines in front of a line of a block and the line's indentation: the breaks, and the
number of characters. -/
def blank (indent column : Nat) : Text → Text × Nat
  | [] => ([], 0)
  | c :: rest =>
    if c = ' ' && column < indent then
      let (breaks, count) := blank indent (column + 1) rest
      (breaks, count + 1)
    else if isBreak c then
      let (breaks, count) := blank indent 0 rest
      (breakText c ++ breaks, count + 1)
    else ([], 0)

/-- Reads the lines of a block: its text without the last line's break, that break, the breaks
behind it, and the place behind them. `done` is the text read so far and `breaks` those behind it.
-/
def readLines (folded : Bool) (indent : Nat) :
    Nat → Text → Text → Text → Cursor → Text × Text × Text × Cursor
  | 0, done, last, breaks, cursor => (done, last, breaks, cursor)
  | fuel + 1, done, last, breaks, cursor =>
    if cursor.column = indent && cursor.peek != '\x00' then
      let isBlank (c : Char) : Bool := c = ' ' || c = '\t'
      let begins := !isBlank cursor.peek
      let (line, cursor) := cursor.span fun c => !isLineEnd c
      let done := done ++ breaks ++ line
      let (last, cursor) := cursor.lineBreak
      let (breaks, count) := blank indent cursor.column cursor.rest
      let cursor := cursor.skip count
      if cursor.column = indent && cursor.peek != '\x00' then
        let glue :=
          if folded && last = ['\n'] && begins && !isBlank cursor.peek then
            if breaks = [] then [' '] else []
          else last
        readLines folded indent fuel (done ++ glue) [] breaks cursor
      else (done, last, breaks, cursor)
    else (done, last, breaks, cursor)

/-- Reads a block scalar from its indicator on, in a block whose content has to stand at column
`least` at least. -/
def read (folded : Bool) (least : Nat) (cursor : Cursor) : Except Fault (Text × Cursor) := do
  let start := cursor.mark
  let (chomping, indent, cursor) ← readHeader start cursor.next
  let cursor ← skipLine .blockScalar start cursor
  let least := max 1 least
  let (indent, breaks, count) := match indent with
    | some indent =>
      let indent := least + indent - 1
      let (breaks, count) := blank indent cursor.column cursor.rest
      (indent, breaks, count)
    | none =>
      let (breaks, deepest, count) := leading cursor.column 0 cursor.rest
      (max least deepest, breaks, count)
  let (text, last, breaks, cursor) :=
    readLines folded indent (cursor.rest.length + 1) [] [] breaks (cursor.skip count)
  let text := match chomping with
    | .strip => text
    | .clip => text ++ last
    | .keep => text ++ last ++ breaks
  .ok (text, cursor)

end Block
end DebugLaunch.Yaml
