import DebugLaunch.Yaml.Scalar
import DebugLaunch.Yaml.Source

/-! The tokens of a YAML text. Indentation becomes tokens that open and close blocks, and a key
that is written without an indicator gets its tokens when the colon behind it is read: until then
its place in the list of tokens is remembered, one place for each depth of brackets. A text that is
malformed still has the tokens in front of the fault, as far as no colon could change them, because
something else may be wrong there. -/
namespace DebugLaunch.Yaml

/-- How a scalar is written: plainly, or in quotes or a block. -/
inductive Form where
  | plain
  | quoted
  deriving DecidableEq, Repr, Inhabited

/-- A token. -/
inductive Token where
  | version (major : Nat)
  | tagHandle (handle stem : Text)
  | directive
  | documentStart
  | documentEnd
  | streamEnd
  | blockSequenceStart
  | blockMappingStart
  | blockEnd
  | flowSequenceStart
  | flowSequenceEnd
  | flowMappingStart
  | flowMappingEnd
  | flowEntry
  | blockEntry
  | key
  | value
  | aliasOf (name : Text)
  | anchor (name : Text)
  | tag (handle : Option Text) (suffix : Text)
  | scalar (written : Written) (form : Form)
  deriving DecidableEq, Repr, Inhabited

/-- The name of a token in messages. -/
def Token.name : Token → Text
  | version _ | tagHandle .. | directive => "<directive>".toList
  | documentStart => "<document start>".toList
  | documentEnd => "<document end>".toList
  | streamEnd => "<stream end>".toList
  | blockSequenceStart => "<block sequence start>".toList
  | blockMappingStart => "<block mapping start>".toList
  | blockEnd => "<block end>".toList
  | flowSequenceStart => ['[']
  | flowSequenceEnd => [']']
  | flowMappingStart => ['\x7b']
  | flowMappingEnd => ['\x7d']
  | flowEntry => [',']
  | blockEntry => ['-']
  | key => ['?']
  | value => [':']
  | aliasOf _ => "<alias>".toList
  | anchor _ => "<anchor>".toList
  | tag .. => "<tag>".toList
  | scalar .. => "<scalar>".toList

/-- A token with the places where it starts and stops. -/
structure Placed where
  token : Token
  start : Mark
  stop : Mark
  deriving DecidableEq, Repr, Inhabited

/-- A place where a key may have begun: the number of tokens in front of it, where it stands, and
whether nothing else may stand there. -/
structure KeyPlace where
  number : Nat
  required : Bool
  mark : Mark
  deriving DecidableEq, Repr, Inhabited

/-- The state of a scan. The tokens are kept last one first, and counted. The indentations are those
of the open blocks, innermost first, each one more than its column, and zero outside of all
blocks. -/
structure Scan where
  cursor : Cursor
  tokens : List Placed := []
  count : Nat := 0
  depth : Nat := 0
  indent : Nat := 0
  outer : List Nat := []
  allowsKey : Bool := true
  places : List (Nat × KeyPlace) := []
  deriving Repr, Inhabited

namespace Scan

/-- The longest distance of a colon from the start of its key. -/
def maxKeyLength : Nat := 1024

/-- Adds a token that was read from the cursor on, and goes on behind it. -/
def emitTo (scan : Scan) (cursor : Cursor) (token : Token) : Scan :=
  let placed : Placed := ⟨token, scan.cursor.mark, cursor.mark⟩
  { scan with tokens := placed :: scan.tokens, count := scan.count + 1, cursor }

/-- Adds a token of the given number of characters. -/
def emitOver (scan : Scan) (count : Nat) (token : Token) : Scan :=
  scan.emitTo (scan.cursor.skip count) token

/-- Adds a token of no characters. -/
def emit (scan : Scan) (token : Token) : Scan := scan.emitOver 0 token

/-- Puts a token of no characters at the place of a key. -/
def insert (scan : Scan) (place : KeyPlace) (token : Token) : Scan :=
  let behind := scan.count - place.number
  let placed : Placed := ⟨token, place.mark, place.mark⟩
  { scan with
    tokens := scan.tokens.take behind ++ placed :: scan.tokens.drop behind
    count := scan.count + 1 }

/-- The fault that a key has no colon. -/
def noColon (scan : Scan) (place : KeyPlace) : Fault :=
  .foundIn .simpleKey place.mark scan.cursor.mark .noColon

/-- Whether a colon can no longer follow a key. -/
def isStale (scan : Scan) (place : KeyPlace) : Bool :=
  place.mark.line != scan.cursor.line || maxKeyLength < scan.cursor.index - place.mark.index

/-- Gives up the places of keys that a colon can no longer follow. -/
def dropStale (scan : Scan) : Except Fault Scan :=
  match scan.places.find? fun (_, place) => place.required && scan.isStale place with
  | some (_, place) => .error (scan.noColon place)
  | none =>
    .ok { scan with places := scan.places.filter fun (_, place) => !scan.isStale place }

/-- Gives up the place of a key at this depth. -/
def dropPlace (scan : Scan) : Except Fault Scan :=
  match scan.places.lookup scan.depth with
  | some place =>
    if place.required then .error (scan.noColon place)
    else .ok { scan with places := scan.places.filter fun (depth, _) => depth != scan.depth }
  | none => .ok scan

/-- Remembers that a key may begin here. -/
def savePlace (scan : Scan) : Except Fault Scan := do
  if scan.allowsKey then
    let required := scan.depth = 0 && scan.indent = scan.cursor.column + 1
    let scan ← scan.dropPlace
    let place : KeyPlace := ⟨scan.count, required, scan.cursor.mark⟩
    .ok { scan with places := (scan.depth, place) :: scan.places }
  else .ok scan

/-- Closes the blocks that are indented deeper than `indent`. -/
def closeBlocks (indent : Nat) : Scan → List Nat → Scan
  | scan, [] => scan
  | scan, outer :: rest =>
    if indent < scan.indent then
      closeBlocks indent { scan.emit .blockEnd with indent := outer, outer := rest } rest
    else scan

/-- Closes the blocks that are indented deeper than `indent`, unless brackets are open. -/
def unwind (scan : Scan) (indent : Nat) : Scan :=
  if scan.depth = 0 then closeBlocks indent scan scan.outer else scan

/-- Opens a block at a column, unless one is open there: whether it does, and the state then. -/
def openBlock (scan : Scan) (column : Nat) : Bool × Scan :=
  if scan.indent < column + 1 then
    (true, { scan with indent := column + 1, outer := scan.indent :: scan.outer })
  else (false, scan)

/-- Skips what stands between tokens. A new line allows a key where no brackets are open. -/
def skipGaps : Nat → Scan → Scan
  | 0, scan => scan
  | fuel + 1, scan =>
    let cursor := scan.cursor.skipSpaces.skipComment
    if isBreak cursor.peek then
      skipGaps fuel
        { scan with cursor := cursor.next, allowsKey := scan.allowsKey || scan.depth = 0 }
    else { scan with cursor }

/-- Goes to where the next token may begin. -/
def toToken (scan : Scan) : Scan :=
  let atMark := scan.cursor.index = 0 && scan.cursor.peek = '\uFEFF'
  let scan := if atMark then { scan with cursor := scan.cursor.next } else scan
  skipGaps (scan.cursor.rest.length + 1) scan

/-- Ends the blocks and keys in front of a directive or a mark of a document. -/
def endContent (scan : Scan) : Except Fault Scan := do
  let scan ← (scan.unwind 0).dropPlace
  .ok { scan with allowsKey := false }

/-- Reads the number of a version. -/
def readNumber (start : Mark) (cursor : Cursor) : Except Fault (Nat × Cursor) :=
  match cursor.span Char.isDigit with
  | ([], _) => .error (.foundIn .directive start cursor.mark (.character .digit cursor.peek))
  | (digits, behind) =>
    match Numeral.integer 10 digits with
    | .ok number => .ok (number.toNat, behind)
    | .error fault => .error (.scalar (.numeral fault) cursor.mark)

/-- Whether a character may stand behind a word of a directive or a tag. -/
def endsWord (c : Char) : Bool := c = ' ' || isLineEnd c

/-- The cursor, if what stands there ends a word. -/
def checkWordEnd (activity : Activity) (start : Mark) (wanted : Wanted) (cursor : Cursor) :
    Except Fault Cursor :=
  let c := cursor.peek
  if endsWord c then .ok cursor
  else .error (.foundIn activity start cursor.mark (.character wanted c))

/-- The place behind a character, which has to stand at the cursor. -/
def checkSign (activity : Activity) (start : Mark) (sign : Char) (wanted : Wanted)
    (cursor : Cursor) : Except Fault Cursor :=
  let c := cursor.peek
  if c = sign then .ok cursor.next
  else .error (.foundIn activity start cursor.mark (.character wanted c))

/-- Reads the handle of a tag. -/
def readHandle (activity : Activity) (start : Mark) (cursor : Cursor) :
    Except Fault (Text × Cursor) := do
  let behindSign ← checkSign activity start '!' .exclamationMark cursor
  if behindSign.peek = ' ' then .ok (['!'], behindSign)
  else
    let (name, behind) := behindSign.span isNameChar
    let behind ← checkSign activity start '!' .exclamationMark behind
    .ok ('!' :: name ++ ['!'], behind)

/-- Characters that a tag is written with. -/
def isTagChar (c : Char) : Bool := isNameChar c || ";/?:@&=+$,.!~*'()[]%".toList.contains c

/-- Reads bytes that are written with percent signs: the bytes and the number of characters; or
else the number of characters in front of a percent sign, and the character behind it that is no
digit. -/
def readEscaped : Text → Except (Nat × Char) (Utf8.Bytes × Nat)
  | '%' :: rest =>
    let (first, second) := (rest.headD '\x00', rest.tail.headD '\x00')
    match Numeral.digitOf? 16 first, Numeral.digitOf? 16 second with
    | none, _ => .error (0, first)
    | some _, none => .error (0, second)
    | some high, some low =>
      match readEscaped (rest.drop 2) with
      | .ok (bytes, count) => .ok ((16 * high + low).toUInt8 :: bytes, count + 3)
      | .error (count, found) => .error (count + 3, found)
  | _ => .ok ([], 0)
termination_by text => text.length
decreasing_by
  simp only [List.length_cons, List.length_drop]
  omega

/-- Reads the rest of a tag; `done` is the text read so far. -/
def readTagFrom (activity : Activity) (start : Mark) :
    Nat → Text → Cursor → Except Fault (Text × Cursor)
  | 0, done, cursor => .ok (done, cursor)
  | fuel + 1, done, cursor =>
    let c := cursor.peek
    if c = '%' then
      match readEscaped cursor.rest with
      | .error (count, found) =>
        let place := (cursor.skip (count + 1)).mark
        .error (.foundIn activity start place (.character .escapedByte found))
      | .ok (bytes, count) =>
        match Utf8.damage? 0 bytes with
        | none => readTagFrom activity start fuel (done ++ Utf8.decodeLenient bytes)
            (cursor.skip count)
        | some (offset, part, damage) =>
          let reason := Utf8.damageText offset part damage
          .error (.foundIn activity start cursor.mark (.undecodable reason))
    else if isTagChar c then readTagFrom activity start fuel (done ++ [c]) cursor.next
    else .ok (done, cursor)

/-- Reads what a tag consists of behind its handle, which is at least one character. Activities are
that of the whole, and that of its text. -/
def readTagText (activity textActivity : Activity) (start : Mark) (cursor : Cursor) :
    Except Fault (Text × Cursor) :=
  let c := cursor.peek
  if isTagChar c then readTagFrom activity start (cursor.rest.length + 1) [] cursor
  else .error (.foundIn textActivity start cursor.mark (.character .tagCharacter c))

/-- Reads a directive from its percent sign on. -/
def readDirective (cursor : Cursor) : Except Fault (Token × Cursor) := do
  let start := cursor.mark
  let checkEnd := checkWordEnd .directive start
  let (name, behind) := cursor.next.span isNameChar
  if name = [] then
    .error (.foundIn .directive start behind.mark (.character .nameCharacter behind.peek))
  let cursor ← checkEnd .nameCharacter behind
  let (token, cursor) ←
    if name = "YAML".toList then do
      let (major, cursor) ← readNumber start cursor.skipSpaces
      let (_, cursor) ← readNumber start (← checkSign .directive start '.' .digitOrPoint cursor)
      pure (Token.version major, ← checkEnd .digitOrSpace cursor)
    else if name = "TAG".toList then do
      let (handle, cursor) ← readHandle .directive start cursor.skipSpaces
      let cursor ← checkSign .directive start ' ' .space cursor
      let (stem, cursor) ← readTagText .directive .directiveText start cursor.skipSpaces
      pure (Token.tagHandle handle stem, ← checkEnd .space cursor)
    else pure (Token.directive, (cursor.span fun c => !isLineEnd c).2)
  .ok (token, ← Block.skipLine .directive start cursor)

/-- Reads the name behind the sign of an anchor or an alias. -/
def readName (activity : Activity) (cursor : Cursor) : Except Fault (Text × Cursor) :=
  let (name, behind) := cursor.next.span isNameChar
  let c := behind.peek
  if name != [] && (isGap c || "?:,]\x7d%@\x60".toList.contains c) then .ok (name, behind)
  else .error (.foundIn activity cursor.mark behind.mark (.character .nameCharacter c))

/-- Reads an anchor. -/
def readAnchor (cursor : Cursor) : Except Fault (Token × Cursor) := do
  let (name, cursor) ← readName .anchor cursor
  .ok (.anchor name, cursor)

/-- Reads an alias. -/
def readAlias (cursor : Cursor) : Except Fault (Token × Cursor) := do
  let (name, cursor) ← readName .aliasName cursor
  .ok (.aliasOf name, cursor)

/-- Reads a tag from its exclamation mark on. -/
def readTag (cursor : Cursor) : Except Fault (Token × Cursor) := do
  let start := cursor.mark
  let c := cursor.peekAt 1
  let (token, cursor) ←
    if c = '<' then do
      let (text, cursor) ← readTagText .tag .tagText start (cursor.skip 2)
      pure (Token.tag none text, ← checkSign .tagText start '>' .closingBracket cursor)
    else if isGap c then pure (Token.tag none ['!'], cursor.next)
    else do
      let word := cursor.next.rest.takeWhile fun c => !endsWord c
      let (handle, cursor) ←
        if word.contains '!' then readHandle .tag start cursor else pure (['!'], cursor.next)
      let (text, cursor) ← readTagText .tag .tagText start cursor
      pure (Token.tag (some handle) text, cursor)
  .ok (token, ← checkWordEnd .tag start .space cursor)

/-- Reads a quoted scalar. -/
def readQuoted (cursor : Cursor) : Except Fault (Token × Cursor) := do
  let (reading, cursor) ← Quote.read cursor
  .ok (.scalar reading.written .quoted, cursor)

/-- Adds a token that may begin a key, read by `read`. -/
def addContent (scan : Scan) (read : Cursor → Except Fault (Token × Cursor)) :
    Except Fault Scan := do
  let scan ← scan.savePlace
  let (token, cursor) ← read scan.cursor
  .ok { scan.emitTo cursor token with allowsKey := false }

/-- Adds the tokens of a plain scalar. If its last gap spans lines, a key may follow. -/
def addPlain (scan : Scan) : Except Fault Scan := do
  let scan ← scan.savePlace
  let (text, spans, cursor) := Plain.read (0 < scan.depth) scan.indent scan.cursor
  .ok { scan.emitTo cursor (.scalar (.text text) .plain) with allowsKey := spans }

/-- Adds the tokens of a block scalar. -/
def addBlock (scan : Scan) (folded : Bool) : Except Fault Scan := do
  let scan ← scan.dropPlace
  let (text, cursor) ← Block.read folded scan.indent scan.cursor
  .ok { scan.emitTo cursor (.scalar (.text text) .quoted) with allowsKey := true }

/-- Adds an opening bracket. -/
def openFlow (scan : Scan) (token : Token) : Except Fault Scan := do
  let scan ← scan.savePlace
  .ok { scan.emitOver 1 token with depth := scan.depth + 1, allowsKey := true }

/-- Adds a closing bracket. -/
def closeFlow (scan : Scan) (token : Token) : Except Fault Scan := do
  let scan ← scan.dropPlace
  .ok { scan.emitOver 1 token with depth := scan.depth - 1, allowsKey := false }

/-- Opens a block for an indicator at the cursor, where one may stand. -/
def openBlockHere (scan : Scan) (token : Token) (refusal : Problem) : Except Fault Scan :=
  if 0 < scan.depth then .ok scan
  else if !scan.allowsKey then .error (.found scan.cursor.mark refusal)
  else match scan.openBlock scan.cursor.column with
    | (true, scan) => .ok (scan.emit token)
    | (false, scan) => .ok scan

/-- Adds the indicator of an entry of a block sequence. -/
def addEntry (scan : Scan) : Except Fault Scan := do
  let scan ← scan.openBlockHere .blockSequenceStart .entryNotAllowed
  let scan ← { scan with allowsKey := true }.dropPlace
  .ok (scan.emitOver 1 .blockEntry)

/-- Adds the indicator of a key. -/
def addKey (scan : Scan) : Except Fault Scan := do
  let scan ← scan.openBlockHere .blockMappingStart .keyNotAllowed
  let scan ← { scan with allowsKey := scan.depth = 0 }.dropPlace
  .ok (scan.emitOver 1 .key)

/-- Adds the indicator of a value, and with it the tokens of a key that was written without one. -/
def addValue (scan : Scan) : Except Fault Scan := do
  match scan.places.lookup scan.depth with
  | some place =>
    let scan := { scan with places := scan.places.filter fun (depth, _) => depth != scan.depth }
    let scan := scan.insert place .key
    let scan :=
      if 0 < scan.depth then scan
      else match scan.openBlock place.mark.column with
        | (true, scan) => scan.insert place .blockMappingStart
        | (false, scan) => scan
    .ok ({ scan with allowsKey := false }.emitOver 1 .value)
  | none =>
    let scan ← scan.openBlockHere .blockMappingStart .valueNotAllowed
    let scan ← { scan with allowsKey := scan.depth = 0 }.dropPlace
    .ok (scan.emitOver 1 .value)

/-- Whether a plain scalar begins at the cursor. -/
def beginsPlain (scan : Scan) : Bool :=
  let c := scan.cursor.peek
  (!isGap c && !("-?:,[]\x7b\x7d#&*!|>'\"%@\x60".toList.contains c)) ||
    (!isGap (scan.cursor.peekAt 1) &&
      (c = '-' || (scan.depth = 0 && (c = '?' || c = ':'))))

/-- The character that a mark of a document consists of, if one stands at the cursor. -/
def marker? (cursor : Cursor) : Option Char :=
  if cursor.column = 0 && isMarker cursor.rest then some cursor.peek else none

/-- Adds the next tokens. -/
def step (scan : Scan) : Except Fault Scan := do
  let scan ← scan.toToken.dropStale
  let scan := scan.unwind (scan.cursor.column + 1)
  let cursor := scan.cursor
  let c := cursor.peek
  let separated := isGap (cursor.peekAt 1)
  if c = '\x00' then
    let scan ← scan.endContent
    .ok ({ scan with places := [] }.emit .streamEnd)
  else if c = '%' && cursor.column = 0 then
    let scan ← scan.endContent
    let (token, cursor) ← readDirective cursor
    .ok (scan.emitTo cursor token)
  else if marker? cursor = some '-' then
    let scan ← scan.endContent
    .ok (scan.emitOver 3 .documentStart)
  else if marker? cursor = some '.' then
    let scan ← scan.endContent
    .ok (scan.emitOver 3 .documentEnd)
  else if c = '[' then scan.openFlow .flowSequenceStart
  else if c = '\x7b' then scan.openFlow .flowMappingStart
  else if c = ']' then scan.closeFlow .flowSequenceEnd
  else if c = '\x7d' then scan.closeFlow .flowMappingEnd
  else if c = ',' then
    let scan ← { scan with allowsKey := true }.dropPlace
    .ok (scan.emitOver 1 .flowEntry)
  else if c = '-' && separated then scan.addEntry
  else if c = '?' && (0 < scan.depth || separated) then scan.addKey
  else if c = ':' && (0 < scan.depth || separated) then scan.addValue
  else if c = '*' then scan.addContent readAlias
  else if c = '&' then scan.addContent readAnchor
  else if c = '!' then scan.addContent readTag
  else if c = '|' && scan.depth = 0 then scan.addBlock false
  else if c = '>' && scan.depth = 0 then scan.addBlock true
  else if c = '\'' || c = '"' then scan.addContent readQuoted
  else if scan.beginsPlain then scan.addPlain
  else .error (.malformed (.problem (some (.nextToken, none)) (.cannotStart c) cursor.mark))

/-- Adds the next tokens, if the text can be read as far as they go. -/
def stepIn (source : Source) (scan : Scan) : Except Fault Scan :=
  match scan.step with
  | .ok next =>
    match source.faultAt next.cursor.index with
    | none => .ok next
    | some fault => .error fault
  | .error fault => .error ((source.faultAt fault.index).getD fault)

/-- The tokens that nothing behind them can change. -/
def settled (scan : Scan) : List Placed :=
  let count := scan.places.foldl (fun count (_, place) => min count place.number) scan.count
  scan.tokens.reverse.take count

/-- Adds all tokens up to the end of the text, or up to a fault, which is then given with them. Each
step but the last goes on in the text. -/
def run (source : Source) : Nat → Scan → List Placed × Option Fault
  | 0, scan => (scan.settled, none)
  | fuel + 1, scan =>
    match scan.stepIn source with
    | .error fault => (scan.settled, some fault)
    | .ok scan =>
      match scan.dropStale with
      | .error fault => (scan.settled, some fault)
      | .ok scan =>
        match scan.tokens with
        | ⟨.streamEnd, _, _⟩ :: _ => (scan.tokens.reverse, none)
        | _ => run source fuel scan

end Scan

/-- The tokens of a text, as far as it can be read, and the fault that stops it if there is one. -/
def tokens (source : Source) : List Placed × Option Fault :=
  match source.barrier with
  | some (0, fault) => ([], some fault)
  | _ => Scan.run source (source.text.length + 2) { cursor := { rest := source.text } }

end DebugLaunch.Yaml
