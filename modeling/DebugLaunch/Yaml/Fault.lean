import DebugLaunch.Moment
import DebugLaunch.Number.Numeral
import DebugLaunch.Yaml.Cursor

/-! What can be wrong with a YAML text. Mostly it is no YAML of the kind that is read here: then a
message says what was being read, what stands there instead, and where. But a well-formed scalar
may also be none of its tag. -/
namespace DebugLaunch.Yaml

/-- Why a scalar is none of its tag. One that holds halves of pairs is given by its code points. -/
inductive ScalarFault where
  | numeral (fault : NumeralFault)
  | notANumber (text : Text)
  | numberTooLarge
  | emptyNumber
  | notABoolean (text : Text)
  | brokenInteger (points : List Nat)
  | brokenReal (points : List Nat)
  | brokenBoolean (points : List Nat)
  | notATimestamp
  | notASingleText
  | year (number : Nat)
  | month
  | day
  | hour
  | minute
  | second
  | offset (minutes : Int)
  | codePoint
  | codePointTooLarge
  deriving DecidableEq, Repr

/-- The text of a scalar fault. -/
def ScalarFault.message : ScalarFault → Text
  | numeral fault => fault.message
  | notANumber text => "could not convert string to float: ".toList ++ Text.quoted text
  | numberTooLarge => "int too large to convert to float".toList
  | emptyNumber => "string index out of range".toList
  | notABoolean text => Text.quoted text
  | brokenInteger points =>
    "invalid literal for int() with base 10: ".toList ++ Text.quotedPoints points
  | brokenReal points => "could not convert string to float: ".toList ++ Text.quotedPoints points
  | brokenBoolean points => Text.quotedPoints points
  | notATimestamp => "'NoneType' object has no attribute 'groupdict'".toList
  | notASingleText => "expected string or bytes-like object, got 'list'".toList
  | year number => "year ".toList ++ Text.ofNat number ++ " is out of range".toList
  | month => "month must be in 1..12".toList
  | day => "day is out of range for month".toList
  | hour => "hour must be in 0..23".toList
  | minute => "minute must be in 0..59".toList
  | second => "second must be in 0..59".toList
  | offset minutes =>
    "offset must be a timedelta strictly between -timedelta(hours=24) and ".toList ++
      "timedelta(hours=24), not ".toList ++ Moment.durationText minutes ++ ['.']
  | codePoint => "chr() arg not in range(0x110000)".toList
  | codePointTooLarge => "Python int too large to convert to C int".toList

/-- What was being read. -/
inductive Activity where
  | simpleKey
  | nextToken
  | directive
  | directiveText
  | anchor
  | aliasName
  | tag
  | tagText
  | blockScalar
  | doubleQuoted
  | quoted
  | node
  | blockNode
  | flowNode
  | blockSequence
  | blockMapping
  | flowSequence
  | flowMapping
  | onlyDocument
  | repeatedAnchor (name : Text)
  | mapping
  | orderedMapping
  | pairs
  deriving DecidableEq, Repr

/-- The text for what was being read. -/
def Activity.text : Activity → Text
  | simpleKey => "while scanning a simple key".toList
  | nextToken => "while scanning for the next token".toList
  | directive => "while scanning a directive".toList
  | directiveText => "while parsing a directive".toList
  | anchor => "while scanning an anchor".toList
  | aliasName => "while scanning an alias".toList
  | tag => "while scanning a tag".toList
  | tagText => "while parsing a tag".toList
  | blockScalar => "while scanning a block scalar".toList
  | doubleQuoted => "while scanning a double-quoted scalar".toList
  | quoted => "while scanning a quoted scalar".toList
  | node => "while parsing a node".toList
  | blockNode => "while parsing a block node".toList
  | flowNode => "while parsing a flow node".toList
  | blockSequence => "while parsing a block collection".toList
  | blockMapping => "while parsing a block mapping".toList
  | flowSequence => "while parsing a flow sequence".toList
  | flowMapping => "while parsing a flow mapping".toList
  | onlyDocument => "expected a single document in the stream".toList
  | repeatedAnchor name =>
    "found duplicate anchor ".toList ++ Text.quoted name ++ "; first occurrence".toList
  | mapping => "while constructing a mapping".toList
  | orderedMapping => "while constructing an ordered map".toList
  | pairs => "while constructing pairs".toList

/-- What a character should have been. -/
inductive Wanted where
  | nameCharacter
  | digit
  | digitOrPoint
  | digitOrSpace
  | space
  | exclamationMark
  | closingBracket
  | commentOrBreak
  | blockSign
  | tagCharacter
  | escapedByte
  | hexadecimal (count : Nat)
  deriving DecidableEq, Repr

/-- The text for what a character should have been. -/
def Wanted.text : Wanted → Text
  | nameCharacter => "alphabetic or numeric character".toList
  | digit => "a digit".toList
  | digitOrPoint => "a digit or '.'".toList
  | digitOrSpace => "a digit or ' '".toList
  | space => "' '".toList
  | exclamationMark => "'!'".toList
  | closingBracket => "'>'".toList
  | commentOrBreak => "a comment or a line break".toList
  | blockSign => "chomping or indentation indicators".toList
  | tagCharacter => "URI".toList
  | escapedByte => "URI escape sequence of 2 hexadecimal numbers".toList
  | hexadecimal count =>
    "escape sequence of ".toList ++ Text.ofNat count ++ " hexadecimal numbers".toList

/-- What a node consists of. -/
inductive Shape where
  | scalar
  | sequence
  | mapping
  deriving DecidableEq, Repr, Inhabited

/-- The name of a shape. -/
def Shape.name : Shape → Text
  | scalar => "scalar".toList
  | sequence => "sequence".toList
  | mapping => "mapping".toList

/-- What is wrong at a place. Tokens are given by their names. -/
inductive Problem where
  | character (wanted : Wanted) (found : Char)
  | cannotStart (found : Char)
  | noColon
  | entryNotAllowed
  | keyNotAllowed
  | valueNotAllowed
  | zeroIndent
  | unknownEscape (found : Char)
  | endOfText
  | documentMark
  | undecodable (reason : Text)
  | versionTwice
  | otherVersion
  | handleTwice (handle : Text)
  | unknownHandle (handle : Text)
  | notDocumentStart (found : Text)
  | notBlockEnd (found : Text)
  | notAContent (found : Text)
  | notSequenceComma (found : Text)
  | notMappingComma (found : Text)
  | anotherDocument
  | unknownAlias (name : Text)
  | secondAnchor
  | notOfShape (wanted found : Shape)
  | notASequence (found : Shape)
  | notASingleMapping (found : Shape)
  | severalEntries (count : Nat)
  | notMergeable (found : Shape)
  | itemNotMergeable (found : Shape)
  | unhashableKey
  | unknownTag (name : Text)
  | badBinaryText (reason : Text)
  | badBinary (reason : Text)
  deriving DecidableEq, Repr

/-- The text of a problem. -/
def Problem.text : Problem → Text
  | character wanted found =>
    "expected ".toList ++ wanted.text ++ ", but found ".toList ++ Text.quoted [found]
  | cannotStart found =>
    "found character ".toList ++ Text.quoted [found] ++ " that cannot start any token".toList
  | noColon => "could not find expected ':'".toList
  | entryNotAllowed => "sequence entries are not allowed here".toList
  | keyNotAllowed => "mapping keys are not allowed here".toList
  | valueNotAllowed => "mapping values are not allowed here".toList
  | zeroIndent => "expected indentation indicator in the range 1-9, but found 0".toList
  | unknownEscape found => "found unknown escape character ".toList ++ Text.quoted [found]
  | endOfText => "found unexpected end of stream".toList
  | documentMark => "found unexpected document separator".toList
  | undecodable reason => reason
  | versionTwice => "found duplicate YAML directive".toList
  | otherVersion => "found incompatible YAML document (version 1.* is required)".toList
  | handleTwice handle => "duplicate tag handle ".toList ++ Text.quoted handle
  | unknownHandle handle => "found undefined tag handle ".toList ++ Text.quoted handle
  | notDocumentStart found =>
    "expected '<document start>', but found ".toList ++ Text.quoted found
  | notBlockEnd found => "expected <block end>, but found ".toList ++ Text.quoted found
  | notAContent found => "expected the node content, but found ".toList ++ Text.quoted found
  | notSequenceComma found => "expected ',' or ']', but got ".toList ++ Text.quoted found
  | notMappingComma found => "expected ',' or '\x7d', but got ".toList ++ Text.quoted found
  | anotherDocument => "but found another document".toList
  | unknownAlias name => "found undefined alias ".toList ++ Text.quoted name
  | secondAnchor => "second occurrence".toList
  | notOfShape wanted found =>
    "expected a ".toList ++ wanted.name ++ " node, but found ".toList ++ found.name
  | notASequence found => "expected a sequence, but found ".toList ++ found.name
  | notASingleMapping found =>
    "expected a mapping of length 1, but found ".toList ++ found.name
  | severalEntries count =>
    "expected a single mapping item, but found ".toList ++ Text.ofNat count ++ " items".toList
  | notMergeable found =>
    "expected a mapping or list of mappings for merging, but found ".toList ++ found.name
  | itemNotMergeable found => "expected a mapping for merging, but found ".toList ++ found.name
  | unhashableKey => "found unhashable key".toList
  | unknownTag name =>
    "could not determine a constructor for the tag ".toList ++ Text.quoted name
  | badBinaryText reason => "failed to convert base64 data into ascii: ".toList ++ reason
  | badBinary reason => "failed to decode base64 data: ".toList ++ reason

/-- Why a text is no YAML: it holds a character that no YAML text holds, or there is a problem,
perhaps with what was being read and where that began. -/
inductive Malformation where
  | unacceptable (found : Char) (index : Nat)
  | problem (context : Option (Activity × Option Mark)) (what : Problem) (mark : Mark)
  deriving DecidableEq, Repr

/-- A place in the text with a name. -/
def Mark.text (name : Text) (mark : Mark) : Text :=
  "  in \"".toList ++ name ++ "\", line ".toList ++ Text.ofNat (mark.line + 1) ++
    ", column ".toList ++ Text.ofNat (mark.column + 1)

/-- The text of a malformation in the text with a name. Where the place at which something began
is that of the problem, it is said once. -/
def Malformation.message (name : Text) : Malformation → Text
  | unacceptable found index =>
    let digits := max 4 (Nat.toDigits 16 found.toNat).length
    "unacceptable character #x".toList ++ Text.hexDigits digits found.toNat ++
      ": special characters are not allowed\n  in \"".toList ++ name ++ "\", position ".toList ++
      Text.ofNat index
  | .problem context what mark =>
    let opening : List Text := match context with
      | none => []
      | some (activity, start) =>
        let elsewhere := start.filter fun start =>
          start.line != mark.line || start.column != mark.column
        activity.text :: (elsewhere.map (Mark.text name)).toList
    Text.join ['\n'] (opening ++ [what.text, mark.text name])

/-- What is wrong with a YAML text: it cannot be decoded, it is malformed, a scalar is none of its
tag, or one thing stands inside of another more often than can be followed. -/
inductive Fault where
  | notUtf8
  | malformed (malformation : Malformation)
  | scalar (fault : ScalarFault) (mark : Mark)
  | tooDeep
  deriving DecidableEq, Repr

/-- A fault at a place. -/
def Fault.found (mark : Mark) (problem : Problem) : Fault := .malformed (.problem none problem mark)

/-- A fault at a place in what began at another one. -/
def Fault.foundIn (activity : Activity) (start : Mark) (mark : Mark) (problem : Problem) : Fault :=
  .malformed (.problem (some (activity, some start)) problem mark)

/-- How much of a text has been read where a fault is found. -/
def Fault.index : Fault → Nat
  | malformed (.problem _ _ mark) | scalar _ mark => mark.index
  | malformed (.unacceptable _ index) => index
  | notUtf8 | tooDeep => 0

end DebugLaunch.Yaml
