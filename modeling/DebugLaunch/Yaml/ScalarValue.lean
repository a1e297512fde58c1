import DebugLaunch.Text.Case
import DebugLaunch.Text.Damage
import DebugLaunch.Value
import DebugLaunch.Yaml.Scalar
import DebugLaunch.Yaml.Tag

/-! The values that scalars write. A text that looks like a value of its tag need not write one:
months have names up to twelve only, and tags can be given to any text. -/
namespace DebugLaunch.Yaml

namespace Scalar

/-- The integer that a text writes in a base. -/
def integerInBase (base : Nat) (text : Text) : Except ScalarFault Int :=
  match Numeral.integer base text with
  | .ok value => .ok value
  | .error fault => .error (.numeral fault)

/-- A number whose digits of base sixty are given from the last to the first. -/
def sixtieths : List Int → Int
  | [] => 0
  | digit :: rest => digit + 60 * sixtieths rest

/-- The integer that a scalar writes. -/
def integer (text : Text) : Except ScalarFault Int := do
  let text := text.filter (· != '_')
  let digits := Numeral.unsigned text
  let size ← match digits with
    | [] => .error .emptyNumber
    | ['0'] => pure 0
    | '0' :: 'b' :: digits => integerInBase 2 digits
    | '0' :: 'x' :: digits => integerInBase 16 digits
    | '0' :: _ => integerInBase 8 digits
    | _ =>
      if digits.contains ':' then do
        let parts ← (Text.split ':' digits).mapM (integerInBase 10)
        pure (sixtieths parts.reverse)
      else integerInBase 10 digits
  .ok (if text.head? = some '-' then -size else size)

/-- Decimal digits with a decimal point, as a natural number and the digits behind the point. -/
def decimal? (text : Text) : Option (Nat × Nat) :=
  let (whole, rest) := Text.breakAt (· = '.') text
  let fraction := rest.drop 1
  let digits := whole ++ fraction
  if digits != [] && digits.all Char.isDigit then some (LaxInteger.ofDigits digits, fraction.length)
  else none

/-- The floating point number that a text writes. -/
def number (text : Text) : Except ScalarFault Binary64 :=
  let shown := Numeral.plainDigits text
  let negative := shown.head? = some '-'
  let unsigned := (Numeral.unsigned shown).map Char.toLower
  if unsigned = "inf".toList || unsigned = "infinity".toList then .ok (.infinite negative)
  else if unsigned = "nan".toList then .ok .nan
  else
    let (mantissa, exponent) := Text.breakAt (· = 'e') unsigned
    let power : Option Int := match exponent with
      | [] => some 0
      | _ :: '-' :: digits => (Numeral.natural? 10 digits).map fun n => -(n : Int)
      | _ :: '+' :: digits => (Numeral.natural? 10 digits).map Int.ofNat
      | _ :: digits => (Numeral.natural? 10 digits).map Int.ofNat
    match decimal? mantissa, power with
    | some (digits, places), some power => .ok (Binary64.ofDecimal negative digits (power - places))
    | _, _ => .error (.notANumber text)

/-- The sum of digits of base sixty, given from the last to the first, in units of a base. -/
def sixtiethsFrom (base : Int) (sum : Binary64) : List Binary64 → Except ScalarFault Binary64
  | [] => .ok sum
  | digit :: rest =>
    match Binary64.ofInt base with
    | .infinite _ => .error .numberTooLarge
    | unit => sixtiethsFrom (base * 60) (Binary64.add sum (Binary64.mul digit unit)) rest

/-- The floating point number that a scalar writes. -/
def real (text : Text) : Except ScalarFault Binary64 := do
  let text := Text.lower (text.filter (· != '_'))
  if text = [] then .error .emptyNumber
  let digits := Numeral.unsigned text
  let signed (value : Binary64) : Binary64 :=
    if text.head? = some '-' then Binary64.mul (Binary64.ofInt (-1)) value else value
  if digits = ".inf".toList then .ok (signed (.infinite false))
  else if digits = ".nan".toList then .ok .nan
  else if digits.contains ':' then do
    let parts ← (Text.split ':' digits).mapM number
    .ok (signed (← sixtiethsFrom 1 (.finite false 0 0) parts.reverse))
  else do .ok (signed (← number digits))

/-- The minutes of an offset. -/
def offset (written : Tag.WrittenOffset) : Except ScalarFault Int :=
  let size : Int := 60 * LaxInteger.ofDigits written.hours + LaxInteger.ofDigits written.minutes
  let minutes := if written.negative then -size else size
  if 1440 ≤ size then .error (.offset minutes) else .ok minutes

/-- The time of day that is written. -/
def timeOfDay (written : Tag.WrittenTime) (offset : Option Int) : Except ScalarFault TimeOfDay := do
  let field := LaxInteger.ofDigits
  let (hour, minute, second) := (field written.hour, field written.minute, field written.second)
  if 23 < hour then .error .hour
  if 59 < minute then .error .minute
  if 59 < second then .error .second
  let microsecond := field ((written.fraction ++ List.replicate 6 '0').take 6)
  .ok { hour, minute, second, microsecond, offset }

/-- The moment that a scalar writes. -/
def timestamp (text : Text) : Except ScalarFault Moment :=
  match Tag.moment? (Tag.withoutLineFeed text) with
  | none => .error .notATimestamp
  | some written => do
    let field := LaxInteger.ofDigits
    let (year, month, day) := (field written.year, field written.month, field written.day)
    let minutes ← (written.time.bind Tag.WrittenTime.offset).mapM offset
    if year = 0 then .error (.year year)
    if month = 0 || 12 < month then .error .month
    if day = 0 || Moment.daysIn year month < day then .error .day
    let time ← written.time.mapM fun time => timeOfDay time minutes
    .ok { year, month, day, time }

/-- The value of a character in base sixty-four. -/
def sixBits? (c : Char) : Option Nat :=
  if c.isUpper then some (c.toNat - 'A'.toNat)
  else if c.isLower then some (c.toNat - 'a'.toNat + 26)
  else if c.isDigit then some (c.toNat - '0'.toNat + 52)
  else if c = '+' then some 62
  else if c = '/' then some 63
  else none

/-- The bytes of groups of four characters in base sixty-four; `held` are the values read of the
group, last one first, and `signs` counts the equals signs at its end. Other characters are passed
over. -/
def groups (held : List Nat) (signs : Nat) : Text → Option Utf8.Bytes
  | [] => if held = [] then some [] else none
  | c :: rest =>
    if c = '=' then
      match held with
      | [b, a] =>
        if signs = 0 then groups held 1 rest else some [(a * 4 + b / 16).toUInt8]
      | [d, b, a] => some [(a * 4 + b / 16).toUInt8, (b % 16 * 16 + d / 4).toUInt8]
      | _ => groups held signs rest
    else match sixBits? c with
      | none => groups held signs rest
      | some value =>
        match held with
        | [d, b, a] =>
          (groups [] 0 rest).map fun bytes =>
            (a * 4 + b / 16).toUInt8 :: (b % 16 * 16 + d / 4).toUInt8 ::
              (d % 4 * 64 + value).toUInt8 :: bytes
        | held => groups (value :: held) 0 rest

/-- Why a text writes no bytes in base sixty-four: a group has one character or too few signs. -/
def groupsFault (text : Text) : Text :=
  let count := (text.filter fun c => (sixBits? c).isSome).length
  if count % 4 = 1 then
    "Invalid base64-encoded string: number of data characters (".toList ++ Text.ofNat count ++
      ") cannot be 1 more than a multiple of 4".toList
  else "Incorrect padding".toList

/-- The bytes that a scalar writes in base sixty-four. -/
def binary (text : Text) : Except Problem Utf8.Bytes :=
  match Text.notAscii? (text.map Char.toNat) with
  | some reason => .error (.badBinaryText reason)
  | none =>
    match groups [] 0 text with
    | some bytes => .ok bytes
    | none => .error (.badBinary (groupsFault text))

/-- The truth value that a scalar writes. -/
def boolean (text : Text) : Except ScalarFault Bool :=
  match Tag.booleans.lookup (Text.lower text) with
  | some value => .ok value
  | none => .error (.notABoolean (Text.lower text))

/-- The value that a text of a tag writes, which starts at a place. -/
def valueOfText (tag : Tag) (start : Mark) (text : Text) : Except Fault Value :=
  let given {α : Type} (make : α → Value) (result : Except ScalarFault α) : Except Fault Value :=
    match result with
    | .ok value => .ok (make value)
    | .error fault => .error (.scalar fault start)
  match tag with
  | .null => .ok .null
  | .boolean => given .boolean (boolean text)
  | .integer => given .integer (integer text)
  | .real => given .real (real text)
  | .timestamp => given .moment (timestamp text)
  | .string => .ok (.text text)
  | .binary =>
    match binary text with
    | .ok bytes => .ok (.bytes bytes)
    | .error problem => .error (.found start problem)
  | tag => .error (.found start (.unknownTag tag.name))

/-- The value that is written with code points of which some are halves of pairs. No number, truth
value or point in time is, and no bytes are. -/
def valueOfPoints (tag : Tag) (start : Mark) (points : List Nat) : Except Fault Value :=
  match tag with
  | .null => .ok .null
  | .string => .ok (.brokenText points)
  | .boolean => .error (.scalar (.brokenBoolean points) start)
  | .integer => .error (.scalar (.brokenInteger points) start)
  | .real => .error (.scalar (.brokenReal points) start)
  | .timestamp => .error (.scalar .notATimestamp start)
  | .binary => .error (.found start (.badBinaryText ((Text.notAscii? points).getD [])))
  | tag => .error (.found start (.unknownTag tag.name))

/-- The value that a scalar of a tag writes, which starts at a place. -/
def value (tag : Tag) (start : Mark) : Written → Except Fault Value
  | .text text => valueOfText tag start text
  | .broken points => valueOfPoints tag start points

end Scalar
end DebugLaunch.Yaml
