import DebugLaunch.Number.Numeral

/-! The tags of YAML values, and which one a scalar has by its looks. Numbers may be written with
underscores, in base sixty, and in bases two, eight and sixteen. -/
namespace DebugLaunch.Yaml

/-- A tag: one of those that values have here, or any other. -/
inductive Tag where
  | null
  | boolean
  | integer
  | real
  | binary
  | timestamp
  | string
  | sequence
  | mapping
  | orderedMapping
  | pairs
  | set
  | merge
  | defaultValue
  | unknown (name : Text)
  deriving DecidableEq, Repr, Inhabited

namespace Tag

/-- What the names of the common tags begin with. -/
def stem : Text := "tag:yaml.org,2002:".toList

/-- The common tags by the ends of their names. -/
def table : List (Text × Tag) := [
  ("null".toList, null), ("bool".toList, boolean), ("int".toList, integer), ("float".toList, real),
  ("binary".toList, binary), ("timestamp".toList, timestamp), ("str".toList, string),
  ("seq".toList, sequence), ("map".toList, mapping), ("omap".toList, orderedMapping),
  ("pairs".toList, pairs), ("set".toList, set), ("merge".toList, merge),
  ("value".toList, defaultValue)]

/-- The tag with a name. -/
def ofName (name : Text) : Tag :=
  if stem.isPrefixOf name then (table.lookup (name.drop stem.length)).getD (unknown name)
  else unknown name

/-- The name of a tag. -/
def name : Tag → Text
  | unknown name => name
  | tag => stem ++ ((table.find? fun (_, other) => other = tag).map Prod.fst).getD []

/-- Whether a text is not empty and all its characters satisfy `p`. -/
def isRun (p : Char → Bool) (text : Text) : Bool := text != [] && text.all p

/-- Digits and underscores. -/
def isDigitOrUnderscore (c : Char) : Bool := c.isDigit || c = '_'

/-- Whether a text is a digit with digits and underscores behind it. -/
def isDigits : Text → Bool
  | c :: rest => c.isDigit && rest.all isDigitOrUnderscore
  | [] => false

/-- Whether a text is a digit of base sixty. -/
def isSixtieth : Text → Bool
  | [c] => c.isDigit
  | [c, d] => '0' ≤ c && c ≤ '5' && d.isDigit
  | _ => false

/-- Whether a text looks like an integer. -/
def looksInteger (text : Text) : Bool :=
  match Numeral.unsigned text with
  | '0' :: 'b' :: digits => isRun (fun c => c = '0' || c = '1' || c = '_') digits
  | '0' :: 'x' :: digits =>
    isRun (fun c => isDigitOrUnderscore c || ('a' ≤ c && c ≤ 'f') || ('A' ≤ c && c ≤ 'F')) digits
  | ['0'] => true
  | '0' :: digits => digits.all fun c => ('0' ≤ c && c ≤ '7') || c = '_'
  | digits =>
    match Text.split ':' digits with
    | [] => false
    | first :: rest => isDigits first && rest.all isSixtieth

/-- Whether a text is nothing or an exponent with its sign. -/
def isExponent : Text → Bool
  | [] => true
  | _ :: sign :: digits => (sign = '-' || sign = '+') && isRun Char.isDigit digits
  | _ => false

/-- Whether a text looks like a number with a decimal point. -/
def looksReal (text : Text) : Bool :=
  let number := Numeral.unsigned text
  let infinities := [".inf".toList, ".Inf".toList, ".INF".toList]
  let (mantissa, exponent) := Text.breakAt (fun c => c = 'e' || c = 'E') number
  let (whole, fraction) := Text.breakAt (· = '.') mantissa
  infinities.contains number || [".nan".toList, ".NaN".toList, ".NAN".toList].contains text ||
    match fraction with
    | [] => false
    | _ :: digits =>
      digits.all isDigitOrUnderscore &&
        match Text.split ':' whole with
        | [] => false
        | [[]] => number = text && isDigits digits && isExponent exponent
        | [single] => isDigits single && isExponent exponent
        | first :: rest => isDigits first && rest.all isSixtieth && exponent = []

/-- The distance of a time from universal time as it is written: whether it is behind, its hours
and its minutes. -/
structure WrittenOffset where
  negative : Bool := false
  hours : Text := ['0']
  minutes : Text := ['0']
  deriving DecidableEq, Repr

/-- A time of day as it is written: hours, minutes, seconds, the digits of its fraction, and its
distance from universal time. -/
structure WrittenTime where
  hour : Text
  minute : Text
  second : Text
  fraction : Text := []
  offset : Option WrittenOffset := none
  deriving DecidableEq, Repr

/-- A point in time as it is written. -/
structure WrittenMoment where
  year : Text
  month : Text
  day : Text
  time : Option WrittenTime := none
  deriving DecidableEq, Repr

/-- One or two digits, or exactly `count` if given, at the front of a text. -/
def takeDigits (count : Option Nat) (text : Text) : Option (Text × Text) :=
  let run := (text.takeWhile Char.isDigit).take (count.getD 2)
  if run = [] || (count.isSome && some run.length != count) then none
  else some (run, text.drop run.length)

/-- The text behind a character that has to stand at its front. -/
def takeChar (c : Char) : Text → Option Text
  | d :: rest => if d = c then some rest else none
  | [] => none

/-- The offset at the end of a point in time: `Z`, or hours with or without minutes. -/
def offset? : Text → Option (Option WrittenOffset)
  | [] => some none
  | ['Z'] => some (some {})
  | sign :: rest => do
    if sign != '-' && sign != '+' then none
    let (hours, rest) ← takeDigits none rest
    match rest with
    | [] => some (some { negative := sign = '-', hours })
    | rest => do
      let (minutes, rest) ← takeDigits (some 2) (← takeChar ':' rest)
      if rest = [] then some (some { negative := sign = '-', hours, minutes }) else none

/-- The point in time that a text writes. -/
def moment? (text : Text) : Option WrittenMoment := do
  let (year, rest) ← takeDigits (some 4) text
  let (month, rest) ← takeDigits none (← takeChar '-' rest)
  let (day, rest) ← takeDigits none (← takeChar '-' rest)
  let isBlank (c : Char) : Bool := c = ' ' || c = '\t'
  match rest with
  | [] => some { year, month, day }
  | c :: behind => do
    let rest ←
      if c = 'T' || c = 't' then some behind
      else if isBlank c then some (behind.dropWhile isBlank) else none
    let (hour, rest) ← takeDigits none rest
    let (minute, rest) ← takeDigits (some 2) (← takeChar ':' rest)
    let (second, rest) ← takeDigits (some 2) (← takeChar ':' rest)
    let (fraction, rest) := match rest with
      | '.' :: rest => rest.span Char.isDigit
      | rest => ([], rest)
    let zone := rest.dropWhile isBlank
    if zone = [] && rest != [] then none
    let offset ← offset? zone
    some { year, month, day, time := some { hour, minute, second, fraction, offset } }

/-- Whether a text looks like a point in time. A date alone has two digits for month and day. -/
def looksTimestamp (text : Text) : Bool :=
  match moment? text with
  | none => false
  | some moment => moment.time.isSome || (moment.month.length = 2 && moment.day.length = 2)

/-- The truth values, in lower case. -/
def booleans : List (Text × Bool) := [
  ("yes".toList, true), ("no".toList, false), ("true".toList, true), ("false".toList, false),
  ("on".toList, true), ("off".toList, false)]

/-- Whether a text looks like a truth value: in lower case, in upper case, or capitalised. -/
def looksBoolean (text : Text) : Bool :=
  booleans.any fun (name, _) =>
    text = name || text = name.map Char.toUpper ||
      text = (name.take 1).map Char.toUpper ++ name.drop 1

/-- A text without a line feed at its end, which does not change the looks of other text. -/
def withoutLineFeed (text : Text) : Text :=
  if text.getLast? = some '\n' && text != ['\n'] then text.dropLast else text

/-- The tag that a scalar has by its looks. -/
def ofLooks (text : Text) : Tag :=
  let value := withoutLineFeed text
  if looksBoolean value then boolean
  else if looksReal value then real
  else if looksInteger value then integer
  else if value = ['<', '<'] then merge
  else if value = [] || value = ['~'] ||
    ["null".toList, "Null".toList, "NULL".toList].contains value then null
  else if looksTimestamp value then timestamp
  else if value = ['='] then defaultValue
  else string

end Tag

end DebugLaunch.Yaml
