import DebugLaunch.Number.Shortest
import DebugLaunch.Text.Quoted
import DebugLaunch.Value

/-! The texts of values, as messages show what they refuse. -/
namespace DebugLaunch.Value

/-- The longest integer that is shown, in digits. -/
def maxShownDigits : Nat := 4300

/-- A byte between quotes. -/
def quotedByte (quote : Char) (byte : UInt8) : Text :=
  let c := Char.ofNat byte.toNat
  if byte.toNat < 128 then Text.quoteChar quote c else Text.escapedChar c

/-- Bytes between quotes. -/
def quotedBytes (bytes : Utf8.Bytes) : Text :=
  let quote := Text.quoteFor (bytes.map fun byte => Char.ofNat byte.toNat)
  'b' :: quote :: bytes.flatMap (quotedByte quote) ++ [quote]

/-- The digits of an integer, unless they are too many. -/
def integerText? (value : Int) : Option Text :=
  let digits := Text.ofNat value.natAbs
  if maxShownDigits < digits.length then none
  else some (if value < 0 then '-' :: digits else digits)

mutual

/-- The text of a value, unless it holds an integer that is too long. -/
def text? : Value → Option Text
  | null => some "None".toList
  | boolean value => some (if value then "True" else "False").toList
  | integer value => integerText? value
  | real value => some value.text
  | text value => some (Text.quoted value)
  | brokenText points => some (Text.quotedPoints points)
  | bytes value => some (quotedBytes value)
  | moment value => some value.text
  | list items => (itemTexts? items).map fun texts => '[' :: Text.join ", ".toList texts ++ [']']
  | set [] => some "set()".toList
  | set items =>
    (itemTexts? items).map fun texts => '\x7b' :: Text.join ", ".toList texts ++ ['\x7d']
  | pair key value => do
    some ('(' :: (← text? key) ++ ", ".toList ++ (← text? value) ++ [')'])
  | mapping entries =>
    (entryTexts? entries).map fun texts => '\x7b' :: Text.join ", ".toList texts ++ ['\x7d']
  | repeated isMapping => some (if isMapping then "\x7b...\x7d" else "[...]").toList

/-- The texts of values. -/
def itemTexts? : List Value → Option (List Text)
  | [] => some []
  | item :: rest => do
    let text ← text? item
    some (text :: (← itemTexts? rest))

/-- The texts of the entries of a mapping. -/
def entryTexts? : List (Value × Value) → Option (List Text)
  | [] => some []
  | (key, value) :: rest => do
    let text := (← text? key) ++ ": ".toList ++ (← text? value)
    some (text :: (← entryTexts? rest))

end

/-- The name for the kind of a value. -/
def kind : Value → Text
  | null => "NoneType".toList
  | boolean _ => "bool".toList
  | integer _ => "int".toList
  | real _ => "float".toList
  | text _ | brokenText _ => "str".toList
  | bytes _ => "bytes".toList
  | moment value => (if value.time.isSome then "datetime" else "date").toList
  | list _ => "list".toList
  | set _ => "set".toList
  | pair .. => "tuple".toList
  | mapping _ => "dict".toList
  | repeated isMapping => (if isMapping then "dict" else "list").toList

/-- The text of any value. -/
def shown (value : Value) : Text :=
  value.text?.getD ("<unprintable ".toList ++ value.kind ++ " object>".toList)

end DebugLaunch.Value
