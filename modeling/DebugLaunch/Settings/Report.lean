import DebugLaunch.Settings.Basic

/-! What is wrong with settings as one text: the number of findings, and for each of them where it
is, what should stand there, its code, the value that stands there, and where a manual explains the
code. -/
namespace DebugLaunch.Settings

/-- The code of a problem. -/
def Problem.code : Problem → Text
  | notAList => "list_type".toList
  | notAText => "string_type".toList
  | notUnicode => "string_unicode".toList
  | integer .wrongKind => "int_type".toList
  | integer .unreadable => "int_parsing".toList
  | integer .tooLarge => "int_parsing_size".toList
  | integer .fractional => "int_from_float".toList
  | integer .notFinite => "finite_number".toList
  | notPositive => "greater_than".toList

/-- What should stand where a problem is. -/
def Problem.wanted : Problem → Text
  | notAList => "Input should be a valid list".toList
  | notAText => "Input should be a valid string".toList
  | notUnicode =>
    "Input should be a valid string, unable to parse raw data as a unicode string".toList
  | integer .wrongKind => "Input should be a valid integer".toList
  | integer .unreadable =>
    "Input should be a valid integer, unable to parse string as an integer".toList
  | integer .tooLarge =>
    "Unable to parse input string as an integer, exceeded maximum size".toList
  | integer .fractional =>
    "Input should be a valid integer, got a number with a fractional part".toList
  | integer .notFinite => "Input should be a finite number".toList
  | notPositive => "Input should be greater than 0".toList

/-- The place of a finding: the key of the setting, and the index of the item. -/
def Finding.place (finding : Finding) : Text :=
  finding.field.key ++ match finding.index with
    | none => []
    | some index => '.' :: Text.ofNat index

/-- The longest text of a value that is shown whole, in bytes. -/
def maxShown : Nat := 50

/-- The characters that end within a number of bytes from the front. -/
def within (bytes : Nat) : Text → Text
  | [] => []
  | c :: rest => if c.utf8Size ≤ bytes then c :: within (bytes - c.utf8Size) rest else []

/-- The text of a value. Of a long one the first 25 and the last 24 bytes are shown, as far as they
are whole characters. -/
def Exhibit.shortText (value : Exhibit) : Text :=
  if maxShown < (Utf8.encode value.text).length then
    within 25 value.text ++ "...".toList ++ (within 24 value.text.reverse).reverse
  else value.text

/-- The lines about a finding; `manual` is the address under which codes are explained. -/
def Finding.lines (manual : Text) (finding : Finding) : List Text :=
  let code := finding.problem.code
  [finding.place,
    "  ".toList ++ finding.problem.wanted ++ " [type=".toList ++ code ++
      ", input_value=".toList ++ finding.value.shortText ++ ", input_type=".toList ++
      finding.value.kind ++ "]".toList,
    "    For further information visit ".toList ++ manual ++ code]

/-- The report of all findings. -/
def report (manual : Text) (findings : List Finding) : Text :=
  let count := Text.ofNat findings.length ++
    (if findings.length = 1 then " validation error" else " validation errors").toList
  Text.join ['\n']
    ((count ++ " for LauncherSettings".toList) :: findings.flatMap (Finding.lines manual))

end DebugLaunch.Settings
