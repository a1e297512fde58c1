import DebugLaunch.Number.Binary64
import DebugLaunch.Text.Blank
import DebugLaunch.Text.Digit

/-! Integers read leniently: from a truth value, from a number without fractional part, or from a
text that writes an integer, with blanks around it, leading zeros, single underscores between
digits, and zeros behind a decimal point. -/
namespace DebugLaunch.LaxInteger

/-- Why there is no integer. -/
inductive Failure where
  | wrongKind
  | unreadable
  | tooLarge
  | fractional
  | notFinite
  deriving DecidableEq, Repr, Inhabited

/-- The longest integer that a text may write, in digits and sign. -/
def maxDigits : Nat := 4300

/-- The text behind the zeros and underscores that a number may begin with. A zero stays if a
decimal point or nothing follows. -/
def skipZeros (last : Char) : Text → Option Text
  | [] => some [last]
  | c :: rest =>
    if c = '0' || c = '_' then skipZeros c rest
    else if c.isDigit || c = '-' then some (c :: rest)
    else if c = '.' then some (last :: c :: rest)
    else none

/-- A number without its leading zeros, if it begins like one. A minus sign stays in front. -/
def dropLeadingZeros : Text → Option Text
  | '0' :: rest => skipZeros '0' rest
  | '-' :: rest => (dropLeadingZeros rest).map ('-' :: ·)
  | c :: rest => if c.isDigit then some (c :: rest) else none
  | [] => none

/-- A number without a decimal point that only zeros follow. -/
def dropDecimalZeros (text : Text) : Text :=
  match Text.breakAt (· = '.') text with
  | (whole, _ :: zeros) => if zeros != [] && zeros.all (· = '0') then whole else text
  | (_, []) => text

/-- A number without the underscores between its digits. Each has to stand alone. -/
def dropUnderscores (text : Text) : Option Text :=
  let parts := Text.split '_' text
  if parts.length = 1 then some text
  else if parts.contains [] then none
  else some parts.flatten

/-- The natural number that decimal digits write. -/
def ofDigits (digits : Text) : Nat := digits.foldl (fun n c => 10 * n + (c.toNat - '0'.toNat)) 0

/-- The integer that a text writes with a minus sign or none and digits that do not begin with a
superfluous zero. The run of digits and sign can be too long whatever stands behind it. -/
def plain (text : Text) : Except Failure Int :=
  let (negative, unsigned) := match text with
    | '-' :: rest => (true, rest)
    | rest => (false, rest)
  let digits := unsigned.takeWhile Char.isDigit
  if digits.head? = some '0' then
    if unsigned = ['0'] then .ok 0 else .error .unreadable
  else if maxDigits < digits.length + (if negative then 1 else 0) then .error .tooLarge
  else if digits = [] || digits.length ≠ unsigned.length then .error .unreadable
  else .ok (if negative then -(ofDigits digits : Int) else ofDigits digits)

/-- The digits of a text and their sign, cleaned of all that may surround them. -/
def clean? (text : Text) : Option Text := do
  let text := Text.trim Text.isSpaceProperty text
  let text ← match text with
    | '+' :: '-' :: _ => none
    | '+' :: rest => some rest
    | text => some text
  let text ← dropLeadingZeros text
  dropUnderscores (dropDecimalZeros text)

/-- The integer that a text writes. Only a text that needs no cleaning can be too long. -/
def ofText (text : Text) : Except Failure Int :=
  match plain text with
  | .ok value => .ok value
  | .error .tooLarge => .error .tooLarge
  | .error _ =>
    match (clean? text).map plain with
    | some (.ok value) => .ok value
    | _ => .error .unreadable

/-- The integer that a floating point number is, if it lies strictly within 64 bits. -/
def ofBinary64 (value : Binary64) : Except Failure Int :=
  match value with
  | .nan | .infinite _ => .error .notFinite
  | .finite .. =>
    match value.toInt? with
    | none => .error .fractional
    | some n => if -Int.pow 2 63 < n && n < Int.pow 2 63 then .ok n else .error .tooLarge

end DebugLaunch.LaxInteger
