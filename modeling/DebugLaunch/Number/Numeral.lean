import DebugLaunch.Number.LaxInteger
import DebugLaunch.Text.Quoted

/-! Numerals: texts that write an integer in some base, with blanks around them, a sign, and digits
of any script. -/
namespace DebugLaunch

/-- Why a text is no numeral. -/
inductive NumeralFault where
  | notANumeral (base : Nat) (text : Text)
  | tooLong (digits : Nat)
  deriving DecidableEq, Repr

/-- The text of a numeral fault. -/
def NumeralFault.message : NumeralFault → Text
  | notANumeral base text =>
    "invalid literal for int() with base ".toList ++ Text.ofNat base ++ ": ".toList ++
      Text.quoted text
  | tooLong digits =>
    "Exceeds the limit (4300 digits) for integer string conversion: value has ".toList ++
      Text.ofNat digits ++
      " digits; use sys.set_int_max_str_digits() to increase the limit".toList

namespace Numeral

/-- The ASCII form of a numeral: digits of all scripts become ASCII digits and blanks at the ends
are dropped. -/
def plainDigits (text : Text) : Text :=
  (Text.strip text).map fun c =>
    match Text.digitValue? c with
    | some digit => Nat.digitChar digit
    | none => c

/-- A numeral without its sign. -/
def unsigned : Text → Text
  | '-' :: rest => rest
  | '+' :: rest => rest
  | text => text

/-- The value of a digit of a base. -/
def digitOf? (base : Nat) (c : Char) : Option Nat :=
  (Text.letterValue? c).filter (· < base)

/-- The natural number that digits of a base write. -/
def natural? (base : Nat) (digits : Text) : Option Nat :=
  if digits = [] then none
  else digits.foldlM (fun value c => (digitOf? base c).map (base * value + ·)) 0

/-- Digits without the mark of their base, which may stand in front of them. -/
def withoutBaseMark (base : Nat) : Text → Text
  | '0' :: c :: rest =>
    let mark := match base with
      | 2 => some 'b'
      | 8 => some 'o'
      | 16 => some 'x'
      | _ => none
    if mark = some c.toLower && rest != [] then rest else '0' :: c :: rest
  | digits => digits

/-- The integer that a numeral writes in a base. A run of decimal digits can be too long whatever
stands behind it. -/
def integer (base : Nat) (text : Text) : Except NumeralFault Int :=
  let numeral := plainDigits text
  let digits := withoutBaseMark base (unsigned numeral)
  let run := digits.takeWhile Char.isDigit
  if base = 10 && LaxInteger.maxDigits < run.length then .error (.tooLong run.length)
  else match natural? base digits with
    | none => .error (.notANumeral base text)
    | some n => .ok (if numeral.head? = some '-' then -(n : Int) else n)

end Numeral
end DebugLaunch
