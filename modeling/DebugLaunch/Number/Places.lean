import DebugLaunch.Number.Binary64
import DebugLaunch.Text.Basic

/-! Decimal texts with a given number of digits: the exact value is rounded once, from a half to the
even digit. Values are quotients of natural numbers of which the second is not zero. -/
namespace DebugLaunch.Binary64

/-- The text with a number of digits behind the decimal point, which is left out in front of none.
-/
def fixedText (places dividend divisor : Nat) : Text :=
  let digits := Text.ofNat (roundQuotient (dividend * Nat.pow 10 places) divisor)
  let digits := List.replicate (places + 1 - digits.length) '0' ++ digits
  let whole := digits.take (digits.length - places)
  if places = 0 then whole else whole ++ '.' :: digits.drop (digits.length - places)

/-- How often a positive value below one has to be taken ten times until it is not below one. -/
def tenthsBelowOne (dividend divisor : Nat) : Nat → Nat
  | 0 => 0
  | fuel + 1 =>
    if divisor ≤ dividend then 0 else tenthsBelowOne (10 * dividend) divisor fuel + 1

/-- The digits of a value, one of them in front of the decimal point and so many behind it, and the
exponent of ten. -/
def scientificDigits (places dividend divisor : Nat) : Text × Int :=
  if dividend = 0 then (List.replicate (places + 1) '0', 0)
  else
    let exponent : Int :=
      if divisor ≤ dividend then ((Text.ofNat (dividend / divisor)).length : Int) - 1
      else -(tenthsBelowOne dividend divisor 400 : Int)
    let shift : Int := places - exponent
    let rounded := if 0 ≤ shift then roundQuotient (dividend * Nat.pow 10 shift.toNat) divisor
      else roundQuotient dividend (divisor * Nat.pow 10 (-shift).toNat)
    if rounded < Nat.pow 10 (places + 1) then (Text.ofNat rounded, exponent)
    else (Text.ofNat (rounded / 10), exponent + 1)

/-- The text with a number of digits behind the decimal point and an exponent of ten, which has two
digits or more. -/
def scientificText (places dividend divisor : Nat) : Text :=
  let (digits, exponent) := scientificDigits places dividend divisor
  let size := Text.ofNat exponent.natAbs
  let front := if places = 0 then digits else digits.take 1 ++ '.' :: digits.drop 1
  front ++ ['e', if exponent < 0 then '-' else '+'] ++
    (if size.length < 2 then '0' :: size else size)

/-- A text without the zeros at the end of its digits behind the decimal point. -/
def withoutEndZeros (text : Text) : Text :=
  let (front, behind) := Text.breakAt (· = 'e') text
  if front.contains '.' then
    let kept := front.reverse.dropWhile (· = '0')
    (if kept.head? = some '.' then kept.drop 1 else kept).reverse ++ behind
  else text

/-- The text with a number of digits, with an exponent where the value is far from one. Zeros at the
end are left out unless they are wanted. -/
def generalText (keepsZeros : Bool) (digits dividend divisor : Nat) : Text :=
  let digits := max digits 1
  let exponent := (scientificDigits (digits - 1) dividend divisor).2
  let text := if -4 ≤ exponent && exponent < digits
    then fixedText (digits - 1 - exponent).toNat dividend divisor
    else scientificText (digits - 1) dividend divisor
  if keepsZeros then text else withoutEndZeros text

end DebugLaunch.Binary64
