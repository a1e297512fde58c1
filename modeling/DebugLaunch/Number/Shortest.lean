import DebugLaunch.Number.Binary64
import DebugLaunch.Text.Basic

/-! The text of a floating point number: the fewest decimal digits of which the number is the
nearest one, and of all texts with so many digits the nearest to the number. -/
namespace DebugLaunch.Binary64

/-- The quotients between which the numbers lie that are rounded to a mantissa times a power of two,
all over one divisor: the lower one, the number itself, the upper one, and the divisor. Below a
power of two the numbers are twice as dense. -/
def neighbourhood (mantissa : Nat) (exponent : Int) : Nat × Nat × Nat × Nat :=
  let (unit, divisor) := scaled 1 (exponent - 2)
  let below := if mantissa = Nat.pow 2 52 && -1074 < exponent then 1 else 2
  ((4 * mantissa - below) * unit, 4 * mantissa * unit, (4 * mantissa + 2) * unit, divisor)

/-- The number of digits in front of the decimal point, negative if zeros follow behind it. Searched
from a guess on that is too low by no more than `fuel`. -/
def pointFrom (dividend divisor : Nat) : Nat → Int → Int
  | 0, point => point
  | fuel + 1, point =>
    let below :=
      if 0 ≤ point then dividend < divisor * Nat.pow 10 point.toNat
      else dividend * Nat.pow 10 (-point).toNat < divisor
    if below then point else pointFrom dividend divisor fuel (point + 1)

/-- Decimal digits as a natural number with the place of the decimal point: the digits of the number
stand behind it, and are to be moved by `point`. Of the two neighbours on the grid of a number of
digits the nearer one is taken that is rounded to the number. -/
def digitsFrom (mantissa : Nat) (exponent point : Int) : Nat → Nat → Nat × Nat
  | 0, count => (0, count)
  | fuel + 1, count =>
    let (low, value, high, divisor) := neighbourhood mantissa exponent
    let places : Int := count - point
    let (up, down) :=
      if 0 ≤ places then (Nat.pow 10 places.toNat, 1) else (1, Nat.pow 10 (-places).toNat)
    let unit := divisor * down
    let (low, value, high) := (low * up, value * up, high * up)
    let floor := value / unit
    let isNear (digits : Nat) : Bool :=
      let there := digits * unit
      if mantissa % 2 = 0 then low ≤ there && there ≤ high else low < there && there < high
    let floorIsNearer := value - floor * unit ≤ (floor + 1) * unit - value
    if isNear floor && (floorIsNearer || !isNear (floor + 1)) then (floor, count)
    else if isNear (floor + 1) then (floor + 1, count)
    else digitsFrom mantissa exponent point fuel (count + 1)

/-- The shortest digits of a mantissa times a power of two, and the place of the decimal point. -/
def shortest (mantissa : Nat) (exponent : Int) : Text × Int :=
  let (dividend, divisor) := scaled mantissa exponent
  let guess : Int := ((mantissa.log2 : Int) + exponent) * 301 / 1000 - 2
  let point := pointFrom dividend divisor 8 guess
  let (digits, count) := digitsFrom mantissa exponent point 20 1
  let written := Text.ofNat digits
  let point := point + (written.length - count : Int)
  ((written.reverse.dropWhile (· = '0')).reverse, point)

/-- The text of digits with a decimal point. Far from one the point stands behind the first digit,
and an exponent of two digits or more follows. -/
def positioned (digits : Text) (point : Int) : Text :=
  let zeros (count : Int) : Text := List.replicate count.toNat '0'
  if point ≤ -4 || 16 < point then
    let exponent := point - 1
    let size := Text.ofNat exponent.natAbs
    let fraction := if digits.length = 1 then [] else '.' :: digits.drop 1
    digits.take 1 ++ fraction ++ 'e' :: (if exponent < 0 then '-' else '+') ::
      zeros (2 - size.length) ++ size
  else if point ≤ 0 then ['0', '.'] ++ zeros (-point) ++ digits
  else
    let whole := digits.take point.toNat ++ zeros (point - digits.length)
    let fraction := digits.drop point.toNat
    whole ++ '.' :: if fraction = [] then ['0'] else fraction

/-- The text of a number. -/
def text : Binary64 → Text
  | nan => "nan".toList
  | infinite negative => (if negative then ['-'] else []) ++ "inf".toList
  | finite negative mantissa exponent =>
    (if negative then ['-'] else []) ++
      if mantissa = 0 then "0.0".toList
      else
        let (digits, point) := shortest mantissa exponent
        positioned digits point

end DebugLaunch.Binary64
