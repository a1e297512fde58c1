/-! Floating point numbers of 64 bits as exact values: a mantissa of at most 53 bits times a power
of two, or one of the values that are not finite. Every operation computes the exact result and
rounds it once, to the nearest value and from a half to the even mantissa. -/
namespace DebugLaunch

/-- A floating point number. -/
inductive Binary64 where
  | finite (negative : Bool) (mantissa : Nat) (exponent : Int)
  | infinite (negative : Bool)
  | nan
  deriving DecidableEq, Repr, Inhabited

namespace Binary64

/-- A natural number times a power of two as a quotient. -/
def scaled (n : Nat) (exponent : Int) : Nat × Nat :=
  match exponent with
  | .ofNat up => (n * Nat.pow 2 up, 1)
  | .negSucc down => (n, Nat.pow 2 (down + 1))

/-- The quotient rounded to a natural number, to the nearest and from a half to the even one. -/
def roundQuotient (dividend divisor : Nat) : Nat :=
  let quotient := dividend / divisor
  let twice := 2 * (dividend % divisor)
  if twice < divisor || (twice = divisor && quotient % 2 = 0) then quotient else quotient + 1

/-- The number nearest to a quotient of natural numbers, of which the second is not zero. -/
def ofQuotient (negative : Bool) (dividend divisor : Nat) : Binary64 :=
  if dividend = 0 then finite negative 0 0
  else
    let guess : Int := (dividend.log2 : Int) - divisor.log2 - 52
    let inUnitsOf (exponent : Int) : Nat × Nat :=
      let (up, down) := scaled 1 (-exponent)
      (dividend * up, divisor * down)
    let (whole, unit) := inUnitsOf guess
    let exponent := max (-1074) (if whole / unit < Nat.pow 2 52 then guess - 1 else guess)
    let (whole, unit) := inUnitsOf exponent
    let mantissa := roundQuotient whole unit
    let (mantissa, exponent) :=
      if mantissa < Nat.pow 2 53 then (mantissa, exponent) else (Nat.pow 2 52, exponent + 1)
    if 971 < exponent then infinite negative else finite negative mantissa exponent

/-- The number nearest to an integer. -/
def ofInt (value : Int) : Binary64 := ofQuotient (value < 0) value.natAbs 1

/-- The number nearest to decimal digits, read as a natural number, times a power of ten. -/
def ofDecimal (negative : Bool) (digits : Nat) (exponent : Int) : Binary64 :=
  if digits = 0 then finite negative 0 0
  else
    let size : Int := exponent + (digits.log2 : Int) * 31 / 100
    if 400 < size then infinite negative
    else if size < -400 then finite negative 0 0
    else match exponent with
      | .ofNat up => ofQuotient negative (digits * Nat.pow 10 up) 1
      | .negSucc down => ofQuotient negative digits (Nat.pow 10 (down + 1))

/-- The sum of two numbers. -/
def add : Binary64 → Binary64 → Binary64
  | finite s m e, finite t n f =>
    let low := min e f
    let signed (negative : Bool) (mantissa : Nat) (exponent : Int) : Int :=
      let size : Int := mantissa * Int.pow 2 (exponent - low).toNat
      if negative then -size else size
    let sum := signed s m e + signed t n f
    let (dividend, divisor) := scaled sum.natAbs low
    ofQuotient (if sum = 0 then s && t else sum < 0) dividend divisor
  | infinite s, infinite t => if s = t then infinite s else nan
  | infinite s, finite .. => infinite s
  | finite .., infinite t => infinite t
  | nan, _ | _, nan => nan

/-- The product of two numbers. -/
def mul : Binary64 → Binary64 → Binary64
  | finite s m e, finite t n f =>
    let (dividend, divisor) := scaled (m * n) (e + f)
    ofQuotient (s != t) dividend divisor
  | infinite s, infinite t => infinite (s != t)
  | infinite s, finite t n _ | finite s n _, infinite t => if n = 0 then nan else infinite (s != t)
  | nan, _ | _, nan => nan

/-- Whether two numbers are equal. Zeros of either sign are, and what is no number equals itself. -/
def same : Binary64 → Binary64 → Bool
  | finite s m e, finite t n f =>
    let low := min e f
    m * Nat.pow 2 (e - low).toNat = n * Nat.pow 2 (f - low).toNat && (s = t || m = 0)
  | infinite s, infinite t => s = t
  | nan, nan => true
  | _, _ => false

/-- The integer that a number is, if it is one. -/
def toInt? : Binary64 → Option Int
  | finite negative mantissa exponent =>
    let (dividend, divisor) := scaled mantissa exponent
    if dividend % divisor = 0 then
      some (if negative then -((dividend / divisor : Nat) : Int) else (dividend / divisor : Nat))
    else none
  | _ => none

/-- Whether a number is zero, of either sign. -/
def isZero : Binary64 → Bool
  | finite _ mantissa _ => mantissa = 0
  | _ => false

end Binary64
end DebugLaunch
