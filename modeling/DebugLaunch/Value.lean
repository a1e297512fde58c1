import DebugLaunch.Moment
import DebugLaunch.Number.Binary64
import DebugLaunch.Text.Utf8

/-! Values as settings are written in, whatever format they are read from. -/
namespace DebugLaunch

/-- A value. A broken text holds halves of pairs, which no text holds, so that it is given by its
code points. A repeated value is a list or a mapping inside of itself. -/
inductive Value where
  | null
  | boolean (value : Bool)
  | integer (value : Int)
  | real (value : Binary64)
  | text (value : Text)
  | brokenText (points : List Nat)
  | bytes (value : Utf8.Bytes)
  | moment (value : Moment)
  | list (items : List Value)
  | set (items : List Value)
  | pair (key value : Value)
  | mapping (entries : List (Value × Value))
  | repeated (isMapping : Bool)
  deriving Repr, Inhabited

namespace Value

/-- Whether a value counts as empty: what is null, false, zero or without content. -/
def isEmpty : Value → Bool
  | null => true
  | boolean value => !value
  | integer value => value = 0
  | real value => value.isZero
  | text value => value = []
  | bytes value => value = []
  | list items | set items => items.isEmpty
  | mapping entries => entries.isEmpty
  | brokenText _ | moment _ | pair .. | repeated _ => false

/-- Whether a value is a broken text. -/
def isBroken : Value → Bool
  | brokenText _ => true
  | _ => false

/-- A number, if a value is one. A truth value is one or zero. -/
def number? : Value → Option (Int ⊕ Binary64)
  | boolean value => some (.inl (if value then 1 else 0))
  | integer value => some (.inl value)
  | real value => some ((value.toInt?.map Sum.inl).getD (.inr value))
  | _ => none

/-- Whether two values are the same key. Numbers are compared whatever they are written as. -/
def sameKey (one other : Value) : Bool :=
  match one, other with
  | null, null => true
  | text value, text other => value = other
  | brokenText points, brokenText other => points = other
  | bytes value, bytes other => value = other
  | moment value, moment other => value.same other
  | one, other =>
    match one.number?, other.number? with
    | some (.inl value), some (.inl other) => value = other
    | some (.inr value), some (.inr other) => value.same other
    | _, _ => false

/-- The first of each of the values that are the same key. -/
def distinct (values : List Value) : List Value :=
  values.foldl (fun found value =>
    if found.any fun other => other.sameKey value then found else found ++ [value]) []

/-- Gives a key a value. A key that is there stays as it is. -/
def put (entries : List (Value × Value)) (key value : Value) : List (Value × Value) :=
  if entries.any fun (other, _) => other.sameKey key then
    entries.map fun (other, old) => (other, if other.sameKey key then value else old)
  else entries ++ [(key, value)]

end Value
end DebugLaunch
