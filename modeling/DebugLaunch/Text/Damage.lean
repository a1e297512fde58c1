import DebugLaunch.Text.Quoted
import DebugLaunch.Text.Utf8

/-! Texts and bytes that an encoding cannot hold, and how messages describe the first part that
does not fit. -/
namespace DebugLaunch.Utf8

/-- Why bytes are no UTF-8: an encoding cannot begin or go on with the byte, or the bytes end inside
of an encoding. -/
inductive Damage where
  | start
  | continuation
  | unfinished
  deriving DecidableEq, Repr

/-- The first part of bytes that is no UTF-8: the number of bytes in front of it, its bytes, and
what is wrong with it. -/
def damage? (offset : Nat) : Bytes → Option (Nat × Bytes × Damage)
  | [] => none
  | b :: rest =>
    let behind := (step b rest).2
    match (step b rest).1 with
    | some c => damage? (offset + c.utf8Size) behind
    | none =>
      let reason : Damage :=
        if (lead? b.toNat).isNone then .start else if behind = [] then .unfinished
        else .continuation
      some (offset, b :: rest.take (rest.length - behind.length), reason)
termination_by bytes => bytes.length
decreasing_by
  have := length_step b rest
  simp only [List.length_cons]
  omega

/-- The text for a damage. -/
def Damage.text : Damage → Text
  | start => "invalid start byte".toList
  | continuation => "invalid continuation byte".toList
  | unfinished => "unexpected end of data".toList

/-- What a message says of the first part of bytes that is no UTF-8. -/
def damageText (offset : Nat) (part : Bytes) (damage : Damage) : Text :=
  let place := match part with
    | [b] => "byte 0x".toList ++ Text.hexDigits 2 b.toNat ++ " in position ".toList ++
        Text.ofNat offset
    | _ => "bytes in position ".toList ++ Text.ofNat offset ++ '-' ::
        Text.ofNat (offset + part.length - 1)
  "'utf-8' codec can't decode ".toList ++ place ++ ": ".toList ++ damage.text

end DebugLaunch.Utf8

namespace DebugLaunch.Text

/-- Whether a code point is one of ASCII. -/
def isAscii (point : Nat) : Bool := point < 128

/-- What a message says of the first code points that ASCII does not have, if there are any. -/
def notAscii? (points : List Nat) : Option Text :=
  let front := points.takeWhile isAscii
  let place := Text.ofNat front.length
  match (points.drop front.length).takeWhile fun point => !isAscii point with
  | [] => none
  | [point] =>
    some ("'ascii' codec can't encode character '".toList ++ escapedPoint point ++
      "' in position ".toList ++ place ++ range)
  | run =>
    some ("'ascii' codec can't encode characters in position ".toList ++ place ++ '-' ::
      Text.ofNat (front.length + run.length - 1) ++ range)
where
  /-- What ASCII would have to hold. -/
  range : Text := ": ordinal not in range(128)".toList

end DebugLaunch.Text
