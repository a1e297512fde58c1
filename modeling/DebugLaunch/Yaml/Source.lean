import DebugLaunch.Text.Damage
import DebugLaunch.Yaml.Fault

/-! YAML texts as they are read from files. A file is read in blocks, as far as it is needed: what
cannot be decoded, or is no character of a YAML text, is a fault as soon as its block is read, and
none if something else is wrong in the blocks before. -/
namespace DebugLaunch.Yaml

open Utf8 (Bytes)

/-- The characters that a YAML text may hold. -/
def isAllowed (c : Char) : Bool :=
  let n := c.toNat
  n = 9 || n = 10 || n = 13 || (0x20 ≤ n && n ≤ 0x7E) || n = 0x85 || (0xA0 ≤ n && n ≤ 0xD7FF) ||
    (0xE000 ≤ n && n ≤ 0xFFFD) || 0x10000 ≤ n

/-- A text, and the place from which on it cannot be read, with the reason, if there is one. -/
structure Source where
  text : Text
  barrier : Option (Nat × Fault) := none
  deriving Repr, Inhabited

namespace Source

/-- The characters of the first block. -/
def firstBlock : Nat := 8192

/-- The characters of each block behind the first one. -/
def nextBlock : Nat := 4096

/-- The bytes that are decoded at once. -/
def decodedAtOnce : Nat := 8192

/-- The number of characters in the blocks before the one that holds the character at an index. -/
def blocksBefore (index : Nat) : Nat :=
  if index < firstBlock then 0 else firstBlock + (index - firstBlock) / nextBlock * nextBlock

/-- The characters that bytes begin with, up to the first part that is no UTF-8. -/
def readable : Bytes → Text
  | [] => []
  | b :: rest =>
    match (Utf8.step b rest).1 with
    | some c => c :: readable (Utf8.step b rest).2
    | none => []
termination_by bytes => bytes.length
decreasing_by
  have := Utf8.length_step b rest
  simp only [List.length_cons]
  omega

/-- The characters of a text that are complete within a number of bytes. -/
def within (bytes : Nat) : Text → Text
  | [] => []
  | c :: rest => if c.utf8Size ≤ bytes then c :: within (bytes - c.utf8Size) rest else []

/-- The first character at or behind an index that no YAML text holds, and its index. -/
def firstUnacceptable (index : Nat) : Text → Option (Nat × Char)
  | [] => none
  | c :: rest => if isAllowed c then firstUnacceptable (index + 1) rest else some (index, c)

/-- The text that bytes write. A character that is not complete misses the byte behind it. -/
def ofBytes (bytes : Bytes) : Source :=
  let decoded := readable bytes
  let text := decoded.unifyNewlines
  let undecodable : Option (Nat × Fault) := (Utf8.damage? 0 bytes).map fun (offset, part, damage) =>
    let place := offset + part.length - if damage = .start then 1 else 0
    let before := within (place / decodedAtOnce * decodedAtOnce) decoded
    (blocksBefore before.unifyNewlines.length, .notUtf8)
  let unacceptable : Option (Nat × Fault) := (firstUnacceptable 0 text).map fun (index, c) =>
    (blocksBefore index, .malformed (.unacceptable c index))
  match undecodable, unacceptable with
  | some one, some other => ⟨text, some (if one.1 ≤ other.1 then one else other)⟩
  | one, other => ⟨text, one.or other⟩

/-- The fault of reading on from an index, if the text cannot be read there. The character behind
the next one is wanted, too. -/
def faultAt (source : Source) (index : Nat) : Option Fault :=
  match source.barrier with
  | some (barrier, fault) => if barrier ≤ index + 1 then some fault else none
  | none => none

end Source
end DebugLaunch.Yaml
