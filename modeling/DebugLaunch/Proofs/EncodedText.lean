import DebugLaunch.Text.Utf8
import Mathlib.Tactic.IntervalCases

/-! What is encoded is read back: one step of the decoder takes the bytes of one code point,
whatever is behind them. Bytes that were encoded are never the beginning of a byte order mark
without being all of it, and their line ends are those of the text, since a carriage return or a
line feed is no part of any longer encoding. -/
namespace DebugLaunch.EncodedText
open Utf8

/-- The bytes with every `CR LF` and every other `CR` turned into `LF`. -/
def unifyBytes : Bytes → Bytes
  | [] => []
  | 0x0D :: 0x0A :: rest => 0x0A :: unifyBytes rest
  | b :: rest => (if b = 0x0D then 0x0A else b) :: unifyBytes rest

/-! ### One code point -/

theorem toNat_byte {n : Nat} (small : n < 256) : n.toUInt8.toNat = n := by
  rw [Nat.toUInt8_eq, UInt8.toNat_ofNat', Nat.mod_eq_of_lt small]

private theorem continue?_last {value low high : Nat} {b : UInt8} {rest : Bytes}
    (inside : low ≤ b.toNat ∧ b.toNat ≤ high) :
    continue? value low high 0 (b :: rest) =
      (some (Char.ofNat (value * 64 + (b.toNat - 0x80))), rest) := by
  rw [continue?, if_pos (by simpa using inside)]

private theorem continue?_more {value low high more : Nat} {b : UInt8} {rest : Bytes}
    (inside : low ≤ b.toNat ∧ b.toNat ≤ high) :
    continue? value low high (more + 1) (b :: rest) =
      continue? (value * 64 + (b.toNat - 0x80)) 0x80 0xBF more rest := by
  rw [continue?, if_pos (by simpa using inside)]

theorem lead?_two {bits : Nat} (low : 2 ≤ bits) (high : bits < 32) :
    lead? (0xC0 + bits) = some ⟨bits, 0x80, 0xBF, 0⟩ := by
  interval_cases bits <;> rfl

theorem lead?_three {bits : Nat} (high : bits < 16) :
    lead? (0xE0 + bits) = some
      ⟨bits, if bits = 0 then 0xA0 else 0x80, if bits = 0xD then 0x9F else 0xBF, 1⟩ := by
  interval_cases bits <;> rfl

theorem lead?_four {bits : Nat} (high : bits < 5) :
    lead? (0xF0 + bits) = some
      ⟨bits, if bits = 0 then 0x90 else 0x80, if bits = 4 then 0x8F else 0xBF, 2⟩ := by
  interval_cases bits <;> rfl

private theorem step_two {n : Nat} (low : 0x80 ≤ n) (high : n < 0x800) (rest : Bytes) :
    step (0xC0 + n / 64).toUInt8 ((0x80 + n % 64).toUInt8 :: rest) =
      (some (Char.ofNat n), rest) := by
  rw [step, toNat_byte (by omega), if_neg (by omega), lead?_two (by omega) (by omega)]
  dsimp only
  rw [continue?_last (by rw [toNat_byte (by omega)]; omega), toNat_byte (by omega),
    show n / 64 * 64 + (0x80 + n % 64 - 0x80) = n by omega]

private theorem step_three {n : Nat} (low : 0x800 ≤ n) (high : n < 0x10000)
    (valid : n < 0xD800 ∨ 0xDFFF < n) (rest : Bytes) :
    step (0xE0 + n / 4096).toUInt8
        ((0x80 + n / 64 % 64).toUInt8 :: (0x80 + n % 64).toUInt8 :: rest) =
      (some (Char.ofNat n), rest) := by
  rw [step, toNat_byte (by omega), if_neg (by omega), lead?_three (by omega)]
  dsimp only
  rw [continue?_more (by rw [toNat_byte (by omega)]; split <;> split <;> omega),
    continue?_last (by rw [toNat_byte (by omega)]; omega), toNat_byte (by omega),
    toNat_byte (by omega), show (n / 4096 * 64 + (0x80 + n / 64 % 64 - 0x80)) * 64 +
      (0x80 + n % 64 - 0x80) = n by omega]

private theorem step_four {n : Nat} (low : 0x10000 ≤ n) (high : n < 0x110000) (rest : Bytes) :
    step (0xF0 + n / 262144).toUInt8 ((0x80 + n / 4096 % 64).toUInt8 ::
        (0x80 + n / 64 % 64).toUInt8 :: (0x80 + n % 64).toUInt8 :: rest) =
      (some (Char.ofNat n), rest) := by
  rw [step, toNat_byte (by omega), if_neg (by omega), lead?_four (by omega)]
  dsimp only
  rw [continue?_more (by rw [toNat_byte (by omega)]; split <;> split <;> omega),
    continue?_more (by rw [toNat_byte (by omega)]; omega),
    continue?_last (by rw [toNat_byte (by omega)]; omega), toNat_byte (by omega),
    toNat_byte (by omega), toNat_byte (by omega), show ((n / 262144 * 64 +
      (0x80 + n / 4096 % 64 - 0x80)) * 64 + (0x80 + n / 64 % 64 - 0x80)) * 64 +
      (0x80 + n % 64 - 0x80) = n by omega]

/-- The decoder reads the bytes of a code point in one step, whatever is behind them. -/
theorem step_encodeChar (c : Char) (rest : Bytes) :
    ∃ b tail, encodeChar c = b :: tail ∧ step b (tail ++ rest) = (some c, rest) := by
  have valid : c.toNat < 0xD800 ∨ 0xDFFF < c.toNat ∧ c.toNat < 0x110000 := c.valid
  have whole := Char.ofNat_toNat c
  rw [encodeChar]
  generalize c.toNat = n at valid whole ⊢
  subst whole
  by_cases one : n < 0x80
  · rw [if_pos one]
    refine ⟨_, _, rfl, ?_⟩
    rw [step, toNat_byte (by omega), if_pos one]
    rfl
  · rw [if_neg one]
    by_cases two : n < 0x800
    · rw [if_pos two]
      exact ⟨_, _, rfl, step_two (by omega) two rest⟩
    · rw [if_neg two]
      by_cases three : n < 0x10000
      · rw [if_pos three]
        exact ⟨_, _, rfl, step_three (by omega) three (by omega) rest⟩
      · rw [if_neg three]
        exact ⟨_, _, rfl, step_four (by omega) (by omega) rest⟩

/-! ### Whole texts -/

theorem encode_cons (c : Char) (text : Text) : encode (c :: text) = encodeChar c ++ encode text :=
  List.flatMap_cons

/-- A text is read back from its encoding, without any damage. -/
theorem decodeLenient_encode (text : Text) : decodeLenient (encode text) = text := by
  induction text with
  | nil => rw [encode, List.flatMap_nil, decodeLenient]
  | cons c text ih =>
    obtain ⟨b, tail, shape, reads⟩ := step_encodeChar c (encode text)
    rw [encode_cons, shape, List.cons_append, decodeLenient, reads, ih]
    rfl

/-- Bytes that are the beginning of a byte order mark encode a text only if they are none or all of
it. -/
theorem encode_of_begins_mark {text : Text} (begins : encode text <+: mark) :
    encode text = [] ∨ encode text = mark := by
  have decoded := decodeLenient_encode text
  have short := begins.length_le
  have front := List.prefix_iff_eq_take.mp begins
  generalize (encode text).length = size at short front
  rw [show mark.length = 3 from rfl] at short
  interval_cases size
  · exact .inl front
  · rw [front] at decoded
    rw [← decoded] at front
    exact absurd front (by decide +kernel)
  · rw [front] at decoded
    rw [← decoded] at front
    exact absurd front (by decide +kernel)
  · exact .inr front

/-- An encoded text without a byte order mark is read from its first byte on. -/
theorem afterMark_encode {text : Text} (noMark : ¬ mark <+: encode text) :
    afterMark (encode text) = encode text := by
  rw [afterMark, if_neg (by rwa [List.isPrefixOf_iff_prefix])]
  split
  · rename_i begins
    rcases encode_of_begins_mark (List.isPrefixOf_iff_prefix.mp begins) with empty | whole
    · exact empty.symm
    · exact absurd (whole ▸ List.prefix_rfl) noMark
  · rfl

/-- A text is read back from its encoding, with its line ends unified. -/
theorem readLenient_encode {text : Text} (noMark : ¬ mark <+: encode text) :
    readLenient (encode text) = text.unifyNewlines := by
  rw [readLenient, afterMark_encode noMark, decodeLenient_encode]

/-! ### Line ends -/

/-- An ASCII byte in the encoding of a code point is all of it. -/
theorem encodeChar_of_mem {c : Char} {b : UInt8} (member : b ∈ encodeChar c)
    (small : b.toNat < 0x80) : encodeChar c = [b] ∧ c.toNat = b.toNat := by
  have valid : c.toNat < 0xD800 ∨ 0xDFFF < c.toNat ∧ c.toNat < 0x110000 := c.valid
  rw [encodeChar] at member ⊢
  generalize c.toNat = n at valid member ⊢
  by_cases one : n < 0x80
  · rw [if_pos one, List.mem_singleton] at member
    rw [if_pos one, member]
    exact ⟨rfl, (toNat_byte (by omega)).symm⟩
  · exfalso
    rw [if_neg one] at member
    have none : ∀ k, 0x80 ≤ k → k < 256 → b ≠ k.toUInt8 := by
      rintro k low high rfl
      rw [toNat_byte high] at small
      omega
    by_cases two : n < 0x800
    · simp only [if_pos two, List.mem_cons, List.not_mem_nil, or_false] at member
      rcases member with same | same <;> exact none _ (by omega) (by omega) same
    · by_cases three : n < 0x10000
      · simp only [if_neg two, if_pos three, List.mem_cons, List.not_mem_nil, or_false] at member
        rcases member with same | same | same <;> exact none _ (by omega) (by omega) same
      · simp only [if_neg two, if_neg three, List.mem_cons, List.not_mem_nil, or_false] at member
        rcases member with same | same | same | same <;> exact none _ (by omega) (by omega) same

/-- Bytes without a carriage return stay as they are. -/
private theorem unifyBytes_append {front rest : Bytes} (noReturn : 0x0D ∉ front) :
    unifyBytes (front ++ rest) = front ++ unifyBytes rest := by
  induction front with
  | nil => rfl
  | cons b front ih =>
    rw [List.mem_cons, not_or] at noReturn
    rw [List.cons_append, unifyBytes, if_neg (Ne.symm noReturn.1), ih noReturn.2, List.cons_append]
    rintro rest rfl
    exact absurd rfl noReturn.1

/-- An encoding begins with a line feed only if the text does. -/
private theorem not_feed_encode {text : Text} (noFeed : ∀ rest, text ≠ '\n' :: rest)
    (behind : Bytes) : encode text ≠ 0x0A :: behind := by
  intro feed
  cases text with
  | nil => cases feed
  | cons c rest =>
    obtain ⟨b, tail, shape, _⟩ := step_encodeChar c []
    rw [encode_cons, shape, List.cons_append] at feed
    obtain rfl := (List.cons.inj feed).1
    have code := (encodeChar_of_mem (shape ▸ List.mem_cons_self ..) (by decide)).2
    obtain rfl : c = '\n' := Char.toNat_inj.mp code
    exact noFeed rest rfl

/-- Unified line ends of a text are those of its bytes. -/
theorem encode_unifyNewlines (text : Text) :
    encode text.unifyNewlines = unifyBytes (encode text) := by
  fun_induction Text.unifyNewlines text with
  | case1 => rfl
  | case2 rest ih =>
    rw [encode_cons, ih]
    rfl
  | case3 c rest shape ih =>
    rw [encode_cons, encode_cons, ih]
    by_cases isReturn : c = '\r'
    · subst isReturn
      show 0x0A :: unifyBytes (encode rest) = unifyBytes (0x0D :: encode rest)
      rw [unifyBytes]
      · rfl
      · intro behind _ feed
        exact not_feed_encode (fun others same => shape others rfl same) behind feed
    · rw [if_neg isReturn, unifyBytes_append]
      intro member
      exact isReturn (Char.toNat_inj.mp (encodeChar_of_mem member (by decide)).2)

private theorem return_not_mem_unifyBytes (bytes : Bytes) : 0x0D ∉ unifyBytes bytes := by
  fun_induction unifyBytes bytes with
  | case1 => simp
  | case2 rest ih => simpa using ih
  | case3 b rest shape ih =>
    rw [List.mem_cons, not_or]
    refine ⟨?_, ih⟩
    split
    · decide
    · rename_i other
      exact Ne.symm other

/-- Unifying line ends changes nothing exactly where there is no carriage return. -/
theorem unifyBytes_eq_self_iff (bytes : Bytes) : unifyBytes bytes = bytes ↔ 0x0D ∉ bytes := by
  constructor
  · intro same
    rw [← same]
    exact return_not_mem_unifyBytes bytes
  · intro noReturn
    have kept := @unifyBytes_append bytes [] noReturn
    rwa [List.append_nil, unifyBytes, List.append_nil] at kept

end DebugLaunch.EncodedText
