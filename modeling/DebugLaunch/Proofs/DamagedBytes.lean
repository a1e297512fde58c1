import DebugLaunch.Proofs.EncodedText

/-! Bytes as text where not all of them encode one. The text is described without a decoder: a code
point for each encoding, and one U+FFFD for each damaged part between them, where a part is as long
as some encoding begins with it. Such a description is the decoder's, so it exists and is unique. A
byte of ASCII belongs to no longer encoding; hence it ends a damaged part, and what is behind it is
read as if nothing were in front. -/
namespace DebugLaunch.DamagedBytes
open Utf8 EncodedText

/-- The encoding of some code point begins with these bytes. -/
def Begins (part : Bytes) : Prop := ∃ c, part <+: encodeChar c

/-- A damaged part in front of other bytes. No encoding stands there, and the part is the longest
one that an encoding begins with, but not less than a byte. -/
structure IsDamaged (part behind : Bytes) : Prop where
  nonempty : part ≠ []
  broken : ∀ c, ¬ encodeChar c <+: part ++ behind
  begun : part.length = 1 ∨ Begins part
  longest : ∀ b ∈ behind.head?, ¬ Begins (part ++ [b])

/-- Bytes as a text: each encoding is its code point, and each damaged part one U+FFFD. -/
inductive Decodes : Bytes → Text → Prop
  | nil : Decodes [] []
  | char (c : Char) {behind : Bytes} {text : Text} (rest : Decodes behind text) :
      Decodes (encodeChar c ++ behind) (c :: text)
  | damaged {part behind : Bytes} {text : Text} (isDamaged : IsDamaged part behind)
      (rest : Decodes behind text) : Decodes (part ++ behind) ('\uFFFD' :: text)

/-! ### Encodings of numbers -/

section Numbers
variable {n : Nat}

private theorem toNat_ofNat (valid : n < 0xD800 ∨ 0xDFFF < n ∧ n < 0x110000) :
    (Char.ofNat n).toNat = n := by
  rw [Char.ofNat, dif_pos valid]
  rfl

private theorem eq_byte {b : UInt8} (same : b.toNat = n) : b = n.toUInt8 := by
  subst same
  exact (UInt8.ofNat_toNat).symm

private theorem encodeChar_one (high : n < 0x80) : encodeChar (Char.ofNat n) = [n.toUInt8] := by
  rw [encodeChar, toNat_ofNat (by omega), if_pos high]

private theorem encodeChar_two (low : 0x80 ≤ n) (high : n < 0x800) :
    encodeChar (Char.ofNat n) = [(0xC0 + n / 64).toUInt8, (0x80 + n % 64).toUInt8] := by
  rw [encodeChar, toNat_ofNat (by omega), if_neg (by omega), if_pos high]

private theorem encodeChar_three (low : 0x800 ≤ n) (high : n < 0x10000)
    (valid : n < 0xD800 ∨ 0xDFFF < n) :
    encodeChar (Char.ofNat n) =
      [(0xE0 + n / 4096).toUInt8, (0x80 + n / 64 % 64).toUInt8, (0x80 + n % 64).toUInt8] := by
  rw [encodeChar, toNat_ofNat (by omega), if_neg (by omega), if_neg (by omega), if_pos high]

private theorem encodeChar_four (low : 0x10000 ≤ n) (high : n < 0x110000) :
    encodeChar (Char.ofNat n) =
      [(0xF0 + n / 262144).toUInt8, (0x80 + n / 4096 % 64).toUInt8, (0x80 + n / 64 % 64).toUInt8,
        (0x80 + n % 64).toUInt8] := by
  rw [encodeChar, toNat_ofNat (by omega), if_neg (by omega), if_neg (by omega), if_neg (by omega)]

end Numbers

/-! ### One step of the decoder -/

section Steps
variable {b : UInt8} {rest behind : Bytes} {c : Char}

/-- A byte that begins an encoding gives five, four or three bits of its code point. -/
private theorem lead?_cases {n : Nat} {lead : Lead} (leads : lead? n = some lead) :
    (∃ bits, n = 0xC0 + bits ∧ 2 ≤ bits ∧ bits < 32) ∨ (∃ bits, n = 0xE0 + bits ∧ bits < 16) ∨
      ∃ bits, n = 0xF0 + bits ∧ bits < 5 := by
  have range : 0xC2 ≤ n ∧ n ≤ 0xF4 := by
    by_contra outside
    have none : lead? n = none := by
      unfold lead?
      grind
    rw [none] at leads
    cases leads
  by_cases two : n < 0xE0
  · exact .inl ⟨n - 0xC0, by omega, by omega, by omega⟩
  · by_cases three : n < 0xF0
    · exact .inr (.inl ⟨n - 0xE0, by omega, by omega⟩)
    · exact .inr (.inr ⟨n - 0xF0, by omega, by omega⟩)

private theorem of_continue?_last {value low high : Nat}
    (reads : continue? value low high 0 rest = (some c, behind)) :
    ∃ b, rest = b :: behind ∧ (low ≤ b.toNat ∧ b.toNat ≤ high) ∧
      c = Char.ofNat (value * 64 + (b.toNat - 0x80)) := by
  cases rest with
  | nil => cases reads
  | cons b rest =>
    rw [continue?] at reads
    split at reads
    · rename_i inside
      simp only [Prod.mk.injEq, Option.some.injEq] at reads
      obtain ⟨same, rfl⟩ := reads
      exact ⟨b, rfl, by simpa using inside, same.symm⟩
    · cases reads

private theorem of_continue?_more {value low high more : Nat}
    (reads : continue? value low high (more + 1) rest = (some c, behind)) :
    ∃ b tail, rest = b :: tail ∧ (low ≤ b.toNat ∧ b.toNat ≤ high) ∧
      continue? (value * 64 + (b.toNat - 0x80)) 0x80 0xBF more tail = (some c, behind) := by
  cases rest with
  | nil => cases reads
  | cons b rest =>
    rw [continue?] at reads
    split at reads
    · rename_i inside
      exact ⟨b, rest, rfl, by simpa using inside, reads⟩
    · cases reads

private theorem encodeChar_of_two {bits : Nat} (whole : b.toNat = 0xC0 + bits) (low : 2 ≤ bits)
    (high : bits < 32) (reads : continue? bits 0x80 0xBF 0 rest = (some c, behind)) :
    b :: rest = encodeChar c ++ behind := by
  obtain ⟨second, rfl, inside, same⟩ := of_continue?_last reads
  rw [same, encodeChar_two (by omega) (by omega), ← eq_byte (b := b) (by omega),
    ← eq_byte (b := second) (by omega)]
  rfl

private theorem encodeChar_of_three {bits low high : Nat} (whole : b.toNat = 0xE0 + bits)
    (small : bits < 16) (lowest : low = if bits = 0 then 0xA0 else 0x80)
    (highest : high = if bits = 0xD then 0x9F else 0xBF)
    (reads : continue? bits low high 1 rest = (some c, behind)) :
    b :: rest = encodeChar c ++ behind := by
  obtain ⟨second, _, rfl, inside, reads⟩ := of_continue?_more reads
  obtain ⟨third, rfl, last, same⟩ := of_continue?_last reads
  have range : 0x80 ≤ second.toNat ∧ second.toNat ≤ 0xBF ∧
      (bits = 0 → 0xA0 ≤ second.toNat) ∧ (bits = 0xD → second.toNat ≤ 0x9F) := by
    split at lowest <;> split at highest <;> omega
  rw [same, encodeChar_three (by omega) (by omega) (by omega), ← eq_byte (b := b) (by omega),
    ← eq_byte (b := second) (by omega), ← eq_byte (b := third) (by omega)]
  rfl

private theorem encodeChar_of_four {bits low high : Nat} (whole : b.toNat = 0xF0 + bits)
    (small : bits < 5) (lowest : low = if bits = 0 then 0x90 else 0x80)
    (highest : high = if bits = 4 then 0x8F else 0xBF)
    (reads : continue? bits low high 2 rest = (some c, behind)) :
    b :: rest = encodeChar c ++ behind := by
  obtain ⟨second, _, rfl, inside, reads⟩ := of_continue?_more reads
  obtain ⟨third, _, rfl, middle, reads⟩ := of_continue?_more reads
  obtain ⟨fourth, rfl, last, same⟩ := of_continue?_last reads
  have range : 0x80 ≤ second.toNat ∧ second.toNat ≤ 0xBF ∧
      (bits = 0 → 0x90 ≤ second.toNat) ∧ (bits = 4 → second.toNat ≤ 0x8F) := by
    split at lowest <;> split at highest <;> omega
  rw [same, encodeChar_four (by omega) (by omega), ← eq_byte (b := b) (by omega),
    ← eq_byte (b := second) (by omega), ← eq_byte (b := third) (by omega),
    ← eq_byte (b := fourth) (by omega)]
  rfl

/-- What the decoder reads as a code point is its encoding. -/
theorem encodeChar_of_step (reads : step b rest = (some c, behind)) :
    b :: rest = encodeChar c ++ behind := by
  rw [step] at reads
  split at reads
  · rename_i ascii
    cases reads
    rw [encodeChar_one ascii, ← eq_byte rfl]
    rfl
  · cases leads : lead? b.toNat with
    | none =>
      rw [leads] at reads
      cases reads
    | some lead =>
      rw [leads] at reads
      rcases lead?_cases leads with ⟨bits, whole, low, high⟩ | ⟨bits, whole, high⟩ |
        ⟨bits, whole, high⟩
      · rw [whole, lead?_two low high] at leads
        cases leads
        exact encodeChar_of_two whole low high reads
      · rw [whole, lead?_three high] at leads
        cases leads
        exact encodeChar_of_three whole high rfl rfl reads
      · rw [whole, lead?_four high] at leads
        cases leads
        exact encodeChar_of_four whole high rfl rfl reads

/-- The decoder reads an encoding in one step, whatever is behind it. -/
theorem step_of_encodeChar {tail : Bytes} (shape : encodeChar c = b :: tail) (behind : Bytes) :
    step b (tail ++ behind) = (some c, behind) := by
  obtain ⟨_, _, other, reads⟩ := step_encodeChar c behind
  cases shape.symm.trans other
  exact reads

private theorem lowest_inside {low high : Nat} (order : low ≤ high) (isByte : high < 256) :
    (low ≤ low.toUInt8.toNat && low.toUInt8.toNat ≤ high) = true := by
  rw [toNat_byte (by omega)]
  simpa using order

/-- Continuation bytes in range complete an encoding. -/
private theorem exists_completion (value : Nat) {low high : Nat} (order : low ≤ high)
    (isByte : high < 256) (more : Nat) :
    ∃ fill c, continue? value low high more fill = (some c, []) := by
  induction more generalizing value low high with
  | zero =>
    exact ⟨[low.toUInt8], _, by rw [continue?, if_pos (lowest_inside order isByte)]⟩
  | succ more ih =>
    obtain ⟨fill, c, reads⟩ := ih (value * 64 + (low.toUInt8.toNat - 0x80))
      (by decide : 0x80 ≤ 0xBF) (by decide)
    refine ⟨low.toUInt8 :: fill, c, ?_⟩
    rw [continue?, if_pos (lowest_inside order isByte)]
    exact reads

/-- Where continuation bytes run out, those in front could be completed, but not with the byte that
is there. -/
private theorem of_continue?_fails {value low high more : Nat} (order : low ≤ high)
    (isByte : high < 256) (fails : continue? value low high more rest = (none, behind)) :
    ∃ taken, rest = taken ++ behind ∧
      (∃ fill c, continue? value low high more (taken ++ fill) = (some c, [])) ∧
      ∀ x ∈ behind.head?, ∀ others,
        (continue? value low high more (taken ++ x :: others)).1 = none := by
  induction rest generalizing value low high more with
  | nil =>
    rw [continue?] at fails
    cases fails
    refine ⟨[], rfl, exists_completion value order isByte more, fun x first => ?_⟩
    cases first
  | cons b rest ih =>
    rw [continue?] at fails
    split at fails
    · rename_i inside
      cases more with
      | zero => cases fails
      | succ more =>
        obtain ⟨taken, rfl, ⟨fill, c, reads⟩, stops⟩ :=
          ih (by decide : 0x80 ≤ 0xBF) (by decide) fails
        refine ⟨b :: taken, rfl, ⟨fill, c, ?_⟩, fun x first others => ?_⟩
        · rw [List.cons_append, continue?, if_pos inside]
          exact reads
        · rw [List.cons_append, continue?, if_pos inside]
          exact stops x first others
    · rename_i outside
      cases fails
      refine ⟨[], rfl, exists_completion value order isByte more, fun x first others => ?_⟩
      cases first
      rw [List.nil_append, continue?, if_neg outside]

private theorem lead?_range {n : Nat} {lead : Lead} (leads : lead? n = some lead) :
    lead.low ≤ lead.high ∧ lead.high < 256 := by
  unfold lead? at leads
  grind

/-- Where the decoder finds no code point, it takes off a damaged part. -/
theorem isDamaged_of_step (fails : step b rest = (none, behind)) :
    ∃ part, b :: rest = part ++ behind ∧ IsDamaged part behind := by
  have broken : ∀ c, ¬ encodeChar c <+: b :: rest := by
    rintro c ⟨later, stands⟩
    obtain ⟨first, tail, shape, reads⟩ := step_encodeChar c later
    rw [shape, List.cons_append, List.cons.injEq] at stands
    obtain ⟨rfl, rfl⟩ := stands
    cases fails.symm.trans reads
  -- an encoding that goes on as far as a byte at which the decoder stops would have been read
  have stopped : ∀ taken x, (∀ others, (step b (taken ++ x :: others)).1 = none) →
      ¬ Begins (b :: taken ++ [x]) := by
    rintro taken x stops ⟨c, others, shape⟩
    have whole : encodeChar c = b :: (taken ++ x :: others) := by simp [← shape]
    have reads := step_of_encodeChar whole []
    rw [List.append_nil] at reads
    have none := stops others
    rw [reads] at none
    cases none
  have ascii : ¬ b.toNat < 0x80 := by
    intro ascii
    rw [step, if_pos ascii] at fails
    cases fails
  cases leads : lead? b.toNat with
  | none =>
    have stops : ∀ others, (step b others).1 = none := by
      intro others
      rw [step, if_neg ascii, leads]
    have same : behind = rest := by
      rw [step, if_neg ascii, leads] at fails
      cases fails
      rfl
    subst same
    exact ⟨[b], rfl, List.cons_ne_nil _ _, broken, .inl rfl,
      fun x _ => stopped [] x fun _ => stops _⟩
  | some lead =>
    have steps : ∀ others, step b others =
        continue? lead.value lead.low lead.high lead.more others := by
      intro others
      rw [step, if_neg ascii, leads]
    obtain ⟨order, isByte⟩ := lead?_range leads
    obtain ⟨taken, rfl, ⟨fill, c, reads⟩, stops⟩ :=
      of_continue?_fails order isByte ((steps rest).symm.trans fails)
    have whole := encodeChar_of_step ((steps _).trans reads)
    refine ⟨b :: taken, rfl, List.cons_ne_nil _ _, broken, .inr ⟨c, fill, ?_⟩,
      fun x first => stopped taken x fun others => ?_⟩
    · rw [List.append_nil] at whole
      exact whole
    · rw [steps]
      exact stops x first others

end Steps

/-! ### Whole contents -/

section Contents
variable {bytes part behind : Bytes} {text : Text}

private theorem nothing_more {more rest : Bytes} (first : IsDamaged part (more ++ rest))
    (second : IsDamaged (part ++ more) rest) : more = [] := by
  cases more with
  | nil => rfl
  | cons x more =>
    exfalso
    rcases second.begun with short | ⟨c, begins⟩
    · have := List.length_pos_iff.mpr first.nonempty
      simp at short
      omega
    · refine first.longest x rfl ⟨c, List.IsPrefix.trans ⟨more, ?_⟩ begins⟩
      simp

/-- Bytes begin with one damaged part at most. -/
theorem isDamaged_unique {other rest : Bytes} (same : part ++ behind = other ++ rest)
    (first : IsDamaged part behind) (second : IsDamaged other rest) :
    part = other ∧ behind = rest := by
  rcases List.append_eq_append_iff.mp same with ⟨more, rfl, rfl⟩ | ⟨more, rfl, rfl⟩
  · obtain rfl := nothing_more first second
    simp
  · obtain rfl := nothing_more second first
    simp

theorem decodes_decodeLenient (bytes : Bytes) : Decodes bytes (decodeLenient bytes) := by
  fun_induction decodeLenient bytes with
  | case1 => exact .nil
  | case2 b rest ih =>
    rcases reads : step b rest with ⟨_ | c, behind⟩
    · obtain ⟨part, whole, isDamaged⟩ := isDamaged_of_step reads
      rw [reads] at ih
      rw [whole]
      exact .damaged isDamaged ih
    · rw [reads] at ih
      rw [encodeChar_of_step reads]
      exact .char c ih

/-- The description of a text is the decoder's: each content has one. -/
theorem decodes_iff : Decodes bytes text ↔ decodeLenient bytes = text := by
  constructor
  · intro decodes
    induction decodes with
    | nil => rw [decodeLenient]
    | char c rest ih =>
      obtain ⟨b, tail, shape, reads⟩ := step_encodeChar c _
      rw [shape, List.cons_append, decodeLenient, reads, ih]
      rfl
    | @damaged part behind text isDamaged rest ih =>
      obtain ⟨b, tail, rfl⟩ := List.exists_cons_of_ne_nil isDamaged.nonempty
      rw [List.cons_append, decodeLenient]
      rcases reads : step b (tail ++ behind) with ⟨_ | c, left⟩
      · obtain ⟨other, whole, otherDamaged⟩ := isDamaged_of_step reads
        obtain ⟨_, rfl⟩ := isDamaged_unique whole isDamaged otherDamaged
        rw [ih]
        rfl
      · exact absurd ⟨left, (encodeChar_of_step reads).symm⟩ (isDamaged.broken c)
  · rintro rfl
    exact decodes_decodeLenient bytes

theorem decodes_unique {other : Text} (first : Decodes bytes text) (second : Decodes bytes other) :
    text = other :=
  (decodes_iff.mp first).symm.trans (decodes_iff.mp second)

/-- A text describes its encoding in front of whatever it describes. -/
theorem decodes_encode_append (front : Text) (decodes : Decodes behind text) :
    Decodes (encode front ++ behind) (front ++ text) := by
  induction front with
  | nil => exact decodes
  | cons c front ih =>
    rw [encode_cons, List.append_assoc]
    exact .char c ih

/-- Where nothing was replaced, the bytes are the encoding of their text. -/
theorem encode_of_decodes (decodes : Decodes bytes text) (whole : '\uFFFD' ∉ text) :
    bytes = encode text := by
  induction decodes with
  | nil => rfl
  | char c rest ih =>
    rw [encode_cons, ← ih fun inside => whole (List.mem_cons_of_mem _ inside)]
  | damaged isDamaged rest ih => exact absurd (List.mem_cons_self ..) whole

/-! ### A character of ASCII among other bytes -/

theorem encodeChar_ascii {c : Char} (ascii : c.toNat < 0x80) :
    encodeChar c = [c.toNat.toUInt8] := by
  rw [encodeChar, if_pos ascii]

/-- A byte of ASCII goes on no encoding. -/
private theorem begins_ascii {b : UInt8} (ascii : b.toNat < 0x80) (begins : Begins (part ++ [b])) :
    part = [] := by
  obtain ⟨c, isFront⟩ := begins
  have alone := (encodeChar_of_mem (isFront.subset (by simp)) ascii).1
  have short := isFront.length_le
  rw [alone, List.length_append] at short
  exact List.length_eq_zero_iff.mp (by simpa using short)

/-- A damaged part stays one if a byte of ASCII comes behind it. -/
private theorem isDamaged_append_ascii {b : UInt8} (ascii : b.toNat < 0x80)
    (isDamaged : IsDamaged part behind) (rest : Bytes) : IsDamaged part (behind ++ b :: rest) := by
  refine ⟨isDamaged.nonempty, fun c stands => ?_, isDamaged.begun, fun x first => ?_⟩
  · have whole : part ++ (behind ++ b :: rest) = (part ++ behind) ++ [b] ++ rest := by simp
    by_cases short : (encodeChar c).length ≤ (part ++ behind).length
    · exact isDamaged.broken c (List.prefix_of_prefix_length_le stands
        ⟨b :: rest, by simp⟩ short)
    · have long : (part ++ behind ++ [b]).length ≤ (encodeChar c).length := by
        rw [List.length_append, List.length_singleton]
        omega
      have isFront : part ++ behind ++ [b] <+: encodeChar c :=
        List.prefix_of_prefix_length_le ⟨rest, whole.symm⟩ stands long
      have nothing := begins_ascii ascii ⟨c, isFront⟩
      exact isDamaged.nonempty (List.append_eq_nil_iff.mp nothing).1
  · cases behind with
    | nil =>
      cases first
      exact fun begins => isDamaged.nonempty (begins_ascii ascii begins)
    | cons y behind => exact isDamaged.longest x first

/-- Whatever stands in front of a character of ASCII and behind it, each is read by itself. -/
theorem decodes_around_ascii {c : Char} (ascii : c.toNat < 0x80) {front : Text}
    (decodes : Decodes bytes front) (later : Decodes behind text) :
    Decodes (bytes ++ (encodeChar c ++ behind)) (front ++ c :: text) := by
  have alone := encodeChar_ascii ascii
  have small : c.toNat.toUInt8.toNat < 0x80 := by rwa [toNat_byte (by omega)]
  induction decodes with
  | nil => exact .char c later
  | char d rest ih =>
    rw [List.append_assoc]
    exact .char d ih
  | damaged isDamaged rest ih =>
    rw [List.append_assoc]
    rw [alone] at ih ⊢
    exact .damaged (isDamaged_append_ascii small isDamaged behind) ih

end Contents

end DebugLaunch.DamagedBytes
