import DebugLaunch.Proofs.DamagedBytes
import DebugLaunch.Proofs.PercentDivision
import DebugLaunch.Proofs.PreparedFile
import DebugLaunch.Proofs.TokenSegments

/-! What is read from the bytes of a template. They become a text with its damage replaced, less one
byte order mark, and then the line ends are unified. So a text that was written is read back but for
its mark and its carriage returns, and ASCII between any bytes is read as it stands. The text shows
where bytes were damaged, with one exception: a content that is only the beginning of a mark is read
as no text at all. -/
namespace DebugLaunch.TemplateReading
open DebugLaunch.Action LaunchFile FileTree PlaceWalk PreparedFile EncodedText DamagedBytes
open PercentDivision (sign_induction)
open Token TokenSegments

/-- The text with every `CR LF` turned into `LF`. -/
def joinPairs : Text → Text
  | [] => []
  | '\r' :: '\n' :: rest => '\n' :: joinPairs rest
  | c :: rest => c :: joinPairs rest

/-- The text with every `CR LF`, and then every `CR` that is left, turned into `LF`. -/
def withFeeds (text : Text) : Text := (joinPairs text).map fun c => if c = '\r' then '\n' else c

/-- The text without the mark that it begins with, if it does. -/
def unmarked : Text → Text
  | '\uFEFF' :: rest => rest
  | text => text

/-- The bytes without the byte order mark that they begin with, if they do. -/
def behindMark (bytes : Utf8.Bytes) : Utf8.Bytes :=
  if Utf8.mark <+: bytes then bytes.drop Utf8.mark.length else bytes

/-- Bytes that are the beginning of a byte order mark, but not all of it. -/
def UnfinishedMark (bytes : Utf8.Bytes) : Prop := bytes = [0xEF] ∨ bytes = [0xEF, 0xBB]

/-! ### Line ends -/

section LineEnds
variable {text rest : Text} {c : Char}

theorem unifyNewlines_eq (text : Text) : text.unifyNewlines = withFeeds text := by
  fun_induction Text.unifyNewlines text with
  | case1 => rfl
  | case2 rest ih =>
    rw [ih, withFeeds, withFeeds, joinPairs]
    rfl
  | case3 c rest shape ih =>
    rw [ih, withFeeds, withFeeds, joinPairs]
    · rfl
    · exact shape

/-- A character other than a line feed is no second half of a line end. -/
theorem joinPairs_append (other : c ≠ '\n') (text rest : Text) :
    joinPairs (text ++ c :: rest) = joinPairs text ++ joinPairs (c :: rest) := by
  fun_induction joinPairs text with
  | case1 => rfl
  | case2 text ih => rw [List.cons_append, List.cons_append, joinPairs, ih, List.cons_append]
  | case3 d text shape ih =>
    rw [List.cons_append, joinPairs, ih, List.cons_append]
    intro behind isReturn feed
    cases text with
    | nil =>
      rw [List.nil_append, List.cons.injEq] at feed
      exact other feed.1
    | cons e text =>
      rw [List.cons_append, List.cons.injEq] at feed
      exact shape text isReturn (by rw [feed.1])

theorem joinPairs_of_no_return {front : Text} (noReturn : '\r' ∉ front) (rest : Text) :
    joinPairs (front ++ rest) = front ++ joinPairs rest := by
  induction front with
  | nil => rfl
  | cons c front ih =>
    rw [List.mem_cons, not_or] at noReturn
    rw [List.cons_append, joinPairs, ih noReturn.2, List.cons_append]
    rintro _ rfl
    exact absurd rfl noReturn.1

/-- Text without line ends keeps apart what stands around it. -/
theorem withFeeds_around {plain : Text} (nonempty : plain ≠ []) (noReturn : '\r' ∉ plain)
    (noFeed : '\n' ∉ plain) (text rest : Text) :
    withFeeds (text ++ (plain ++ rest)) = withFeeds text ++ plain ++ withFeeds rest := by
  obtain ⟨c, others, rfl⟩ := List.exists_cons_of_ne_nil nonempty
  have other : c ≠ '\n' := fun same => noFeed (same ▸ List.mem_cons_self ..)
  have kept : (c :: others).map (fun c => if c = '\r' then '\n' else c) = c :: others := by
    conv_rhs => rw [← List.map_id (c :: others)]
    refine List.map_congr_left fun d inside => if_neg ?_
    rintro rfl
    exact noReturn inside
  rw [withFeeds, List.cons_append, joinPairs_append other, ← List.cons_append,
    joinPairs_of_no_return noReturn, List.map_append, List.map_append, kept, List.append_assoc]
  rfl

/-- What is no part of a line end stays. -/
theorem mem_withFeeds_iff (noReturn : c ≠ '\r') (noFeed : c ≠ '\n') :
    c ∈ withFeeds text ↔ c ∈ text := by
  rw [← unifyNewlines_eq]
  fun_induction Text.unifyNewlines text with
  | case1 => rfl
  | case2 rest ih => simp [ih, noReturn, noFeed]
  | case3 d rest shape ih =>
    rw [List.mem_cons, List.mem_cons, ih]
    split
    · rename_i isReturn
      simp [isReturn, noReturn, noFeed]
    · rfl

theorem length_withFeeds_le (text : Text) : (withFeeds text).length ≤ text.length := by
  rw [withFeeds, List.length_map]
  fun_induction joinPairs text with
  | case1 => exact Nat.le_refl 0
  | case2 rest ih =>
    simp only [List.length_cons]
    omega
  | case3 c rest shape ih =>
    simp only [List.length_cons]
    omega

/-- Only carriage returns are lost when line ends are unified. -/
theorem withFeeds_eq_self_iff (text : Text) : withFeeds text = text ↔ '\r' ∉ text := by
  rw [← unifyNewlines_eq]
  constructor
  · intro same
    rw [← same]
    exact Text.return_not_mem_unifyNewlines text
  · exact Text.unifyNewlines_of_no_return

/-- A text is read back as it was written if it has no carriage return and no mark in front. -/
theorem withFeeds_unmarked_eq_self_iff (text : Text) :
    withFeeds (unmarked text) = text ↔ '\r' ∉ text ∧ ∀ rest, text ≠ '\uFEFF' :: rest := by
  unfold unmarked
  split
  · rename_i rest
    have shorter : withFeeds rest ≠ '\uFEFF' :: rest := by
      intro same
      have := length_withFeeds_le rest
      rw [same, List.length_cons] at this
      omega
    simp [shorter]
  · rename_i other
    rw [withFeeds_eq_self_iff, and_iff_left other]

end LineEnds

/-! ### Marks -/

section Marks
variable {bytes : Utf8.Bytes}

theorem encodeChar_mark : Utf8.encodeChar '\uFEFF' = Utf8.mark := by
  decide

private theorem beginning_of_mark (begins : bytes <+: Utf8.mark) (part : bytes ≠ Utf8.mark) :
    bytes = [] ∨ UnfinishedMark bytes := by
  have short := begins.length_le
  have front := List.prefix_iff_eq_take.mp begins
  generalize bytes.length = size at short front
  rw [show Utf8.mark.length = 3 from rfl] at short
  interval_cases size
  · exact .inl front
  · exact .inr (.inl front)
  · exact .inr (.inr front)
  · exact absurd front part

/-- Bytes are read as the text they describe behind their mark, with its line ends unified. -/
theorem readLenient_eq (finished : ¬ UnfinishedMark bytes) :
    Utf8.readLenient bytes = withFeeds (Utf8.decodeLenient (behindMark bytes)) := by
  have behind : Utf8.afterMark bytes = behindMark bytes := by
    rw [Utf8.afterMark, behindMark]
    by_cases marked : Utf8.mark <+: bytes
    · rw [if_pos (List.isPrefixOf_iff_prefix.mpr marked), if_pos marked]
      rfl
    · rw [if_neg (by rwa [List.isPrefixOf_iff_prefix]), if_neg marked]
      split
      · rename_i begins
        have part : bytes ≠ Utf8.mark := fun same => marked (same ▸ List.prefix_rfl)
        rcases beginning_of_mark (List.isPrefixOf_iff_prefix.mp begins) part with empty | other
        · exact empty.symm
        · exact absurd other finished
      · rfl
  rw [Utf8.readLenient, unifyNewlines_eq, behind]

theorem readLenient_of_unfinished (unfinished : UnfinishedMark bytes) :
    Utf8.readLenient bytes = [] := by
  rcases unfinished with rfl | rfl <;> decide +kernel

/-- The beginning of a mark is no encoding. -/
theorem not_encode_of_unfinished (unfinished : UnfinishedMark bytes) (text : Text) :
    bytes ≠ Utf8.encode text := by
  rintro rfl
  have begins : Utf8.encode text <+: Utf8.mark := by
    rcases unfinished with same | same <;> rw [same] <;> decide
  rcases encode_of_begins_mark begins with same | same <;> rw [same] at unfinished <;>
    rcases unfinished with same | same <;> cases same

/-- The mark is the encoding of a code point, so bytes and text have it in front together. -/
theorem behindMark_encode (text : Text) :
    behindMark (Utf8.encode text) = Utf8.encode (unmarked text) := by
  unfold unmarked
  split
  · rename_i rest
    rw [behindMark, encode_cons, encodeChar_mark, if_pos (List.prefix_append ..), List.drop_left]
  · rename_i other
    refine if_neg ?_
    rintro ⟨later, stands⟩
    rw [← encodeChar_mark] at stands
    have whole := decodes_encode_append text .nil
    rw [List.append_nil, List.append_nil, ← stands] at whole
    have marked := decodes_unique whole (.char '\uFEFF' (decodes_decodeLenient later))
    exact other _ marked

private theorem ascii_not_mem_mark {c : Char} (ascii : c.toNat < 0x80) :
    c.toNat.toUInt8 ∉ Utf8.mark := by
  intro inside
  have high : ∀ b ∈ Utf8.mark, 0x80 ≤ b.toNat := by simp [Utf8.mark]
  have := high _ inside
  rw [toNat_byte (by omega)] at this
  omega

theorem finished_of_ascii {c : Char} (ascii : c.toNat < 0x80) (front behind : Utf8.Bytes) :
    ¬ UnfinishedMark (front ++ (Utf8.encodeChar c ++ behind)) := by
  intro unfinished
  have inside : c.toNat.toUInt8 ∈ front ++ (Utf8.encodeChar c ++ behind) := by
    simp [encodeChar_ascii ascii]
  have begins : front ++ (Utf8.encodeChar c ++ behind) <+: Utf8.mark := by
    rcases unfinished with same | same <;> rw [same] <;> decide
  exact ascii_not_mem_mark ascii (begins.subset inside)

/-- A mark in front of ASCII belongs to the bytes in front of it. -/
theorem behindMark_append {c : Char} (ascii : c.toNat < 0x80) (front behind : Utf8.Bytes) :
    behindMark (front ++ (Utf8.encodeChar c ++ behind)) =
      behindMark front ++ (Utf8.encodeChar c ++ behind) := by
  unfold behindMark
  by_cases marked : Utf8.mark <+: front
  · rw [if_pos marked, if_pos (List.prefix_append_of_prefix marked),
      List.drop_append_of_le_length marked.length_le]
  · rw [if_neg marked, if_neg]
    intro longer
    by_cases short : Utf8.mark.length ≤ front.length
    · exact marked (List.prefix_of_prefix_length_le longer (List.prefix_append ..) short)
    · -- then the byte of the character would be one of the mark
      rw [encodeChar_ascii ascii, List.singleton_append] at longer
      have long : (front ++ [c.toNat.toUInt8]).length ≤ Utf8.mark.length := by
        rw [List.length_append, List.length_singleton]
        omega
      have begins : front ++ [c.toNat.toUInt8] <+: Utf8.mark :=
        List.prefix_of_prefix_length_le ⟨behind, by simp⟩ longer long
      exact ascii_not_mem_mark ascii (begins.subset (by simp))

end Marks

/-! ### Tokens between other texts -/

section Tokens
variable {tokenClass : TokenClass} {name : Text}

/-- A token is found in front of any text. -/
private theorem occurrences_written (spelled : Spells tokenClass name) (offset : Nat)
    (behind : Text) :
    occurrencesFrom offset (pieces (written name ++ behind)) =
      ⟨offset, offset + (written name).length, tokenClass, name⟩ ::
        occurrencesFrom (offset + (written name).length) (pieces behind) := by
  obtain ⟨entry, member, _, letters⟩ := spells_iff.mp spelled
  have free := spelling_has_no_sign member letters
  have shape : written name ++ behind = '%' :: name ++ '%' :: behind := by simp [written]
  rw [shape, pieces_segment free, spelledClass?_eq_some_iff.mpr spelled]
  rfl

/-- A token between other texts is found, or the sign that opens it closes another token that is
found. -/
theorem found_or_sign_used (spelled : Spells tokenClass name) (front behind : Text) (offset : Nat) :
    let found := occurrencesFrom offset (pieces (front ++ (written name ++ behind)))
    let place := offset + front.length
    ⟨place, place + (written name).length, tokenClass, name⟩ ∈ found ∨
      ∃ other ∈ found, other.stop = place + 1 := by
  dsimp only
  induction front using sign_induction generalizing offset with
  | free front free =>
    rw [pieces_append free, occurrencesFrom_characters, occurrences_written spelled]
    exact .inl (List.mem_cons_self ..)
  | one before inner beforeFree innerFree =>
    have shape : before ++ '%' :: inner ++ (written name ++ behind) =
        before ++ ('%' :: inner ++ '%' :: (name ++ '%' :: behind)) := by simp [written]
    have again : '%' :: (name ++ '%' :: behind) = written name ++ behind := by simp [written]
    have place : offset + (before ++ '%' :: inner).length =
        offset + before.length + ('%' :: inner).length := by
      rw [List.length_append, Nat.add_assoc]
    rw [shape, pieces_append beforeFree, occurrencesFrom_characters, pieces_segment innerFree,
      place]
    cases spelledClass? inner with
    | some other =>
      refine .inr ⟨_, List.mem_cons_self .., ?_⟩
      simp [Piece.source, written, Nat.add_assoc]
    | none =>
      dsimp only
      rw [occurrencesFrom_characters, again, occurrences_written spelled]
      exact .inl (List.mem_cons_self ..)
  | two before inner rest beforeFree innerFree atSign atRest =>
    have shape : before ++ '%' :: inner ++ '%' :: rest ++ (written name ++ behind) =
        before ++ ('%' :: inner ++ '%' :: (rest ++ (written name ++ behind))) := by simp
    rw [shape, pieces_append beforeFree, occurrencesFrom_characters, pieces_segment innerFree]
    cases spelledClass? inner with
    | some other =>
      have place : offset + (before ++ '%' :: inner ++ '%' :: rest).length =
          offset + before.length + (written inner).length + rest.length := by
        simp [written]
        omega
      rw [place]
      rcases atRest (offset + before.length + (written inner).length) with
        here | ⟨used, found, stop⟩
      · exact .inl (List.mem_cons_of_mem _ here)
      · exact .inr ⟨used, List.mem_cons_of_mem _ found, stop⟩
    | none =>
      have place : offset + (before ++ '%' :: inner ++ '%' :: rest).length =
          offset + before.length + ('%' :: inner).length + ('%' :: rest).length := by
        simp
        omega
      dsimp only
      rw [occurrencesFrom_characters, place]
      exact atSign _

end Tokens

/-! ### Reading a file -/

section Reading
variable {machine after : Machine} {path : Path} {project content : Text} {bytes : Utf8.Bytes}

theorem runOn_readTemplate (names : NamesFile machine.files machine.directory path bytes) :
    (readTemplate path).runOn machine = (.ok (Utf8.readLenient bytes), machine) := by
  have reads : (readBytes path).runOn machine = (.ok bytes, machine) :=
    runOn_askFiles_ok.mpr ⟨read_iff.mpr names, rfl⟩
  rw [readTemplate, runOn_bind_of_ok reads]
  rfl

/-- What is written is read back without one mark in front and with its line ends unified. So it is
read back as it was exactly if it has no such mark and no carriage return. -/
theorem written_content_read_back
    (ran : (write project content).runOn machine = (.ok path, after)) :
    (readTemplate path).runOn after = (.ok (withFeeds (unmarked content)), after) ∧
    ((readTemplate path).runOn after = (.ok content, after) ↔
      '\r' ∉ content ∧ ∀ rest, content ≠ '\uFEFF' :: rest) := by
  obtain ⟨rfl, writes, whole⟩ := runOn_write_iff.mp ran
  have names : NamesFile after.files after.directory (outputPath project)
      (Utf8.encode content) := by
    rw [whole]
    exact namesFile_of_writes writes
  have finished : ¬ UnfinishedMark (Utf8.encode content) := fun unfinished =>
    not_encode_of_unfinished unfinished content rfl
  have reads : (readTemplate (outputPath project)).runOn after =
      (.ok (withFeeds (unmarked content)), after) := by
    rw [runOn_readTemplate names, readLenient_eq finished, behindMark_encode, decodeLenient_encode]
  refine ⟨reads, ?_⟩
  rw [reads, ← withFeeds_unmarked_eq_self_iff]
  simp

/-- Of two marks one is lost, and the pair of a return and a feed becomes one feed like the returns
that stand alone. -/
theorem written_content_read_back_of_two_marks :
    let project : Text := "/p".toList
    let content : Text := "\uFEFF\uFEFF\r\r\n\u00e9😀\n\r".toList
    let machine : Machine := { files := { entries := [] }, directory := [] }
    ∃ after, (write project content).runOn machine = (.ok (outputPath project), after) ∧
      (readTemplate (outputPath project)).runOn after =
        (.ok "\uFEFF\n\n\u00e9😀\n\n".toList, after) ∧
      (readTemplate (outputPath project)).runOn after ≠ (.ok content, after) := by
  intro project content machine
  have ran : (write project content).runOn machine =
      (.ok (outputPath project), ((write project content).runOn machine).2) :=
    runOn_of_result (by decide +kernel)
  obtain ⟨reads, exact_iff⟩ := written_content_read_back ran
  refine ⟨_, ran, reads, fun same => ?_⟩
  exact (exact_iff.mp same).1 (by decide)

/-- ASCII without line ends is read as it stands, whatever bytes are around it: those in front are
read as the one text that they describe behind their mark, and those behind it as the one that they
describe. So a token in ASCII is found where it stands, unless the sign that opens it closes another
one that is found. -/
theorem ascii_read_among_bytes {plain : Text} {front behind : Utf8.Bytes}
    (names : NamesFile machine.files machine.directory path
      (front ++ (Utf8.encode plain ++ behind)))
    (nonempty : plain ≠ []) (ascii : ∀ c ∈ plain, c.toNat < 0x80) (noReturn : '\r' ∉ plain)
    (noFeed : '\n' ∉ plain) :
    ∃ before rest, Decodes (behindMark front) before ∧ Decodes behind rest ∧
      (readTemplate path).runOn machine =
        (.ok (withFeeds before ++ plain ++ withFeeds rest), machine) ∧
      ∀ tokenClass name, plain = written name → Spells tokenClass name →
        let found := occurrences (withFeeds before ++ plain ++ withFeeds rest)
        let place := (withFeeds before).length
        ⟨place, place + plain.length, tokenClass, name⟩ ∈ found ∨
          ∃ other ∈ found, other.stop = place + 1 := by
  have frontDecodes := decodes_decodeLenient (behindMark front)
  have behindDecodes := decodes_decodeLenient behind
  generalize Utf8.decodeLenient (behindMark front) = before at frontDecodes
  generalize Utf8.decodeLenient behind = rest at behindDecodes
  refine ⟨before, rest, frontDecodes, behindDecodes, ?_, ?_⟩
  · obtain ⟨c, others, rfl⟩ := List.exists_cons_of_ne_nil nonempty
    have first := ascii c (List.mem_cons_self ..)
    rw [encode_cons, List.append_assoc] at names
    have marked := behindMark_append first front (Utf8.encode others ++ behind)
    have whole := decodes_around_ascii first frontDecodes
      (decodes_encode_append others behindDecodes)
    rw [runOn_readTemplate names, readLenient_eq (finished_of_ascii first _ _), marked,
      decodes_iff.mp whole, ← List.cons_append, withFeeds_around nonempty noReturn noFeed]
  · rintro tokenClass name rfl spelled
    have found := found_or_sign_used spelled (withFeeds before) (withFeeds rest) 0
    rw [Nat.zero_add, ← List.append_assoc] at found
    exact found

/-- A token between the halves of an encoding stays one, and each half is damaged. -/
theorem ascii_read_among_bytes_of_halves :
    let path := Path.ofText "/t".toList
    let plain := "%projName%".toList
    let bytes := Utf8.mark ++ [0xE2, 0x82] ++ (Utf8.encode plain ++ [0x82, 0x0D])
    let machine : Machine := { files := { entries := [([['t']], .file bytes)] }, directory := [] }
    let text := "\uFFFD%projName%\uFFFD\n".toList
    NamesFile machine.files machine.directory path bytes ∧ plain ≠ [] ∧
      (∀ c ∈ plain, c.toNat < 0x80) ∧ '\r' ∉ plain ∧ '\n' ∉ plain ∧
      (readTemplate path).runOn machine = (.ok text, machine) ∧
      (plain = written "projName".toList ∧ Spells .projectName "projName".toList) ∧
      ⟨1, 11, .projectName, "projName".toList⟩ ∈ occurrences text := by
  intro path plain bytes machine text
  have names : NamesFile machine.files machine.directory path bytes := read_iff.mp (by decide)
  have nonempty : plain ≠ [] := by decide
  have ascii : ∀ c ∈ plain, c.toNat < 0x80 := by
    have checked : (plain.all fun c => c.toNat < 0x80) = true := by decide
    intro c inside
    exact of_decide_eq_true (List.all_eq_true.mp checked c inside)
  have spelled : Spells .projectName "projName".toList := by decide
  obtain ⟨before, rest, frontDecodes, behindDecodes, reads, tokens⟩ :=
    ascii_read_among_bytes names nonempty ascii (by decide) (by decide)
  obtain rfl : ['\uFFFD'] = before := by
    rw [← decodes_iff.mp frontDecodes]
    decide +kernel
  obtain rfl : ['\uFFFD', '\r'] = rest := by
    rw [← decodes_iff.mp behindDecodes]
    decide +kernel
  have same : withFeeds ['\uFFFD'] ++ plain ++ withFeeds ['\uFFFD', '\r'] = text := by decide
  refine ⟨names, nonempty, ascii, by decide, by decide, same ▸ reads, ⟨rfl, spelled⟩, ?_⟩
  rcases same ▸ tokens .projectName "projName".toList rfl spelled with here | ⟨other, found, stop⟩
  · exact here
  · have listed : occurrences text = [⟨1, 11, .projectName, "projName".toList⟩] := by
      decide +kernel
    rw [listed, List.mem_singleton] at found
    rw [found] at stop
    cases stop

/-- A text without U+FFFD is the text of the bytes behind their mark, which encode it up to line
ends: no damage is passed over. The exception is the beginning of a mark, which encodes no text but
is read as the empty one. -/
theorem unreplaced_text_encoded (names : NamesFile machine.files machine.directory path bytes) :
    ∃ text, (readTemplate path).runOn machine = (.ok text, machine) ∧
      ('\uFFFD' ∉ text ↔ UnfinishedMark bytes ∨
        ∃ decoded, behindMark bytes = Utf8.encode decoded ∧ '\uFFFD' ∉ decoded) ∧
      (UnfinishedMark bytes → text = []) ∧
      ∀ decoded, behindMark bytes = Utf8.encode decoded → text = withFeeds decoded := by
  refine ⟨_, runOn_readTemplate names, ?_⟩
  by_cases unfinished : UnfinishedMark bytes
  · have same : behindMark bytes = bytes := by
      rcases unfinished with rfl | rfl <;> decide
    rw [readLenient_of_unfinished unfinished]
    refine ⟨by simp [unfinished], fun _ => rfl, fun decoded encoded => ?_⟩
    exact absurd (same.symm.trans encoded) (not_encode_of_unfinished unfinished decoded)
  · rw [readLenient_eq unfinished]
    have decodes := decodes_decodeLenient (behindMark bytes)
    refine ⟨?_, fun other => absurd other unfinished, fun decoded encoded => ?_⟩
    · rw [mem_withFeeds_iff (by decide) (by decide), or_iff_right unfinished]
      constructor
      · intro whole
        exact ⟨_, encode_of_decodes decodes whole, whole⟩
      · rintro ⟨decoded, encoded, whole⟩
        rwa [encoded, decodeLenient_encode]
    · rw [encoded, decodeLenient_encode]

/-- Behind its mark a text is decoded whole, and only its line end is changed. -/
theorem unreplaced_text_encoded_of_marked :
    let path := Path.ofText "/t".toList
    let decoded := "\u00e9\r\n".toList
    let bytes := Utf8.mark ++ Utf8.encode decoded
    let machine : Machine := { files := { entries := [([['t']], .file bytes)] }, directory := [] }
    NamesFile machine.files machine.directory path bytes ∧
      (readTemplate path).runOn machine = (.ok "\u00e9\n".toList, machine) ∧
      '\uFFFD' ∉ "\u00e9\n".toList ∧ behindMark bytes = Utf8.encode decoded ∧
      ¬ UnfinishedMark bytes := by
  intro path decoded bytes machine
  have names : NamesFile machine.files machine.directory path bytes := read_iff.mp (by decide)
  have encoded : behindMark bytes = Utf8.encode decoded := by decide
  obtain ⟨text, reads, _, vanishes, whole⟩ := unreplaced_text_encoded names
  obtain rfl : text = "\u00e9\n".toList := (whole decoded encoded).trans (by decide)
  refine ⟨names, reads, by decide, encoded, fun unfinished => ?_⟩
  exact absurd (vanishes unfinished) (by decide)

/-- A file that ends within its mark is read as an empty text, and nothing shows the damage. -/
theorem unfinished_mark_vanishes :
    let path := Path.ofText "/t".toList
    let machine : Machine := { files := { entries := [([['t']], .file [0xEF])] }, directory := [] }
    NamesFile machine.files machine.directory path [0xEF] ∧
      (readTemplate path).runOn machine = (.ok [], machine) ∧
      ∀ decoded, behindMark [0xEF] ≠ Utf8.encode decoded := by
  intro path machine
  have names : NamesFile machine.files machine.directory path [0xEF] := read_iff.mp (by decide)
  have unfinished : UnfinishedMark [0xEF] := .inl rfl
  refine ⟨names, ?_, not_encode_of_unfinished unfinished⟩
  rw [runOn_readTemplate names, readLenient_of_unfinished unfinished]

end Reading

end DebugLaunch.TemplateReading
