import DebugLaunch.Context
import Mathlib.Data.List.Forall2
import Mathlib.Data.List.Nodup

/-! Substitution seen from the percent signs of a text. The signs cut it into segments, and a
segment between two signs is a token exactly if it spells an alias; the sign behind a token then
opens nothing. This second description never looks for an alias inside of a text, and it says
where each token stands. -/
namespace DebugLaunch.TokenSegments
open Token

/-- A character spells a letter if it is that letter in either case, or one of the four characters
beyond ASCII whose case variants have it. -/
def SameLetter (letter c : Char) : Prop :=
  c.toLower = letter.toLower ∨ (letter.toLower = 'i' ∧ (c = '\u0130' ∨ c = '\u0131')) ∨
    (letter.toLower = 's' ∧ c = '\u017F') ∨ (letter.toLower = 'k' ∧ c = '\u212A')

instance : DecidableRel SameLetter := fun letter c => by
  unfold SameLetter
  exact inferInstance

/-- A segment spells an alias of a class letter by letter, so it is as long as the alias. -/
def Spells (tokenClass : TokenClass) (segment : Text) : Prop :=
  ∃ name ∈ tokenClass.aliases, List.Forall₂ SameLetter name segment

instance (tokenClass : TokenClass) (segment : Text) : Decidable (Spells tokenClass segment) :=
  inferInstanceAs (Decidable (∃ name ∈ tokenClass.aliases, List.Forall₂ SameLetter name segment))

/-- The class of which a segment spells an alias. -/
def spelledClass? (segment : Text) : Option TokenClass :=
  TokenClass.all.find? fun tokenClass => Spells tokenClass segment

/-- The text that segments become, each of them behind a sign. A segment that has a sign behind
it too may be a token, and then both signs belong to it. -/
def replaced (value : TokenClass → Text) : List Text → Text
  | [] => []
  | [last] => '%' :: last
  | segment :: next :: rest =>
    match spelledClass? segment with
    | some tokenClass => value tokenClass ++ next ++ replaced value rest
    | none => '%' :: segment ++ replaced value (next :: rest)

/-- The tokens among segments of which the first one has its sign at `offset`. -/
def tokensFrom (offset : Nat) : List Text → List Occurrence
  | [] => []
  | [_] => []
  | segment :: next :: rest =>
    match spelledClass? segment with
    | some tokenClass =>
      let behind := offset + segment.length + 2
      ⟨offset, behind, tokenClass, segment⟩ :: tokensFrom (behind + next.length) rest
    | none => tokensFrom (offset + 1 + segment.length) (next :: rest)

/-- The text with its tokens replaced, as its segments have it. -/
def substituted (value : TokenClass → Text) (text : Text) : Text :=
  match Text.split '%' text with
  | [] => []
  | front :: segments => front ++ replaced value segments

/-- The tokens of a text, as its segments have them. -/
def tokens (text : Text) : List Occurrence :=
  match Text.split '%' text with
  | [] => []
  | front :: segments => tokensFrom front.length segments

/-- The text with values at the places of some occurrences, cut out by their offsets alone;
`offset` is where the text begins. -/
def spliced (value : TokenClass → Text) (offset : Nat) : List Occurrence → Text → Text
  | [], text => text
  | occurrence :: rest, text =>
    text.take (occurrence.start - offset) ++ value occurrence.tokenClass ++
      spliced value occurrence.stop rest (text.drop (occurrence.stop - offset))

/-! ### One alias at most -/

/-- The small letter that a character stands for. -/
private def letterOf (c : Char) : Char :=
  if c = '\u0130' ∨ c = '\u0131' then 'i' else if c = '\u017F' then 's'
  else if c = '\u212A' then 'k' else c.toLower

/-- The letters of aliases are no signs, and none of the characters beyond ASCII is one. -/
private theorem alias_letters :
    ∀ entry ∈ table, ∀ letter ∈ entry.2, letter.toLower ≠ '%' ∧ letter.toLower ≠ '\u0130' ∧
      letter.toLower ≠ '\u0131' ∧ letter.toLower ≠ '\u017F' ∧ letter.toLower ≠ '\u212A' := by
  have checked : (table.all fun entry => entry.2.all fun letter =>
      letter.toLower ≠ '%' ∧ letter.toLower ≠ '\u0130' ∧ letter.toLower ≠ '\u0131' ∧
        letter.toLower ≠ '\u017F' ∧ letter.toLower ≠ '\u212A') = true := by
    decide
  intro entry isEntry letter isLetter
  have lettersChecked := List.all_eq_true.mp checked entry isEntry
  exact of_decide_eq_true (List.all_eq_true.mp lettersChecked letter isLetter)

theorem alias_names_distinct :
    (table.map fun entry => entry.2.map Char.toLower).Nodup := by
  decide

private theorem spellsLetter_iff (letter c : Char) :
    spellsLetter letter c = true ↔ SameLetter letter c := by
  simp only [spellsLetter, SameLetter, Bool.or_eq_true, Bool.and_eq_true, decide_eq_true_eq]
  tauto

theorem mem_table {entry : TokenClass × Text} :
    entry ∈ table ↔ entry.2 ∈ entry.1.aliases := by
  obtain ⟨tokenClass, name⟩ := entry
  simp only [table, List.mem_flatMap, List.mem_map, Prod.mk.injEq]
  constructor
  · rintro ⟨_, _, _, member, rfl, rfl⟩
    exact member
  · intro member
    exact ⟨tokenClass, by cases tokenClass <;> decide, name, member, rfl, rfl⟩

theorem spells_iff {tokenClass : TokenClass} {segment : Text} :
    Spells tokenClass segment ↔
      ∃ entry ∈ table, entry.1 = tokenClass ∧ List.Forall₂ SameLetter entry.2 segment := by
  constructor
  · rintro ⟨name, member, spelled⟩
    exact ⟨(tokenClass, name), mem_table.mpr member, rfl, spelled⟩
  · rintro ⟨entry, member, rfl, spelled⟩
    exact ⟨entry.2, mem_table.mp member, spelled⟩

private theorem letterOf_eq {letter c : Char} (same : SameLetter letter c)
    (plain : letter.toLower ≠ '%' ∧ letter.toLower ≠ '\u0130' ∧ letter.toLower ≠ '\u0131' ∧
      letter.toLower ≠ '\u017F' ∧ letter.toLower ≠ '\u212A') : letterOf c = letter.toLower := by
  obtain ⟨_, notDotted, notDotless, notLong, notKelvin⟩ := plain
  rcases same with same | ⟨small, rfl | rfl⟩ | ⟨small, rfl⟩ | ⟨small, rfl⟩
  · have other : ∀ d : Char, d.toLower = d → letter.toLower ≠ d → c ≠ d := by
      rintro d fixed different rfl
      exact different (same ▸ fixed)
    simp only [letterOf, other _ (by decide) notDotted, other _ (by decide) notDotless,
      other _ (by decide) notLong, other _ (by decide) notKelvin, same, or_self, ↓reduceIte]
  all_goals rw [small]; decide

private theorem spelling_letters {entry : TokenClass × Text} (member : entry ∈ table)
    {segment : Text} (spelled : List.Forall₂ SameLetter entry.2 segment) :
    segment.map letterOf = entry.2.map Char.toLower := by
  have plain := alias_letters entry member
  generalize entry.2 = name at spelled plain
  induction spelled with
  | nil => rfl
  | cons same _ ih =>
    simp only [List.map_cons, letterOf_eq same (plain _ (List.mem_cons_self ..)),
      ih fun other inside => plain other (List.mem_cons_of_mem _ inside)]

/-- Two entries of the table that a segment spells are one entry. -/
private theorem entry_unique {first second : TokenClass × Text} {segment : Text}
    (firstMember : first ∈ table) (secondMember : second ∈ table)
    (firstSpelled : List.Forall₂ SameLetter first.2 segment)
    (secondSpelled : List.Forall₂ SameLetter second.2 segment) : first = second := by
  apply List.inj_on_of_nodup_map alias_names_distinct firstMember secondMember
  exact (spelling_letters firstMember firstSpelled).symm.trans
    (spelling_letters secondMember secondSpelled)

theorem spelling_has_no_sign {entry : TokenClass × Text} (member : entry ∈ table)
    {segment : Text} (spelled : List.Forall₂ SameLetter entry.2 segment) : '%' ∉ segment := by
  intro inside
  have sign : letterOf '%' ∈ segment.map letterOf := List.mem_map_of_mem inside
  rw [spelling_letters member spelled] at sign
  obtain ⟨letter, letterInside, same⟩ := List.mem_map.mp sign
  exact (alias_letters entry member letter letterInside).1 (same.trans (by decide))

/-- A segment spells an alias of one class at most, so the first class found is the only one. -/
theorem spelledClass?_eq_some_iff {segment : Text} {tokenClass : TokenClass} :
    spelledClass? segment = some tokenClass ↔ Spells tokenClass segment := by
  constructor
  · intro found
    simpa using List.find?_some found
  · intro spelled
    cases found : spelledClass? segment with
    | none =>
      have := List.find?_eq_none.mp found tokenClass (by cases tokenClass <;> decide)
      exact absurd spelled (by simpa using this)
    | some other =>
      obtain ⟨first, firstMember, rfl, firstSpelled⟩ := spells_iff.mp spelled
      obtain ⟨second, secondMember, rfl, secondSpelled⟩ :=
        spells_iff.mp (show Spells other segment by simpa using List.find?_some found)
      rw [entry_unique firstMember secondMember firstSpelled secondSpelled]

/-! ### Tokens at the front of a text -/

private theorem takeAlias?_eq_some_iff {name text taken rest : Text} :
    takeAlias? name text = some (taken, rest) ↔
      List.Forall₂ SameLetter name taken ∧ text = taken ++ rest := by
  fun_induction takeAlias? name text generalizing taken rest with
  | case1 text =>
    simp only [Option.some.injEq, Prod.mk.injEq, List.forall₂_nil_left_iff]
    constructor
    · rintro ⟨rfl, rfl⟩
      exact ⟨rfl, rfl⟩
    · rintro ⟨rfl, same⟩
      exact ⟨rfl, same⟩
  | case2 letter name =>
    simp only [reduceCtorEq, false_iff, not_and]
    intro spelled same
    obtain ⟨rfl, _⟩ := List.append_eq_nil_iff.mp same.symm
    cases spelled
  | case3 letter name c text spells ih =>
    constructor
    · intro took
      obtain ⟨⟨restTaken, left⟩, tookRest, same⟩ := Option.map_eq_some_iff.mp took
      simp only [Prod.mk.injEq] at same
      obtain ⟨rfl, rfl⟩ := same
      obtain ⟨spelled, rfl⟩ := ih.mp tookRest
      exact ⟨.cons ((spellsLetter_iff letter c).mp spells) spelled, rfl⟩
    · rintro ⟨spelled, same⟩
      cases spelled with
      | cons first others =>
        simp only [List.cons_append, List.cons.injEq] at same
        obtain ⟨rfl, same⟩ := same
        exact Option.map_eq_some_iff.mpr ⟨_, ih.mpr ⟨others, same⟩, rfl⟩
  | case4 letter name c text foreign =>
    simp only [reduceCtorEq, false_iff, not_and]
    intro spelled same
    cases spelled with
    | cons first others =>
      simp only [List.cons_append, List.cons.injEq] at same
      exact foreign ((spellsLetter_iff letter c).mpr (same.1 ▸ first))

private theorem closeToken?_eq_some_iff {entry : TokenClass × Text} {text spelling rest : Text}
    {tokenClass : TokenClass} :
    closeToken? text entry = some (tokenClass, spelling, rest) ↔
      entry.1 = tokenClass ∧ List.Forall₂ SameLetter entry.2 spelling ∧
        text = spelling ++ '%' :: rest := by
  constructor
  · intro closed
    unfold closeToken? at closed
    split at closed
    · rename_i taken left took
      simp only [Option.some.injEq, Prod.mk.injEq] at closed
      obtain ⟨rfl, rfl, rfl⟩ := closed
      exact ⟨rfl, takeAlias?_eq_some_iff.mp took⟩
    · cases closed
  · rintro ⟨rfl, spelled, same⟩
    simp only [closeToken?, takeAlias?_eq_some_iff.mpr ⟨spelled, same⟩]

/-- Whatever the order in which the aliases are tried, the token found is the one spelled between
the signs. -/
private theorem firstToken_eq_some_iff {order : List (TokenClass × Text)}
    (members : ∀ entry, entry ∈ order ↔ entry ∈ table) {text spelling rest : Text}
    {tokenClass : TokenClass} :
    order.findSome? (closeToken? text) = some (tokenClass, spelling, rest) ↔
      Spells tokenClass spelling ∧ text = spelling ++ '%' :: rest := by
  have sound : ∀ {tokenClass spelling rest},
      order.findSome? (closeToken? text) = some (tokenClass, spelling, rest) →
        Spells tokenClass spelling ∧ text = spelling ++ '%' :: rest := by
    intro tokenClass spelling rest found
    obtain ⟨entry, member, closed⟩ := List.exists_of_findSome?_eq_some found
    obtain ⟨same, spelled, shape⟩ := closeToken?_eq_some_iff.mp closed
    exact ⟨spells_iff.mpr ⟨entry, (members entry).mp member, same, spelled⟩, shape⟩
  refine ⟨sound, ?_⟩
  rintro ⟨spelled, shape⟩
  obtain ⟨entry, member, same, letters⟩ := spells_iff.mp spelled
  have closed := closeToken?_eq_some_iff.mpr ⟨same, letters, shape⟩
  cases found : order.findSome? (closeToken? text) with
  | none =>
    have := List.findSome?_eq_none_iff.mp found entry ((members entry).mpr member)
    rw [closed] at this
    cases this
  | some token =>
    obtain ⟨otherClass, otherSpelling, otherRest⟩ := token
    obtain ⟨otherSpelled, otherShape⟩ := sound found
    obtain ⟨other, otherMember, otherSame, otherLetters⟩ := spells_iff.mp otherSpelled
    obtain ⟨rfl, rfl⟩ := Text.front_inj (spelling_has_no_sign member letters)
      (spelling_has_no_sign otherMember otherLetters) (shape.symm.trans otherShape)
    rw [← same, ← otherSame, entry_unique member otherMember letters otherLetters]

theorem token?_eq_some_iff {text spelling rest : Text} {tokenClass : TokenClass} :
    token? text = some (tokenClass, spelling, rest) ↔
      Spells tokenClass spelling ∧ text = spelling ++ '%' :: rest :=
  firstToken_eq_some_iff fun _ => Iff.rfl

private theorem token?_of_no_sign {text : Text} (free : '%' ∉ text) : token? text = none := by
  cases found : token? text with
  | none => rfl
  | some token =>
    obtain ⟨tokenClass, spelling, rest⟩ := token
    obtain ⟨_, rfl⟩ := token?_eq_some_iff.mp found
    exact absurd (List.mem_append_right _ (List.mem_cons_self ..)) free

/-- Behind an opening sign, only the segment up to the next sign can be the alias. -/
private theorem token?_segment {segment : Text} (free : '%' ∉ segment) (behind : Text) :
    token? (segment ++ '%' :: behind) =
      (spelledClass? segment).map fun tokenClass => (tokenClass, segment, behind) := by
  cases spelled : spelledClass? segment with
  | some tokenClass =>
    exact token?_eq_some_iff.mpr ⟨spelledClass?_eq_some_iff.mp spelled, rfl⟩
  | none =>
    cases found : token? (segment ++ '%' :: behind) with
    | none => rfl
    | some token =>
      obtain ⟨tokenClass, spelling, rest⟩ := token
      obtain ⟨otherSpelled, shape⟩ := token?_eq_some_iff.mp found
      obtain ⟨other, member, _, letters⟩ := spells_iff.mp otherSpelled
      obtain ⟨rfl, rfl⟩ := Text.front_inj free (spelling_has_no_sign member letters) shape
      rw [spelledClass?_eq_some_iff.mpr otherSpelled] at spelled
      cases spelled

/-! ### Segments and pieces -/

/-- A sign is the first one of a token or a character. -/
theorem pieces_sign (rest : Text) :
    pieces ('%' :: rest) = match token? rest with
      | some (tokenClass, spelling, behind) => .token tokenClass spelling :: pieces behind
      | none => .character '%' :: pieces rest := by
  rw [pieces, if_pos rfl]
  split <;> rename_i found <;> rw [found]

theorem pieces_append {plain : Text} (free : '%' ∉ plain) (rest : Text) :
    pieces (plain ++ rest) = plain.map .character ++ pieces rest := by
  induction plain with
  | nil => rfl
  | cons c plain ih =>
    rw [List.mem_cons, not_or] at free
    rw [List.cons_append, pieces, if_neg (Ne.symm free.1), ih free.2]
    rfl

/-- The pieces of a last segment are its characters. -/
theorem pieces_last {last : Text} (free : '%' ∉ last) :
    pieces ('%' :: last) = ('%' :: last).map .character := by
  have behind := pieces_append free []
  rw [List.append_nil] at behind
  rw [pieces_sign, token?_of_no_sign free, behind]
  simp [pieces]

/-- The pieces of a segment with a sign behind it: a token, or characters up to that sign. -/
theorem pieces_segment {segment : Text} (free : '%' ∉ segment) (behind : Text) :
    pieces ('%' :: segment ++ '%' :: behind) = match spelledClass? segment with
      | some tokenClass => .token tokenClass segment :: pieces behind
      | none => ('%' :: segment).map .character ++ pieces ('%' :: behind) := by
  rw [List.cons_append, pieces_sign, token?_segment free]
  cases spelledClass? segment with
  | some tokenClass => rfl
  | none => simp [pieces_append free]

/-- What a piece becomes. -/
def shown (value : TokenClass → Text) : Piece → Text
  | .character c => [c]
  | .token tokenClass _ => value tokenClass

theorem substitute_eq (value : TokenClass → Text) (text : Text) :
    substitute value text = (pieces text).flatMap (shown value) := by
  simp only [substitute]
  congr 1

theorem flatMap_shown_characters (value : TokenClass → Text) (plain : Text) :
    (plain.map Piece.character).flatMap (shown value) = plain := by
  induction plain with
  | nil => rfl
  | cons c plain ih => simp [shown, ih]

theorem occurrencesFrom_characters (offset : Nat) (plain : Text) (rest : List Piece) :
    occurrencesFrom offset (plain.map .character ++ rest) =
      occurrencesFrom (offset + plain.length) rest := by
  induction plain generalizing offset with
  | nil => rfl
  | cons c plain ih =>
    simp only [List.map_cons, List.cons_append, occurrencesFrom, Piece.source, List.length_cons,
      List.length_nil, ih]
    congr 1
    omega

/-- The text of segments that each stand behind a sign. -/
private abbrev signed (segments : List Text) : Text := segments.flatMap ('%' :: ·)

private theorem substitute_signed (value : TokenClass → Text) {segments : List Text}
    (free : ∀ segment ∈ segments, '%' ∉ segment) :
    (pieces (signed segments)).flatMap (shown value) = replaced value segments := by
  fun_induction replaced value segments with
  | case1 => simp [signed, pieces]
  | case2 last =>
    have shape : signed [last] = '%' :: last := by simp [signed]
    rw [shape, pieces_last (free last (by simp)), flatMap_shown_characters]
  | case3 segment next rest tokenClass spelled ih =>
    have shape : signed (segment :: next :: rest) =
        '%' :: segment ++ '%' :: (next ++ signed rest) := by simp [signed]
    rw [shape, pieces_segment (free segment (by simp)), spelled]
    simp only [pieces_append (free next (by simp)), List.flatMap_cons, List.flatMap_append,
      flatMap_shown_characters, shown, List.append_assoc]
    rw [ih fun other member => free other (by simp [member])]
  | case4 segment next rest unknown ih =>
    have shape : signed (segment :: next :: rest) =
        '%' :: segment ++ '%' :: (next ++ signed rest) := by simp [signed]
    have inner : '%' :: (next ++ signed rest) = signed (next :: rest) := by simp [signed]
    rw [shape, pieces_segment (free segment (by simp)), unknown]
    simp only [List.flatMap_append, flatMap_shown_characters, inner]
    rw [ih fun other member => free other (List.mem_cons_of_mem _ member)]

private theorem occurrences_signed (offset : Nat) {segments : List Text}
    (free : ∀ segment ∈ segments, '%' ∉ segment) :
    occurrencesFrom offset (pieces (signed segments)) = tokensFrom offset segments := by
  fun_induction tokensFrom offset segments with
  | case1 => simp [signed, pieces, occurrencesFrom]
  | case2 offset last =>
    have shape : signed [last] = '%' :: last := by simp [signed]
    have none := occurrencesFrom_characters offset ('%' :: last) []
    rw [List.append_nil] at none
    rw [shape, pieces_last (free last (by simp)), none]
    rfl
  | case3 offset segment next rest tokenClass spelled behind ih =>
    have shape : signed (segment :: next :: rest) =
        '%' :: segment ++ '%' :: (next ++ signed rest) := by simp [signed]
    have stop : offset + (written segment).length = behind := by simp [written, behind]; omega
    rw [shape, pieces_segment (free segment (by simp)), spelled]
    simp only [pieces_append (free next (by simp)), occurrencesFrom, Piece.source, stop,
      occurrencesFrom_characters]
    rw [ih fun other member => free other (by simp [member])]
  | case4 offset segment next rest unknown ih =>
    have shape : signed (segment :: next :: rest) =
        '%' :: segment ++ '%' :: (next ++ signed rest) := by simp [signed]
    have inner : '%' :: (next ++ signed rest) = signed (next :: rest) := by simp [signed]
    have start : offset + ('%' :: segment).length = offset + 1 + segment.length := by simp; omega
    rw [shape, pieces_segment (free segment (by simp)), unknown]
    simp only [occurrencesFrom_characters, inner, start]
    rw [ih fun other member => free other (List.mem_cons_of_mem _ member)]

/-- A text is its first segment and the others behind their signs, and none of them has a sign. -/
private theorem exists_segments (text : Text) :
    ∃ front segments, Text.split '%' text = front :: segments ∧ text = front ++ signed segments ∧
      '%' ∉ front ∧ ∀ segment ∈ segments, '%' ∉ segment := by
  cases parts : Text.split '%' text with
  | nil => exact absurd parts (Text.split_ne_nil '%' text)
  | cons front segments =>
    have free : ∀ part ∈ front :: segments, '%' ∉ part := fun part member =>
      Text.not_mem_of_mem_split (parts ▸ member)
    refine ⟨front, segments, rfl, ?_, free front (List.mem_cons_self ..),
      fun segment member => free segment (List.mem_cons_of_mem _ member)⟩
    rw [← Text.join_cons_eq, ← parts, Text.join_split]

/-! ### Occurrences and their places -/

private theorem occurrencesFrom_bounds (offset : Nat) (parts : List Piece) :
    ∀ occurrence ∈ occurrencesFrom offset parts,
      offset ≤ occurrence.start ∧ occurrence.start ≤ occurrence.stop := by
  induction parts generalizing offset with
  | nil => simp [occurrencesFrom]
  | cons piece rest ih =>
    cases piece with
    | character c =>
      intro occurrence member
      have := ih _ occurrence member
      simp only [Piece.source, List.length_singleton] at this
      omega
    | token tokenClass spelling =>
      intro occurrence member
      rcases List.mem_cons.mp member with rfl | member
      · simp
      · have := ih _ occurrence member
        omega

/-- A character in front of all occurrences stays where it is. -/
private theorem spliced_cons (value : TokenClass → Text) {offset : Nat}
    {occurrences : List Occurrence}
    (behind : ∀ occurrence ∈ occurrences,
      offset + 1 ≤ occurrence.start ∧ occurrence.start ≤ occurrence.stop) (c : Char) (text : Text) :
    spliced value offset occurrences (c :: text) =
      c :: spliced value (offset + 1) occurrences text := by
  cases occurrences with
  | nil => rfl
  | cons occurrence rest =>
    have bounds := behind occurrence (List.mem_cons_self ..)
    have start : occurrence.start - offset = occurrence.start - (offset + 1) + 1 := by omega
    have stop : occurrence.stop - offset = occurrence.stop - (offset + 1) + 1 := by omega
    simp only [spliced, start, stop, List.take_succ_cons, List.drop_succ_cons, List.cons_append]

private theorem spliced_occurrencesFrom (value : TokenClass → Text) (offset : Nat)
    (parts : List Piece) :
    spliced value offset (occurrencesFrom offset parts) (parts.flatMap Piece.source) =
      parts.flatMap (shown value) := by
  induction parts generalizing offset with
  | nil => rfl
  | cons piece rest ih =>
    cases piece with
    | character c =>
      have bounds := occurrencesFrom_bounds (offset + 1) rest
      exact (spliced_cons value bounds c _).trans (congrArg (c :: ·) (ih (offset + 1)))
    | token tokenClass spelling =>
      simp only [occurrencesFrom, List.flatMap_cons, spliced, Piece.source, shown, Nat.sub_self,
        List.take_zero, List.nil_append, Nat.add_sub_cancel_left, List.drop_left, ih]

private theorem source_of_occurrence (offset : Nat) (parts : List Piece) :
    ∀ occurrence ∈ occurrencesFrom offset parts,
      ((parts.flatMap Piece.source).drop (occurrence.start - offset)).take
        (occurrence.stop - occurrence.start) = written occurrence.spelling := by
  induction parts generalizing offset with
  | nil => simp [occurrencesFrom]
  | cons piece rest ih =>
    have later : ∀ occurrence ∈ occurrencesFrom (offset + piece.source.length) rest,
        (((piece :: rest).flatMap Piece.source).drop (occurrence.start - offset)).take
          (occurrence.stop - occurrence.start) = written occurrence.spelling := by
      intro occurrence member
      have bounds := (occurrencesFrom_bounds _ rest occurrence member).1
      have reach : occurrence.start - offset =
          piece.source.length + (occurrence.start - (offset + piece.source.length)) := by omega
      rw [List.flatMap_cons, reach, ← List.drop_drop, List.drop_left]
      exact ih _ occurrence member
    cases piece with
    | character c => exact later
    | token tokenClass spelling =>
      intro occurrence member
      rcases List.mem_cons.mp member with rfl | member
      · simp [Piece.source]
      · exact later occurrence member

/-- Substitution replaces exactly the segments that spell an alias between two signs, of which no
two can share a sign. The tokens reported are those occurrences, and the values stand in the text
at their places without being read again. At most one alias fits anywhere, so that the aliases may
be tried in any order. -/
theorem substitution_by_segments (context : Context) (text : Text) :
    substitute context.value text = substituted context.value text ∧
      occurrences text = tokens text ∧
      substitute context.value text = spliced context.value 0 (occurrences text) text ∧
      (∀ occurrence ∈ occurrences text,
        (text.drop occurrence.start).take (occurrence.stop - occurrence.start) =
          written occurrence.spelling) ∧
      (∀ segment tokenClass,
        spelledClass? segment = some tokenClass ↔ Spells tokenClass segment) ∧
      (∀ behind, ∀ first ∈ table, ∀ second ∈ table, (closeToken? behind first).isSome →
        (closeToken? behind second).isSome → first = second) ∧
      ∀ order : List (TokenClass × Text), order.Perm table →
        ∀ behind, order.findSome? (closeToken? behind) = token? behind := by
  obtain ⟨front, segments, parts, whole, frontFree, free⟩ := exists_segments text
  have cut : pieces text = front.map .character ++ pieces (signed segments) := by
    rw [whole, pieces_append frontFree]
  refine ⟨?_, ?_, ?_, ?_, fun _ _ => spelledClass?_eq_some_iff, ?_, ?_⟩
  · rw [substitute_eq, cut, List.flatMap_append, flatMap_shown_characters,
      substitute_signed context.value free, substituted, parts]
  · rw [occurrences, cut, occurrencesFrom_characters, occurrences_signed _ free, tokens, parts,
      Nat.zero_add]
  · rw [substitute_eq, occurrences, ← spliced_occurrencesFrom context.value 0, sources_pieces]
  · intro occurrence member
    have exactSource := source_of_occurrence 0 (pieces text) occurrence member
    rwa [sources_pieces] at exactSource
  · intro behind first firstMember second secondMember firstCloses secondCloses
    obtain ⟨⟨_, _, _⟩, firstToken⟩ := Option.isSome_iff_exists.mp firstCloses
    obtain ⟨⟨_, _, _⟩, secondToken⟩ := Option.isSome_iff_exists.mp secondCloses
    obtain ⟨_, firstSpelled, firstShape⟩ := closeToken?_eq_some_iff.mp firstToken
    obtain ⟨_, secondSpelled, secondShape⟩ := closeToken?_eq_some_iff.mp secondToken
    obtain ⟨rfl, _⟩ := Text.front_inj (spelling_has_no_sign firstMember firstSpelled)
      (spelling_has_no_sign secondMember secondSpelled) (firstShape.symm.trans secondShape)
    exact entry_unique firstMember secondMember firstSpelled secondSpelled
  · intro order permuted behind
    apply Option.ext
    rintro ⟨tokenClass, spelling, rest⟩
    exact (firstToken_eq_some_iff fun _ => permuted.mem_iff).trans token?_eq_some_iff.symm

/-- The sign behind `x` opens a token although it could not close one, the sign behind `root`
opens none although `ROOT` follows, and the dotted capital counts as a letter. -/
theorem substitution_by_segments_shared_signs :
    let context : Context := ⟨['W'], ['P'], ['/', 'W'], ['/', 'P'], ['N']⟩
    let text := "%x%root%ROOT%projD\u0130r%".toList
    let first : Occurrence := ⟨2, 8, .workspaceRoot, "root".toList⟩
    let entry : TokenClass × Text := (.workspaceRoot, "root".toList)
    substitute context.value text = "%xWROOTP".toList ∧
      occurrences text = [first, ⟨12, 21, .projectRoot, "projD\u0130r".toList⟩] ∧
      (text.drop first.start).take (first.stop - first.start) = written first.spelling ∧
      (entry ∈ table ∧ (closeToken? (text.drop 3) entry).isSome ∧ entry = entry) ∧
      table.reverse.Perm table ∧
      table.reverse.findSome? (closeToken? (text.drop 3)) = token? (text.drop 3) := by
  intro context text first entry
  obtain ⟨replaces, reports, _, sources, _, unique, ordered⟩ :=
    substitution_by_segments context text
  have found : occurrences text = [first, ⟨12, 21, .projectRoot, "projD\u0130r".toList⟩] :=
    reports.trans (by decide)
  have member : entry ∈ table := by decide
  have closes : (closeToken? (text.drop 3) entry).isSome := by decide
  exact ⟨replaces.trans (by decide), found, sources first (by simp [found]),
    ⟨member, closes, unique _ entry member entry member closes closes⟩, List.reverse_perm table,
    ordered table.reverse (List.reverse_perm table) _⟩

end DebugLaunch.TokenSegments
