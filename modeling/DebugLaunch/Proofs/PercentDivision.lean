import DebugLaunch.Reference
import Mathlib.Logic.ExistsUnique

/-! Between percent signs, which parts of a text are references depends on the variables that are
set and on everything to the left. The division of a text is described here without a scan: known
names at the references, and no known reference in what is left between them. One division of a
text has these properties, and expanding puts the values into that one. -/
namespace DebugLaunch.PercentDivision
open Reference

/-- A text cut at references: the text in front of them, and each name with the text behind its
reference. -/
structure Division where
  front : Text
  references : List (Text × Text)
  deriving DecidableEq, Repr

/-- The literal texts of a division, from left to right. -/
def Division.chunks (division : Division) : List Text :=
  division.front :: division.references.map Prod.snd

/-- The text that was divided. -/
def Division.source (division : Division) : Text :=
  division.front ++ division.references.flatMap fun reference =>
    '%' :: reference.1 ++ '%' :: reference.2

/-- The text with the values of the references in their places. -/
def Division.expanded (environment : Environment) (division : Division) : Text :=
  division.front ++ division.references.flatMap fun reference =>
    (environment.getIgnoringCase? reference.1).getD [] ++ reference.2

/-- A name that can stand between signs and that some variable has. -/
def IsKnown (environment : Environment) (name : Text) : Prop :=
  name ≠ [] ∧ '%' ∉ name ∧ (environment.getIgnoringCase? name).isSome

/-- Some sign of a text has something behind it that satisfies `P`. -/
def SomeSign (P : Text → Prop) (text : Text) : Prop :=
  ∃ before behind, text = before ++ '%' :: behind ∧ P behind

/-- A known reference lies in a text. -/
def Inside (environment : Environment) : Text → Prop :=
  SomeSign fun behind => ∃ name rest, behind = name ++ '%' :: rest ∧ IsKnown environment name

/-- A known reference begins in a text and ends with the sign behind the text. -/
def Across (environment : Environment) : Text → Prop := SomeSign (IsKnown environment)

/-- The names of the references are known, no known reference lies in a literal text, and none
begins in a literal text and takes the opening sign of the reference behind. -/
structure Divides (environment : Environment) (text : Text) (division : Division) : Prop where
  source : division.source = text
  known : ∀ reference ∈ division.references, IsKnown environment reference.1
  inside : ∀ chunk ∈ division.chunks, ¬ Inside environment chunk
  across : ∀ chunk ∈ division.chunks.dropLast, ¬ Across environment chunk

/-! ### Signs of a text -/

/-- A sign in a text is the first one, or it lies behind the first one. -/
private theorem sign_position {before rest first behind : Text} (free : '%' ∉ before)
    (same : before ++ '%' :: rest = first ++ '%' :: behind) :
    (first = before ∧ behind = rest) ∨
      ∃ inner, first = before ++ '%' :: inner ∧ rest = inner ++ '%' :: behind := by
  rcases List.append_eq_append_iff.mp same with ⟨more, whole, left⟩ | ⟨more, whole, left⟩
  · cases more with
    | nil => simp_all
    | cons c inner =>
      simp only [List.cons_append, List.cons.injEq] at left
      obtain ⟨rfl, left⟩ := left
      exact .inr ⟨inner, whole, left⟩
  · cases more with
    | nil => simp_all
    | cons c inner =>
      simp only [List.cons_append, List.cons.injEq] at left
      obtain ⟨rfl, _⟩ := left
      exact absurd (whole ▸ List.mem_append_right _ (List.mem_cons_self ..)) free

private theorem not_someSign_of_free {P : Text → Prop} {text : Text} (free : '%' ∉ text) :
    ¬ SomeSign P text := by
  rintro ⟨before, behind, rfl, _⟩
  exact free (List.mem_append_right _ (List.mem_cons_self ..))

private theorem someSign_append {P : Text → Prop} (front : Text) {text : Text}
    (some : SomeSign P text) : SomeSign P (front ++ text) := by
  obtain ⟨before, behind, rfl, holds⟩ := some
  exact ⟨front ++ before, behind, by simp, holds⟩

/-- If the first sign does not have it behind, and a second one stands in front of `rest` if there
is any rest, then a sign of the rest has it behind. -/
private theorem someSign_rest {P : Text → Prop} {before name rest : Text}
    (beforeFree : '%' ∉ before) (nameFree : '%' ∉ name) (head : ∀ c ∈ rest.head?, c = '%')
    (first : ¬ P (name ++ rest)) (some : SomeSign P (before ++ '%' :: name ++ rest)) :
    SomeSign P rest := by
  obtain ⟨front, behind, same, holds⟩ := some
  rw [List.append_assoc, List.cons_append] at same
  rcases sign_position beforeFree same with ⟨_, rfl⟩ | ⟨inner, _, left⟩
  · exact absurd holds first
  · cases rest with
    | nil =>
      rw [List.append_nil] at left
      exact absurd (left ▸ List.mem_append_right _ (List.mem_cons_self ..)) nameFree
    | cons c rest =>
      obtain rfl := head c rfl
      rcases sign_position nameFree left with ⟨_, rfl⟩ | ⟨more, _, rfl⟩
      · exact ⟨[], behind, rfl, holds⟩
      · exact ⟨'%' :: more, behind, rfl, holds⟩

/-! ### Divisions, one reference at a time -/

private theorem divides_nil_iff {environment : Environment} {text front : Text} :
    Divides environment text ⟨front, []⟩ ↔ front = text ∧ ¬ Inside environment front := by
  constructor
  · intro divides
    exact ⟨by simpa [Division.source] using divides.source,
      divides.inside front (by simp [Division.chunks])⟩
  · rintro ⟨rfl, clean⟩
    exact ⟨by simp [Division.source], by simp, by simpa [Division.chunks] using clean,
      by simp [Division.chunks]⟩

private theorem divides_cons_iff {environment : Environment} {text front name chunk : Text}
    {references : List (Text × Text)} :
    Divides environment text ⟨front, (name, chunk) :: references⟩ ↔
      ∃ rest, text = front ++ '%' :: name ++ '%' :: rest ∧ IsKnown environment name ∧
        ¬ Inside environment front ∧ ¬ Across environment front ∧
        Divides environment rest ⟨chunk, references⟩ := by
  constructor
  · rintro ⟨source, known, inside, across⟩
    simp only [Division.chunks, List.map_cons, List.forall_mem_cons, List.dropLast_cons_cons] at *
    exact ⟨_, by simp [← source, Division.source], known.1, inside.1, across.1, rfl, known.2,
      by simpa [Division.chunks] using inside.2, across.2⟩
  · rintro ⟨rest, rfl, nameKnown, clean, apart, source, known, inside, across⟩
    refine ⟨by simp [← source, Division.source], ?_, ?_, ?_⟩
    · simpa only [List.forall_mem_cons] using ⟨nameKnown, known⟩
    · simp only [Division.chunks, List.map_cons, List.forall_mem_cons] at inside ⊢
      exact ⟨clean, inside⟩
    · simp only [Division.chunks, List.map_cons, List.dropLast_cons_cons, List.forall_mem_cons]
      exact ⟨apart, across⟩

section FirstSigns
variable {environment : Environment} {before name rest : Text} {division : Division}

/-- If the first two signs enclose no known name, every division has them in its front. -/
private theorem divides_behind_unknown (beforeFree : '%' ∉ before) (nameFree : '%' ∉ name)
    (unknown : ¬ IsKnown environment name)
    (divides : Divides environment (before ++ '%' :: name ++ '%' :: rest) division) :
    ∃ left, division.front = before ++ '%' :: name ++ left ∧
      Divides environment ('%' :: rest) ⟨left, division.references⟩ := by
  obtain ⟨front, references⟩ := division
  cases references with
  | nil =>
    obtain ⟨whole, clean⟩ := divides_nil_iff.mp divides
    refine ⟨'%' :: rest, whole, divides_nil_iff.mpr ⟨rfl, fun known => clean ?_⟩⟩
    rw [whole]
    exact someSign_append _ known
  | cons reference references =>
    obtain ⟨other, chunk⟩ := reference
    obtain ⟨behind, source, known, clean, apart, later⟩ := divides_cons_iff.mp divides
    simp only [List.append_assoc, List.cons_append] at source
    rcases sign_position beforeFree source with ⟨_, same⟩ | ⟨inner, rfl, left⟩
    · obtain ⟨rfl, _⟩ := Text.front_inj known.2.1 nameFree same
      exact absurd known unknown
    · rcases sign_position nameFree left with ⟨rfl, same⟩ | ⟨more, rfl, same⟩
      · refine ⟨[], by simp, divides_cons_iff.mpr ⟨behind, by simp [← same], known, ?_, ?_, later⟩⟩
        · exact not_someSign_of_free List.not_mem_nil
        · exact not_someSign_of_free List.not_mem_nil
      · have whole : before ++ '%' :: (name ++ '%' :: more) =
            before ++ '%' :: name ++ '%' :: more := by simp
        rw [whole] at clean apart ⊢
        exact ⟨'%' :: more, rfl, divides_cons_iff.mpr ⟨behind, by simp [same], known,
          fun some => clean (someSign_append _ some), fun some => apart (someSign_append _ some),
          later⟩⟩

/-- If the first two signs enclose a known name, every division has its first reference there. -/
private theorem divides_at_known (beforeFree : '%' ∉ before) (known : IsKnown environment name)
    (divides : Divides environment (before ++ '%' :: name ++ '%' :: rest) division) :
    ∃ chunk references, division = ⟨before, (name, chunk) :: references⟩ ∧
      Divides environment rest ⟨chunk, references⟩ := by
  obtain ⟨front, references⟩ := division
  cases references with
  | nil =>
    obtain ⟨rfl, clean⟩ := divides_nil_iff.mp divides
    exact absurd ⟨before, _, by simp, name, rest, rfl, known⟩ clean
  | cons reference references =>
    obtain ⟨other, chunk⟩ := reference
    obtain ⟨behind, source, otherKnown, clean, apart, later⟩ := divides_cons_iff.mp divides
    simp only [List.append_assoc, List.cons_append] at source
    rcases sign_position beforeFree source with ⟨rfl, same⟩ | ⟨inner, rfl, left⟩
    · obtain ⟨rfl, rfl⟩ := Text.front_inj otherKnown.2.1 known.2.1 same
      exact ⟨chunk, references, rfl, later⟩
    · rcases sign_position known.2.1 left with ⟨rfl, _⟩ | ⟨more, rfl, _⟩
      · exact absurd ⟨before, inner, rfl, known⟩ apart
      · exact absurd ⟨before, _, rfl, name, more, rfl, known⟩ clean

private theorem divides_unknown (beforeFree : '%' ∉ before) (nameFree : '%' ∉ name)
    (unknown : ¬ IsKnown environment name) (divides : Divides environment ('%' :: rest) division) :
    Divides environment (before ++ '%' :: name ++ '%' :: rest)
      ⟨before ++ '%' :: name ++ division.front, division.references⟩ := by
  obtain ⟨front, references⟩ := division
  have head : ∀ c ∈ front.head?, c = '%' := by
    intro c first
    obtain ⟨more, rfl⟩ := List.head?_eq_some_iff.mp first
    have source := divides.source
    simp only [Division.source, List.cons_append, List.cons.injEq] at source
    exact source.1
  have clean : ¬ Inside environment front →
      ¬ Inside environment (before ++ '%' :: name ++ front) := by
    intro clean known
    refine clean (someSign_rest beforeFree nameFree head ?_ known)
    rintro ⟨other, behind, same, otherKnown⟩
    cases front with
    | nil =>
      rw [List.append_nil] at same
      exact nameFree (same ▸ List.mem_append_right _ (List.mem_cons_self ..))
    | cons c front =>
      obtain rfl := head c rfl
      obtain ⟨rfl, _⟩ := Text.front_inj otherKnown.2.1 nameFree same.symm
      exact unknown otherKnown
  cases references with
  | nil =>
    obtain ⟨rfl, inside⟩ := divides_nil_iff.mp divides
    exact divides_nil_iff.mpr ⟨rfl, clean inside⟩
  | cons reference references =>
    obtain ⟨other, chunk⟩ := reference
    obtain ⟨behind, source, known, inside, apart, later⟩ := divides_cons_iff.mp divides
    refine divides_cons_iff.mpr
      ⟨behind, by simp [source], known, clean inside, fun some => ?_, later⟩
    refine apart (someSign_rest beforeFree nameFree head ?_ some)
    intro across
    cases front with
    | nil => exact unknown (by simpa using across)
    | cons c front =>
      obtain rfl := head c rfl
      exact across.2.1 (List.mem_append_right _ (List.mem_cons_self ..))

private theorem divides_known (beforeFree : '%' ∉ before) (known : IsKnown environment name)
    (divides : Divides environment rest division) :
    Divides environment (before ++ '%' :: name ++ '%' :: rest)
      ⟨before, (name, division.front) :: division.references⟩ :=
  divides_cons_iff.mpr ⟨rest, rfl, known, not_someSign_of_free beforeFree,
    not_someSign_of_free beforeFree, divides⟩

end FirstSigns

/-! ### The division that expanding makes -/

/-- The division of a text into pieces. -/
private def Division.ofPieces : List Piece → Division
  | [] => ⟨[], []⟩
  | .literal text :: rest => ⟨text ++ (ofPieces rest).front, (ofPieces rest).references⟩
  | .reference name _ :: rest => ⟨[], (name, (ofPieces rest).front) :: (ofPieces rest).references⟩

private theorem value?_isSome_iff {environment : Environment} {name : Text} (free : '%' ∉ name) :
    (Percent.value? environment name).isSome ↔ IsKnown environment name := by
  unfold Percent.value? IsKnown
  split
  · simp_all
  · simp_all

private theorem value?_eq {environment : Environment} {name : Text}
    (known : IsKnown environment name) :
    Percent.value? environment name = environment.getIgnoringCase? name := by
  rw [Percent.value?, if_neg known.1]

private theorem free_or_sign (text : Text) :
    '%' ∉ text ∨ ∃ before behind, text = before ++ '%' :: behind ∧ '%' ∉ before := by
  by_cases sign : '%' ∈ text
  · exact .inr (List.eq_append_cons_of_mem sign)
  · exact .inl sign

/-- The scan goes on either at the second sign of a text or behind it, and ends without one. -/
theorem sign_induction {P : Text → Prop} (free : ∀ text, '%' ∉ text → P text)
    (one : ∀ before behind, '%' ∉ before → '%' ∉ behind → P (before ++ '%' :: behind))
    (two : ∀ before name rest, '%' ∉ before → '%' ∉ name → P ('%' :: rest) → P rest →
      P (before ++ '%' :: name ++ '%' :: rest)) (text : Text) : P text := by
  rcases free_or_sign text with none | ⟨before, behind, rfl, beforeFree⟩
  · exact free text none
  · rcases free_or_sign behind with none | ⟨name, rest, rfl, nameFree⟩
    · exact one before behind beforeFree none
    · have := two before name rest beforeFree nameFree (sign_induction free one two ('%' :: rest))
        (sign_induction free one two rest)
      simpa using this
termination_by text.length
decreasing_by
  all_goals
    subst_vars
    simp
    omega

private theorem pieces_of_free {text : Text} (environment : Environment) (free : '%' ∉ text) :
    Percent.pieces environment text = [.literal text] := by
  have broken := Text.breakAt_of_free (Text.passes_iff.mpr free)
  rw [Percent.pieces]
  split
  · rename_i before shape
    rw [broken] at shape
    cases shape
    rfl
  · rename_i shape
    rw [broken] at shape
    cases shape

private theorem pieces_of_one_sign {before behind : Text} (environment : Environment)
    (beforeFree : '%' ∉ before) (behindFree : '%' ∉ behind) :
    Percent.pieces environment (before ++ '%' :: behind) =
      [.literal (before ++ '%' :: behind)] := by
  rw [Percent.pieces]
  split
  · rename_i shape
    rw [Text.breakAt_char beforeFree] at shape
    cases shape
  · rename_i shape
    rw [Text.breakAt_char beforeFree] at shape
    cases shape
    split
    · rfl
    · rename_i inner
      rw [Text.breakAt_of_free (Text.passes_iff.mpr behindFree)] at inner
      cases inner

private theorem pieces_of_two_signs {before name : Text} (environment : Environment)
    (beforeFree : '%' ∉ before) (nameFree : '%' ∉ name) (rest : Text) :
    Percent.pieces environment (before ++ '%' :: name ++ '%' :: rest) =
      match Percent.value? environment name with
      | none => .literal (before ++ '%' :: name) :: Percent.pieces environment ('%' :: rest)
      | some _ => .literal before :: .reference name ('%' :: name ++ ['%']) ::
          Percent.pieces environment rest := by
  rw [List.append_assoc, List.cons_append, Percent.pieces]
  split
  · rename_i shape
    rw [Text.breakAt_char beforeFree] at shape
    cases shape
  · rename_i shape
    rw [Text.breakAt_char beforeFree] at shape
    cases shape
    split
    · rename_i inner
      rw [Text.breakAt_char nameFree] at inner
      cases inner
    · rename_i inner
      rw [Text.breakAt_char nameFree] at inner
      cases inner
      cases Percent.value? environment name <;> rfl

/-- An unknown name stays, and its closing sign is read again. -/
private theorem expand_unknown {environment : Environment} {before name : Text}
    (beforeFree : '%' ∉ before) (nameFree : '%' ∉ name)
    (missing : Percent.value? environment name = none) (rest : Text) :
    Percent.expand environment (before ++ '%' :: name ++ '%' :: rest) =
      before ++ '%' :: name ++ Percent.expand environment ('%' :: rest) := by
  rw [Percent.expand, pieces_of_two_signs environment beforeFree nameFree, missing,
    List.flatMap_cons, Percent.expand]

/-- A known name gives its value, and the text goes on behind its closing sign. -/
private theorem expand_known {environment : Environment} {before name value : Text}
    (beforeFree : '%' ∉ before) (nameFree : '%' ∉ name)
    (found : Percent.value? environment name = some value) (rest : Text) :
    Percent.expand environment (before ++ '%' :: name ++ '%' :: rest) =
      before ++ value ++ Percent.expand environment rest := by
  rw [Percent.expand, pieces_of_two_signs environment beforeFree nameFree, found]
  simp [Percent.expand, found]

/-- Only the look-ups of names that stand between two neighbouring signs of the text matter. -/
theorem expand_congr {first second : Environment} {text : Text}
    (agree : ∀ before name rest, text = before ++ '%' :: name ++ '%' :: rest → '%' ∉ name →
      first.getIgnoringCase? name = second.getIgnoringCase? name) :
    Percent.expand first text = Percent.expand second text := by
  induction text using sign_induction with
  | free text free =>
    rw [Percent.expand, Percent.expand, pieces_of_free first free, pieces_of_free second free]
    rfl
  | one before behind beforeFree behindFree =>
    rw [Percent.expand, Percent.expand, pieces_of_one_sign first beforeFree behindFree,
      pieces_of_one_sign second beforeFree behindFree]
    rfl
  | two before name rest beforeFree nameFree atSign behind =>
    have here : Percent.value? first name = Percent.value? second name := by
      rw [Percent.value?, Percent.value?, agree before name rest rfl nameFree]
    cases found : Percent.value? first name with
    | none =>
      have same : Percent.expand first ('%' :: rest) = Percent.expand second ('%' :: rest) := by
        refine atSign fun front inner left shape free => ?_
        exact agree (before ++ '%' :: name ++ front) inner left (by simp [shape]) free
      rw [expand_unknown beforeFree nameFree found,
        expand_unknown beforeFree nameFree (here ▸ found), same]
    | some value =>
      have same : Percent.expand first rest = Percent.expand second rest := by
        refine behind fun front inner left shape free => ?_
        exact agree (before ++ '%' :: name ++ '%' :: front) inner left (by simp [shape]) free
      rw [expand_known beforeFree nameFree found,
        expand_known beforeFree nameFree (here ▸ found), same]

/-- A text without two signs has one division, which is the text itself. -/
private theorem divides_few_signs {environment : Environment} {text : Text} {division : Division}
    (few : ∀ before name rest, text ≠ before ++ '%' :: name ++ '%' :: rest) :
    Divides environment text division ↔ division = ⟨text, []⟩ := by
  obtain ⟨front, references⟩ := division
  cases references with
  | nil =>
    rw [divides_nil_iff, Division.mk.injEq, and_iff_left rfl, and_iff_left_iff_imp]
    rintro rfl ⟨before, behind, shape, name, rest, rfl, _⟩
    exact few before name rest (by simpa using shape)
  | cons reference references =>
    rw [divides_cons_iff]
    constructor
    · rintro ⟨rest, shape, _⟩
      exact absurd shape (few _ _ _)
    · intro same
      cases same

private theorem division_of_few_signs {environment : Environment} {text : Text}
    (few : ∀ before name rest, text ≠ before ++ '%' :: name ++ '%' :: rest)
    (whole : Percent.pieces environment text = [.literal text]) :
    (∀ division, Divides environment text division ↔
        division = .ofPieces (Percent.pieces environment text)) ∧
      Percent.expand environment text =
        (Division.ofPieces (Percent.pieces environment text)).expanded environment := by
  simp only [Percent.expand, whole]
  exact ⟨fun division => (divides_few_signs few).trans (by simp [Division.ofPieces]),
    by simp [Division.ofPieces, Division.expanded]⟩

/-- Expanding makes a division, it is the only one, and the values are put into that one. -/
private theorem division_of_pieces (environment : Environment) (text : Text) :
    (∀ division, Divides environment text division ↔
        division = .ofPieces (Percent.pieces environment text)) ∧
      Percent.expand environment text =
        (Division.ofPieces (Percent.pieces environment text)).expanded environment := by
  induction text using sign_induction with
  | free text free =>
    have few : ∀ before name rest, text ≠ before ++ '%' :: name ++ '%' :: rest := by
      rintro before name rest rfl
      simp at free
    exact division_of_few_signs few (pieces_of_free environment free)
  | one before behind beforeFree behindFree =>
    have few : ∀ first name rest,
        before ++ '%' :: behind ≠ first ++ '%' :: name ++ '%' :: rest := by
      intro first name rest same
      rw [List.append_assoc, List.cons_append] at same
      rcases sign_position beforeFree same with ⟨_, rfl⟩ | ⟨inner, _, rfl⟩ <;>
        simp at behindFree
    exact division_of_few_signs few (pieces_of_one_sign environment beforeFree behindFree)
  | two before name rest beforeFree nameFree atSign behind =>
    rw [pieces_of_two_signs environment beforeFree nameFree]
    cases found : Percent.value? environment name with
    | none =>
      have unknown : ¬ IsKnown environment name := by simp [← value?_isSome_iff nameFree, found]
      obtain ⟨unique, expands⟩ := atSign
      refine ⟨fun division => ⟨fun divides => ?_, ?_⟩, ?_⟩
      · obtain ⟨left, front, later⟩ :=
          divides_behind_unknown beforeFree nameFree unknown divides
        obtain ⟨whole, references⟩ := division
        simp only [Division.ofPieces, ← (unique _).mp later, ← front]
      · rintro rfl
        exact divides_unknown beforeFree nameFree unknown ((unique _).mpr rfl)
      · rw [expand_unknown beforeFree nameFree found, expands]
        simp only [Division.ofPieces, Division.expanded, List.append_assoc]
    | some value =>
      have known : IsKnown environment name := (value?_isSome_iff nameFree).mp (by simp [found])
      obtain ⟨unique, expands⟩ := behind
      refine ⟨fun division => ⟨fun divides => ?_, ?_⟩, ?_⟩
      · obtain ⟨chunk, references, rfl, later⟩ := divides_at_known beforeFree known divides
        simp only [Division.ofPieces, ← (unique _).mp later, List.append_nil]
      · rintro rfl
        simpa [Division.ofPieces] using
          divides_known beforeFree known ((unique _).mpr rfl)
      · rw [expand_known beforeFree nameFree found, expands]
        simp [Division.ofPieces, Division.expanded, ← value?_eq known, found]

/-- A text without a known reference stays as it is. -/
theorem expand_of_not_inside {environment : Environment} {text : Text}
    (clean : ¬ Inside environment text) : Percent.expand environment text = text := by
  obtain ⟨unique, expands⟩ := division_of_pieces environment text
  rw [expands, ← (unique _).mp (divides_nil_iff.mpr ⟨rfl, clean⟩)]
  simp [Division.expanded]

/-- If a known reference lies in a text, some value is put in. -/
theorem exists_value_of_inside {environment : Environment} {text : Text}
    (inside : Inside environment text) :
    ∃ front name value behind, environment.getIgnoringCase? name = some value ∧
      Percent.expand environment text = front ++ value ++ behind := by
  obtain ⟨unique, expands⟩ := division_of_pieces environment text
  have divides := (unique _).mpr rfl
  rw [expands]
  generalize Division.ofPieces (Percent.pieces environment text) = division at divides
  obtain ⟨front, references⟩ := division
  cases references with
  | nil =>
    obtain ⟨rfl, clean⟩ := divides_nil_iff.mp divides
    exact absurd inside clean
  | cons reference references =>
    obtain ⟨name, chunk⟩ := reference
    obtain ⟨_, _, known, _⟩ := divides_cons_iff.mp divides
    obtain ⟨value, found⟩ := Option.isSome_iff_exists.mp known.2.2
    exact ⟨front, name, value, Division.expanded environment ⟨chunk, references⟩, found,
      by simp [Division.expanded, found]⟩

/-- A text has exactly one division, and expanding puts the values into it. So an unknown
reference stays and its closing sign may open the next one, while the sign that closes a known one
is used up, and no value is expanded again. -/
theorem percent_division_unique (environment : Environment) (text : Text) :
    (∃! division, Divides environment text division) ∧
      (∀ division, Divides environment text division →
        Reference.expand .percent environment text = division.expanded environment) ∧
      (∀ before name rest, '%' ∉ before → '%' ∉ name → ¬ IsKnown environment name →
        Reference.expand .percent environment (before ++ '%' :: name ++ '%' :: rest) =
          before ++ '%' :: name ++ Reference.expand .percent environment ('%' :: rest)) ∧
      ∀ before name rest value, '%' ∉ before → name ≠ [] → '%' ∉ name →
        environment.getIgnoringCase? name = some value →
        Reference.expand .percent environment (before ++ '%' :: name ++ '%' :: rest) =
          before ++ value ++ Reference.expand .percent environment rest := by
  obtain ⟨unique, expands⟩ := division_of_pieces environment text
  refine ⟨⟨_, (unique _).mpr rfl, fun division => (unique division).mp⟩, ?_, ?_, ?_⟩
  · intro division divides
    rw [(unique division).mp divides]
    exact expands
  · intro before name rest beforeFree nameFree unknown
    have missing : Percent.value? environment name = none := by
      rwa [← value?_isSome_iff nameFree, Option.not_isSome_iff_eq_none] at unknown
    exact expand_unknown beforeFree nameFree missing rest
  · intro before name rest value beforeFree nonempty nameFree found
    have known : IsKnown environment name := ⟨nonempty, nameFree, by simp [found]⟩
    exact expand_known beforeFree nameFree ((value?_eq known).trans found) rest

/-- The sign behind the unknown `NOPE` opens a reference to `home`, the sign behind that one opens
none, and the value with signs of its own stays as it is. -/
theorem percent_division_unique_shared_sign :
    let environment : Environment := [("home".toList, "%b%".toList), ("b".toList, ['v'])]
    let division : Division := ⟨"%NOPE".toList, [("HOME".toList, "B%".toList)]⟩
    Divides environment "%NOPE%HOME%B%".toList division ∧
      Reference.expand .percent environment "%NOPE%HOME%B%".toList = "%NOPE%b%B%".toList ∧
      ¬ IsKnown environment "NOPE".toList ∧
      Reference.expand .percent environment "%NOPE%HOME%B%".toList =
        "%NOPE".toList ++ Reference.expand .percent environment "%HOME%B%".toList ∧
      environment.getIgnoringCase? "HOME".toList = some "%b%".toList ∧
      Reference.expand .percent environment "%HOME%B%".toList =
        "%b%".toList ++ Reference.expand .percent environment "B%".toList := by
  intro environment division
  obtain ⟨_, expands, atSign, behind⟩ :=
    percent_division_unique environment "%NOPE%HOME%B%".toList
  have unknown : ¬ IsKnown environment "NOPE".toList := fun known => absurd known.2.2 (by decide)
  have found : environment.getIgnoringCase? "HOME".toList = some "%b%".toList := by decide
  have known : IsKnown environment "HOME".toList := ⟨by decide, by decide, by decide⟩
  have last : Divides environment "B%".toList ⟨"B%".toList, []⟩ := by
    refine (divides_few_signs fun before name rest same => ?_).mpr rfl
    have := congrArg (List.count '%') same
    simp at this
    omega
  have divides : Divides environment "%NOPE%HOME%B%".toList division :=
    divides_unknown List.not_mem_nil (by decide) unknown
      (divides_known List.not_mem_nil known last)
  exact ⟨divides, (expands division divides).trans (by decide), unknown,
    atSign [] _ _ List.not_mem_nil (by decide) unknown, found,
    behind [] _ _ _ List.not_mem_nil (by decide) (by decide) found⟩

end DebugLaunch.PercentDivision
