import DebugLaunch.Proofs.DollarReferences
import Mathlib.Data.List.Basic

/-! Behind a dollar sign, what is a reference is read off the text, and no environment is needed for
that. A text is divided here into literal text and written references by rules that never look at a
variable. There is one such division, and every environment puts its values into this one. -/
namespace DebugLaunch.DollarDivision
open Reference Dollar DollarReferences

/-- A reference as it is written: a name in braces, or a bare one. -/
inductive Written where
  | braced (name : Text)
  | bare (name : Text)
  deriving DecidableEq, Repr

namespace Written

def name : Written → Text
  | braced name => name
  | bare name => name

/-- What stands behind the sign of a reference. -/
def marked : Written → Text
  | braced name => '\x7b' :: name ++ ['\x7d']
  | bare name => name

def source (reference : Written) : Text := '$' :: reference.marked

/-- A name in braces ends at the first closing one. A bare name has word characters only, and all of
them up to the text behind it. -/
def Ends (rest : Text) : Written → Prop
  | braced name => '\x7d' ∉ name
  | bare name => name ≠ [] ∧ (∀ c ∈ name, Text.isWord c) ∧ ∀ c ∈ rest.head?, ¬ Text.isWord c

/-- The value of the variable with exactly the name of the reference. Without a name or without such
a variable, the reference stays as it is written. -/
def expanded (environment : Environment) (reference : Written) : Text :=
  if reference.name = [] then reference.source
  else (environment.get? reference.name).getD reference.source

end Written

/-- A text cut at references: the text in front of them, and each of them with the text behind it.
-/
structure Division where
  front : Text
  references : List (Written × Text)
  deriving DecidableEq, Repr

/-- The text that was divided. -/
def Division.source (division : Division) : Text :=
  division.front ++ division.references.flatMap fun part => part.1.source ++ part.2

/-- The text with each reference expanded, and the literal text between them as it was. -/
def Division.expanded (environment : Environment) (division : Division) : Text :=
  division.front ++ division.references.flatMap fun part => part.1.expanded environment ++ part.2

/-- No sign in a text opens a reference, also none that would go on in the text behind it. -/
def Literal (text rest : Text) : Prop :=
  ∀ before behind, text = before ++ '$' :: behind → ¬ Opens Text.isWord (behind ++ rest)

/-- A division has literal text up to the first sign that opens a reference, that reference, and a
division of the rest. -/
inductive Divides : Text → Division → Prop where
  | last {front : Text} (literal : Literal front []) : Divides front ⟨front, []⟩
  | cut {front rest chunk : Text} {reference : Written} {references : List (Written × Text)}
      (literal : Literal front (reference.source ++ rest)) (ends : reference.Ends rest)
      (behind : Divides rest ⟨chunk, references⟩) :
      Divides (front ++ (reference.source ++ rest)) ⟨front, (reference, chunk) :: references⟩

section
variable {environment first second : Environment} {text rest front behind : Text}
  {reference other : Written} {division : Division} {c : Char}

/-! ### Written references -/

/-- What is written is read. -/
private theorem reference?_written (ends : reference.Ends rest) :
    reference? (reference.marked ++ rest) =
      some (.reference reference.name reference.source, rest) := by
  cases reference with
  | braced name =>
    have broken : Text.breakAt (· = '\x7d') (name ++ '\x7d' :: rest) = (name, '\x7d' :: rest) :=
      Text.breakAt_char ends rest
    simp only [Written.marked, List.cons_append, List.append_assoc, List.nil_append, reference?,
      broken]
    rfl
  | bare name =>
    obtain ⟨nonempty, named, stops⟩ := ends
    have broken := breakAt_run named stops
    obtain ⟨first, more, rfl⟩ := List.exists_cons_of_ne_nil nonempty
    have noBrace : first ≠ '\x7b' := by
      rintro rfl
      exact absurd (named _ (List.mem_cons_self ..)) (by decide)
    rw [Written.marked, List.cons_append] at *
    rw [reference?]
    · rw [broken]
      rfl
    · exact fun _ shape => noBrace (List.cons.inj shape).1

/-- What is read is written. -/
private theorem exists_written {piece : Piece} (found : reference? text = some (piece, rest)) :
    ∃ reference : Written, reference.Ends rest ∧ text = reference.marked ++ rest ∧
      piece = .reference reference.name reference.source := by
  rcases shape_of_reference? found with
    ⟨name, closes, rfl, rfl⟩ | ⟨name, nonempty, named, ends, rfl, rfl⟩
  · exact ⟨.braced name, closes, by simp [Written.marked], rfl⟩
  · exact ⟨.bare name, ⟨nonempty, named, ends⟩, rfl, rfl⟩

private theorem opens_written (ends : reference.Ends rest) :
    Opens Text.isWord (reference.marked ++ rest) := by
  cases reference with
  | braced name => exact .inr ⟨name, rest, by simp [Written.marked]⟩
  | bare name =>
    obtain ⟨nonempty, named, _⟩ := ends
    obtain ⟨first, more, rfl⟩ := List.exists_cons_of_ne_nil nonempty
    exact .inl ⟨first, rfl, named first (List.mem_cons_self ..)⟩

/-- Two references that a text begins with are one. -/
private theorem written_unique (ends : reference.Ends rest) (otherEnds : other.Ends behind)
    (same : reference.source ++ rest = other.source ++ behind) :
    reference = other ∧ rest = behind := by
  have marked : reference.marked ++ rest = other.marked ++ behind := (List.cons.inj same).2
  have read := reference?_written otherEnds
  rw [← marked, reference?_written ends, Option.some.injEq, Prod.mk.injEq,
    Piece.reference.injEq] at read
  obtain ⟨⟨sameName, sameSource⟩, rfl⟩ := read
  refine ⟨?_, rfl⟩
  have lengths := congrArg List.length sameSource
  -- braces are two characters more than a bare name
  cases reference with
  | braced name =>
    cases other with
    | braced otherName => exact congrArg Written.braced sameName
    | bare otherName =>
      obtain rfl : name = otherName := sameName
      simp [Written.source, Written.marked] at lengths
      omega
  | bare name =>
    cases other with
    | braced otherName =>
      obtain rfl : name = otherName := sameName
      simp [Written.source, Written.marked] at lengths
    | bare otherName => exact congrArg Written.bare sameName

/-! ### Divisions, one character or reference at a time -/

private theorem literal_nil (rest : Text) : Literal [] rest := by
  rintro before behind same
  simp at same

private theorem literal_cons_iff :
    Literal (c :: front) rest ↔
      (c = '$' → ¬ Opens Text.isWord (front ++ rest)) ∧ Literal front rest := by
  constructor
  · refine fun literal => ⟨fun sign => literal [] front (by simp [sign]), ?_⟩
    rintro before behind rfl
    exact literal (c :: before) behind rfl
  · rintro ⟨atSign, literal⟩ before behind same
    cases before with
    | nil =>
      obtain ⟨sign, rfl⟩ := List.cons.inj same
      exact atSign sign
    | cons d before => exact literal before behind (List.cons.inj same).2

private theorem divides_nil_iff : Divides [] division ↔ division = ⟨[], []⟩ := by
  constructor
  · intro divides
    generalize empty : ([] : Text) = text at divides
    cases divides with
    | last =>
      subst empty
      rfl
    | cut => simp [Written.source] at empty
  · rintro rfl
    exact .last (literal_nil [])

/-- A character that opens no reference is literal in every division. -/
private theorem divides_cons_iff (kept : c = '$' → ¬ Opens Text.isWord behind) :
    Divides (c :: behind) division ↔
      ∃ front references, division = ⟨c :: front, references⟩ ∧
        Divides behind ⟨front, references⟩ := by
  constructor
  · intro divides
    generalize whole : c :: behind = text at divides
    cases divides with
    | last literal =>
      subst whole
      exact ⟨_, _, rfl, .last (literal_cons_iff.mp literal).2⟩
    | @cut front rest chunk reference references literal ends later =>
      cases front with
      | nil =>
        obtain ⟨rfl, rfl⟩ := List.cons.inj whole
        exact absurd (opens_written ends) (kept rfl)
      | cons d front =>
        obtain ⟨rfl, rfl⟩ := List.cons.inj whole
        exact ⟨_, _, rfl, .cut (literal_cons_iff.mp literal).2 ends later⟩
  · rintro ⟨front, references, rfl, divides⟩
    generalize same : Division.mk front references = division at divides
    cases divides with
    | last literal =>
      cases same
      exact .last (literal_cons_iff.mpr ⟨by simpa using kept, literal⟩)
    | cut literal ends later =>
      cases same
      exact .cut (literal_cons_iff.mpr ⟨kept, literal⟩) ends later

/-- A reference at the front of a text is the first one of every division. -/
private theorem divides_written_iff (ends : reference.Ends rest) :
    Divides (reference.source ++ rest) division ↔
      ∃ chunk references, division = ⟨[], (reference, chunk) :: references⟩ ∧
        Divides rest ⟨chunk, references⟩ := by
  have opens := opens_written ends
  constructor
  · intro divides
    generalize whole : reference.source ++ rest = text at divides
    cases divides with
    | last literal => exact absurd (by simpa using opens) (literal [] _ whole.symm)
    | @cut front otherRest chunk other references literal otherEnds later =>
      cases front with
      | nil =>
        obtain ⟨rfl, rfl⟩ := written_unique ends otherEnds whole
        exact ⟨_, _, rfl, later⟩
      | cons d front =>
        obtain ⟨rfl, marked⟩ := List.cons.inj whole
        change reference.marked ++ rest = front ++ (other.source ++ otherRest) at marked
        rw [marked] at opens
        exact absurd opens (literal [] front rfl)
  · rintro ⟨chunk, references, rfl, divides⟩
    exact @Divides.cut [] rest chunk reference references (literal_nil _) ends divides

/-! ### The division that expanding makes -/

theorem source_of_divides (divides : Divides text division) : division.source = text := by
  induction divides with
  | last => simp [Division.source]
  | cut _ _ _ ih =>
    simp only [Division.source, List.flatMap_cons] at ih ⊢
    simp [← ih]

private theorem divides_cons_eq_iff {references : List (Written × Text)}
    (kept : c = '$' → ¬ Opens Text.isWord behind)
    (unique : ∀ other, Divides behind other ↔ other = ⟨front, references⟩) (other : Division) :
    Divides (c :: behind) other ↔ other = ⟨c :: front, references⟩ := by
  simp only [divides_cons_iff kept, unique, Division.mk.injEq]
  constructor
  · rintro ⟨_, _, rfl, rfl, rfl⟩
    rfl
  · rintro rfl
    exact ⟨_, _, rfl, rfl, rfl⟩

private theorem divides_written_eq_iff {references : List (Written × Text)}
    (ends : reference.Ends rest)
    (unique : ∀ other, Divides rest other ↔ other = ⟨front, references⟩) (other : Division) :
    Divides (reference.source ++ rest) other ↔ other = ⟨[], (reference, front) :: references⟩ := by
  simp only [divides_written_iff ends, unique, Division.mk.injEq]
  constructor
  · rintro ⟨_, _, rfl, rfl, rfl⟩
    rfl
  · rintro rfl
    exact ⟨_, _, rfl, rfl, rfl⟩

private theorem getD_value? (environment : Environment) (reference : Written) :
    (value? environment reference.name).getD reference.source =
      reference.expanded environment := by
  rw [value?, Written.expanded]
  split <;> rfl

/-- A text has one division, and expanding puts the values into that one. -/
private theorem exists_division (text : Text) :
    ∃ division, (∀ other, Divides text other ↔ other = division) ∧
      ∀ environment, Dollar.expand environment text = division.expanded environment := by
  fun_induction pieces text with
  | case1 => exact ⟨⟨[], []⟩, fun _ => divides_nil_iff, fun _ => expand_nil⟩
  | case2 behind piece rest found ih =>
    obtain ⟨⟨chunk, references⟩, unique, expands⟩ := ih
    obtain ⟨reference, ends, rfl, rfl⟩ := exists_written found
    refine ⟨⟨[], (reference, chunk) :: references⟩, divides_written_eq_iff ends unique, ?_⟩
    intro environment
    rw [expand_reference found, expands, getD_value?]
    simp [Division.expanded]
  | case3 behind missing ih =>
    obtain ⟨⟨front, references⟩, unique, expands⟩ := ih
    have lone := not_opens_of_no_reference missing
    refine ⟨⟨'$' :: front, references⟩, divides_cons_eq_iff (fun _ => lone) unique, ?_⟩
    intro environment
    rw [expand_lone missing, expands]
    rfl
  | case4 c behind noSign ih =>
    obtain ⟨⟨front, references⟩, unique, expands⟩ := ih
    refine ⟨⟨c :: front, references⟩, divides_cons_eq_iff (absurd · noSign) unique, ?_⟩
    intro environment
    rw [expand_other noSign, expands]
    rfl

/-- Only the variables that are referred to by name matter. -/
private theorem expanded_congr (agree : ∀ part ∈ division.references, part.1.name ≠ [] →
      first.get? part.1.name = second.get? part.1.name) :
    division.expanded first = division.expanded second := by
  rw [Division.expanded, Division.expanded, List.append_cancel_left_eq]
  refine List.flatMap_congr fun part member => ?_
  rw [List.append_cancel_right_eq, Written.expanded, Written.expanded]
  split
  · rfl
  · rw [agree part member ‹_›]

/-- A text has exactly one division into literal text and references, which needs no environment and
loses nothing of the text. In every environment, expanding leaves the literal text as it is and puts
the value of exactly the name in the place of each reference, as far as it has a name and the
variable is set; nothing of a value is expanded again. So environments that agree on the variables
referred to give the same text. -/
theorem dollar_division_of_text (text : Text) :
    ∃ division, (∀ other, Divides text other ↔ other = division) ∧ division.source = text ∧
      (∀ environment,
        Reference.expand .dollar environment text = division.expanded environment) ∧
      ∀ first second : Environment,
        (∀ part ∈ division.references, part.1.name ≠ [] →
          first.get? part.1.name = second.get? part.1.name) →
        Reference.expand .dollar first text = Reference.expand .dollar second text := by
  obtain ⟨division, unique, expands⟩ := exists_division text
  refine ⟨division, unique, source_of_divides ((unique division).mpr rfl), expands, ?_⟩
  intro first second agree
  rw [Reference.expand, expands, expands, expanded_congr agree]

end

/-- A sign in front of a reference, and braces with and without a name. The value that is put in
looks like a reference to the variable in which the environments differ. -/
theorem dollar_division_of_text_value_with_sign :
    let text := ['$', '$', 'A', '-', '$', '\x7b', 'A', '\x7d', '$', '\x7b', '\x7d']
    let division : Division :=
      ⟨['$'], [(.bare ['A'], ['-']), (.braced ['A'], []), (.braced [], [])]⟩
    let first : Environment := [(['A'], ['$', 'B']), (['B'], ['b']), ([], ['c'])]
    let second : Environment := [(['A'], ['$', 'B'])]
    Divides text division ∧
      Reference.expand .dollar first text =
        ['$', '$', 'B', '-', '$', 'B', '$', '\x7b', '\x7d'] ∧
      (∀ part ∈ division.references, part.1.name ≠ [] →
        first.get? part.1.name = second.get? part.1.name) ∧
      Reference.expand .dollar first text = Reference.expand .dollar second text := by
  intro text division first second
  have lone : Literal ['$'] (text.drop 1) := by
    refine literal_cons_iff.mpr ⟨fun _ opens => ?_, literal_nil _⟩
    rcases opens with ⟨c, isFirst, word⟩ | ⟨name, rest, same⟩
    · cases isFirst
      exact absurd word (by decide)
    · cases (List.cons.inj same).1
  have dash : Literal ['-'] (text.drop 4) :=
    literal_cons_iff.mpr ⟨fun sign => absurd sign (by decide), literal_nil _⟩
  have nameless : Divides (text.drop 8) ⟨[], [(.braced [], [])]⟩ :=
    @Divides.cut [] [] [] (.braced []) [] (literal_nil _) List.not_mem_nil (.last (literal_nil _))
  have named : Divides (text.drop 3) ⟨['-'], [(.braced ['A'], []), (.braced [], [])]⟩ :=
    @Divides.cut ['-'] _ [] (.braced ['A']) _ dash (by decide : '\x7d' ∉ ['A']) nameless
  have bare : (Written.bare ['A']).Ends (text.drop 3) :=
    ⟨by decide, List.forall_mem_singleton.mpr (by decide), fun c first => by cases first; decide⟩
  have divides : Divides text division := @Divides.cut ['$'] _ ['-'] _ _ lone bare named
  obtain ⟨other, unique, _, expands, alike⟩ := dollar_division_of_text text
  obtain rfl := (unique division).mp divides
  have agree : ∀ part ∈ division.references, part.1.name ≠ [] →
      first.get? part.1.name = second.get? part.1.name := by
    decide
  exact ⟨divides, (expands first).trans (by decide), agree, alike first second agree⟩

end DebugLaunch.DollarDivision
