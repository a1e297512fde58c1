import DebugLaunch.Context
import Mathlib.Data.List.Forall2

/-! A path may come from a system with either slash, and both separate its components. The portable
form of a path has these components behind one kind of slash; only a drive at the front loses its
colon. Nothing of a path is seen but through its text with forward slashes, so that turning slashes
around changes nothing, and what has forward slashes and begins with one is left alone. -/
namespace DebugLaunch.PortablePaths

/-- Either slash separates the components of a path. -/
def isSeparator (c : Char) : Bool := c = '/' || c = '\\'

/-- The components of a path: what stands between separators and is not empty. -/
def components (path : Text) : List Text := (path.splitOnP isSeparator).filter (· ≠ [])

/-- The paths are alike, apart from which slash stands at a place. -/
def AlikeButSlashes (path other : Text) : Prop :=
  List.Forall₂ (fun c d => c = d ∨ isSeparator c ∧ isSeparator d) path other

/-- A path begins with a drive: an ASCII letter and a colon. -/
def hasDrive : Text → Bool
  | letter :: ':' :: _ => letter.isAlpha
  | _ => false

/-- Components of which the first one is cut behind the letter of its drive. The colon is left out,
and so is what is behind it if that is nothing. -/
def cutDrive : List Text → List Text
  | (letter :: ':' :: behind) :: others =>
    [letter] :: if behind = [] then others else behind :: others
  | parts => parts

/-- A path with forward slashes only. -/
def forward (path : Text) : Text := path.map fun c => if c = '\\' then '/' else c

/-! ### Separators -/

section Separators
variable {path other : Text}

theorem not_mem_forward (path : Text) : '\\' ∉ forward path := by
  simp only [forward, List.mem_map, not_exists, not_and]
  intro c _
  split <;> simp_all

theorem forward_of_not_mem (free : '\\' ∉ path) : forward path = path := by
  conv_rhs => rw [← List.map_id path]
  refine List.map_congr_left fun c inside => if_neg ?_
  rintro rfl
  exact free inside

/-- Exactly a path without backslashes has forward slashes only. -/
theorem forward_eq_self_iff : forward path = path ↔ '\\' ∉ path :=
  ⟨fun same => same ▸ not_mem_forward path, forward_of_not_mem⟩

/-- Paths that are alike but for their slashes are one path with forward slashes. -/
theorem forward_eq_of_alike (alike : AlikeButSlashes path other) :
    forward path = forward other := by
  induction alike with
  | nil => rfl
  | cons first _ ih =>
    simp only [forward, List.map_cons, List.cons.injEq]
    refine ⟨?_, ih⟩
    rcases first with rfl | ⟨one, two⟩
    · rfl
    · simp only [isSeparator, Bool.or_eq_true, decide_eq_true_eq] at one two
      rcases one with rfl | rfl <;> rcases two with rfl | rfl <;> rfl

/-- A text is cut alike by tests that agree on its characters. -/
theorem splitOnP_congr {p q : Char → Bool} {text : Text} (agree : ∀ c ∈ text, p c = q c) :
    text.splitOnP p = text.splitOnP q := by
  induction text with
  | nil => rfl
  | cons c rest ih =>
    rw [List.splitOnP_cons_eq_if_modifyHead, List.splitOnP_cons_eq_if_modifyHead,
      agree c (List.mem_cons_self ..), ih fun d inside => agree d (List.mem_cons_of_mem _ inside)]

/-- Without backslashes, only forward slashes separate. -/
theorem splitOnP_slash (free : '\\' ∉ path) :
    path.splitOnP (· = '/') = path.splitOnP isSeparator := by
  refine splitOnP_congr fun c inside => ?_
  have other : c ≠ '\\' := by
    rintro rfl
    exact free inside
  simp [isSeparator, other]

/-- The separators are where they were, and nothing else is changed. -/
theorem splitOnP_forward (path : Text) :
    (forward path).splitOnP isSeparator = path.splitOnP isSeparator := by
  induction path with
  | nil => rfl
  | cons c rest ih =>
    rw [forward, List.map_cons, List.splitOnP_cons_eq_if_modifyHead,
      List.splitOnP_cons_eq_if_modifyHead]
    rw [forward] at ih
    rw [ih]
    by_cases back : c = '\\'
    · subst back
      rfl
    · rw [if_neg back]

theorem components_forward (path : Text) : components (forward path) = components path := by
  rw [components, splitOnP_forward, components]

/-- A separator stands in no component. -/
theorem isSeparator_of_mem_splitOnP {part : Text} (member : part ∈ path.splitOnP isSeparator) :
    ∀ c ∈ part, isSeparator c = false := by
  induction path generalizing part with
  | nil => simp_all [List.splitOnP_nil]
  | cons c rest ih =>
    rw [List.splitOnP_cons_eq_if_modifyHead] at member
    split at member
    · rcases List.mem_cons.mp member with rfl | member
      · simp
      · exact ih member
    · rename_i noSeparator
      obtain ⟨first, others, cut⟩ :=
        List.exists_cons_of_ne_nil (List.splitOnP_ne_nil isSeparator rest)
      rw [cut] at member ih
      rcases List.mem_cons.mp member with rfl | member
      · rw [List.forall_mem_cons]
        exact ⟨by simpa using noSeparator, ih (List.mem_cons_self ..)⟩
      · exact ih (List.mem_cons_of_mem _ member)

end Separators

/-! ### Portable form -/

section Portable
variable {path rest : Text} {letter : Char}

theorem portablePath_forward (path : Text) : portablePath (forward path) = portablePath path := by
  have same := forward_of_not_mem (not_mem_forward path)
  simp only [forward] at same
  simp only [portablePath, forward, same]

theorem hasDrive_forward (path : Text) : hasDrive (forward path) = hasDrive path := by
  match path with
  | [] => rfl
  | [c] => rfl
  | c :: d :: rest =>
    by_cases colon : d = ':'
    · subst colon
      by_cases back : c = '\\'
      · subst back
        rfl
      · simp [forward, hasDrive, back]
    · have other : (if d = '\\' then '/' else d) ≠ ':' := by
        split <;> simp_all
      simp [forward, hasDrive, colon, other]

/-- What is portable already stays as it is. -/
theorem portablePath_slash (free : '\\' ∉ rest) : portablePath ('/' :: rest) = '/' :: rest := by
  have same : forward ('/' :: rest) = '/' :: rest := forward_of_not_mem (by simpa using free)
  rw [forward] at same
  simp only [portablePath, same]

/-- The portable form of a path from the root only turns its backslashes. -/
theorem portablePath_rooted (rest : Text) : portablePath ('/' :: rest) = forward ('/' :: rest) := by
  have restFree : '\\' ∉ forward rest := not_mem_forward rest
  rw [← portablePath_forward]
  exact portablePath_slash restFree

theorem components_slash (rest : Text) : components ('/' :: rest) = components rest := by
  have separates : isSeparator '/' := rfl
  have cut := List.splitOnP_append_cons [] rest separates
  rw [List.nil_append] at cut
  simp [components, cut, List.splitOnP_nil]

theorem not_isSeparator_of_isAlpha (isLetter : letter.isAlpha) : isSeparator letter = false := by
  simp only [isSeparator, Bool.or_eq_false_iff, decide_eq_false_iff_not]
  constructor <;> rintro rfl <;> exact absurd isLetter (by decide)

/-- The drive keeps its letter, and the components behind the colon are those behind the letter. -/
theorem cutDrive_components (isLetter : letter.isAlpha) (rest : Text) :
    cutDrive (components (letter :: ':' :: rest)) = [letter] :: components rest := by
  have noColon : isSeparator ':' = false := rfl
  obtain ⟨first, others, cut⟩ := List.exists_cons_of_ne_nil (List.splitOnP_ne_nil isSeparator rest)
  by_cases empty : first = [] <;>
    simp [components, List.splitOnP_cons_eq_if_modifyHead, not_isSeparator_of_isAlpha isLetter,
      noColon, cut, cutDrive, empty]

/-- A letter with nothing or a slash behind it is a component. -/
theorem components_letter (isLetter : letter.isAlpha) (ends : ∀ c ∈ rest.head?, c = '/') :
    components (letter :: rest) = [letter] :: components rest := by
  have letterFree : ∀ c ∈ [letter], isSeparator c = false := by
    simpa using not_isSeparator_of_isAlpha isLetter
  cases rest with
  | nil =>
    rw [components, List.splitOnP_eq_singleton (by simpa using letterFree)]
    rfl
  | cons c rest =>
    obtain rfl := ends c rfl
    have cut := List.splitOnP_append_cons_of_forall_mem letterFree '/' rfl rest
    rw [List.singleton_append] at cut
    rw [components_slash, components, cut, components, List.filter_cons_of_pos (by simp)]

/-- Behind the letter of a drive, a slash in front of the rest is no second one. -/
theorem portablePath_drive (isLetter : letter.isAlpha) (free : '\\' ∉ rest) :
    ∃ behind, portablePath (letter :: ':' :: rest) = '/' :: letter :: behind ∧ '\\' ∉ behind ∧
      (∀ c ∈ behind.head?, c = '/') ∧ components behind = components rest := by
  have letterFree : letter ≠ '\\' := by
    rintro rfl
    exact absurd isLetter (by decide)
  have same := forward_of_not_mem free
  rw [forward] at same
  simp only [portablePath, List.map_cons, if_neg letterFree, same]
  split
  · rename_i other
    cases other
  · rename_i other
    obtain ⟨rfl, _⟩ := List.cons.inj other
    exact absurd isLetter (by decide)
  · rename_i drive
    obtain ⟨rfl, same⟩ := List.cons.inj drive
    obtain rfl := (List.cons.inj same).2
    rw [if_pos isLetter]
    split
    · exact ⟨[], rfl, by simp, by simp, rfl⟩
    · exact ⟨[], rfl, by simp, by simp, (components_slash []).symm⟩
    · exact ⟨_, rfl, free, by simp, rfl⟩
    · exact ⟨_, rfl, by simpa using free, by simp, components_slash _⟩
  · rename_i other
    exact absurd rfl (other letter rest)

/-- Any other path gets a slash in front. -/
theorem portablePath_relative (nonempty : path ≠ []) (relative : path.head? ≠ some '/')
    (free : '\\' ∉ path) (driveless : hasDrive path = false) : portablePath path = '/' :: path := by
  have same := forward_of_not_mem free
  rw [forward] at same
  unfold portablePath
  simp only [same]
  split
  · exact absurd rfl nonempty
  · exact absurd rfl relative
  · rw [if_neg (by simpa [hasDrive] using driveless)]
  · rfl

/-- The portable form of a path with forward slashes is a slash and a text with the components of
the path, where a drive is cut. -/
theorem shape_portablePath (nonempty : path ≠ []) (free : '\\' ∉ path) :
    ∃ rest, portablePath path = '/' :: rest ∧ '\\' ∉ rest ∧
      components rest = if hasDrive path then cutDrive (components path) else components path := by
  by_cases drive : hasDrive path
  · obtain ⟨letter, rest, rfl, isLetter⟩ :
        ∃ letter rest, path = letter :: ':' :: rest ∧ letter.isAlpha := by
      unfold hasDrive at drive
      split at drive
      · exact ⟨_, _, rfl, drive⟩
      · cases drive
    simp only [List.mem_cons, not_or] at free
    obtain ⟨behind, shape, behindFree, ends, same⟩ := portablePath_drive isLetter free.2.2
    refine ⟨letter :: behind, shape, by simp [free.1, behindFree], ?_⟩
    rw [if_pos drive, cutDrive_components isLetter, components_letter isLetter ends, same]
  · rw [if_neg drive]
    by_cases absolute : path.head? = some '/'
    · obtain ⟨rest, rfl⟩ := List.head?_eq_some_iff.mp absolute
      have restFree : '\\' ∉ rest := fun inside => free (List.mem_cons_of_mem _ inside)
      exact ⟨rest, portablePath_slash restFree, restFree, (components_slash rest).symm⟩
    · exact ⟨path, portablePath_relative nonempty absolute free (by simpa using drive), free, rfl⟩

end Portable

/-- The portable form of a path is empty for the empty path only, and else begins with a slash; it
has no backslashes, is its own portable form, and does not depend on which way the slashes of the
path lean. Between its slashes stand the components of the path, where a drive in front has lost its
colon. -/
theorem portable_form_of_path (path : Text) :
    (portablePath path = [] ↔ path = []) ∧
      (path ≠ [] → (portablePath path).head? = some '/') ∧
      '\\' ∉ portablePath path ∧
      portablePath (portablePath path) = portablePath path ∧
      (∀ other, AlikeButSlashes path other → portablePath other = portablePath path) ∧
      ((portablePath path).splitOnP (· = '/')).filter (· ≠ []) =
        if hasDrive path then cutDrive (components path) else components path := by
  have respelled : ∀ other, AlikeButSlashes path other →
      portablePath other = portablePath path := by
    intro other alike
    rw [← portablePath_forward other, ← forward_eq_of_alike alike, portablePath_forward]
  by_cases empty : path = []
  · subst empty
    exact ⟨by simp [portablePath], by simp, by simp [portablePath], rfl, respelled, rfl⟩
  · have nonempty : forward path ≠ [] := by simpa [forward] using empty
    obtain ⟨rest, shape, free, same⟩ := shape_portablePath nonempty (not_mem_forward path)
    rw [portablePath_forward] at shape
    rw [hasDrive_forward, components_forward] at same
    have wholeFree : '\\' ∉ portablePath path := by simpa [shape] using free
    refine ⟨by simp [shape, empty], by simp [shape], wholeFree, ?_, respelled, ?_⟩
    · rw [shape, portablePath_slash free]
    · rw [splitOnP_slash wholeFree, ← same, ← components_slash rest, ← shape, components]

/-- A drive without a slash behind it, and slashes of both kinds, some of them doubled. -/
theorem portable_form_of_path_drive :
    let path := "c:x\\y//z\\".toList
    let other := "c:x/y\\/z/".toList
    path ≠ [] ∧ (portablePath path).head? = some '/' ∧ AlikeButSlashes path other ∧
      portablePath other = portablePath path ∧ portablePath path = "/c/x/y//z/".toList ∧
      ((portablePath path).splitOnP (· = '/')).filter (· ≠ []) = [['c'], ['x'], ['y'], ['z']] := by
  intro path other
  obtain ⟨_, absolute, _, _, respelled, parts⟩ := portable_form_of_path path
  have alike : AlikeButSlashes path other := by
    unfold AlikeButSlashes
    decide
  exact ⟨by decide, absolute (by decide), alike, respelled other alike, by decide,
    parts.trans (by decide)⟩

end DebugLaunch.PortablePaths
