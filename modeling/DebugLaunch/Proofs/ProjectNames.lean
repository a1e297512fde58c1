import DebugLaunch.Proofs.PortablePaths

/-! A project that is selected without a name has the name of its directory, which is the last
component of its root, whichever way the slashes lean. Slashes and single dots at the end of a root
add no component, so they do not change the name. What a context was made from can be read off the
context: its roots and its name make the same context again. -/
namespace DebugLaunch.ProjectNames
open PortablePaths

/-- A component that can be a name: neither empty nor a single dot. -/
def isName (part : Text) : Bool := part ≠ [] ∧ part ≠ ['.']

/-- The last component of a path that can be a name, or nothing if there is none. -/
def lastName (path : Text) : Text := ((path.splitOnP isSeparator).filter isName).getLastD []

/-- Separators, each of them with nothing or with a single dot behind it. -/
inductive Trailing : Text → Prop where
  | nil : Trailing []
  | separator {c : Char} {rest : Text} (separates : isSeparator c) (behind : Trailing rest) :
      Trailing (c :: rest)
  | dot {c : Char} {rest : Text} (separates : isSeparator c) (behind : Trailing rest) :
      Trailing (c :: '.' :: rest)

/-- The name of a project that is selected by its root, without a name. -/
def nameOf? (workspace : Option Text) (project : Text) : Option Text :=
  (Context.ofSelection? ⟨workspace, some project, none⟩).map Context.projectName

/-! ### Names of directories -/

section Names
variable {path other behind text : Text} {c : Char}

/-- Splitting at slashes is splitting at separators where no backslash is left. -/
theorem split_slash (free : '\\' ∉ text) : Text.split '/' text = text.splitOnP isSeparator := by
  rw [← splitOnP_slash free]
  clear free
  induction text with
  | nil => rfl
  | cons c rest ih =>
    obtain ⟨first, others, cut⟩ := List.exists_cons_of_ne_nil (Text.split_ne_nil '/' rest)
    rw [List.splitOnP_cons_eq_if_modifyHead, ← ih, Text.split, cut]
    by_cases slash : c = '/' <;> simp [slash]

/-- There is no name in what is trailing. -/
theorem filter_trailing (trailing : Trailing behind) (front : Text) :
    ((front ++ behind).splitOnP isSeparator).filter isName =
      (front.splitOnP isSeparator).filter isName := by
  induction trailing generalizing front with
  | nil => rw [List.append_nil]
  | separator separates _ ih =>
    have none := ih []
    rw [List.nil_append] at none
    rw [List.splitOnP_append_cons _ _ separates, List.filter_append, none]
    exact List.append_nil _
  | dot separates _ ih =>
    have none := ih ['.']
    rw [List.singleton_append] at none
    rw [List.splitOnP_append_cons _ _ separates, List.filter_append, none]
    exact List.append_nil _

theorem lastName_trailing (trailing : Trailing behind) (front : Text) :
    lastName (front ++ behind) = lastName front := by
  rw [lastName, filter_trailing trailing, lastName]

theorem lastName_forward (path : Text) : lastName (forward path) = lastName path := by
  rw [lastName, splitOnP_forward, lastName]

theorem lastName_alike (alike : AlikeButSlashes path other) : lastName other = lastName path := by
  rw [← lastName_forward other, ← forward_eq_of_alike alike, lastName_forward]

/-- A name behind a separator is the last one. -/
theorem lastName_concat {name : Text} (named : isName name)
    (free : ∀ c ∈ name, isSeparator c = false) (separates : isSeparator c) (front : Text) :
    lastName (front ++ c :: name) = name := by
  have alone : name.splitOnP isSeparator = [name] :=
    List.splitOnP_eq_singleton (by simpa using free)
  rw [lastName, List.splitOnP_append_cons _ _ separates, alone, List.filter_append,
    List.filter_cons_of_pos named]
  simp

/-- No separator stands in a name. -/
theorem isSeparator_of_mem_lastName (inside : c ∈ lastName path) : isSeparator c = false := by
  rw [lastName, List.getLastD_eq_getLast?] at inside
  cases last : ((path.splitOnP isSeparator).filter isName).getLast? with
  | none => simp [last] at inside
  | some part =>
    rw [last, Option.getD_some] at inside
    have member := List.mem_of_mem_filter (List.mem_of_getLast? last)
    exact isSeparator_of_mem_splitOnP member c inside

/-- Trimming at the right leaves off a part that is dropped as a whole. -/
theorem exists_trimRight (drop : Char → Bool) (text : Text) :
    ∃ dropped, text = Text.trimRight drop text ++ dropped ∧ ∀ c ∈ dropped, drop c := by
  refine ⟨(text.reverse.takeWhile drop).reverse, ?_, fun c inside => ?_⟩
  · rw [Text.trimRight, ← List.reverse_append, List.takeWhile_append_dropWhile,
      List.reverse_reverse]
  · exact List.all_eq_true.mp List.all_takeWhile c (List.mem_reverse.mp inside)

theorem trailing_of_slashes (slashes : ∀ c ∈ text, c = '/') : Trailing text := by
  induction text with
  | nil => exact .nil
  | cons c rest ih =>
    rw [List.forall_mem_cons] at slashes
    exact .separator (by simp [slashes.1, isSeparator]) (ih slashes.2)

/-- The name of a directory is the last name in its path. -/
theorem directoryName_eq (path : Text) : directoryName path = lastName path := by
  obtain ⟨slashes, whole, same⟩ := exists_trimRight (· = '/') (forward path)
  have trailing := trailing_of_slashes (by simpa using same)
  have free : '\\' ∉ Text.trimRight (· = '/') (forward path) := fun inside =>
    not_mem_forward path (whole ▸ List.mem_append_left _ inside)
  have parts : Path.isComponent = isName := by
    funext part
    rw [Bool.eq_iff_iff]
    simp [Path.isComponent, isName]
  rw [← lastName_forward path, whole, lastName_trailing trailing, lastName, ← split_slash free,
    ← parts]
  rfl

end Names

/-! ### Contexts of selections -/

section Contexts
variable {project : Text}

theorem nonblank_of_alike {other : Text} (nonblank : ∃ c ∈ project, Text.isBlank c = false)
    (alike : AlikeButSlashes project other) : ∃ c ∈ other, Text.isBlank c = false := by
  induction alike with
  | nil => exact nonblank
  | cons first _ ih =>
    obtain ⟨c, inside, kept⟩ := nonblank
    rcases List.mem_cons.mp inside with rfl | inside
    · refine ⟨_, List.mem_cons_self .., ?_⟩
      rcases first with rfl | ⟨_, separates⟩
      · exact kept
      · simp only [isSeparator, Bool.or_eq_true, decide_eq_true_eq] at separates
        rcases separates with rfl | rfl <;> rfl
    · obtain ⟨d, member, stays⟩ := ih ⟨c, inside, kept⟩
      exact ⟨d, List.mem_cons_of_mem _ member, stays⟩

/-- A selection with a root that is not blank has a context, with the name of the root's directory.
-/
theorem nameOf?_eq (nonblank : ∃ c ∈ project, Text.isBlank c = false) (workspace : Option Text) :
    nameOf? workspace project = some (lastName project) := by
  obtain ⟨c, inside, kept⟩ := nonblank
  have there : (Text.strip project).isEmpty = false :=
    List.isEmpty_eq_false_iff.mpr (List.ne_nil_of_mem (Text.mem_trim inside kept))
  simp [nameOf?, Context.ofSelection?, there, directoryName_eq]

/-- The roots and the name of a context make the context again. -/
theorem ofSelection?_again {selection : Selection} {context : Context}
    (made : Context.ofSelection? selection = some context) :
    Context.ofSelection?
      ⟨some context.workspaceRoot, some context.projectRoot, some context.projectName⟩ =
        some context := by
  unfold Context.ofSelection? at made
  split at made
  · cases made
  · rename_i project given
    split at made
    · cases made
    · rename_i nonblank
      obtain ⟨c, rest, rfl⟩ : ∃ c rest, project = c :: rest := by
        refine List.exists_cons_of_ne_nil ?_
        rintro rfl
        exact nonblank rfl
      obtain rfl := Option.some.inj made
      -- whichever root was taken for the workspace is not empty, so it is taken again
      rcases selection.workspaceRoot with _ | _ | ⟨d, tail⟩ <;>
        simp [Context.ofSelection?, nonblank]

end Contexts

/-- A project that is selected without a name gets the last component of its root that is neither
empty nor a dot, or the empty name if there is none. So there is no separator in it, and it depends
neither on which way the slashes of the root lean nor on separators and dots at the end of the root.
The roots and the name of a context make the same context again. -/
theorem project_name_of_root :
    (∀ project, (∃ c ∈ project, Text.isBlank c = false) → ∀ workspace,
      nameOf? workspace project = some (lastName project) ∧
        (∀ c ∈ lastName project, isSeparator c = false) ∧
        (∀ other, AlikeButSlashes project other →
          nameOf? workspace other = nameOf? workspace project) ∧
        ∀ behind, Trailing behind →
          nameOf? workspace (project ++ behind) = nameOf? workspace project) ∧
    ∀ selection context, Context.ofSelection? selection = some context →
      Context.ofSelection?
        ⟨some context.workspaceRoot, some context.projectRoot, some context.projectName⟩ =
          some context := by
  refine ⟨fun project nonblank workspace => ?_, fun selection context => ofSelection?_again⟩
  have named := nameOf?_eq nonblank workspace
  refine ⟨named, fun c => isSeparator_of_mem_lastName, fun other alike => ?_,
    fun behind trailing => ?_⟩
  · rw [named, nameOf?_eq (nonblank_of_alike nonblank alike) workspace, lastName_alike alike]
  · obtain ⟨c, inside, kept⟩ := nonblank
    rw [named, nameOf?_eq ⟨c, List.mem_append_left _ inside, kept⟩ workspace,
      lastName_trailing trailing]

/-- Slashes that lean both ways, an empty workspace root, and a root without any name. -/
theorem project_name_of_root_both_slashes :
    let project := "C:\\work/App.1".toList
    let other := "C:/work\\App.1".toList
    let behind := "\\./".toList
    (∃ c ∈ project, Text.isBlank c = false) ∧ nameOf? none project = some "App.1".toList ∧
      (AlikeButSlashes project other ∧ nameOf? none other = some "App.1".toList) ∧
      (Trailing behind ∧ nameOf? none (project ++ behind) = some "App.1".toList) ∧
      nameOf? none "\\./".toList = some [] ∧
      ∃ context, Context.ofSelection? ⟨some [], some project, none⟩ = some context ∧
        Context.ofSelection?
          ⟨some context.workspaceRoot, some context.projectRoot, some context.projectName⟩ =
            some context := by
  intro project other behind
  obtain ⟨names, again⟩ := project_name_of_root
  have nonblank : ∃ c ∈ project, Text.isBlank c = false := ⟨'C', by decide, by decide⟩
  obtain ⟨named, _, turned, longer⟩ := names project nonblank none
  have same : nameOf? none project = some "App.1".toList := named.trans (by decide)
  have alike : AlikeButSlashes project other := by
    unfold AlikeButSlashes
    decide
  have trailing : Trailing behind := .dot (by decide) (.separator (by decide) .nil)
  have nameless := (names "\\./".toList ⟨'.', by decide, by decide⟩ none).1
  obtain ⟨context, made⟩ : ∃ context,
      Context.ofSelection? ⟨some [], some project, none⟩ = some context := ⟨_, rfl⟩
  exact ⟨nonblank, same, ⟨alike, (turned other alike).trans same⟩,
    ⟨trailing, (longer behind trailing).trans same⟩, nameless.trans (by decide),
    context, made, again _ context made⟩

end DebugLaunch.ProjectNames
