import DebugLaunch.Proofs.AliasLookup
import DebugLaunch.Proofs.PathSpelling
import DebugLaunch.Proofs.ProjectNames

/-! The roots of the command line begin at the root, so that nothing is left to do for their
portable form but to turn backslashes. A name in such a root may hold backslashes all the same, and
there the two forms part: the portable root has one more place to be cut at for each of them, and
the project is called by what stands behind the last. -/
namespace DebugLaunch.RootForms
open Token TokenSegments AliasLookup PortablePaths ProjectNames PathSpelling OptionSources Cli
  DebugLaunch.Action

/-- What stands behind the last slash of a path. -/
def finalPart (path : Text) : Text := (Text.split '/' path).getLastD []

/-- A root of a context in its native and in its portable form. They differ in their backslashes
only, and tokens for them stand for the same text exactly if there are none. -/
structure FormsAgree (context : Context) (native portable : TokenClass) : Prop where
  turned : context.value portable = forward (context.value native)
  same_iff : context.value portable = context.value native ↔ '\\' ∉ context.value native
  tokens : ∀ front nativeName portableName behind, '%' ∉ front → Spells native nativeName →
    Spells portable portableName →
      (substitute context.value (front ++ Token.written portableName ++ behind) =
        substitute context.value (front ++ Token.written nativeName ++ behind) ↔
          '\\' ∉ context.value native)

section Forms
variable {directory place : Place} {environment : Environment} {options : Options}
  {context : Context} {native portable : TokenClass} {front name : Text}

theorem finalPart_concat (free : '/' ∉ name) (front : Text) :
    finalPart (front ++ '/' :: name) = name := by
  rw [finalPart, Text.split_append_cons, Text.split_of_not_mem free]
  simp

theorem formsAgree_of_turned (turned : context.value portable = forward (context.value native)) :
    FormsAgree context native portable := by
  have same : context.value portable = context.value native ↔ '\\' ∉ context.value native := by
    rw [turned]
    exact forward_eq_self_iff
  refine ⟨turned, same, fun front nativeName portableName behind free spells spellsPortable => ?_⟩
  rw [substitute_token _ free spells, substitute_token _ free spellsPortable,
    List.append_left_inj, List.append_right_inj, same]

/-- Where slashes of both kinds separate, a place ends in the same name as where one kind does,
unless a backslash is in it. -/
theorem lastName_eq_finalPart_iff (isPlace : IsPlace place) :
    lastName (PathSpelling.written place) = finalPart (PathSpelling.written place) ↔
      '\\' ∉ finalPart (PathSpelling.written place) := by
  have noBackslash : '\\' ∉ lastName (PathSpelling.written place) := fun inside =>
    absurd (isSeparator_of_mem_lastName inside) (by decide)
  refine ⟨fun same => same ▸ noBackslash, fun free => ?_⟩
  rcases List.eq_nil_or_concat place with rfl | ⟨above, name, rfl⟩
  · decide
  · rw [List.concat_eq_append] at isPlace free ⊢
    have plain : Place.Plain name := isPlace name (by simp)
    have whole : PathSpelling.written (above ++ [name]) =
        above.flatMap ('/' :: ·) ++ '/' :: name := by
      rw [written_of_ne_nil (by simp), List.flatMap_append, List.flatMap_singleton]
    rw [whole, finalPart_concat plain.noSlash] at free ⊢
    have named : isName name := by simp [isName, plain.something, plain.noDot]
    refine lastName_concat named (fun c inside => ?_) rfl _
    have other : c ≠ '/' ∧ c ≠ '\\' :=
      ⟨fun same => plain.noSlash (same ▸ inside), fun same => free (same ▸ inside)⟩
    simp [isSeparator, other]

/-- The portable roots of a selection are its roots with their backslashes turned. -/
theorem formsAgree_of_selected (selects : selected? directory environment options = some context) :
    FormsAgree context .projectRoot .projectRootPortable ∧
      FormsAgree context .workspaceRoot .workspaceRootPortable := by
  rw [selected?_eq_map] at selects
  obtain ⟨project, _, rfl⟩ := Option.map_eq_some_iff.mp selects
  have turned : ∀ path, portablePath (absolute directory path) =
      forward (absolute directory path) := by
    intro path
    obtain ⟨rest, rooted⟩ := absolute_root directory path
    rw [rooted, portablePath_rooted]
  exact ⟨formsAgree_of_turned (turned project), formsAgree_of_turned (turned _)⟩

/-- A project that is selected without a name has the last name in its root. -/
theorem projectName_of_selected (selects : selected? directory environment options = some context)
    (nameless : options.lookup .name = none) :
    context.projectName = lastName context.projectRoot := by
  rw [selected?_eq_map] at selects
  obtain ⟨project, _, rfl⟩ := Option.map_eq_some_iff.mp selects
  rw [nameless]
  exact directoryName_eq _

end Forms

/-- Whatever a command line selects, on whichever machine: the portable roots are the native
ones with every backslash turned into a slash, so that the tokens for the two forms of a root stand
for the same text exactly if no backslash is in the root. A project without a name is called by the
last name between slashes of either kind, which is the final part of its root exactly if no
backslash is in that part. -/
theorem forms_of_selected_roots {machine : Machine} {options : Options} {context : Context}
    (selects : selected? machine.directory machine.environment options = some context) :
    FormsAgree context .projectRoot .projectRootPortable ∧
      FormsAgree context .workspaceRoot .workspaceRootPortable ∧
      (options.lookup .name = none →
        context.projectName = lastName context.projectRoot ∧
          (context.projectName = finalPart context.projectRoot ↔
            '\\' ∉ finalPart context.projectRoot)) := by
  obtain ⟨project, workspace⟩ := formsAgree_of_selected selects
  refine ⟨project, workspace, fun nameless => ?_⟩
  obtain ⟨place, _, isProject, _, writes, _⟩ := roots_of_selected machine.isPlace selects
  have name := projectName_of_selected selects nameless
  refine ⟨name, ?_⟩
  rw [name, writes]
  exact lastName_eq_finalPart_iff isProject

/-- A backslash above the project parts the two forms of its root, but its name is left alone. -/
theorem forms_of_selected_roots_above :
    let machine : Machine := { files := default, directory := [['w']] }
    let options : Options := [(.project, "a\\b/p".toList)]
    options.lookup .name = none ∧
      ∃ context, selected? machine.directory machine.environment options = some context ∧
        context.projectRootPortable ≠ context.projectRoot ∧
        context.workspaceRootPortable = context.workspaceRoot ∧
        context.projectName = finalPart context.projectRoot ∧
        (Spells .workspaceRoot "ROOT".toList ∧
          Spells .workspaceRootPortable "rootDirForBash".toList ∧
          substitute context.value "cd %rootDirForBash%/x".toList =
            substitute context.value "cd %ROOT%/x".toList) := by
  intro machine options
  have nameless : options.lookup .name = none := rfl
  obtain ⟨context, selects, roots⟩ : ∃ context,
      selected? machine.directory machine.environment options = some context ∧
      '\\' ∈ context.value .projectRoot ∧ '\\' ∉ context.value .workspaceRoot ∧
      '\\' ∉ finalPart context.projectRoot :=
    ⟨⟨"/w".toList, "/w/a\\b/p".toList, "/w".toList, "/w/a/b/p".toList, ['p']⟩, by decide +kernel⟩
  obtain ⟨project, workspace, named⟩ := forms_of_selected_roots selects
  have root : Spells .workspaceRoot "ROOT".toList := by decide +kernel
  have portableRoot : Spells .workspaceRootPortable "rootDirForBash".toList := by decide +kernel
  refine ⟨nameless, context, selects, fun same => ?_, workspace.same_iff.mpr roots.2.1,
    (named nameless).2.mpr roots.2.2, root, portableRoot, ?_⟩
  · exact project.same_iff.mp same roots.1
  · exact (workspace.tokens "cd ".toList _ _ "/x".toList (by decide) root portableRoot).mpr
      roots.2.1

/-- A backslash in the name of the project: its root has one component more in portable form, and
the project is called by what stands behind the backslash. -/
theorem portable_root_differs_of_backslash :
    let tree : FileTree := { entries := [([['w']], .directory), ([['w'], LaunchFile.fileName],
      .file (Utf8.encode "%projDirForBash% %projDir% %projName%".toList))] }
    let machine : Machine := { files := tree, directory := [['w']] }
    let runner : Runner := fun _ _ machine => (.waitTooLong, machine.files)
    let options : Options := [(.workspace, ['.']), (.project, "a\\b".toList)]
    ((run runner (["resolve", "-p", "a\\b", "-w", "."].map String.toList)).runOn machine).2.output =
        "/w/a/b /w/a\\b b".toList ∧
      options.lookup .name = none ∧
      ∃ context, selected? machine.directory machine.environment options = some context ∧
        context.projectRootPortable ≠ context.projectRoot ∧
        substitute context.value "%projDirForBash%".toList ≠
          substitute context.value "%projDir%".toList ∧
        context.projectName ≠ finalPart context.projectRoot := by
  refine ⟨by decide +kernel, rfl, ⟨"/w".toList, "/w/a\\b".toList, "/w".toList, "/w/a/b".toList,
    ['b']⟩, by decide +kernel, by decide, by decide +kernel, by decide⟩

end DebugLaunch.RootForms
