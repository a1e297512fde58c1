import DebugLaunch.Proofs.PreparedFile

/-! Preparing a launch file twice. The output can be the template itself: where the workspace root
names the directory of the output, the last candidate and the output are one place, and a
preparation overwrites what it has read. Everywhere else the template stays as it is. A second
preparation then repeats the first, unless directories were made on a way that goes up again, for
those can bring another candidate to light. -/
namespace DebugLaunch.RepeatedPreparation
open DebugLaunch.Action LaunchFile FileTree PlaceWalk DirectoryGrowth LaunchFileSearch PreparedFile

/-- A template stands where the output goes. -/
def InOutput (directory : Place) (project : Text) (template : Path) : Prop :=
  named directory template = outputPlace directory project

instance (directory : Place) (project : Text) (template : Path) :
    Decidable (InOutput directory project template) := inferInstanceAs (Decidable (_ = _))

/-- Directories made for a project bring none of its candidates to light, since the project is a
directory already or its path never goes up. -/
def Settled (tree : FileTree) (directory : Place) (project : Text) : Prop :=
  tree.isDirectory directory (Path.ofText project) = true ∨
    ['.', '.'] ∉ (Path.ofText project).components

/-- All that stands above something is directories. -/
private theorem isDirectory_above {tree : FileTree} {place more : Place} {entry : Entry}
    (held : tree.lookup? (place ++ more) = some entry) (below : more ≠ []) :
    tree.lookup? place = some .directory := by
  induction more using List.reverseRecOn generalizing entry with
  | nil => exact absurd rfl below
  | append_singleton front name ih =>
    rw [← List.append_assoc] at held
    have above := tree.lookup?_above held
    by_cases empty : front = []
    · simpa [empty] using above
    · exact ih above empty

/-- Where a path never goes up, all that it passes is above its end. -/
theorem namesFile_of_noUp {tree : FileTree} {directory : Place} {path : Path}
    {content : Utf8.Bytes} (noUp : ['.', '.'] ∉ path.components)
    (usable : checkPath path = .ok ()) (fits : ∀ name ∈ path.components, Fits name)
    (here : tree.lookup? (named directory path) = some (.file content)) :
    NamesFile tree directory path content := by
  refine ⟨⟨usable, fits, fun front isFront proper => ?_⟩, here⟩
  obtain ⟨rest, whole⟩ := isFront
  have noUpFront : ['.', '.'] ∉ front := fun inside =>
    noUp (whole ▸ List.mem_append_left rest inside)
  rw [named, descend_of_no_up noUp, ← whole, ← List.append_assoc] at here
  rw [descend_of_no_up noUpFront]
  exact isDirectory_above here fun empty => proper (by simpa [empty] using whole)

/-- A path to a directory leads through directories only. -/
private theorem passes_isDirectory {tree : FileTree} {directory : Place} {path : Path}
    (isThere : tree.isDirectory directory path = true) {place : Place}
    (passes : Passes directory path place) : tree.lookup? place = some .directory := by
  obtain ⟨isOpen, here⟩ := isDirectory_iff.mp isThere
  obtain ⟨front, isFront, rfl⟩ := passes
  by_cases whole : front = path.components
  · rw [whole]
    exact here
  · exact isOpen.above front isFront whole

/-! ### What is found after the output was written -/

section Written
variable {directory : Place} {workspace project : Text} {content held : Utf8.Bytes}
  {before after : FileTree} {found other : Path}

/-- What was written can be written again, and then it stands there again. -/
theorem writes_again (writes : Writes directory project content before after) :
    Writes directory project content after
      (after.put (outputPlace directory project) (.file content)) := by
  have avoids := (output_of_writes writes).2
  obtain ⟨stillOpen, output⟩ := namesFile_of_writes writes
  obtain ⟨made, ensured, wrote⟩ := writes
  obtain ⟨_, _, rfl⟩ := (write_iff (outputPath_nonempty project)).mp wrote
  have kept : ∀ place, OnWay directory project place →
      (made.put (outputPlace directory project) (.file content)).lookup? place =
        made.lookup? place :=
    fun place onWay => lookup?_put_of_ne _ (avoids place onWay) _
  have isThere : made.isDirectory directory (outputPath project).parent = true := by
    have spec := (ensureDirectory_spec before directory (outputPath project).parent).2
    rw [ensured] at spec
    exact spec (by simp [outputPath_parent, Path.child]) rfl
  have stillThere : (made.put (outputPlace directory project) (.file content)).isDirectory directory
      (outputPath project).parent = true := by
    rw [isDirectory_congr kept]
    exact isThere
  refine ⟨_, ensureDirectory_of_isDirectory stillThere,
    (write_iff (outputPath_nonempty project)).mpr ⟨stillOpen, fun here => ?_, rfl⟩⟩
  cases output.symm.trans here

/-- A file elsewhere is what it was. -/
theorem namesFile_after (writes : Writes directory project content before after)
    (names : NamesFile before directory found held)
    (elsewhere : ¬ InOutput directory project found) :
    NamesFile after directory found held := by
  have notDirectory := (output_of_writes writes).1
  obtain ⟨made, grown, _, _, rfl⟩ := of_writes writes
  refine ⟨(isOpen_congr fun front isFront proper => ?_).mpr (isOpen_grown grown names.1), ?_⟩
  · refine lookup?_put_of_ne _ (fun same => notDirectory ?_) _
    rw [← same]
    exact names.1.above front isFront proper
  · rw [lookup?_put_of_ne _ elsewhere]
    exact grown_keeps grown names.2

/-- What a candidate of a project passes: what the project does, the directory that may hold the
candidate, and the candidate itself. -/
private theorem passes_candidate
    (isCandidate : other = ((Path.ofText project).child propertiesName).child fileName ∨
      other = (Path.ofText project).child fileName) {place : Place}
    (passes : Passes directory other place) :
    Passes directory (Path.ofText project) place ∨
      place = named directory ((Path.ofText project).child propertiesName) ∨
      place = named directory other := by
  rcases isCandidate with rfl | rfl
  · rcases passes_child.mp passes with passes | whole
    · exact (passes_child.mp passes).imp_right .inl
    · exact .inr (.inr whole)
  · exact (passes_child.mp passes).imp_right .inr

/-- On the way to the output, only the directory of the output can be new if the project is there.
-/
private theorem properties_not_new
    (isThere : before.isDirectory directory (Path.ofText project) = true)
    (onWay : OnWay directory project
      (named directory ((Path.ofText project).child propertiesName))) :
    before.lookup? (named directory ((Path.ofText project).child propertiesName)) =
      some .directory := by
  rw [OnWay, outputPath_parent] at onWay
  rcases passes_child.mp onWay with passes | same
  · exact passes_isDirectory isThere passes
  · have different : propertiesName ≠ outputName := by decide
    rw [named_child _ _ (by decide), named_child _ _ (by decide)] at same
    simp [different] at same

/-- A candidate of a settled project that names a file afterwards did so before. -/
theorem namesFile_before (settled : Settled before directory project)
    (writes : Writes directory project content before after)
    (isCandidate : other = ((Path.ofText project).child propertiesName).child fileName ∨
      other = (Path.ofText project).child fileName)
    (names : NamesFile after directory other held) : NamesFile before directory other held := by
  have avoids := (output_of_writes writes).2
  have written := written_of_writes writes
  have kept : ∀ place, Passes directory other place → ¬ OnWay directory project place →
      before.lookup? place = after.lookup? place := fun place passes off =>
    (written.others place (project_candidate_avoids avoids isCandidate passes) off).symm
  have here : before.lookup? (named directory other) = some (.file held) := by
    rw [← names.2]
    refine kept _ (passes_named directory other) fun onWay => ?_
    cases names.2.symm.trans (written.onWay _ onWay).1
  rcases settled with isThere | noUp
  · refine ⟨⟨names.1.usable, names.1.fits, fun front isFront proper => ?_⟩, here⟩
    have passes : Passes directory other (descend (start directory other) front) :=
      ⟨front, isFront, rfl⟩
    have isDirectory := names.1.above front isFront proper
    rcases passes_candidate isCandidate passes with inProject | same | same
    · exact passes_isDirectory isThere inProject
    · rw [same] at passes isDirectory ⊢
      by_cases onWay : OnWay directory project
          (named directory ((Path.ofText project).child propertiesName))
      · exact properties_not_new isThere onWay
      · exact (kept _ passes onWay).trans isDirectory
    · rw [same, names.2] at isDirectory
      cases isDirectory
  · have noUpBelow : ['.', '.'] ∉ other.components := by
      have different : ['.', '.'] ≠ propertiesName ∧ ['.', '.'] ≠ fileName := by decide
      rcases isCandidate with rfl | rfl <;> simp [Path.child, noUp, different]
    exact namesFile_of_noUp noUpBelow names.1.usable names.1.fits here

/-- The candidate that came first in a settled project still does. -/
theorem firstFile_after (settled : Settled before directory project)
    (writes : Writes directory project content before after)
    (first : FirstFile before directory (candidates workspace project) found held)
    (elsewhere : ¬ InOutput directory project found) :
    FirstFile after directory (candidates workspace project) found held := by
  obtain ⟨front, behind, whole, none, names⟩ := first
  refine ⟨front, behind, whole, fun other inside content othersNames => ?_,
    namesFile_after writes names elsewhere⟩
  exact none other inside content
    (namesFile_before settled writes (front_of_candidates whole inside) othersNames)

/-- Of the candidates only that of the workspace can be the output, and only if the workspace is the
directory of the output. -/
theorem workspace_of_inOutput (writes : Writes directory project content before after)
    (isCandidate : found ∈ candidates workspace project)
    (inOutput : InOutput directory project found) :
    found = (Path.ofText workspace).child fileName ∧
      named directory (Path.ofText workspace) =
        named directory ((Path.ofText project).child outputName) := by
  have ofProject : ¬ (found = ((Path.ofText project).child propertiesName).child fileName ∨
      found = (Path.ofText project).child fileName) := fun isProjects =>
    project_candidate_avoids (output_of_writes writes).2 isProjects (passes_named directory found)
      inOutput
  rw [not_or] at ofProject
  obtain rfl : found = (Path.ofText workspace).child fileName := by
    simpa [candidates, ofProject] using isCandidate
  refine ⟨rfl, ?_⟩
  rw [InOutput, outputPlace, outputPath, named_child _ _ (by decide),
    named_child _ ((Path.ofText project).child outputName) (by decide)] at inOutput
  exact List.append_cancel_right inOutput

/-- The search comes the same way to the candidate that comes first again. -/
theorem reaches_again {console : Option Console} {front behind : List Path}
    (whole : candidates workspace project = front ++ found :: behind)
    (reaches : Reaches console before directory front found)
    (fits : ∀ name ∈ (Path.ofText project).components, Fits name)
    (first : FirstFile after directory (candidates workspace project) found held) :
    Reaches console after directory front found := by
  obtain ⟨again, behindAgain, wholeAgain, none, names⟩ := first
  have notBefore : ∀ other ∈ front, other ≠ found := by
    rintro other inside rfl
    cases (reaches.passed other inside).symm.trans reaches.reached
  have notAgain : ∀ other ∈ again, other ≠ found := by
    rintro other inside rfl
    exact none other inside held names
  obtain ⟨rfl, _⟩ := first_unique (P := (· = found)) (wholeAgain.symm.trans whole) notAgain rfl
    notBefore rfl
  refine ⟨fun other inside => ?_, ?_, reaches.saidChecking, reaches.saidUsing⟩
  · have otherFits : ∀ name ∈ other.components, Fits name := by
      have short : Fits propertiesName ∧ Fits fileName := ⟨.inr (by decide), .inr (by decide)⟩
      rcases front_of_candidates whole inside with rfl | rfl <;>
        simpa [Path.child, or_imp, forall_and, short] using fits
    obtain ⟨answer, answers⟩ : ∃ answer, after.isFile directory other = .ok answer :=
      isFile_answers (reaches.passed other inside) otherFits
    cases answer with
    | false => exact answers
    | true =>
      obtain ⟨content, othersNames⟩ := (isFile_iff answers).mp rfl
      exact absurd othersNames (none other inside content)
  · obtain ⟨answer, answers⟩ : ∃ answer, after.isFile directory found = .ok answer :=
      isFile_answers reaches.reached names.1.fits
    rw [answers, (isFile_iff answers).mpr ⟨held, names⟩]

end Written

/-! ### Two preparations -/

section Twice
variable {console : Option Console} {environment : Environment} {context : Context}
  {machine after : Machine} {path : Path}

/-- After a preparation the template is what it was unless it stands in the output, which only the
workspace's can. If it still comes first then, as it does in a settled project, a second preparation
succeeds too and leaves the files as the first one left them. -/
theorem repeated_prepare_same_files
    (ran : (prepareWith console environment context).runOn machine = (.ok path, after)) :
    ∃ found content,
      FirstFile machine.files machine.directory
        (candidates context.workspaceRoot context.projectRoot) found content ∧
      (InOutput machine.directory context.projectRoot found →
        found = (Path.ofText context.workspaceRoot).child fileName ∧
        named machine.directory (Path.ofText context.workspaceRoot) =
          named machine.directory ((Path.ofText context.projectRoot).child outputName)) ∧
      (¬ InOutput machine.directory context.projectRoot found →
        NamesFile after.files machine.directory found content ∧
        (Settled machine.files machine.directory context.projectRoot →
          FirstFile after.files machine.directory
            (candidates context.workspaceRoot context.projectRoot) found content)) ∧
      (FirstFile after.files machine.directory
          (candidates context.workspaceRoot context.projectRoot) found content →
        ∃ final, (prepareWith console environment context).runOn after = (.ok path, final) ∧
          ∀ place, final.files.lookup? place = after.files.lookup? place) := by
  have sameDirectory : after.directory = machine.directory := by
    rw [machine_of_prepareWith ran]
  obtain ⟨rfl, shown, text, templated, writes⟩ := runOn_prepareWith_iff.mp ⟨after, ran, rfl⟩
  obtain ⟨front, found, behind, content, whole, reaches, reads, rfl⟩ :=
    (runOn_template_iff machine).mp templated
  have first := whole ▸ firstFile_of_reaches reaches reads
  have isCandidate : found ∈ candidates context.workspaceRoot context.projectRoot := by
    rw [whole]
    exact List.mem_append_right front (List.mem_cons_self ..)
  refine ⟨found, content, first, workspace_of_inOutput writes isCandidate,
    fun elsewhere => ⟨namesFile_after writes (read_iff.mp reads) elsewhere,
      fun settled => firstFile_after settled writes first elsewhere⟩, fun firstAgain => ?_⟩
  have fits : ∀ name ∈ (Path.ofText context.projectRoot).components, Fits name := by
    obtain ⟨_, _, isOpen, _⟩ := of_writes writes
    exact fun name inside => isOpen.fits name (by simp [outputPath, Path.child, inside])
  have reachesAgain := reaches_again whole reaches fits firstAgain
  have readsAgain : after.files.read machine.directory found = .ok content := by
    obtain ⟨_, _, _, _, names⟩ := firstAgain
    exact read_iff.mpr names
  rw [← sameDirectory] at reachesAgain readsAgain
  have templatedAgain := (runOn_template_iff after).mpr
    ⟨front, found, behind, content, whole, reachesAgain, readsAgain, rfl⟩
  have writesAgain := writes_again writes
  rw [← sameDirectory] at writesAgain
  obtain ⟨final, ranAgain, files⟩ := runOn_prepareWith_iff.mpr
    ⟨rfl, shown, _, templatedAgain, writesAgain⟩
  refine ⟨final, ranAgain, fun place => ?_⟩
  rw [files, sameDirectory]
  by_cases output : place = outputPlace machine.directory context.projectRoot
  · rw [output, (written_of_writes writes).output]
    exact (written_of_writes (writes_again writes)).output
  · exact lookup?_put_of_ne _ output _

/-- The template of a workspace is found again behind the first preparation of a project that was
not there, and resolved to the same text. -/
theorem repeated_prepare_same_files_of_workspace :
    let environment : Environment := [("A".toList, "b".toList)]
    let context : Context :=
      ⟨"/w".toList, "/w/p".toList, "/w".toList, "/w/p".toList, "p".toList⟩
    let content := Utf8.encode "%projectName%$A".toList
    let machine : Machine :=
      { files := { entries := [([['w']], .directory), ([['w'], fileName], .file content)] }
        directory := [] }
    ∃ after final, (prepareWith none environment context).runOn machine =
        (.ok (outputPath context.projectRoot), after) ∧
      NamesFile after.files [] ((Path.ofText "/w".toList).child fileName) content ∧
      (prepareWith none environment context).runOn after =
        (.ok (outputPath context.projectRoot), final) ∧
      ∀ place, final.files.lookup? place = after.files.lookup? place := by
  intro environment context content machine
  have ran : (prepareWith none environment context).runOn machine =
      (.ok (outputPath context.projectRoot),
        ((prepareWith none environment context).runOn machine).2) :=
    runOn_of_result (by decide +kernel)
  have reaches : Reaches none machine.files []
      [((Path.ofText "/w/p".toList).child propertiesName).child fileName,
        (Path.ofText "/w/p".toList).child fileName]
      ((Path.ofText "/w".toList).child fileName) :=
    ⟨by decide, by decide, fun _ _ => rfl, rfl⟩
  have first : FirstFile machine.files [] (candidates context.workspaceRoot context.projectRoot)
      ((Path.ofText "/w".toList).child fileName) content :=
    firstFile_of_reaches reaches (by decide)
  obtain ⟨found, held, foundFirst, _, kept, again⟩ := repeated_prepare_same_files ran
  obtain ⟨rfl, rfl⟩ := firstFile_unique foundFirst first
  have settled : Settled machine.files machine.directory context.projectRoot :=
    .inr (by decide)
  obtain ⟨unchanged, stillFirst⟩ := kept (by decide)
  obtain ⟨final, ranAgain, same⟩ := again (stillFirst settled)
  exact ⟨_, final, ran, unchanged, ranAgain, same⟩

/-- A preparation can change the template, and a second one need not repeat the first: where the
workspace is the directory of the output, the output that was written is resolved once more; and
where the way to a project goes through a directory that is not there, the second search finds a
candidate that the first one missed. -/
theorem repeated_prepare_other_files :
    (let context : Context :=
        ⟨"/p/bin".toList, "/p".toList, "/p/bin".toList, "/p".toList, "%projName%x".toList⟩
      let place : Place := [['p'], outputName, fileName]
      let content := Utf8.encode "%projName%".toList
      let machine : Machine :=
        { files := { entries := [([['p']], .directory), ([['p'], outputName], .directory),
            (place, .file content)] }
          directory := [] }
      ∃ after final,
        FirstFile machine.files [] (candidates context.workspaceRoot context.projectRoot)
          (outputPath context.projectRoot) content ∧
        (prepareWith none [] context).runOn machine =
          (.ok (outputPath context.projectRoot), after) ∧
        after.files.lookup? place = some (.file (Utf8.encode "%projName%x".toList)) ∧
        (prepareWith none [] context).runOn after = (.ok (outputPath context.projectRoot), final) ∧
        final.files.lookup? place = some (.file (Utf8.encode "%projName%xx".toList))) ∧
    (let context : Context :=
        ⟨"/w".toList, "/a/../p".toList, "/w".toList, "/a/../p".toList, ['p']⟩
      let place : Place := [['p'], outputName, fileName]
      let machine : Machine :=
        { files := { entries := [([['w']], .directory),
            ([['w'], fileName], .file (Utf8.encode ['w'])), ([['p']], .directory),
            ([['p'], fileName], .file (Utf8.encode ['p']))] }
          directory := [] }
      ∃ after final,
        (prepareWith none [] context).runOn machine =
          (.ok (outputPath context.projectRoot), after) ∧
        after.files.lookup? place = some (.file (Utf8.encode ['w'])) ∧
        (prepareWith none [] context).runOn after = (.ok (outputPath context.projectRoot), final) ∧
        final.files.lookup? place = some (.file (Utf8.encode ['p']))) := by
  constructor
  · intro context place content machine
    let after := ((prepareWith none [] context).runOn machine).2
    have reaches : Reaches none machine.files []
        [((Path.ofText "/p".toList).child propertiesName).child fileName,
          (Path.ofText "/p".toList).child fileName] (outputPath context.projectRoot) :=
      ⟨by decide, by decide, fun _ _ => rfl, rfl⟩
    exact ⟨after, _, firstFile_of_reaches reaches (by decide), runOn_of_result (by decide +kernel),
      by decide +kernel, runOn_of_result (by decide +kernel), by decide +kernel⟩
  · intro context place machine
    let after := ((prepareWith none [] context).runOn machine).2
    exact ⟨after, _, runOn_of_result (by decide +kernel), by decide +kernel,
      runOn_of_result (by decide +kernel), by decide +kernel⟩

end Twice

end DebugLaunch.RepeatedPreparation
