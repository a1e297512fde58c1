import DebugLaunch.Proofs.RepeatedPreparation

/-! Two preparations, one after the other. A path that is absolute and never goes up is the way to
its place, so a preparation of such a project makes directories above its output and puts a file
there. If that file is neither a candidate of the other preparation, nor its output, nor above its
output, then each finds the same template, the same way and the same room for its output whether the
other one was there before or not: they can change places. -/
namespace DebugLaunch.IndependentPreparations
open DebugLaunch.Action LaunchFile FileTree PlaceWalk DirectoryGrowth LaunchFileSearch PreparedFile
  RepeatedPreparation

/-- A path is absolute and never goes up. -/
structure Straight (path : Path) : Prop where
  absolute : path.anchor ≠ .relative
  noUp : ['.', '.'] ∉ path.components

/-- Both roots of a context are absolute and never go up. -/
structure StraightRoots (context : Context) : Prop where
  workspace : Straight (Path.ofText context.workspaceRoot)
  project : Straight (Path.ofText context.projectRoot)

/-- The output of a context is no candidate of another one, and it is neither the output of that one
nor above it. Absolute paths name one place if they have the same components. -/
structure Spares (context other : Context) : Prop where
  candidates : ∀ candidate ∈ candidates other.workspaceRoot other.projectRoot,
    candidate.components ≠ (outputPath context.projectRoot).components
  output : ¬ (outputPath context.projectRoot).components <+:
    (outputPath other.projectRoot).components

/-- The output of a project is neither that of another one nor on the way to it. -/
structure Apart (directory : Place) (project other : Text) : Prop where
  outputs : outputPlace directory project ≠ outputPlace directory other
  offWay : ¬ OnWay directory other (outputPlace directory project)

/-- The files after both outputs were written, in whatever order. -/
structure WrittenBoth (directory : Place) (project other : Text) (content held : Utf8.Bytes)
    (before after : FileTree) : Prop where
  output : after.lookup? (outputPlace directory project) = some (.file content)
  otherOutput : after.lookup? (outputPlace directory other) = some (.file held)
  onWay : ∀ place, OnWay directory project place ∨ OnWay directory other place →
    after.lookup? place = some .directory
  others : ∀ place, place ≠ outputPlace directory project → place ≠ outputPlace directory other →
    ¬ OnWay directory project place → ¬ OnWay directory other place →
    after.lookup? place = before.lookup? place

/-! ### Paths that never go up -/

section Straight
variable {directory : Place} {path : Path} {context other : Context} {project : Text}

theorem straight_child (straight : Straight path) {name : Text} (down : name ≠ ['.', '.']) :
    Straight (path.child name) := by
  refine ⟨straight.absolute, fun inside => ?_⟩
  rcases List.mem_append.mp inside with inside | inside
  · exact straight.noUp inside
  · exact down (List.mem_singleton.mp inside).symm

theorem start_of_straight (straight : Straight path) : start directory path = [] := by
  have absolute := straight.absolute
  rw [start]
  cases anchor : path.anchor with
  | relative => exact absurd anchor absolute
  | root => rfl
  | doubleRoot => rfl

/-- What a front of such a path leads to is the front itself. -/
theorem descend_of_straight (straight : Straight path) {front : List Text}
    (isFront : front <+: path.components) : descend (start directory path) front = front := by
  rw [start_of_straight straight,
    descend_of_no_up fun inside => straight.noUp (isFront.subset inside)]
  rfl

theorem named_of_straight (straight : Straight path) : named directory path = path.components :=
  descend_of_straight straight List.prefix_rfl

theorem straight_outputPath (straight : Straight (Path.ofText project)) :
    Straight (outputPath project) :=
  straight_child (straight_child straight (by decide)) (by decide)

theorem straight_candidate (straight : StraightRoots context)
    (isCandidate : path ∈ candidates context.workspaceRoot context.projectRoot) :
    Straight path := by
  simp only [candidates, List.mem_cons, List.not_mem_nil, or_false] at isCandidate
  rcases isCandidate with rfl | rfl | rfl
  · exact straight_child (straight_child straight.project (by decide)) (by decide)
  · exact straight_child straight.project (by decide)
  · exact straight_child straight.workspace (by decide)

theorem apart_of_spares (straight : StraightRoots context) (otherStraight : StraightRoots other)
    (spares : Spares context other) :
    Apart directory context.projectRoot other.projectRoot := by
  have output : outputPlace directory context.projectRoot =
      (outputPath context.projectRoot).components :=
    named_of_straight (straight_outputPath straight.project)
  have otherOutput : outputPlace directory other.projectRoot =
      (outputPath other.projectRoot).components :=
    named_of_straight (straight_outputPath otherStraight.project)
  refine ⟨fun same => ?_, fun onWay => ?_⟩
  · rw [output, otherOutput] at same
    exact spares.output (same ▸ List.prefix_rfl)
  · obtain ⟨front, isFront, _, leads⟩ := onWay_iff.mp onWay
    rw [descend_of_straight (straight_outputPath otherStraight.project) isFront, output] at leads
    exact spares.output (leads ▸ isFront)

theorem not_inOutput_of_spares (straight : StraightRoots context)
    (otherStraight : StraightRoots other) (spares : Spares context other)
    (isCandidate : path ∈ candidates other.workspaceRoot other.projectRoot) :
    ¬ InOutput directory context.projectRoot path := by
  rw [InOutput, outputPlace, named_of_straight (straight_candidate otherStraight isCandidate),
    named_of_straight (straight_outputPath straight.project)]
  exact spares.candidates path isCandidate

end Straight

/-! ### Two outputs -/

section Outputs
variable {directory : Place} {project other : Text} {content held : Utf8.Bytes}
  {before middle after final : FileTree}

theorem origin_of_straight (straight : Straight (Path.ofText project)) (tree : FileTree) :
    tree.lookup? (start directory (outputPath project)) = some .directory := by
  rw [start_of_straight (straight_outputPath straight)]
  rfl

/-- An output that could be written behind another one could be written at once: what was made for
the other one was not needed. -/
theorem writes_before (straight : Straight (Path.ofText other))
    (first : Writes directory project content before middle)
    (second : Writes directory other held middle after) :
    ∃ files, Writes directory other held before files := by
  have written := written_of_writes first
  have otherWritten := written_of_writes second
  refine writes_of_clear second (origin_of_straight straight before) (fun place onWay => ?_) ?_
  · have clear := (otherWritten.onWay place onWay).2
    by_cases output : place = outputPlace directory project
    · rw [output, written.output] at clear
      rcases clear with isDirectory | missing
      · cases isDirectory
      · cases missing
    · by_cases onFirst : OnWay directory project place
      · exact (written.onWay place onFirst).2
      · rwa [written.others place output onFirst] at clear
  · intro here
    refine (output_of_writes second).1 ?_
    by_cases output : outputPlace directory other = outputPlace directory project
    · exact absurd (output ▸ here) (output_of_writes first).1
    · by_cases onFirst : OnWay directory project (outputPlace directory other)
      · exact (written.onWay _ onFirst).1
      · rw [written.others _ output onFirst, here]

/-- An output that could be written at once can be written behind another one. -/
theorem writes_behind (straight : Straight (Path.ofText other))
    (apart : Apart directory project other) (apartBack : Apart directory other project)
    (first : Writes directory project content before middle)
    (alone : Writes directory other held before after) :
    ∃ files, Writes directory other held middle files := by
  have written := written_of_writes first
  have otherWritten := written_of_writes alone
  refine writes_of_clear alone (origin_of_straight straight middle) (fun place onWay => ?_) ?_
  · have output : place ≠ outputPlace directory project := fun same => apart.offWay (same ▸ onWay)
    by_cases onFirst : OnWay directory project place
    · exact .inl (written.onWay place onFirst).1
    · rw [written.others place output onFirst]
      exact (otherWritten.onWay place onWay).2
  · rw [written.others _ apartBack.outputs apartBack.offWay]
    exact (output_of_writes alone).1

theorem writtenBoth_of_written (apart : Apart directory project other)
    (apartBack : Apart directory other project)
    (first : Written directory project content before middle)
    (second : Written directory other held middle after) :
    WrittenBoth directory project other content held before after := by
  refine ⟨?_, second.output, fun place onWay => ?_, fun place output otherOutput off otherOff => ?_⟩
  · rw [second.others _ apart.outputs apart.offWay, first.output]
  · by_cases onOther : OnWay directory other place
    · exact (second.onWay place onOther).1
    · have onFirst := onWay.resolve_right onOther
      have output : place ≠ outputPlace directory other := fun same =>
        apartBack.offWay (same ▸ onFirst)
      rw [second.others place output onOther, (first.onWay place onFirst).1]
  · rw [second.others place otherOutput otherOff, first.others place output off]

theorem writtenBoth_symm (both : WrittenBoth directory project other content held before after) :
    WrittenBoth directory other project held content before after :=
  ⟨both.otherOutput, both.output, fun place onWay => both.onWay place onWay.symm,
    fun place output otherOutput off otherOff =>
      both.others place otherOutput output otherOff off⟩

/-- Both outputs leave no choice in what the files are. -/
theorem writtenBoth_unique (both : WrittenBoth directory project other content held before after)
    (again : WrittenBoth directory project other content held before final) (place : Place) :
    final.lookup? place = after.lookup? place := by
  by_cases output : place = outputPlace directory project
  · rw [output, again.output, both.output]
  · by_cases otherOutput : place = outputPlace directory other
    · rw [otherOutput, again.otherOutput, both.otherOutput]
    · by_cases onWay : OnWay directory project place ∨ OnWay directory other place
      · rw [again.onWay place onWay, both.onWay place onWay]
      · rw [not_or] at onWay
        rw [again.others place output otherOutput onWay.1 onWay.2,
          both.others place output otherOutput onWay.1 onWay.2]

end Outputs

/-! ### Two searches -/

section Searches
variable {directory : Place} {project : Text} {content held : Utf8.Bytes}
  {before after : FileTree} {path : Path} {console : Option Console} {context : Context}
  {machine other : Machine} {text : Text}

/-- Writing an output brings no other file to light and hides none. -/
theorem namesFile_iff (writes : Writes directory project content before after)
    (straight : Straight path) (elsewhere : ¬ InOutput directory project path) :
    NamesFile after directory path held ↔ NamesFile before directory path held := by
  constructor
  · rintro ⟨isOpen, here⟩
    have written := written_of_writes writes
    have off : ¬ OnWay directory project (named directory path) := by
      intro onWay
      rw [(written.onWay _ onWay).1] at here
      cases here
    rw [written.others _ elsewhere off] at here
    exact namesFile_of_noUp straight.noUp isOpen.usable isOpen.fits here
  · exact fun names => namesFile_after writes names elsewhere

/-- A template is found and read alike wherever its candidates name the same files. -/
theorem template_alike (sameDirectory : other.directory = machine.directory)
    (same : ∀ candidate ∈ candidates context.workspaceRoot context.projectRoot, ∀ held,
      NamesFile other.files machine.directory candidate held ↔
        NamesFile machine.files machine.directory candidate held)
    (fits : ∀ name ∈ (Path.ofText context.projectRoot).components, Fits name)
    (templated : ∃ output, (template console context).runOn machine =
      (.ok text, { machine with output })) :
    ∃ output, (template console context).runOn other = (.ok text, { other with output }) := by
  obtain ⟨front, path, behind, content, whole, reaches, reads, rfl⟩ :=
    (runOn_template_iff machine).mp templated
  have isCandidate : ∀ candidate ∈ front ++ [path],
      candidate ∈ candidates context.workspaceRoot context.projectRoot := by
    intro candidate inside
    rw [whole, List.append_cons]
    exact List.mem_append_left behind inside
  have names : NamesFile other.files machine.directory path content :=
    (same path (isCandidate path (by simp)) content).mpr (read_iff.mp reads)
  have first : FirstFile other.files machine.directory
      (candidates context.workspaceRoot context.projectRoot) path content := by
    refine ⟨front, behind, whole, fun passed inside held passedNames => ?_, names⟩
    have before := (same passed (isCandidate passed (by simp [inside])) held).mp passedNames
    cases (isFile_iff (reaches.passed passed inside)).mpr ⟨held, before⟩
  have reachesThere := reaches_again whole reaches fits first
  have readsThere := read_iff.mpr names
  rw [← sameDirectory] at reachesThere readsThere
  exact (runOn_template_iff other).mpr
    ⟨front, path, behind, content, whole, reachesThere, readsThere, rfl⟩

end Searches

/-! ### Two preparations -/

section Both
variable {console : Option Console} {context other : Context} {machine middle after : Machine}
  {path otherPath : Path}

/-- The names on the way to an output that was written fit. -/
private theorem project_fits {directory : Place} {project : Text} {content : Utf8.Bytes}
    {before after : FileTree} (writes : Writes directory project content before after) :
    ∀ name ∈ (Path.ofText project).components, Fits name := by
  obtain ⟨_, _, isOpen, _⟩ := of_writes writes
  exact fun name inside => isOpen.fits name (by simp [outputPath, Path.child, inside])

/-- A preparation changes neither the working directory nor the environment. -/
private theorem same_of_prepareWith {environment : Environment}
    (ran : (prepareWith console environment context).runOn machine = (.ok path, after)) :
    after.directory = machine.directory ∧ after.environment = machine.environment := by
  rw [machine_of_prepareWith ran]
  exact ⟨rfl, rfl⟩

/-- Two preparations whose roots are absolute and never go up, and whose outputs spare each other's
candidates and each other, can change places: if both succeed one after the other, they succeed the
other way round too, give the same paths, and leave the same files. -/
theorem independent_prepares_change_places (straight : StraightRoots context)
    (otherStraight : StraightRoots other) (spares : Spares context other)
    (sparesBack : Spares other context)
    (ran : (prepare console context).runOn machine = (.ok path, middle))
    (otherRan : (prepare console other).runOn middle = (.ok otherPath, after)) :
    ∃ between final, (prepare console other).runOn machine = (.ok otherPath, between) ∧
      (prepare console context).runOn between = (.ok path, final) ∧
      ∀ place, final.files.lookup? place = after.files.lookup? place := by
  have apart : Apart machine.directory context.projectRoot other.projectRoot :=
    apart_of_spares straight otherStraight spares
  have apartBack : Apart machine.directory other.projectRoot context.projectRoot :=
    apart_of_spares otherStraight straight sparesBack
  rw [runOn_prepare] at ran otherRan
  obtain ⟨sameDirectory, sameEnvironment⟩ := same_of_prepareWith ran
  rw [sameEnvironment] at otherRan
  obtain ⟨rfl, shown, text, templated, writes⟩ := runOn_prepareWith_iff.mp ⟨middle, ran, rfl⟩
  obtain ⟨rfl, otherShown, otherText, otherTemplated, otherWrites⟩ :=
    runOn_prepareWith_iff.mp ⟨after, otherRan, rfl⟩
  rw [sameDirectory] at otherWrites
  -- the other preparation comes first
  obtain ⟨files, otherFirst⟩ := writes_before otherStraight.project writes otherWrites
  have otherTemplatedFirst : ∃ output, (template console other).runOn machine =
      (.ok otherText, { machine with output }) := by
    refine template_alike sameDirectory.symm (fun candidate isCandidate held => ?_)
      (project_fits otherWrites) otherTemplated
    rw [sameDirectory]
    exact (namesFile_iff writes (straight_candidate otherStraight isCandidate)
      (not_inOutput_of_spares straight otherStraight spares isCandidate)).symm
  obtain ⟨between, betweenRan, rfl⟩ := runOn_prepareWith_iff.mpr
    ⟨rfl, otherShown, otherText, otherTemplatedFirst, otherFirst⟩
  obtain ⟨betweenDirectory, betweenEnvironment⟩ := same_of_prepareWith betweenRan
  -- and then this one finds what it found before
  obtain ⟨last, again⟩ := writes_behind straight.project apartBack apart otherFirst writes
  rw [← betweenDirectory] at again
  have templatedAgain : ∃ output, (template console context).runOn between =
      (.ok text, { between with output }) := by
    refine template_alike betweenDirectory (fun candidate isCandidate held => ?_)
      (project_fits writes) templated
    exact namesFile_iff otherFirst (straight_candidate straight isCandidate)
      (not_inOutput_of_spares otherStraight straight sparesBack isCandidate)
  obtain ⟨final, finalRan, rfl⟩ := runOn_prepareWith_iff.mpr
    ⟨rfl, shown, text, templatedAgain, again⟩
  rw [betweenDirectory] at again
  have both := writtenBoth_of_written apart apartBack (written_of_writes writes)
    (written_of_writes otherWrites)
  have bothBack := writtenBoth_of_written apartBack apart (written_of_writes otherFirst)
    (written_of_writes again)
  refine ⟨between, final, ?_, ?_, writtenBoth_unique both (writtenBoth_symm bothBack)⟩
  · rw [runOn_prepare]
    exact betweenRan
  · rw [runOn_prepare, betweenEnvironment]
    exact finalRan

/-- A project and one below it are prepared from one template in either order, though each makes a
directory that the other one needs. -/
theorem independent_prepares_change_places_nested :
    let context : Context :=
      ⟨"/w".toList, "/w/p".toList, "/w".toList, "/w/p".toList, "p".toList⟩
    let other : Context :=
      ⟨"/w".toList, "/w/p/q".toList, "/w".toList, "/w/p/q".toList, "q".toList⟩
    let machine : Machine :=
      { files := { entries := [([['w']], .directory),
          ([['w'], fileName], .file (Utf8.encode "%projectName%$A".toList))] }
        directory := []
        environment := [("A".toList, "b".toList)] }
    ∃ middle after between final,
      (prepare none context).runOn machine = (.ok (outputPath context.projectRoot), middle) ∧
      (prepare none other).runOn middle = (.ok (outputPath other.projectRoot), after) ∧
      (prepare none other).runOn machine = (.ok (outputPath other.projectRoot), between) ∧
      (prepare none context).runOn between = (.ok (outputPath context.projectRoot), final) ∧
      (∀ place, final.files.lookup? place = after.files.lookup? place) ∧
      final.files.lookup? [['w'], ['p'], ['q'], outputName, fileName] =
        some (.file (Utf8.encode "qb".toList)) := by
  intro context other machine
  let middle := ((prepare none context).runOn machine).2
  let after := ((prepare none other).runOn middle).2
  have ran : (prepare none context).runOn machine =
      (.ok (outputPath context.projectRoot), middle) :=
    runOn_of_result (by decide +kernel)
  have otherRan : (prepare none other).runOn middle =
      (.ok (outputPath other.projectRoot), after) :=
    runOn_of_result (by decide +kernel)
  have wrote : after.files.lookup? [['w'], ['p'], ['q'], outputName, fileName] =
      some (.file (Utf8.encode "qb".toList)) := by
    decide +kernel
  obtain ⟨between, final, betweenRan, finalRan, same⟩ :=
    independent_prepares_change_places ⟨⟨by decide, by decide⟩, ⟨by decide, by decide⟩⟩
      ⟨⟨by decide, by decide⟩, ⟨by decide, by decide⟩⟩
      ⟨by decide, by decide⟩ ⟨by decide, by decide⟩ ran otherRan
  exact ⟨middle, after, between, final, ran, otherRan, betweenRan, finalRan, same,
    (same _).trans wrote⟩

end Both

end DebugLaunch.IndependentPreparations
