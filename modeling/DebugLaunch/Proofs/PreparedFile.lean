import DebugLaunch.Proofs.DirectoryGrowth
import DebugLaunch.Proofs.LaunchFileSearch
import DebugLaunch.Proofs.MarkupTags

/-! What preparing a launch file does to the files, whether or not it succeeds. The template is read
before anything changes; then the directory of the output is made, and only the last step writes a
file. So a failure leaves every file as it was, and after a success the output and the way to it are
all that can be new. What stood in the output before matters only where it is the template. -/
namespace DebugLaunch.PreparedFile
open DebugLaunch.Action LaunchFile FileTree PlaceWalk DirectoryGrowth LaunchFileSearch MarkupTags

/-- The place of the output of a project. -/
def outputPlace (directory : Place) (project : Text) : Place := named directory (outputPath project)

/-- The places on the way to the output: those that a front of its directory's path names. -/
def OnWay (directory : Place) (project : Text) (place : Place) : Prop :=
  Passes directory (outputPath project).parent place

/-- The files after a content was put into the output. Directories lead there, which were there
before unless nothing was; and no other place has changed. -/
structure Written (directory : Place) (project : Text) (content : Utf8.Bytes)
    (before after : FileTree) : Prop where
  output : after.lookup? (outputPlace directory project) = some (.file content)
  onWay : ∀ place, OnWay directory project place → after.lookup? place = some .directory ∧
    (before.lookup? place = some .directory ∨ before.lookup? place = none)
  others : ∀ place, place ≠ outputPlace directory project → ¬ OnWay directory project place →
    after.lookup? place = before.lookup? place

/-- A file system is like another one but for the output, which may hold anything or be missing. -/
structure AlikeButOutput (directory : Place) (project : Text) (other tree : FileTree) : Prop where
  others : ∀ place, place ≠ outputPlace directory project →
    other.lookup? place = tree.lookup? place
  noDirectory : other.lookup? (outputPlace directory project) ≠ some .directory

/-! ### Writing the output -/

section Writing
variable {directory : Place} {project : Text} {content : Utf8.Bytes} {before after made : FileTree}

/-- The directory of the output is made, with those above it, and then the output is written. -/
def Writes (directory : Place) (project : Text) (content : Utf8.Bytes)
    (before after : FileTree) : Prop :=
  ∃ made, before.ensureDirectory directory (outputPath project).parent = (made, .ok ()) ∧
    made.write directory (outputPath project) content = .ok after

theorem outputPath_parent (project : Text) :
    (outputPath project).parent = (Path.ofText project).child outputName :=
  Path.parent_child _ _

theorem outputPath_nonempty (project : Text) : (outputPath project).components ≠ [] := by
  simp [outputPath, Path.child]

theorem outputPlace_eq (directory : Place) (project : Text) :
    outputPlace directory project =
      named directory (Path.ofText project) ++ [outputName, fileName] := by
  rw [outputPlace, outputPath, named_child _ _ (by decide), named_child _ _ (by decide),
    List.append_assoc]
  rfl

/-- The way to the output is what stands above it. -/
theorem onWay_iff {place : Place} :
    OnWay directory project place ↔ ∃ front, front <+: (outputPath project).components ∧
      front ≠ (outputPath project).components ∧
      descend (start directory (outputPath project)) front = place := by
  rw [OnWay, outputPath_parent]
  constructor
  · rintro ⟨front, isFront, leads⟩
    refine ⟨front, isFront.trans (List.prefix_append ..), ?_, leads⟩
    rintro rfl
    have := isFront.length_le
    simp [outputPath, Path.child] at this
  · rintro ⟨front, isFront, proper, leads⟩
    exact ⟨front, (List.prefix_concat_iff.mp isFront).resolve_left proper, leads⟩

/-- Whether the way to the output is open depends on what stands on it. -/
theorem isOpen_output_congr {first second : FileTree}
    (alike : ∀ place, OnWay directory project place →
      first.lookup? place = second.lookup? place) :
    IsOpen first directory (outputPath project) ↔ IsOpen second directory (outputPath project) :=
  isOpen_congr fun front isFront proper => alike _ (onWay_iff.mpr ⟨front, isFront, proper, rfl⟩)

/-- Where the way to the output is open, it leads through directories. -/
theorem onWay_isDirectory (isOpen : IsOpen made directory (outputPath project))
    {place : Place} (onWay : OnWay directory project place) :
    made.lookup? place = some .directory := by
  obtain ⟨front, isFront, proper, rfl⟩ := onWay_iff.mp onWay
  exact isOpen.above front isFront proper

theorem runOn_write (project content : Text) (machine : Machine) :
    (write project content).runOn machine =
      match machine.files.ensureDirectory machine.directory (outputPath project).parent with
      | (made, .error error) => (.error (.file error), { machine with files := made })
      | (made, .ok ()) =>
        match made.write machine.directory (outputPath project) (Utf8.encode content) with
        | .error error => (.error (.file error), { machine with files := made })
        | .ok files => (.ok (outputPath project), { machine with files }) := by
  rw [LaunchFile.write, runOn_bind, runOn_ensureDirectory]
  rcases machine.files.ensureDirectory machine.directory (outputPath project).parent with
    ⟨made, error | _⟩
  · rfl
  · show (writeBytes (outputPath project) (Utf8.encode content) >>= fun _ =>
      pure (outputPath project)).runOn { machine with files := made } = _
    rw [runOn_bind, writeBytes, runOn_changeFiles]
    dsimp only
    cases made.write machine.directory (outputPath project) (Utf8.encode content) <;> rfl

theorem runOn_write_iff {content : Text} {machine last : Machine} {path : Path} :
    (write project content).runOn machine = (.ok path, last) ↔
      path = outputPath project ∧
        Writes machine.directory project (Utf8.encode content) machine.files last.files ∧
        last = { machine with files := last.files } := by
  rw [runOn_write, Writes]
  rcases ensured : machine.files.ensureDirectory machine.directory (outputPath project).parent with
    ⟨made, error | _⟩
  · simp
  · dsimp only
    cases writes : made.write machine.directory (outputPath project) (Utf8.encode content) with
    | error error => simp [writes]
    | ok files =>
      constructor
      · intro ran
        cases ran
        exact ⟨rfl, ⟨made, rfl, writes⟩, rfl⟩
      · rintro ⟨rfl, ⟨_, same, wrote⟩, whole⟩
        cases same
        rw [writes] at wrote
        rw [whole, Except.ok.inj wrote]

/-- A failure to write has at most made directories on the way to the output. -/
theorem grown_of_failed_write {content : Text} {machine last : Machine} {fault : Fault}
    (ran : (write project content).runOn machine = (.error fault, last)) :
    (∃ error, fault = .file error) ∧
      Grown (OnWay machine.directory project) machine.files last.files := by
  have grown := (ensureDirectory_spec machine.files machine.directory (outputPath project).parent).1
  rw [runOn_write] at ran
  rcases ensured : machine.files.ensureDirectory machine.directory (outputPath project).parent with
    ⟨made, error | _⟩
  · rw [ensured] at ran grown
    cases ran
    exact ⟨⟨error, rfl⟩, grown⟩
  · rw [ensured] at ran grown
    dsimp only at ran
    cases writes : made.write machine.directory (outputPath project) (Utf8.encode content) with
    | error error =>
      rw [writes] at ran
      cases ran
      exact ⟨⟨error, rfl⟩, grown⟩
    | ok files =>
      rw [writes] at ran
      cases ran

/-- What a successful write comes to: some directories are made, and then the output is put. -/
theorem of_writes (writes : Writes directory project content before after) :
    ∃ made, Grown (OnWay directory project) before made ∧
      IsOpen made directory (outputPath project) ∧
      made.lookup? (outputPlace directory project) ≠ some .directory ∧
      after = made.put (outputPlace directory project) (.file content) := by
  obtain ⟨made, ensured, wrote⟩ := writes
  obtain ⟨isOpen, notDirectory, rfl⟩ := (write_iff (outputPath_nonempty project)).mp wrote
  have grown := (ensureDirectory_spec before directory (outputPath project).parent).1
  rw [ensured] at grown
  exact ⟨made, grown, isOpen, notDirectory, rfl⟩

/-- The output was no directory before it was written, and it is none on the way to itself. -/
theorem output_of_writes (writes : Writes directory project content before after) :
    before.lookup? (outputPlace directory project) ≠ some .directory ∧
      ∀ place, OnWay directory project place → place ≠ outputPlace directory project := by
  obtain ⟨made, grown, isOpen, notDirectory, _⟩ := of_writes writes
  refine ⟨fun here => notDirectory (grown_keeps grown here), ?_⟩
  rintro place onWay rfl
  exact notDirectory (onWay_isDirectory isOpen onWay)

theorem written_of_writes (writes : Writes directory project content before after) :
    Written directory project content before after := by
  have avoids := (output_of_writes writes).2
  obtain ⟨made, grown, isOpen, notDirectory, rfl⟩ := of_writes writes
  refine ⟨?_, fun place onWay => ?_, fun place other off => ?_⟩
  · exact lookup?_put_self _
      (hasRoom_of_isOpen (outputPath_nonempty project) isOpen notDirectory _)
  · have here := onWay_isDirectory isOpen onWay
    refine ⟨by rw [lookup?_put_of_ne _ (avoids place onWay), here], ?_⟩
    rcases grown place with same | ⟨_, missing, _⟩
    · exact .inl (same ▸ here)
    · exact .inr missing
  · rw [lookup?_put_of_ne _ other]
    rcases grown place with same | ⟨onWay, _⟩
    · exact same
    · exact absurd onWay off

/-- What was written is there to be read. -/
theorem namesFile_of_writes (writes : Writes directory project content before after) :
    NamesFile after directory (outputPath project) content := by
  have avoids := (output_of_writes writes).2
  have output := (written_of_writes writes).output
  obtain ⟨made, _, isOpen, _, rfl⟩ := of_writes writes
  exact ⟨(isOpen_output_congr fun place onWay =>
    lookup?_put_of_ne _ (avoids place onWay) _).mpr isOpen, output⟩

/-- What the output holds makes no difference to writing it. -/
theorem writes_alike (writes : Writes directory project content before after) {other : FileTree}
    (alike : AlikeButOutput directory project other before) :
    ∃ files, Writes directory project content other files ∧
      ∀ place, files.lookup? place = after.lookup? place := by
  have avoids := (output_of_writes writes).2
  obtain ⟨made, ensured, wrote⟩ := writes
  obtain ⟨isOpen, notDirectory, rfl⟩ := (write_iff (outputPath_nonempty project)).mp wrote
  have onWayAlike : ∀ place, OnWay directory project place →
      other.lookup? place = before.lookup? place :=
    fun place onWay => alike.others place (avoids place onWay)
  obtain ⟨sameResult, sameMade⟩ := ensureDirectory_congr onWayAlike
  have otherGrown := (ensureDirectory_spec other directory (outputPath project).parent).1
  rcases otherEnsured : other.ensureDirectory directory (outputPath project).parent with
    ⟨otherMade, result⟩
  rw [ensured, otherEnsured] at sameResult sameMade
  rw [otherEnsured] at otherGrown
  dsimp only at sameResult sameMade otherGrown
  subst sameResult
  have otherOpen : IsOpen otherMade directory (outputPath project) :=
    (isOpen_output_congr fun place onWay => sameMade place (onWayAlike place onWay)).mpr isOpen
  have otherNotDirectory : otherMade.lookup? (outputPlace directory project) ≠ some .directory := by
    intro here
    rcases otherGrown (outputPlace directory project) with same | ⟨onWay, _⟩
    · exact alike.noDirectory (same ▸ here)
    · exact avoids _ onWay rfl
  have room := hasRoom_of_isOpen (outputPath_nonempty project) isOpen notDirectory (.file content)
  have otherRoom := hasRoom_of_isOpen (outputPath_nonempty project) otherOpen otherNotDirectory
    (.file content)
  refine ⟨_, ⟨otherMade, otherEnsured, (write_iff (outputPath_nonempty project)).mpr
    ⟨otherOpen, otherNotDirectory, rfl⟩⟩, fun place => ?_⟩
  by_cases output : place = outputPlace directory project
  · rw [output]
    exact (lookup?_put_self _ otherRoom).trans (lookup?_put_self _ room).symm
  · exact lookup?_put_agree otherRoom room (sameMade place (alike.others place output))

/-- What could be written in one file system can be written in another one in which only directories
stand on the way and none in the output. -/
theorem writes_of_clear (writes : Writes directory project content before after) {other : FileTree}
    (origin : other.lookup? (start directory (outputPath project)) = some .directory)
    (clear : Clear other directory (outputPath project).parent)
    (noDirectory : other.lookup? (outputPlace directory project) ≠ some .directory) :
    ∃ files, Writes directory project content other files := by
  have avoids := (output_of_writes writes).2
  obtain ⟨_, _, isOpen, _, _⟩ := of_writes writes
  have parts : (outputPath project).components =
      (outputPath project).parent.components ++ [fileName] := by
    rw [outputPath_parent]
    rfl
  have nonempty : (outputPath project).parent.components ≠ [] := by
    simp [outputPath_parent, Path.child]
  have isFront : (outputPath project).parent.components <+: (outputPath project).components := by
    rw [parts]
    exact List.prefix_append ..
  have ensured := ensureDirectory_of_clear (checkPath_front isFront nonempty isOpen.usable)
    (fun name inside => isOpen.fits name (isFront.subset inside)) origin clear
  obtain ⟨grown, isThere⟩ := ensureDirectory_spec other directory (outputPath project).parent
  obtain ⟨parentOpen, parentHere⟩ := isDirectory_iff.mp (isThere nonempty ensured)
  have otherOpen : IsOpen (other.ensureDirectory directory (outputPath project).parent).1 directory
      (outputPath project) := by
    refine ⟨isOpen.usable, isOpen.fits, ?_⟩
    rw [parts]
    exact above_concat.mpr ⟨parentHere, parentOpen.above⟩
  have stillNoDirectory : (other.ensureDirectory directory (outputPath project).parent).1.lookup?
      (outputPlace directory project) ≠ some .directory := by
    rcases grown (outputPlace directory project) with same | ⟨onWay, _⟩
    · rwa [same]
    · exact absurd rfl (avoids _ onWay)
  exact ⟨_, _, Prod.ext rfl ensured, (write_iff (outputPath_nonempty project)).mpr
    ⟨otherOpen, stillNoDirectory, rfl⟩⟩

end Writing

/-! ### Reading the template -/

section Reading
variable {console : Option Console} {context : Context} {directory : Place}
  {tree other : FileTree} {workspace project : Text}

/-- The way of the search through the project never leads through the output. -/
theorem project_candidate_avoids (avoids : ∀ place, OnWay directory project place →
      place ≠ outputPlace directory project) {candidate : Path}
    (isCandidate : candidate = ((Path.ofText project).child propertiesName).child fileName ∨
      candidate = (Path.ofText project).child fileName) {place : Place}
    (passes : Passes directory candidate place) : place ≠ outputPlace directory project := by
  have root : Passes directory (Path.ofText project) place →
      place ≠ outputPlace directory project := fun passes =>
    avoids place (by rw [OnWay, outputPath_parent]; exact passes_child.mpr (.inl passes))
  have properties : named directory ((Path.ofText project).child propertiesName) =
      named directory (Path.ofText project) ++ [propertiesName] := named_child _ _ (by decide)
  have different : propertiesName ≠ outputName := by decide
  rw [outputPlace_eq] at root ⊢
  rcases isCandidate with rfl | rfl
  · rcases passes_child.mp passes with passes | rfl
    · rcases passes_child.mp passes with passes | rfl
      · exact root passes
      · rw [properties]
        simp
    · rw [named_child _ _ (by decide), properties, List.append_assoc]
      simp [different]
  · rcases passes_child.mp passes with passes | rfl
    · exact root passes
    · rw [named_child _ _ (by decide)]
      simp

/-- What stands in front of a candidate belongs to the project, for the last one is the
workspace's. -/
theorem front_of_candidates {front behind : List Path} {path passed : Path}
    (whole : candidates workspace project = front ++ path :: behind) (inside : passed ∈ front) :
    passed = ((Path.ofText project).child propertiesName).child fileName ∨
      passed = (Path.ofText project).child fileName := by
  match front with
  | [] => cases inside
  | [first] =>
    simp only [candidates, List.cons_append, List.nil_append, List.cons.injEq] at whole
    simp only [List.mem_singleton] at inside
    exact .inl (inside.trans whole.1.symm)
  | [first, second] =>
    simp only [candidates, List.cons_append, List.nil_append, List.cons.injEq] at whole
    simp only [List.mem_cons, List.not_mem_nil, or_false] at inside
    exact inside.imp (·.trans whole.1.symm) (·.trans whole.2.1.symm)
  | first :: second :: third :: front => simp [candidates] at whole

/-- The way to a file never leads through the output unless it ends there. -/
private theorem file_avoids {path : Path} {content : Utf8.Bytes}
    (names : NamesFile tree directory path content)
    (notDirectory : tree.lookup? (outputPlace directory project) ≠ some .directory)
    (elsewhere : named directory path ≠ outputPlace directory project) {place : Place}
    (passes : Passes directory path place) : place ≠ outputPlace directory project := by
  obtain ⟨front, isFront, rfl⟩ := passes
  by_cases whole : front = path.components
  · subst whole
    exact elsewhere
  · intro same
    exact notDirectory (same ▸ names.1.above front isFront whole)

/-- The search comes to the same file, whatever the output holds, and it reads the same there. -/
private theorem search_alike {front behind : List Path} {path : Path} {content : Utf8.Bytes}
    (whole : candidates workspace project = front ++ path :: behind)
    (reaches : Reaches console tree directory front path)
    (reads : tree.read directory path = .ok content)
    (avoids : ∀ place, OnWay directory project place → place ≠ outputPlace directory project)
    (notDirectory : tree.lookup? (outputPlace directory project) ≠ some .directory)
    (elsewhere : named directory path ≠ outputPlace directory project)
    (alike : AlikeButOutput directory project other tree) :
    Reaches console other directory front path ∧ other.read directory path = .ok content := by
  have passedAlike : ∀ passed ∈ front,
      other.isFile directory passed = tree.isFile directory passed := fun passed inside =>
    isFile_congr fun place passes => alike.others place
      (project_candidate_avoids avoids (front_of_candidates whole inside) passes)
  have fileAlike : ∀ place, Passes directory path place →
      other.lookup? place = tree.lookup? place := fun place passes => alike.others place
      (file_avoids (read_iff.mp reads) notDirectory elsewhere passes)
  refine ⟨⟨fun passed inside => ?_, ?_, reaches.saidChecking, reaches.saidUsing⟩, ?_⟩
  · rw [passedAlike passed inside, reaches.passed passed inside]
  · rw [isFile_congr fileAlike, reaches.reached]
  · rw [read_congr fileAlike, reads]

end Reading

/-! ### The whole preparation -/

section Preparation
variable {console : Option Console} {environment : Environment} {context : Context}
  {machine after : Machine} {path : Path}

/-- What is said once the output is written. -/
def wroteLine (path : Path) : Text := tagged "dim" ("Wrote ".toList ++ path.toText)

/-- A preparation reads the template, writes the output, and says so. -/
theorem prepareWith_eq (console : Option Console) (environment : Environment) (context : Context) :
    prepareWith console environment context = (do
      let text ← template console context
      let target ← write context.projectRoot (context.resolve .dollar environment text)
      say console (wroteLine target)
      return target) := by
  rw [prepareWith, template, bind_assoc]
  congr 1
  funext found
  cases found <;> rfl

theorem runOn_prepare (console : Option Console) (context : Context) (machine : Machine) :
    (prepare console context).runOn machine =
      (prepareWith console machine.environment context).runOn machine := by
  rw [prepare, runOn_bind, runOn_ask]

theorem runOn_prepareWith_iff {files : FileTree} :
    (∃ final, (prepareWith console environment context).runOn machine = (.ok path, final) ∧
        final.files = files) ↔
      path = outputPath context.projectRoot ∧
      said console (wroteLine (outputPath context.projectRoot)) = .ok () ∧
      ∃ text, (∃ output, (template console context).runOn machine =
          (.ok text, { machine with output })) ∧
        Writes machine.directory context.projectRoot
          (Utf8.encode (context.resolve .dollar environment text)) machine.files files := by
  rw [prepareWith_eq]
  constructor
  · rintro ⟨final, ran, rfl⟩
    obtain ⟨text, _, templated, ran⟩ := bind_ok ran
    obtain ⟨output, rfl⟩ := after_of_onlyPrints (onlyPrints_template _ _) templated
    obtain ⟨target, last, wrote, ran⟩ := bind_ok ran
    obtain ⟨rfl, writes, _⟩ := runOn_write_iff.mp wrote
    obtain ⟨_, _, shown, ran⟩ := bind_ok ran
    obtain ⟨later, rfl⟩ := after_of_onlyPrints (onlyPrints_say _ _) shown
    cases ran
    exact ⟨rfl, (runOn_say_iff _).mp ⟨later, shown⟩, text, ⟨output, templated⟩, writes⟩
  · rintro ⟨rfl, shown, text, ⟨output, templated⟩, writes⟩
    have wrote : (write context.projectRoot (context.resolve .dollar environment text)).runOn
        { machine with output } =
          (.ok (outputPath context.projectRoot), { machine with output, files }) :=
      runOn_write_iff.mpr ⟨rfl, writes, rfl⟩
    obtain ⟨later, lineShown⟩ := (runOn_say_iff { machine with output, files }).mpr shown
    refine ⟨{ machine with files, output := later }, ?_, rfl⟩
    rw [runOn_bind_of_ok templated, runOn_bind_of_ok wrote, runOn_bind_of_ok lineShown]
    rfl

/-- A preparation changes the files and prints; all else of the machine stays. -/
theorem machine_of_prepareWith
    (ran : (prepareWith console environment context).runOn machine = (.ok path, after)) :
    after = { machine with files := after.files, output := after.output } := by
  rw [prepareWith_eq] at ran
  obtain ⟨text, _, templated, ran⟩ := bind_ok ran
  obtain ⟨output, rfl⟩ := after_of_onlyPrints (onlyPrints_template _ _) templated
  obtain ⟨target, last, wrote, ran⟩ := bind_ok ran
  obtain ⟨_, _, whole⟩ := runOn_write_iff.mp wrote
  obtain ⟨_, _, shown, ran⟩ := bind_ok ran
  obtain ⟨later, rfl⟩ := after_of_onlyPrints (onlyPrints_say _ _) shown
  cases ran
  rw [whole]

/-- If the line about the first candidate can be shown, the line about the output can, since what
differs between them holds no markup. -/
private theorem said_wrote {project : Text} (shown : said console
      (checkingLine (((Path.ofText project).child propertiesName).child fileName)) = .ok ()) :
    said console (wroteLine (outputPath project)) = .ok () := by
  cases console with
  | none => rfl
  | some console =>
    have inside : ∀ name : Text,
        (((Path.ofText project).child name).child fileName).toText =
          (Path.ofText project).anchor.toText ++
            (Path.ofText project).components.flatMap (· ++ ['/']) ++ (name ++ '/' :: fileName) := by
      intro name
      rw [Path.toText_child]
      simp [Path.child]
    rw [said_iff_renders, checkingLine, inside, ← List.append_assoc] at shown
    rw [said_iff_renders, wroteLine, outputPath, inside, ← List.append_assoc]
    exact (renders_tagged_congr (by decide) (by decide) _ (by decide) (by decide) (by decide)
      (by decide) (by decide) (by decide)).mp shown

/-- Where a template was found, the first line of the search was shown, and so the line about the
output can be shown too. -/
theorem said_wrote_of_template {text output : Text} (templated :
      (template console context).runOn machine = (.ok text, { machine with output })) :
    said console (wroteLine (outputPath context.projectRoot)) = .ok () := by
  obtain ⟨front, found, behind, _, whole, reaches, _⟩ :=
    (runOn_template_iff machine).mp ⟨output, templated⟩
  have first : ((Path.ofText context.projectRoot).child propertiesName).child fileName ∈
      front ++ [found] := by
    cases front with
    | nil => simp [(List.cons.inj whole).1]
    | cons passed front => simp [(List.cons.inj whole).1]
  exact said_wrote (reaches.saidChecking _ first)

/-- A preparation that succeeds writes the resolved text of the first candidate that is a file into
the output, makes the directories that are missing on the way there, and leaves the rest as it is.
What the output held before makes no difference unless it is that candidate. -/
theorem successful_prepare_writes_output
    (ran : (prepareWith console environment context).runOn machine = (.ok path, after)) :
    path = outputPath context.projectRoot ∧
    ∃ found content,
      FirstFile machine.files machine.directory
        (candidates context.workspaceRoot context.projectRoot) found content ∧
      Written machine.directory context.projectRoot
        (Utf8.encode (context.resolve .dollar environment (Utf8.readLenient content)))
        machine.files after.files ∧
      (named machine.directory found ≠ outputPlace machine.directory context.projectRoot →
        ∀ other, AlikeButOutput machine.directory context.projectRoot other machine.files →
          ∃ final,
            (prepareWith console environment context).runOn { machine with files := other } =
              (.ok path, final) ∧
            ∀ place, final.files.lookup? place = after.files.lookup? place) := by
  obtain ⟨rfl, shown, text, templated, writes⟩ := runOn_prepareWith_iff.mp ⟨after, ran, rfl⟩
  obtain ⟨front, found, behind, content, whole, reaches, reads, rfl⟩ :=
    (runOn_template_iff machine).mp templated
  refine ⟨rfl, found, content, whole ▸ firstFile_of_reaches reaches reads,
    written_of_writes writes, fun elsewhere other alike => ?_⟩
  obtain ⟨notDirectory, avoids⟩ := output_of_writes writes
  obtain ⟨otherReaches, otherReads⟩ :=
    search_alike whole reaches reads avoids notDirectory elsewhere alike
  obtain ⟨files, otherWrites, same⟩ := writes_alike writes alike
  have otherTemplated := (runOn_template_iff { machine with files := other }).mpr
    ⟨front, found, behind, content, whole, otherReaches, otherReads, rfl⟩
  obtain ⟨final, otherRan, rfl⟩ := runOn_prepareWith_iff.mpr
    ⟨rfl, shown, _, otherTemplated, otherWrites⟩
  exact ⟨final, otherRan, same⟩

/-- The template of the workspace is resolved for a project without an output, and again with any
content there. -/
theorem successful_prepare_writes_output_of_workspace :
    let environment : Environment := [("A".toList, "b".toList)]
    let context : Context :=
      ⟨"/w".toList, "/w/p".toList, "/w".toList, "/w/p".toList, "p".toList⟩
    let output : Place := [['w'], ['p'], outputName, fileName]
    let machine : Machine :=
      { files := { entries := [([['w']], .directory), ([['w'], ['p']], .directory),
          ([['w'], ['p'], outputName], .directory),
          ([['w'], fileName], .file (Utf8.encode "%projectName%$A".toList))] }
        directory := [] }
    ∃ after, (prepareWith none environment context).runOn machine =
        (.ok (outputPath context.projectRoot), after) ∧
      (∃ found content,
        FirstFile machine.files machine.directory
          (candidates context.workspaceRoot context.projectRoot) found content ∧
        Written machine.directory context.projectRoot
          (Utf8.encode (context.resolve .dollar environment (Utf8.readLenient content)))
          machine.files after.files) ∧
      after.files.lookup? output = some (.file (Utf8.encode "pb".toList)) ∧
      ∀ old, ∃ final, (prepareWith none environment context).runOn
          { machine with files := machine.files.put output (.file old) } =
            (.ok (outputPath context.projectRoot), final) ∧
        final.files.lookup? output = some (.file (Utf8.encode "pb".toList)) := by
  intro environment context output machine
  have ran : (prepareWith none environment context).runOn machine =
      (.ok (outputPath context.projectRoot),
        ((prepareWith none environment context).runOn machine).2) :=
    runOn_of_result (by decide +kernel)
  have wrote : ((prepareWith none environment context).runOn machine).2.files.lookup? output =
      some (.file (Utf8.encode "pb".toList)) := by
    decide +kernel
  obtain ⟨_, found, content, first, written, again⟩ := successful_prepare_writes_output ran
  have elsewhere : ∀ candidate ∈ candidates context.workspaceRoot context.projectRoot,
      named machine.directory candidate ≠ outputPlace machine.directory context.projectRoot := by
    decide
  have isCandidate : found ∈ candidates context.workspaceRoot context.projectRoot := by
    obtain ⟨front, behind, whole, _⟩ := first
    simp [whole]
  refine ⟨_, ran, ⟨found, content, first, written⟩, wrote, fun old => ?_⟩
  have room : machine.files.entries.hasRoom output (.file old) = true := rfl
  have alike : AlikeButOutput machine.directory context.projectRoot
      (machine.files.put output (.file old)) machine.files := by
    refine ⟨fun place other => lookup?_put_of_ne _ other _, ?_⟩
    rw [show outputPlace _ _ = output by decide, lookup?_put_self _ room]
    simp
  obtain ⟨final, finalRan, same⟩ := again (elsewhere found isCandidate) _ alike
  exact ⟨final, finalRan, (same output).trans wrote⟩

/-- A preparation that fails leaves every file as it is. Without a template, or where the template
cannot be read, nothing at all has changed; otherwise writing has failed, and some directories may
have been made on the way to the output. -/
theorem failed_prepare_leaves_files {fault : Fault}
    (ran : (prepareWith console environment context).runOn machine = (.error fault, after)) :
    (∀ place content, after.files.lookup? place = some (.file content) ↔
      machine.files.lookup? place = some (.file content)) ∧
    (fault = .noLaunchFile → after.files = machine.files) ∧
    (((template console context).runOn machine = (.error fault, after) ∧
        after.files = machine.files) ∨
      ∃ text middle, (template console context).runOn machine = (.ok text, middle) ∧
        (write context.projectRoot (context.resolve .dollar environment text)).runOn middle =
          (.error fault, after) ∧
        Grown (OnWay machine.directory context.projectRoot) machine.files after.files) := by
  rw [prepareWith_eq] at ran
  rcases bind_error ran with templated | ⟨text, middle, templated, ran⟩
  · obtain ⟨output, rfl⟩ := after_of_onlyPrints (onlyPrints_template _ _) templated
    exact ⟨fun _ _ => .rfl, fun _ => rfl, .inl ⟨templated, rfl⟩⟩
  · obtain ⟨output, rfl⟩ := after_of_onlyPrints (onlyPrints_template _ _) templated
    rcases bind_error ran with wrote | ⟨target, last, wrote, ran⟩
    · obtain ⟨⟨error, rfl⟩, grown⟩ := grown_of_failed_write wrote
      exact ⟨grown_files grown, nofun, .inr ⟨text, _, templated, wrote, grown⟩⟩
    · -- the last line does not fail, since the first line of the search did not
      obtain ⟨rfl, _, _⟩ := runOn_write_iff.mp wrote
      obtain ⟨later, shown⟩ := (runOn_say_iff last).mpr (said_wrote_of_template templated)
      rw [runOn_bind_of_ok shown] at ran
      cases ran

/-- On the way around a missing directory that directory is made, and it stays when a file behind it
stops the preparation. -/
theorem failed_prepare_leaves_files_on_detour :
    let project : Text := "/a/../f".toList
    let context : Context := ⟨"/w".toList, project, "/w".toList, project, ['f']⟩
    let machine : Machine :=
      { files := { entries := [([['w']], .directory), ([['w'], fileName], .file []),
          ([['f']], .file [])] }
        directory := [] }
    ∃ after, (prepareWith none [] context).runOn machine =
        (.error (.file (.refused .alreadyExists project)), after) ∧
      (∀ place content, after.files.lookup? place = some (.file content) ↔
        machine.files.lookup? place = some (.file content)) ∧
      machine.files.lookup? [['a']] = none ∧ after.files.lookup? [['a']] = some .directory := by
  intro project context machine
  have ran : (prepareWith none [] context).runOn machine =
      (.error (.file (.refused .alreadyExists project)),
        ((prepareWith none [] context).runOn machine).2) :=
    runOn_of_result (by decide +kernel)
  exact ⟨_, ran, (failed_prepare_leaves_files ran).1, by decide, by decide +kernel⟩

end Preparation

end DebugLaunch.PreparedFile
