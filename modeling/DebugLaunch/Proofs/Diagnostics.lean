import DebugLaunch.Proofs.CommandLineRuns
import DebugLaunch.Proofs.PreparedFile

/-! What lines about the work do to the work itself. A line is marked up text, and the paths in it
are not taken out of the markup. So a path can hold a tag that closes nothing, and the line about it
stops the action. Apart from that, an action with a screen comes to what it comes to without one;
and where a line stops it, no file has changed yet. -/
namespace DebugLaunch.Diagnostics
open DebugLaunch.Action Cli LaunchFile LaunchFileSearch MarkupTags PreparedFile CommandLineRuns

section Relations
variable {α β : Type}

/-- Two runs come to the same, but for what was printed. -/
def Alike (first second : Except Fault α × Machine) : Prop :=
  first.1 = second.1 ∧ ∃ output, first.2 = { second.2 with output }

/-- A run was stopped by a line that cannot be shown, and all files are as they were. -/
def Stopped (machine : Machine) (run : Except Fault α × Machine) : Prop :=
  (∃ fault, run.1 = .error (.markup fault)) ∧ run.2.files = machine.files

/-- An action with lines about its work does what another one does without them, or a line stops it;
but if all lines can be shown, none does. -/
def Follows (shown : Prop) (loud silent : Action α) : Prop :=
  ∀ machine output, Alike (loud.runOn machine) (silent.runOn { machine with output }) ∨
    ¬ shown ∧ Stopped machine (loud.runOn machine)

variable {shown later : Prop} {loud silent : Action α} {loudNext silentNext : α → Action β}

theorem files_of_alike {first second : Except Fault α × Machine}
    (alike : Alike first second) : first.2.files = second.2.files := by
  obtain ⟨_, output, whole⟩ := alike
  rw [whole]

theorem follows_mono (implies : shown → later) (follows : Follows later loud silent) :
    Follows shown loud silent := fun machine output =>
  (follows machine output).imp_right fun ⟨hidden, stopped⟩ => ⟨hidden ∘ implies, stopped⟩

theorem follows_self {action : Action α} (blind : ∀ machine output,
      Alike (action.runOn machine) (action.runOn { machine with output })) :
    Follows shown action action := fun machine output => .inl (blind machine output)

theorem follows_pure (value : α) : Follows shown (pure value) (pure value) :=
  follows_self fun machine _ => ⟨rfl, machine.output, rfl⟩

theorem follows_throw (fault : Fault) : Follows shown (throw fault : Action α) (throw fault) :=
  follows_self fun machine _ => ⟨rfl, machine.output, rfl⟩

theorem follows_askFiles (view : FileTree → Place → Except PathError α) :
    Follows shown (askFiles view) (askFiles view) :=
  follows_self fun machine output => by
    rw [runOn_askFiles, runOn_askFiles]
    exact ⟨rfl, machine.output, rfl⟩

theorem follows_say {console : Option Console} {markup : Text}
    (can : shown → said console markup = .ok ()) :
    Follows shown (say console markup) (say none markup) := by
  intro machine output
  obtain ⟨printed, ran⟩ := runOn_say console markup machine
  rw [ran]
  cases line : said console markup with
  | ok _ => exact .inl ⟨rfl, printed, rfl⟩
  | error fault =>
    obtain ⟨inner, rfl⟩ := said_error line
    exact .inr ⟨fun isShown => by simp [can isShown] at line, ⟨inner, rfl⟩, rfl⟩

/-- What two runs come to: the same, after machines that differ in their output only, or the first
one was stopped. -/
theorem runs_of_follows (follows : Follows shown loud silent) (machine : Machine) (output : Text) :
    (∃ result middle printed, loud.runOn machine = (result, { middle with output := printed }) ∧
        silent.runOn { machine with output } = (result, middle)) ∨
      ¬ shown ∧ ∃ fault after, loud.runOn machine = (.error (.markup fault), after) ∧
        after.files = machine.files := by
  have step := follows machine output
  rcases loudRan : loud.runOn machine with ⟨result, after⟩
  rcases silentRan : silent.runOn { machine with output } with ⟨other, middle⟩
  rw [loudRan, silentRan] at step
  rcases step with ⟨same, printed, whole⟩ | ⟨hidden, ⟨fault, stops⟩, files⟩
  · dsimp only at same whole
    subst same whole
    exact .inl ⟨result, middle, printed, rfl, rfl⟩
  · dsimp only at stops
    subst stops
    exact .inr ⟨hidden, fault, after, rfl, files⟩

/-- One step after another. Where the second may still be stopped, the first has to leave the files
as they are. -/
theorem follows_bind (keeps : later ∨ Keeps Machine.files loud) (implies : shown → later)
    (first : Follows shown loud silent)
    (rest : ∀ value, (∃ machine after, loud.runOn machine = (.ok value, after)) →
      Follows later (loudNext value) (silentNext value)) :
    Follows shown (loud >>= loudNext) (silent >>= silentNext) := by
  intro machine output
  rw [runOn_bind, runOn_bind]
  rcases runs_of_follows first machine output with
    ⟨result, middle, printed, loudRan, silentRan⟩ | ⟨hidden, fault, after, stops, files⟩
  · rw [loudRan, silentRan]
    cases result with
    | error fault => exact .inl ⟨rfl, printed, rfl⟩
    | ok value =>
      rcases rest value ⟨_, _, loudRan⟩ { middle with output := printed } middle.output with
        alike | ⟨hidden, stops, files⟩
      · exact .inl alike
      · have kept : middle.files = machine.files := by
          rw [← keeps.resolve_left hidden machine, loudRan]
        exact .inr ⟨hidden ∘ implies, stops, files.trans kept⟩
  · rw [stops]
    exact .inr ⟨hidden, ⟨fault, rfl⟩, files⟩

/-- Behind a step that leaves the files as they are, the others may still be stopped. -/
theorem follows_bind_prints (prints : OnlyPrints loud) (first : Follows shown loud silent)
    (rest : ∀ value, Follows shown (loudNext value) (silentNext value)) :
    Follows shown (loud >>= loudNext) (silent >>= silentNext) :=
  follows_bind (.inr (keeps_of_onlyPrints prints fun _ _ => rfl)) id first fun value _ => rest value

theorem alike_report (message : Text) (machine : Machine) (output : Text) :
    Alike ((report message).runOn machine) ((report message).runOn { machine with output }) := by
  rw [runOn_report, runOn_report]
  cases Display.Markup.render (reportLine message) with
  | ok shown => exact ⟨rfl, machine.output ++ errorPanel machine.screen shown, rfl⟩
  | error fault => exact ⟨rfl, machine.output, rfl⟩

/-- Faults are reported in one way, with lines about the work or without. -/
theorem follows_orReport {loudNext silentNext : α → Action Exit} {expected : Fault → Bool}
    (unexpected : ∀ fault, expected (.markup fault) = false) (first : Follows shown loud silent)
    (rest : ∀ value, Follows True (loudNext value) (silentNext value)) :
    Follows shown (orReport expected loud loudNext) (orReport expected silent silentNext) := by
  intro machine output
  rw [runOn_orReport, runOn_orReport]
  rcases runs_of_follows first machine output with
    ⟨result, middle, printed, loudRan, silentRan⟩ | ⟨hidden, fault, after, stops, files⟩
  · rw [loudRan, silentRan]
    refine .inl ?_
    cases result with
    | error fault =>
      dsimp only
      split
      · exact alike_report (fault.message middle.manual) { middle with output := printed }
          middle.output
      · exact ⟨rfl, printed, rfl⟩
    | ok value =>
      exact (rest value { middle with output := printed } middle.output).resolve_right
        fun stopped => stopped.1 trivial
  · rw [stops]
    dsimp only
    rw [unexpected, if_neg Bool.false_ne_true]
    exact .inr ⟨hidden, ⟨fault, rfl⟩, files⟩

end Relations

/-! ### The steps of a launch -/

section Steps
variable {console : Option Console}

/-- Each line of a search through some paths can be shown. -/
def LinesShown (console : Option Console) (paths : List Path) : Prop :=
  ∀ path ∈ paths, said console (checkingLine path) = .ok () ∧ said console (usingLine path) = .ok ()

theorem follows_firstFile (console : Option Console) (paths : List Path) :
    Follows (LinesShown console paths) (firstFile console paths) (firstFile none paths) := by
  induction paths with
  | nil => exact follows_pure none
  | cons path rest ih =>
    have here : LinesShown console (path :: rest) →
        said console (checkingLine path) = .ok () ∧ said console (usingLine path) = .ok () :=
      fun shown => shown path (List.mem_cons_self ..)
    refine follows_bind_prints (onlyPrints_say _ _) (follows_say fun shown => (here shown).1)
      fun _ => ?_
    refine follows_bind_prints (onlyPrints_askFiles _) (follows_askFiles _) fun answer => ?_
    cases answer with
    | false =>
      exact follows_mono (fun shown other inside => shown other (List.mem_cons_of_mem _ inside)) ih
    | true =>
      exact follows_bind_prints (onlyPrints_say _ _) (follows_say fun shown => (here shown).2)
        fun _ => follows_pure _

theorem follows_template (console : Option Console) (context : Context) :
    Follows (LinesShown console (LaunchFile.candidates context.workspaceRoot context.projectRoot))
      (template console context) (template none context) := by
  refine follows_bind_prints (onlyPrints_firstFile _ _) (follows_firstFile _ _) fun found => ?_
  cases found with
  | none => exact follows_throw _
  | some path =>
    exact follows_bind_prints (onlyPrints_askFiles _) (follows_askFiles _) fun _ => follows_pure _

theorem alike_write (project content : Text) (machine : Machine) (output : Text) :
    Alike ((write project content).runOn machine)
      ((write project content).runOn { machine with output }) := by
  rw [runOn_write, runOn_write]
  dsimp only
  rcases machine.files.ensureDirectory machine.directory (outputPath project).parent with
    ⟨made, error | _⟩
  · exact ⟨rfl, machine.output, rfl⟩
  · dsimp only
    cases made.write machine.directory (outputPath project) (Utf8.encode content) with
    | error error => exact ⟨rfl, machine.output, rfl⟩
    | ok files => exact ⟨rfl, machine.output, rfl⟩

/-- The line about the output does not stop a preparation, since then the search would have been
stopped before. -/
theorem follows_prepareWith (console : Option Console) (environment : Environment)
    (context : Context) :
    Follows (LinesShown console (LaunchFile.candidates context.workspaceRoot context.projectRoot))
      (prepareWith console environment context) (prepareWith none environment context) := by
  rw [prepareWith_eq, prepareWith_eq]
  refine follows_bind (.inl trivial) (fun _ => trivial) (follows_template console context) ?_
  rintro text ⟨machine, after, templated⟩
  obtain ⟨output, rfl⟩ := after_of_onlyPrints (onlyPrints_template _ _) templated
  refine follows_bind (.inl trivial) id (follows_self (alike_write _ _)) ?_
  -- from here on the output is written, so the last line must not stop
  rintro target ⟨_, _, wrote⟩
  obtain ⟨rfl, _⟩ := runOn_write_iff.mp wrote
  exact follows_bind_prints (onlyPrints_say _ _)
    (follows_say fun _ => said_wrote_of_template templated) fun _ => follows_pure _

theorem follows_prepare (console : Option Console) (context : Context) :
    Follows (LinesShown console (LaunchFile.candidates context.workspaceRoot context.projectRoot))
      (prepare console context) (prepare none context) := by
  intro machine output
  rw [runOn_prepare, runOn_prepare]
  exact follows_prepareWith console machine.environment context machine output

theorem follows_liftExcept {α : Type} {shown : Prop} (result : Except Fault α) :
    Follows shown (Settings.load.liftExcept result) (Settings.load.liftExcept result) := by
  cases result with
  | ok value => exact follows_pure value
  | error fault => exact follows_throw fault

theorem follows_ask {α : Type} {shown : Prop} {view : Machine → α}
    (blind : ∀ machine output, view { machine with output } = view machine) :
    Follows shown (ask view) (ask view) :=
  follows_self fun machine output => by
    rw [runOn_ask, runOn_ask]
    exact ⟨congrArg Except.ok (blind machine output).symm, machine.output, rfl⟩

theorem follows_loadSettings (console : Option Console) (workspace : Text) :
    Follows (said console (loadedLine (Settings.path workspace)) = .ok ())
      (Settings.load console workspace) (Settings.load none workspace) := by
  rw [loadSettings_eq, loadSettings_eq]
  refine follows_bind_prints (onlyPrints_fileEntries _ _) ?_ fun entries => ?_
  · refine follows_bind_prints (onlyPrints_isThere _) ?_ fun isThere => ?_
    · exact follows_bind_prints (onlyPrints_askFiles _) (follows_askFiles _) fun _ => follows_pure _
    · cases isThere with
      | false => exact follows_pure _
      | true =>
        refine follows_bind_prints (onlyPrints_askFiles _) (follows_askFiles _) fun bytes => ?_
        refine follows_bind_prints (onlyPrints_liftExcept _) (follows_liftExcept _) fun _ => ?_
        exact follows_bind_prints (onlyPrints_say _ _) (follows_say id) fun _ => follows_pure _
  · refine follows_bind_prints (onlyPrints_ask _) (follows_ask fun _ _ => rfl) fun _ => ?_
    exact follows_bind_prints (onlyPrints_liftExcept _) (follows_liftExcept _) fun _ =>
      follows_liftExcept _

end Steps

/-! ### Paths without brackets -/

section Free
variable {console : Option Console} {path : Path} {workspace project : Text}

/-- No bracket opens in a path. -/
def BracketFree (path : Path) : Prop := ∀ part ∈ path.components, '[' ∉ part

theorem bracketFree_ofText {text : Text} (free : '[' ∉ text) : BracketFree (Path.ofText text) :=
  fun _ member inside => free (Text.mem_of_mem_split (List.mem_of_mem_filter member) inside)

theorem bracketFree_child {name : Text} (free : BracketFree path) (nameFree : '[' ∉ name) :
    BracketFree (path.child name) := by
  intro part member
  rcases List.mem_append.mp member with above | last
  · exact free part above
  · rw [List.mem_singleton.mp last]
    exact nameFree

private theorem said_of_bracketFree {tag : String}
    (opens : tag.toList.head?.any Display.Markup.opensTag) (tagPlain : Plain tag.toList)
    (renders : Renders (tagged tag [])) {start : Text} (startFree : '[' ∉ start)
    (free : BracketFree path) (name : Text) (nameFree : '[' ∉ name) (last : Char)
    (ordinary : last ≠ '[' ∧ last ≠ '\\') :
    said console (tagged tag (start ++ (path.child (name ++ [last])).toText)) = .ok () := by
  cases console with
  | none => rfl
  | some console =>
    have anchorFree : '[' ∉ path.anchor.toText := by cases path.anchor <;> decide
    have aboveFree : '[' ∉ path.components.flatMap (· ++ ['/']) := by
      intro inside
      obtain ⟨part, member, inside⟩ := List.mem_flatMap.mp inside
      rcases List.mem_append.mp inside with inside | slash
      · exact free part member inside
      · simp at slash
    rw [said_iff_renders, Path.toText_child, ← List.append_assoc, ← List.append_assoc]
    refine renders_tagged_of_free opens tagPlain renders ?_ ordinary
    simp [startFree, anchorFree, aboveFree, nameFree]

theorem linesShown_of_free (workspaceFree : '[' ∉ workspace) (projectFree : '[' ∉ project) :
    LinesShown console (LaunchFile.candidates workspace project) := by
  intro path inside
  have above : ∃ above, path = above.child ("launch.jso".toList ++ ['n']) ∧ BracketFree above := by
    have inWorkspace := bracketFree_ofText workspaceFree
    have inProject := bracketFree_ofText projectFree
    simp only [LaunchFile.candidates, List.mem_cons, List.not_mem_nil, or_false] at inside
    rcases inside with rfl | rfl | rfl
    · exact ⟨_, rfl, bracketFree_child inProject (by decide)⟩
    · exact ⟨_, rfl, inProject⟩
    · exact ⟨_, rfl, inWorkspace⟩
  obtain ⟨above, rfl, free⟩ := above
  exact ⟨said_of_bracketFree (by decide) (by decide) renders_dim (by decide) free _ (by decide) _
      (by decide),
    said_of_bracketFree (by decide) (by decide) renders_green (by decide) free _ (by decide) _
      (by decide)⟩

theorem said_loaded_of_free (workspaceFree : '[' ∉ workspace) :
    said console (loadedLine (Settings.path workspace)) = .ok () :=
  said_of_bracketFree (by decide) (by decide) renders_dim (by decide)
    (bracketFree_ofText workspaceFree) ".rdlauncher.yam".toList (by decide) 'l' (by decide)

end Free

/-! ### The two commands -/

section Commands
variable {loud silent : Options} {machine : Machine}

/-- No bracket opens in the roots of a context. -/
def FreeRoots (context : Context) : Prop :=
  '[' ∉ context.workspaceRoot ∧ '[' ∉ context.projectRoot

instance (context : Context) : Decidable (FreeRoots context) :=
  inferInstanceAs (Decidable (_ ∧ _))

theorem alike_or_stopped_withContext (same : SameSelection silent loud)
    {loudNext silentNext : Context → Action Exit}
    (follows : ∀ context, Follows (FreeRoots context) (loudNext context) (silentNext context))
    (machine : Machine) (output : Text) :
    Alike ((withContext loud loudNext).runOn machine)
        ((withContext silent silentNext).runOn { machine with output }) ∨
      (∃ context, selected? machine.directory machine.environment loud = some context ∧
        ¬ FreeRoots context) ∧ Stopped machine ((withContext loud loudNext).runOn machine) := by
  rw [runOn_withContext, runOn_withContext]
  dsimp only
  rw [selected?_congr same]
  cases selected? machine.directory machine.environment silent with
  | none => exact .inl (alike_report _ machine output)
  | some context =>
    exact (follows context machine output).imp_right fun ⟨hidden, stopped⟩ =>
      ⟨⟨context, rfl, hidden⟩, stopped⟩

theorem follows_printPlain {shown : Prop} (text : Text) :
    Follows shown (printPlain text) (printPlain text) :=
  follows_self fun machine _ => ⟨rfl, machine.output ++ plainText text, rfl⟩

theorem onlyPrints_printPlain (text : Text) : OnlyPrints (printPlain text) := fun machine =>
  ⟨machine.output ++ plainText text, rfl⟩

theorem messages_of_quiet (screen : Console) (quiet : has silent .quiet) :
    messages screen silent = none := if_pos quiet

theorem alike_or_stopped_launch (runner : Runner) (same : SameSelection silent loud)
    (quiet : has silent .quiet) (loudNoRun : has loud .noRun) (silentNoRun : has silent .noRun)
    (machine : Machine) (output : Text) :
    Alike ((launch runner loud).runOn machine)
        ((launch runner silent).runOn { machine with output }) ∨
      (∃ context, selected? machine.directory machine.environment loud = some context ∧
        ¬ FreeRoots context) ∧ Stopped machine ((launch runner loud).runOn machine) := by
  refine alike_or_stopped_withContext same (fun context => ?_) machine output
  refine follows_bind_prints (onlyPrints_ask _) (follows_ask fun _ _ => rfl) fun screen => ?_
  dsimp only
  rw [messages_of_quiet screen quiet]
  refine follows_orReport (fun _ => rfl) ?_ ?_
  · refine follows_bind_prints (onlyPrints_loadSettings _ _) ?_ fun settings => ?_
    · exact follows_mono (fun free => said_loaded_of_free free.1) (follows_loadSettings _ _)
    · refine follows_bind (.inl trivial) (fun _ => trivial) ?_ fun _ _ => follows_pure _
      exact follows_mono (fun free => linesShown_of_free free.1 free.2) (follows_prepare _ _)
  · rintro ⟨settings, file⟩
    dsimp only
    simp only [loudNoRun, silentNoRun, if_true]
    exact follows_bind_prints (onlyPrints_printPlain _) (follows_printPlain _) fun _ =>
      follows_pure _

theorem alike_or_stopped_locate (same : SameSelection silent loud) (quiet : has silent .quiet)
    (machine : Machine) (output : Text) :
    Alike ((locate loud).runOn machine) ((locate silent).runOn { machine with output }) ∨
      (∃ context, selected? machine.directory machine.environment loud = some context ∧
        ¬ FreeRoots context) ∧ Stopped machine ((locate loud).runOn machine) := by
  refine alike_or_stopped_withContext same (fun context => ?_) machine output
  refine follows_bind_prints (onlyPrints_ask _) (follows_ask fun _ _ => rfl) fun screen => ?_
  dsimp only
  rw [messages_of_quiet screen quiet]
  refine follows_bind_prints (onlyPrints_firstFile _ _) ?_ fun found => ?_
  · exact follows_mono (fun free => linesShown_of_free free.1 free.2) (follows_firstFile _ _)
  · cases found with
    | none => exact follows_self (alike_report _)
    | some file =>
      exact follows_bind_prints (onlyPrints_printPlain _) (follows_printPlain _) fun _ =>
        follows_pure _

/-- Two command lines do the same work on the same project: they write the launch file, or they
locate the template. The second wants no lines about it. -/
structure SameWork (command : Command) (loud silent : Arguments) : Prop where
  work : command = .launch ∧ has loud.options .noRun ∧ has silent.options .noRun ∨ command = .locate
  selection : SameSelection silent.options loud.options
  extra : loud.extra = silent.extra
  quiet : has silent.options .quiet

theorem alike_or_stopped_run {runner : Runner} {command : Command} {loudLine silentLine : List Text}
    {loud silent : Arguments} (loudReads : Reads loudLine command loud)
    (silentReads : Reads silentLine command silent) (same : SameWork command loud silent)
    (machine : Machine) :
    Alike ((run runner loudLine).runOn machine) ((run runner silentLine).runOn machine) ∨
      (∃ context, selected? machine.directory (EnvironmentFile.load.runOn machine).2.environment
          loud.options = some context ∧ ¬ FreeRoots context) ∧
        Stopped machine ((run runner loudLine).runOn machine) := by
  rw [runOn_run loudReads, runOn_run silentReads]
  rcases loaded : EnvironmentFile.load.runOn machine with ⟨fault | _, middle⟩
  · exact .inl ⟨rfl, middle.output, rfl⟩
  · obtain ⟨environment, rfl⟩ := after_of_loadEnvironment loaded
    dsimp only
    have paths : command.keys.filter Key.isPath = [.project, .workspace] := by
      rcases same.work with ⟨rfl, _⟩ | rfl <;> rfl
    rw [hasNullPath_congr same.selection paths, same.extra]
    split
    · exact .inl ⟨rfl, machine.output, rfl⟩
    · split
      · exact .inl ⟨rfl, machine.output, rfl⟩
      · rcases same.work with ⟨rfl, loudNoRun, silentNoRun⟩ | rfl
        · exact alike_or_stopped_launch runner same.selection same.quiet loudNoRun silentNoRun
            { machine with environment } machine.output
        · exact alike_or_stopped_locate same.selection same.quiet { machine with environment }
            machine.output

/-- Lines about the work leave what it comes to as it is, or one of them stops it before any file
has changed; and that only where a bracket opens in one of the roots. -/
theorem diagnostics_alike_or_stopped (runner : Runner) {command : Command}
    {loudLine silentLine : List Text} {loud silent : Arguments}
    (loudReads : Reads loudLine command loud) (silentReads : Reads silentLine command silent)
    (same : SameWork command loud silent) (console : Option Console) (environment : Environment)
    (context : Context) (machine : Machine) :
    Follows (FreeRoots context) (find console context.workspaceRoot context.projectRoot)
      (find none context.workspaceRoot context.projectRoot) ∧
    Follows (FreeRoots context) (Settings.load console context.workspaceRoot)
      (Settings.load none context.workspaceRoot) ∧
    Follows (FreeRoots context) (prepareWith console environment context)
      (prepareWith none environment context) ∧
    (Alike ((run runner loudLine).runOn machine) ((run runner silentLine).runOn machine) ∨
      (∃ context, selected? machine.directory (EnvironmentFile.load.runOn machine).2.environment
          loud.options = some context ∧ ¬ FreeRoots context) ∧
        Stopped machine ((run runner loudLine).runOn machine)) :=
  ⟨follows_mono (fun free => linesShown_of_free free.1 free.2) (follows_firstFile _ _),
    follows_mono (fun free => said_loaded_of_free free.1) (follows_loadSettings _ _),
    follows_mono (fun free => linesShown_of_free free.1 free.2) (follows_prepareWith _ _ _),
    alike_or_stopped_run loudReads silentReads same machine⟩

/-- A launch with lines about its work succeeds, since one without them does. -/
theorem diagnostics_alike_of_workspace :
    let machine : Machine :=
      { files := { entries := [([['w']], .directory),
          ([['w'], fileName], .file (Utf8.encode ['t']))] }
        directory := [] }
    let runner : Runner := fun _ _ machine => (.timedOut, machine.files)
    let line := ["launch", "-p", "/w/p", "-w", "/w", "--no-run"].map String.toList
    let output := [['w'], ['p'], outputName, fileName]
    ∃ after, (run runner line).runOn machine = (.ok .success, after) ∧
      after.files.lookup? output = some (.file (Utf8.encode ['t'])) := by
  intro machine runner line output
  let silentLine := line ++ ["-q".toList]
  let options : Options := [(.noRun, []), (.workspace, "/w".toList), (.project, "/w/p".toList)]
  let context : Context := ⟨"/w".toList, "/w/p".toList, "/w".toList, "/w/p".toList, ['p']⟩
  have loudReads : Reads line .launch ⟨options, false⟩ := ⟨_, rfl, rfl⟩
  have silentReads : Reads silentLine .launch ⟨(.quiet, []) :: options, false⟩ := ⟨_, rfl, rfl⟩
  have same : SameWork .launch ⟨options, false⟩ ⟨(.quiet, []) :: options, false⟩ :=
    ⟨.inl ⟨rfl, rfl, rfl⟩, ⟨rfl, rfl, rfl⟩, rfl, rfl⟩
  have selects : selected? machine.directory (EnvironmentFile.load.runOn machine).2.environment
      options = some context := by decide +kernel
  have silentRan : (run runner silentLine).runOn machine = (.ok .success, _) :=
    runOn_of_result (by decide +kernel)
  have silentWrote : ((run runner silentLine).runOn machine).2.files.lookup? output =
      some (.file (Utf8.encode ['t'])) := by decide +kernel
  obtain ⟨_, _, _, alike | ⟨⟨other, otherSelects, hidden⟩, _⟩⟩ :=
    diagnostics_alike_or_stopped runner loudReads silentReads same (some machine.screen) []
      context machine
  · have ran : ((run runner line).runOn machine).1 = .ok .success :=
      alike.1.trans (congrArg Prod.fst silentRan)
    exact ⟨_, runOn_of_result ran,
      (congrArg (fun files : FileTree => files.lookup? output) (files_of_alike alike)).trans
        silentWrote⟩
  · have free : FreeRoots context := by decide
    exact absurd (Option.some.inj (selects.symm.trans otherSelects) ▸ free) hidden

/-- A root with a tag that closes nothing: a launch succeeds, but with lines about its work it is
stopped and writes nothing. -/
theorem diagnostics_stop_launch :
    let machine : Machine :=
      { files := { entries := [(["w[".toList], .directory), (["w[".toList, [']']], .directory),
          (["w[".toList, [']'], fileName], .file (Utf8.encode ['t']))] }
        directory := [] }
    let runner : Runner := fun _ _ machine => (.timedOut, machine.files)
    let line := ["launch", "-p", "/w[/]/p", "-w", "/w[/]", "--no-run"].map String.toList
    let output := ["w[".toList, [']'], ['p'], outputName, fileName]
    ∃ after final,
      (run runner (line ++ ["-q".toList])).runOn machine = (.ok .success, after) ∧
      after.files.lookup? output = some (.file (Utf8.encode ['t'])) ∧
      (run runner line).runOn machine = (.error (.markup .nothingToClose), final) ∧
      final.files.lookup? output = none := by
  intro machine runner line output
  exact ⟨_, _, runOn_of_result (by decide +kernel), by decide +kernel,
    runOn_of_result (by decide +kernel), by decide +kernel⟩

end Commands

end DebugLaunch.Diagnostics
