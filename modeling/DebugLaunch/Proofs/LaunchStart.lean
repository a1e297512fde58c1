import DebugLaunch.Proofs.CommandLineRuns
import DebugLaunch.Proofs.PreparedFile
import DebugLaunch.Proofs.ProgramEnding

/-! When a command line starts a program. Only `launch` can, behind the settings and the prepared
output, and only as its last step but the report of how the program ended. So a start is known from
what has gone well before it, there is at most one, and the files that the program finds hold the
resolved text of the template that was found in the same run. Any fault before leaves the programs
that were started as they are. -/
namespace DebugLaunch.LaunchStart
open DebugLaunch.Action Cli LaunchFile LaunchFileSearch PreparedFile CommandLineRuns
open ProgramEnding (startingLine afterStart)

/-- The words that a program is started with: the command of the settings, and the output. -/
def startWords (settings : Settings) (context : Context) : List Text :=
  settings.launchCommand ++ [(outputPath context.projectRoot).toText]

/-- The options and the settings want a start, and the line about it can be said. -/
structure Wants (console : Option Console) (options : Options) (context : Context)
    (settings : Settings) : Prop where
  runs : ¬ has options .noRun
  configured : settings.launchCommand ≠ []
  line : said console (startingLine (startWords settings context)) = .ok ()

/-- All that has gone well on a machine before a launch starts a program: a project is selected, its
settings are loaded, and the first candidate that is a file is prepared as the output. -/
inductive Launches (options : Options) (machine : Machine) : Start → Prop where
  | start {context : Context} {settings : Settings} {loaded prepared : Machine} {found : Path}
      {content : Utf8.Bytes}
      (selects : selected? machine.directory machine.environment options = some context)
      (loads : (Settings.load (messages machine.screen options) context.workspaceRoot).runOn
        machine = (.ok settings, loaded))
      (prepares : (prepare (messages machine.screen options) context).runOn loaded =
        (.ok (outputPath context.projectRoot), prepared))
      (first : FirstFile machine.files machine.directory
        (candidates context.workspaceRoot context.projectRoot) found content)
      (written : Written machine.directory context.projectRoot
        (Utf8.encode (context.resolve .dollar machine.environment (Utf8.readLenient content)))
        machine.files prepared.files)
      (wants : Wants (messages machine.screen options) options context settings) :
      Launches options machine ⟨startWords settings context, prepared.files⟩

/-- All that has gone well in a command line before it starts a program: it is one of `launch`, its
environment file is loaded, its arguments can be used, and the launch starts a program then. -/
inductive Starts (arguments : List Text) (machine : Machine) (start : Start) : Prop where
  | launch {given : Arguments} {environment : Environment}
      (reads : Reads arguments .launch given)
      (loads : EnvironmentFile.load.runOn machine = (.ok (), { machine with environment }))
      (paths : ¬ hasNullPath environment Command.launch.keys given.options)
      (expected : ¬ given.extra)
      (launches : Launches given.options { machine with environment } start)

/-- A launch fails before it could start a program: no project is selected, the settings cannot be
loaded, or the template is not found or cannot be read, or the output cannot be written. -/
inductive FailsBefore (options : Options) (machine : Machine) : Prop where
  | selection (selects : selected? machine.directory machine.environment options = none)
  | settings {context : Context} {fault : Fault} {after : Machine}
      (selects : selected? machine.directory machine.environment options = some context)
      (fails : (Settings.load (messages machine.screen options) context.workspaceRoot).runOn
        machine = (.error fault, after))
  | preparation {context : Context} {settings : Settings} {loaded after : Machine} {fault : Fault}
      (selects : selected? machine.directory machine.environment options = some context)
      (loads : (Settings.load (messages machine.screen options) context.workspaceRoot).runOn
        machine = (.ok settings, loaded))
      (fails : (prepare (messages machine.screen options) context).runOn loaded =
        (.error fault, after))

/-- A run starts the one program that may be started, or none if none may. -/
structure Adds (may : Start → Prop) (machine after : Machine) : Prop where
  one : ∀ start, may start → after.started = start :: machine.started
  none : (∀ start, ¬ may start) → after.started = machine.started

section Adding
variable {may : Start → Prop} {machine after : Machine} {start : Start}

theorem adds_none (nothing : ∀ start, ¬ may start) (same : after.started = machine.started) :
    Adds may machine after :=
  ⟨fun start is => absurd is (nothing start), fun _ => same⟩

theorem adds_one (is : may start) (only : ∀ other, may other → other = start)
    (more : after.started = start :: machine.started) : Adds may machine after :=
  ⟨fun other isOther => only other isOther ▸ more, fun nothing => absurd is (nothing start)⟩

theorem adds_congr {other : Start → Prop} {before last : Machine} (adds : Adds may machine after)
    (same : ∀ start, other start ↔ may start) (first : before.started = machine.started)
    (final : last.started = after.started) : Adds other before last := by
  refine ⟨fun start is => ?_, fun nothing => ?_⟩
  · rw [final, first]
    exact adds.one start ((same start).mp is)
  · rw [final, first]
    exact adds.none fun start is => nothing start ((same start).mpr is)

/-- What was added tells what may be started. -/
theorem started_iff (adds : Adds may machine after) :
    after.started = start :: machine.started ↔ may start := by
  refine ⟨fun more => ?_, adds.one start⟩
  by_contra isNot
  by_cases nothing : ∀ other, ¬ may other
  · have same := (adds.none nothing).symm.trans more
    simpa using congrArg List.length same
  · obtain ⟨other, is⟩ := not_forall_not.mp nothing
    have same := (adds.one other is).symm.trans more
    exact isNot ((List.cons.inj same).1 ▸ is)

theorem unchanged_iff (adds : Adds may machine after) :
    after.started = machine.started ↔ ¬ ∃ start, may start := by
  refine ⟨fun same ⟨start, is⟩ => ?_, fun nothing => adds.none (not_exists.mp nothing)⟩
  have more := (adds.one start is).symm.trans same
  simpa using congrArg List.length more

end Adding

/-! ### The steps of a launch -/

section Launching
variable {runner : Runner} {options : Options} {context : Context} {settings : Settings}
  {console : Option Console} {machine after : Machine} {path : Path}

theorem keeps_started_of_onlyPrints {α : Type} {action : Action α} (prints : OnlyPrints action) :
    Keeps Machine.started action :=
  keeps_of_onlyPrints prints fun _ _ => rfl

/-- Loading the settings of a launch and preparing its output. -/
def preparing (console : Option Console) (context : Context) : Action (Settings × Path) := do
  let settings ← Settings.load console context.workspaceRoot
  return (settings, ← prepare console context)

/-- What a launch does once its output is prepared. -/
def starting (runner : Runner) (console : Option Console) (options : Options) (context : Context)
    (settings : Settings) (file : Path) : Action Exit := do
  printPlain (file.toText ++ ['\n'])
  if has options .noRun then return .success
  if settings.launchCommand = [] then
    say console (tagged "yellow" ("⚠ Sin launch_command en ".toList ++
      (Settings.path context.workspaceRoot).toText ++ "; no se lanza nada".toList))
    return .success
  let timeout := some (1000 * settings.launchTimeout)
  orReport Fault.isOwn (Command.run runner console timeout settings.launchCommand file) fun _ => do
    say console (tagged "bold green" "✅ Depurador lanzado".toList)
    return .success

theorem launch_eq (runner : Runner) (options : Options) :
    launch runner options = withContext options fun context => (do
      let console := messages (← ask Machine.screen) options
      orReport isExpected (preparing console context) fun (settings, file) =>
        starting runner console options context settings file) := rfl

/-- A launch of a selected project prepares its output and goes on from there, with messages on the
screen of the machine. -/
theorem runOn_launch (selects : selected? machine.directory machine.environment options =
      some context) :
    (launch runner options).runOn machine =
      (orReport isExpected (preparing (messages machine.screen options) context)
        fun (settings, file) => starting runner (messages machine.screen options) options context
          settings file).runOn machine := by
  rw [launch_eq, runOn_withContext, selects]
  dsimp only
  rw [runOn_bind, runOn_ask]

section Keeping
variable {γ : Type} {view : Machine → γ}
  (blind : ∀ machine output files, view { machine with output, files } = view machine)
include blind

theorem keeps_write (project content : Text) : Keeps view (write project content) := by
  intro machine
  rw [runOn_write]
  repeat' split
  all_goals exact blind machine machine.output _

theorem keeps_prepare (console : Option Console) (context : Context) :
    Keeps view (prepare console context) := by
  have printing : ∀ {α : Type} {action : Action α}, OnlyPrints action → Keeps view action :=
    fun prints => keeps_of_onlyPrints prints fun machine output => blind machine output _
  refine keeps_bind (printing (onlyPrints_ask _)) fun environment => ?_
  rw [prepareWith_eq]
  refine keeps_bind (printing (onlyPrints_template _ _)) fun text => ?_
  refine keeps_bind (keeps_write blind _ _) fun target => ?_
  exact printing (onlyPrints_bind (onlyPrints_say _ _) fun _ => onlyPrints_pure _)

/-- Preparing a launch changes the output and the files at most. -/
theorem keeps_preparing (console : Option Console) (context : Context) :
    Keeps view (preparing console context) := by
  refine keeps_bind ?_ fun _ => keeps_bind (keeps_prepare blind _ _) fun _ => keeps_pure _ _
  exact keeps_of_onlyPrints (onlyPrints_loadSettings _ _) fun machine output =>
    blind machine output _

end Keeping

theorem keeps_started_preparing (console : Option Console) (context : Context) :
    Keeps Machine.started (preparing console context) :=
  keeps_preparing (fun _ _ _ => rfl) console context

/-- What only prints behind an action starts nothing, be it a report or not. -/
theorem started_orReport {α : Type} {expected : Fault → Bool} {action : Action α}
    {next : α → Action Exit} (prints : ∀ value, OnlyPrints (next value)) (machine : Machine) :
    ((orReport expected action next).runOn machine).2.started =
      (action.runOn machine).2.started := by
  rw [runOn_orReport]
  rcases action.runOn machine with ⟨fault | value, middle⟩
  · dsimp only
    split
    · exact keeps_started_of_onlyPrints (onlyPrints_report _) middle
    · rfl
  · exact keeps_started_of_onlyPrints (prints value) middle

/-- A configured command is started exactly if the line about it can be said. -/
theorem adds_run {command : List Text} (configured : command ≠ []) (runner : Runner)
    (console : Option Console) (timeout : Option Int) (file : Path) (machine : Machine) :
    Adds (fun start => said console (startingLine (Command.full command file)) = .ok () ∧
        start = ⟨Command.full command file, machine.files⟩) machine
      ((Command.run runner console timeout command file).runOn machine).2 := by
  obtain ⟨output, saying⟩ := runOn_say console (startingLine (Command.full command file)) machine
  rw [ProgramEnding.runOn_run, if_neg configured, saying]
  cases said console (startingLine (Command.full command file)) with
  | error fault => exact adds_none (fun start is => by cases is.1) rfl
  | ok _ => exact adds_one ⟨rfl, rfl⟩ (fun other is => is.2) rfl

/-- The program of a launch is started exactly if that is wanted. -/
theorem adds_starting (machine : Machine) :
    Adds (fun start => Wants console options context settings ∧
        start = ⟨startWords settings context, machine.files⟩) machine
      ((starting runner console options context settings (outputPath context.projectRoot)).runOn
        machine).2 := by
  obtain ⟨printed, prints⟩ : ∃ output,
      (printPlain ((outputPath context.projectRoot).toText ++ ['\n'])).runOn machine =
        (.ok (), { machine with output }) := ⟨_, rfl⟩
  rw [starting, runOn_bind_of_ok prints]
  by_cases noRun : has options .noRun
  · rw [if_pos noRun]
    exact adds_none (fun start is => is.1.runs noRun) rfl
  · rw [if_neg noRun]
    by_cases empty : settings.launchCommand = []
    · rw [if_pos empty]
      refine adds_none (fun start is => is.1.configured empty) ?_
      exact keeps_started_of_onlyPrints
        (onlyPrints_bind (onlyPrints_say _ _) fun _ => onlyPrints_pure _) _
    · rw [if_neg empty]
      refine adds_congr (adds_run empty runner console
        (some (1000 * settings.launchTimeout)) (outputPath context.projectRoot)
        { machine with output := printed }) (fun start => ?_) rfl ?_
      · exact and_congr_left fun _ => ⟨Wants.line, fun line => ⟨noRun, empty, line⟩⟩
      · exact started_orReport
          (fun _ => onlyPrints_bind (onlyPrints_say _ _) fun _ => onlyPrints_pure _) _

theorem preparing_ok_iff :
    (preparing console context).runOn machine = (.ok (settings, path), after) ↔
      ∃ loaded, (Settings.load console context.workspaceRoot).runOn machine =
          (.ok settings, loaded) ∧
        (prepare console context).runOn loaded = (.ok path, after) := by
  constructor
  · intro ran
    obtain ⟨first, loaded, loads, ran⟩ := bind_ok ran
    obtain ⟨target, last, prepares, ran⟩ := bind_ok ran
    cases ran
    exact ⟨loaded, loads, prepares⟩
  · rintro ⟨loaded, loads, prepares⟩
    rw [preparing, runOn_bind_of_ok loads, runOn_bind_of_ok prepares]
    rfl

/-- An output that is prepared behind the settings holds the resolved text of the first candidate
that is a file. -/
theorem written_of_preparing
    (ran : (preparing console context).runOn machine = (.ok (settings, path), after)) :
    path = outputPath context.projectRoot ∧
    ∃ found content,
      FirstFile machine.files machine.directory
        (candidates context.workspaceRoot context.projectRoot) found content ∧
      Written machine.directory context.projectRoot
        (Utf8.encode (context.resolve .dollar machine.environment (Utf8.readLenient content)))
        machine.files after.files := by
  obtain ⟨loaded, loads, prepares⟩ := preparing_ok_iff.mp ran
  obtain ⟨output, rfl⟩ := after_of_onlyPrints (onlyPrints_loadSettings _ _) loads
  rw [runOn_prepare] at prepares
  obtain ⟨rfl, _, text, templated, writes⟩ := runOn_prepareWith_iff.mp ⟨after, prepares, rfl⟩
  obtain ⟨front, found, behind, content, whole, reaches, reads, rfl⟩ :=
    (runOn_template_iff _).mp templated
  exact ⟨rfl, found, content, whole ▸ firstFile_of_reaches reaches reads,
    written_of_writes writes⟩

/-- A launch starts a program exactly if all before has gone well and a start is wanted. -/
theorem launches_iff {start : Start} :
    Launches options machine start ↔ ∃ context settings prepared,
      selected? machine.directory machine.environment options = some context ∧
      (preparing (messages machine.screen options) context).runOn machine =
        (.ok (settings, outputPath context.projectRoot), prepared) ∧
      Wants (messages machine.screen options) options context settings ∧
      start = ⟨startWords settings context, prepared.files⟩ := by
  constructor
  · rintro ⟨selects, loads, prepares, _, _, wants⟩
    exact ⟨_, _, _, selects, preparing_ok_iff.mpr ⟨_, loads, prepares⟩, wants, rfl⟩
  · rintro ⟨context, settings, prepared, selects, ran, wants, rfl⟩
    obtain ⟨loaded, loads, prepares⟩ := preparing_ok_iff.mp ran
    obtain ⟨_, found, content, first, written⟩ := written_of_preparing ran
    exact .start selects loads prepares first written wants

/-- Where a launch fails before, it starts nothing. -/
theorem not_launches_of_fails (fails : FailsBefore options machine) (start : Start) :
    ¬ Launches options machine start := by
  rintro ⟨selects, loads, prepares, _, _, _⟩
  cases fails with
  | selection nothing =>
    rw [nothing] at selects
    cases selects
  | settings selectsOther fails =>
    cases selects.symm.trans selectsOther
    rw [loads] at fails
    cases fails
  | preparation selectsOther loadsOther fails =>
    cases selects.symm.trans selectsOther
    cases loads.symm.trans loadsOther
    rw [prepares] at fails
    cases fails

/-- A launch starts what it may, once it may. -/
theorem adds_launch (runner : Runner) (options : Options) (machine : Machine) :
    Adds (Launches options machine) machine ((launch runner options).runOn machine).2 := by
  cases selects : selected? machine.directory machine.environment options with
  | none =>
    rw [launch_eq, runOn_withContext, selects]
    refine adds_none (fun start is => ?_) (keeps_started_of_onlyPrints (onlyPrints_report _) _)
    obtain ⟨_, _, _, selectsOther, _⟩ := launches_iff.mp is
    rw [selects] at selectsOther
    cases selectsOther
  | some context =>
    rw [runOn_launch selects, runOn_orReport]
    rcases ran : (preparing (messages machine.screen options) context).runOn machine with
      ⟨fault | ⟨settings, path⟩, prepared⟩
    · refine adds_none (fun start is => ?_) ?_
      · obtain ⟨_, _, _, selectsOther, ranOther, _⟩ := launches_iff.mp is
        cases selects.symm.trans selectsOther
        rw [ran] at ranOther
        cases ranOther
      · have same := after_of_keeps (keeps_started_preparing _ context) ran
        dsimp only
        split
        · exact (keeps_started_of_onlyPrints (onlyPrints_report _) prepared).trans same
        · exact same
    · obtain ⟨rfl, _⟩ := written_of_preparing ran
      refine adds_congr (adds_starting prepared) (fun start => ?_)
        (after_of_keeps (keeps_started_preparing _ context) ran).symm rfl
      rw [launches_iff]
      constructor
      · rintro ⟨_, _, _, selectsOther, ranOther, wants, rfl⟩
        cases selects.symm.trans selectsOther
        cases ran.symm.trans ranOther
        exact ⟨wants, rfl⟩
      · rintro ⟨wants, rfl⟩
        exact ⟨context, settings, prepared, selects, ran, wants, rfl⟩

end Launching

/-! ### The whole command line -/

theorem reads_unique {arguments : List Text} {command other : Command}
    {given otherGiven : Arguments} (reads : Reads arguments command given)
    (readsOther : Reads arguments other otherGiven) : command = other ∧ given = otherGiven := by
  obtain ⟨rest, splits, reads⟩ := reads
  obtain ⟨_, splitsOther, readsOther⟩ := readsOther
  cases splits.symm.trans splitsOther
  exact ⟨rfl, Except.ok.inj (reads.symm.trans readsOther)⟩

/-- A command line starts what it may, once it may. -/
theorem adds_cli (runner : Runner) (arguments : List Text) (machine : Machine) :
    Adds (Starts arguments machine) machine ((run runner arguments).runOn machine).2 := by
  by_cases unread : ∃ command given, Reads arguments command given
  · obtain ⟨command, given, reads⟩ := unread
    rw [runOn_run reads]
    rcases loads : EnvironmentFile.load.runOn machine with ⟨fault | _, middle⟩
    · refine adds_none (fun start is => ?_)
        (after_of_keeps (keeps_loadEnvironment fun _ _ => rfl) loads)
      obtain ⟨_, loadsOther, _⟩ := is
      rw [loads] at loadsOther
      cases loadsOther
    · obtain ⟨environment, rfl⟩ := after_of_loadEnvironment loads
      have starts : ∀ start, Starts arguments machine start → command = .launch ∧
          ¬ hasNullPath environment command.keys given.options ∧ ¬ given.extra ∧
          Launches given.options { machine with environment } start := by
        rintro start ⟨readsOther, loadsOther, paths, expected, launches⟩
        obtain ⟨rfl, rfl⟩ := reads_unique reads readsOther
        cases loads.symm.trans loadsOther
        exact ⟨rfl, paths, expected, launches⟩
      dsimp only
      by_cases null : hasNullPath environment command.keys given.options
      · rw [if_pos null]
        exact adds_none (fun start is => (starts start is).2.1 null) rfl
      · rw [if_neg null]
        by_cases extra : given.extra
        · rw [if_pos extra]
          exact adds_none (fun start is => (starts start is).2.2.1 extra) rfl
        · rw [if_neg extra]
          by_cases launches : command = .launch
          · subst launches
            exact adds_congr (adds_launch runner given.options { machine with environment })
              (fun start => ⟨fun is => (starts start is).2.2.2,
                .launch reads loads null extra⟩) rfl rfl
          · refine adds_none (fun start is => launches (starts start is).1) ?_
            exact keeps_started_of_onlyPrints (onlyPrints_perform launches runner _) _
  · refine adds_none (fun start is => ?_) (keeps_of_unread (fun _ _ => rfl) unread runner machine)
    obtain ⟨reads, _⟩ := is
    exact unread ⟨_, _, reads⟩

/-- The programs that a command line starts are known from the machine: it starts one exactly if all
before has gone well, and that one with the command of the settings and the path of the output,
which holds the resolved text by then. Otherwise it starts none, and so none where a launch fails
before. -/
theorem run_starts_prepared_output (runner : Runner) (arguments : List Text) (machine : Machine) :
    let after := ((run runner arguments).runOn machine).2
    (∀ start, after.started = start :: machine.started ↔ Starts arguments machine start) ∧
      (after.started = machine.started ↔ ¬ ∃ start, Starts arguments machine start) ∧
      ∀ given environment, Reads arguments .launch given →
        EnvironmentFile.load.runOn machine = (.ok (), { machine with environment }) →
        FailsBefore given.options { machine with environment } →
        after.started = machine.started := by
  intro after
  have adds := adds_cli runner arguments machine
  refine ⟨fun _ => started_iff adds, unchanged_iff adds, fun given environment reads loads fails =>
    (unchanged_iff adds).mpr ?_⟩
  rintro ⟨start, readsOther, loadsOther, _, _, launches⟩
  obtain ⟨_, rfl⟩ := reads_unique reads readsOther
  cases loads.symm.trans loadsOther
  exact not_launches_of_fails fails start launches

/-- A launch with a command in the environment starts it, and the same launch in a workspace without
a template starts nothing. -/
theorem run_starts_prepared_output_of_variable :
    let tree : FileTree :=
      { entries := [([['w']], .directory),
          ([['w'], fileName], .file (Utf8.encode "%projectName%".toList))] }
    let environment : Environment := [(Settings.commandVariable, "d -x".toList)]
    let machine : Machine := { files := tree, directory := [], environment }
    let bare : Machine := { files := default, directory := [], environment }
    let runner : Runner := fun _ _ machine => (.finished 0 [] [], machine.files)
    let arguments := ["launch", "-p", "/w/p", "-w", "/w", "-q"].map String.toList
    (∃ start, Starts arguments machine start ∧
        start.command = ["d", "-x", "/w/p/bin/launch.json"].map String.toList ∧
        start.files.lookup? [['w'], ['p'], outputName, fileName] = some (.file [0x70])) ∧
      ((run runner arguments).runOn bare).2.started = [] := by
  intro tree environment machine bare runner arguments
  obtain ⟨adds, _, _⟩ := run_starts_prepared_output runner arguments machine
  have one : ((run runner arguments).runOn machine).2.started.length = 1 := by decide +kernel
  obtain ⟨start, started⟩ := List.length_eq_one_iff.mp one
  have commands : ((run runner arguments).runOn machine).2.started.map Start.command =
      [["d", "-x", "/w/p/bin/launch.json"].map String.toList] := by decide +kernel
  have outputs : ((run runner arguments).runOn machine).2.started.map
      (fun start => start.files.lookup? [['w'], ['p'], outputName, fileName]) =
        [some (.file [0x70])] := by decide +kernel
  rw [started] at commands outputs
  refine ⟨⟨start, (adds start).mp started, List.head_eq_of_cons_eq commands,
    List.head_eq_of_cons_eq outputs⟩, ?_⟩
  obtain ⟨_, _, fails⟩ := run_starts_prepared_output runner arguments bare
  let options : Options := [(.quiet, []), (.workspace, "/w".toList), (.project, "/w/p".toList)]
  let context : Context := ⟨"/w".toList, "/w/p".toList, "/w".toList, "/w/p".toList, "p".toList⟩
  let loaded : Machine := ((Settings.load none context.workspaceRoot).runOn bare).2
  have reads : Reads arguments .launch ⟨options, false⟩ := ⟨_, rfl, rfl⟩
  have selects : selected? [] environment options = some context := by decide +kernel
  have loads : (Settings.load none context.workspaceRoot).runOn bare =
      (.ok ⟨["d", "-x"].map String.toList, 30⟩, loaded) := runOn_of_result (by decide +kernel)
  have missing : ((prepare none context).runOn loaded).1 = .error .noLaunchFile := by
    decide +kernel
  exact fails _ environment reads (runOn_of_result (by decide +kernel))
    (.preparation selects loads (runOn_of_result missing))

end DebugLaunch.LaunchStart
