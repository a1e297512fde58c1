import DebugLaunch.Proofs.PreparedFile
import DebugLaunch.Proofs.ProgramEnding
import DebugLaunch.Proofs.SettingsEnding

/-! How a command ends. The faults of launching itself are always reported in a panel; those of the
file system are reported where a launch file is prepared or a template is read. But a command asks
for the places of a template, starts a program, loads settings and prints outside of that, and the
faults of these steps go on to the caller. -/
namespace DebugLaunch.ReportedFaults
open DebugLaunch.Action Cli LaunchFile LaunchFileSearch PlaceWalk PreparedFile CommandLineRuns
open ProgramEnding (ending_cases outcome_of_finished outcome_of_reports outcome_of_letsThrough)
open SettingsEnding (kind_of_entriesOf overriding_error_iff kind_of_combine)

/-- The faults that a command lets go on to the caller, by what they come from. -/
inductive Escapes (runner : Runner) : Command → Fault → Prop where
  -- something that is printed holds a tag that closes nothing or cannot be read
  | markup {command} (fault : Display.MarkupFault) : Escapes runner command (.markup fault)
  -- the environment file is no text or sets what cannot be set; the first two also come from a
  -- settings file or the output of a program, and from the words of its command
  | notUtf8 {command} : Escapes runner command .notUtf8
  | nullCharacter {command} : Escapes runner command (.file .nullCharacter)
  | variableName {command} : Escapes runner command .variableName
  -- a candidate is asked for that is too long to be looked at
  | probe {command} {path : Path} (asks : command = .locate ∨ command = .candidates)
      (long : TooLong path) : Escapes runner command (.file (.refused .nameTooLong path.toText))
  -- the command in the environment, or the settings file, is not what it should be
  | words (fault : Shell.WordsFault) : Escapes runner .launch (.words fault)
  | scalar (fault : Yaml.ScalarFault) : Escapes runner .launch (.scalar fault)
  | keyNotText : Escapes runner .launch .keyNotText
  | tooDeep : Escapes runner .launch .tooDeep
  -- the program is there but may not be started, or cannot be waited for
  | refused {timeout : Option Int} {words : List Text} {machine : Machine} {error : PathError}
      (starts : (runner timeout words machine).1 = .refused error)
      (other : ∀ path, error ≠ .refused .missing path) : Escapes runner .launch (.file error)
  | waitTooLong {timeout : Option Int} {words : List Text} {machine : Machine}
      (starts : (runner timeout words machine).1 = .waitTooLong) :
      Escapes runner .launch .waitTooLong

/-- What a command can report: a fault that is expected, or a token that it does not know. -/
def Reportable (manual message : Text) : Prop :=
  (∃ fault, isExpected fault ∧ message = fault.message manual) ∨
    ∃ name, message = "Token desconocido: ".toList ++ Token.written name

/-- How a run of a command ends: well, with a panel about what is reported as the last thing
printed, or with a fault that escapes. -/
inductive Outcome (escapes : Fault → Prop) : Except Fault Exit × Machine → Prop where
  | success (after : Machine) : Outcome escapes (.ok .success, after)
  | reported {message shown printed : Text} {after : Machine}
      (reportable : Reportable after.manual message)
      (renders : Display.Markup.render (reportLine message) = .ok shown)
      (output : after.output = printed ++ errorPanel after.screen shown) :
      Outcome escapes (.ok .reported, after)
  | escaped {fault : Fault} (after : Machine) (lets : escapes fault) :
      Outcome escapes (.error fault, after)

/-! ### How commands are put together -/

section Commands
variable {α : Type} {escapes : Fault → Prop} {expected : Fault → Bool} {action : Action α}
  {next : α → Action Exit}

/-- Each run of an action ends like that of a command. -/
def Finishes (escapes : Fault → Prop) (action : Action Exit) : Prop :=
  ∀ machine, Outcome escapes (action.runOn machine)

theorem finishes_success : Finishes escapes (pure .success) := fun machine => .success machine

theorem finishes_bind (first : Raises escapes action)
    (rest : ∀ value, Finishes escapes (next value)) : Finishes escapes (action >>= next) := by
  intro machine
  rw [runOn_bind]
  rcases ran : action.runOn machine with ⟨fault | value, after⟩
  · exact .escaped after (first machine fault after ran)
  · exact rest value after

theorem outcome_of_report (markups : ∀ fault, escapes (.markup fault)) {message : Text}
    {machine : Machine} (reportable : Reportable machine.manual message) :
    Outcome escapes ((report message).runOn machine) := by
  rw [runOn_report]
  cases renders : Display.Markup.render (reportLine message) with
  | ok shown => exact .reported reportable renders rfl
  | error fault => exact .escaped machine (markups fault)

/-- Where a command reports some of the faults that it expects, the others escape. -/
theorem finishes_orReport (markups : ∀ fault, escapes (.markup fault))
    (only : ∀ fault, expected fault → isExpected fault)
    (first : Raises (fun fault => expected fault ∨ escapes fault) action)
    (rest : ∀ value, Finishes escapes (next value)) :
    Finishes escapes (orReport expected action next) := by
  intro machine
  rw [runOn_orReport]
  rcases ran : action.runOn machine with ⟨fault | value, after⟩
  · dsimp only
    by_cases expects : expected fault
    · rw [if_pos expects]
      exact outcome_of_report markups (.inl ⟨fault, only fault expects, rfl⟩)
    · rw [if_neg expects]
      exact .escaped after ((first machine fault after ran).resolve_left expects)
  · exact rest value after

theorem finishes_withContext (markups : ∀ fault, escapes (.markup fault)) (options : Options)
    {next : Context → Action Exit} (rest : ∀ context, Finishes escapes (next context)) :
    Finishes escapes (withContext options next) := by
  intro machine
  rw [runOn_withContext]
  cases selected? machine.directory machine.environment options with
  | none => exact outcome_of_report markups (.inl ⟨.noSelection, rfl, rfl⟩)
  | some context => exact rest context machine

end Commands

/-! ### What the steps stop with -/

section Steps
variable {runner : Runner} {command : Command}

theorem raises_assignAll {environment : Environment} {values : EnvironmentFile.Values}
    {fault : Fault} (stops : (EnvironmentFile.assignAll environment values).2 = .error fault) :
    Escapes runner command fault := by
  induction values generalizing environment with
  | nil => cases stops
  | cons item rest ih =>
    obtain ⟨name, value⟩ := item
    rw [EnvironmentFile.assignAll] at stops
    cases assigns : EnvironmentFile.assign environment name value with
    | ok environment =>
      rw [assigns] at stops
      exact ih stops
    | error other =>
      rw [assigns] at stops
      cases stops
      revert assigns
      fun_cases EnvironmentFile.assign environment name value with
      | case1 | case2 | case5 => simp
      | case3 =>
        rintro ⟨⟩
        exact .nullCharacter
      | case4 =>
        rintro ⟨⟩
        exact .variableName

/-- The path of the environment file is not too long, so that it is always answered for. -/
theorem raises_loadEnvironment : Raises (Escapes runner command) EnvironmentFile.load := by
  intro machine fault after ran
  rw [runOn_loadEnvironment] at ran
  cases answers : machine.files.isFile machine.directory (Path.ofText EnvironmentFile.fileName) with
  | error error =>
    rcases (isFile_error answers).2 with long | ⟨name, inside, misfit⟩
    · exact absurd long (by decide)
    · have fits : ∀ name ∈ (Path.ofText EnvironmentFile.fileName).components,
          (Utf8.encode name).length ≤ FileTree.maxName := by decide
      exact absurd (.inr (fits name inside)) misfit
  | ok isThere =>
    rw [answers] at ran
    dsimp only at ran
    split at ran
    · rename_i loads
      -- what was found to be a file can be read
      rw [Bool.and_eq_true] at loads
      obtain ⟨bytes, names⟩ := (isFile_iff answers).mp loads.1
      rw [read_iff.mpr names] at ran
      dsimp only at ran
      split at ran
      · cases ran
        exact .notUtf8
      · rw [Prod.mk.injEq] at ran
        exact raises_assignAll ran.1
    · cases ran

theorem raises_firstFile (console : Option Console) (paths : List Path) :
    Raises (fun fault => (∃ markup, fault = .markup markup) ∨
      ∃ path ∈ paths, TooLong path ∧ fault = .file (.refused .nameTooLong path.toText))
      (firstFile console paths) := by
  induction paths with
  | nil => exact raises_pure none
  | cons path rest ih =>
    have talks : ∀ line, Raises (fun fault => (∃ markup, fault = .markup markup) ∨
        ∃ other ∈ path :: rest, TooLong other ∧
          fault = .file (.refused .nameTooLong other.toText)) (say console line) :=
      raises_say (fun markup => .inl ⟨markup, rfl⟩) console
    refine raises_bind (talks _) fun _ _ => raises_bind ?_ fun answer _ => ?_
    · refine raises_askFiles fun tree place error fails => ?_
      obtain ⟨rfl, long⟩ := isFile_error fails
      exact .inr ⟨path, List.mem_cons_self .., long, rfl⟩
    · cases answer with
      | false =>
        intro machine fault after ran
        exact (ih machine fault after ran).imp_right fun ⟨other, inside, escapes⟩ =>
          ⟨other, List.mem_cons_of_mem _ inside, escapes⟩
      | true => exact raises_bind (talks _) fun _ _ => raises_pure _

/-- The faults that are expected, and those that a command lets go on to the caller. -/
def Known (runner : Runner) (command : Command) (fault : Fault) : Prop :=
  isExpected fault ∨ Escapes runner command fault

/-- A fault of the file system is expected, unless a path holds a null character. -/
theorem known_file (error : PathError) : Known runner command (.file error) := by
  cases error with
  | nullCharacter => exact .inr .nullCharacter
  | refused fault path => exact .inl rfl

theorem known_markup (fault : Display.MarkupFault) : Known runner command (.markup fault) :=
  .inr (.markup fault)

theorem raises_liftExcept {α : Type} {may : Fault → Prop} {result : Except Fault α}
    (here : ∀ fault, result = .error fault → may fault) :
    Raises may (Settings.load.liftExcept result) := by
  cases result with
  | ok value => exact raises_pure value
  | error fault => exact raises_throw (here fault rfl)

theorem known_of_entriesOf {path : Text} {content : Utf8.Bytes} {fault : Fault}
    (fails : Settings.entriesOf path content = .error fault) : Known runner .launch fault := by
  rcases kind_of_entriesOf fails with ⟨own, rfl⟩ | ⟨refusal, _, unreadable⟩
  · exact .inl rfl
  · cases unreadable with
    | notUtf8 => exact .inr .notUtf8
    | scalar inner _ => exact .inr (.scalar inner)
    | tooDeep => exact .inr .tooDeep

theorem known_of_overriding {environment : Environment} {fault : Fault}
    (fails : Settings.overriding environment = .error fault) : Known runner .launch fault := by
  obtain ⟨inner, rfl, _⟩ := overriding_error_iff.mp fails
  exact .inr (.words inner)

theorem known_of_combine {path : Text} {entries : List (Value × Value)}
    {command : Option (List Text)} {fault : Fault}
    (fails : Settings.combine path entries command = .error fault) :
    Known runner .launch fault := by
  rcases kind_of_combine fails with ⟨own, rfl⟩ | ⟨rfl, _⟩
  · exact .inl rfl
  · exact .inr .keyNotText

theorem raises_loadSettings (console : Option Console) (workspace : Text) :
    Raises (Known runner .launch) (Settings.load console workspace) := by
  rw [loadSettings_eq]
  refine raises_bind ?_ fun _ _ => raises_bind (raises_ask _) fun _ _ => ?_
  · refine raises_bind ?_ fun isThere _ => ?_
    · exact raises_bind (raises_askFiles fun _ _ error _ => known_file error) fun _ _ =>
        raises_pure _
    · cases isThere with
      | false => exact raises_pure _
      | true =>
        refine raises_bind (raises_askFiles fun _ _ error _ => known_file error) fun _ _ => ?_
        refine raises_bind (raises_liftExcept fun _ => known_of_entriesOf) fun _ _ => ?_
        exact raises_bind (raises_say known_markup _ _) fun _ _ => raises_pure _
  · exact raises_bind (raises_liftExcept fun _ => known_of_overriding) fun _ _ =>
      raises_liftExcept fun _ => known_of_combine

theorem raises_readTemplate (path : Path) : Raises (Known runner command) (readTemplate path) :=
  raises_bind (raises_askFiles fun _ _ error _ => known_file error) fun _ _ => raises_pure _

theorem raises_find (console : Option Console) (workspace project : Text) :
    Raises (Known runner command) (find console workspace project) := by
  refine raises_mono ?_ (raises_firstFile console _)
  rintro fault (⟨markup, rfl⟩ | ⟨path, _, _, rfl⟩)
  · exact known_markup markup
  · exact known_file _

theorem raises_template (console : Option Console) (context : Context) :
    Raises (Known runner command) (template console context) := by
  refine raises_bind (raises_find console _ _) fun found _ => ?_
  cases found with
  | none => exact raises_throw (.inl rfl)
  | some path => exact raises_readTemplate path

theorem raises_prepare (console : Option Console) (context : Context) :
    Raises (Known runner .launch) (prepare console context) := by
  refine raises_bind (raises_ask _) fun environment _ => ?_
  rw [prepareWith_eq]
  refine raises_bind (raises_template console context) fun text _ => raises_bind ?_ fun _ _ =>
    raises_bind (raises_say known_markup _ _) fun _ _ => raises_pure _
  intro machine fault after ran
  obtain ⟨⟨error, rfl⟩, _⟩ := grown_of_failed_write ran
  exact known_file error

theorem raises_start {may : Fault → Prop} (timeout : Option Int) (words : List Text) :
    Raises may (Command.start runner timeout words) := by
  intro machine fault after ran
  cases ran

/-- What is wrong with how a program ended is one of a launch's own faults, or it escapes. -/
theorem own_or_escapes_of_outcome {timeout : Option Int} {words : List Text} {machine : Machine}
    {fault : Fault}
    (fails : Command.outcome words (runner timeout words machine).1 = .error fault) :
    fault.isOwn ∨ Escapes runner .launch fault := by
  rcases ending_cases words (runner timeout words machine).1 with
    ⟨text, errors, finished⟩ | ⟨own, reports⟩ | ⟨other, lets⟩
  · rw [outcome_of_finished finished, if_pos rfl] at fails
    cases fails
  · rw [outcome_of_reports reports] at fails
    cases fails
    exact .inl rfl
  · rw [outcome_of_letsThrough lets] at fails
    cases fails
    generalize ends : (runner timeout words machine).1 = ending at lets
    cases lets with
    | refused other => exact .inr (.refused ends other)
    | waitTooLong => exact .inr (.waitTooLong ends)
    | noText _ => exact .inr .notUtf8

theorem raises_run (console : Option Console) (timeout : Option Int) (command : List Text)
    (file : Path) :
    Raises (fun fault => fault.isOwn ∨ Escapes runner .launch fault)
      (Command.run runner console timeout command file) := by
  rw [Command.run]
  by_cases empty : command = []
  · rw [if_pos empty]
    exact raises_throw (.inl rfl)
  · rw [if_neg empty]
    refine raises_bind (raises_say (fun markup => .inr (.markup markup)) _ _) fun _ _ => ?_
    refine raises_bind (raises_start _ _) ?_
    rintro ending ⟨machine, after, starts⟩
    cases starts
    split
    · exact raises_pure _
    · rename_i fault fails
      exact raises_throw (own_or_escapes_of_outcome fails)

end Steps

/-! ### The commands -/

section Runs
variable {runner : Runner} {command : Command} {options : Options}

theorem finishes_launch : Finishes (Escapes runner .launch) (launch runner options) := by
  refine finishes_withContext .markup options fun context => ?_
  refine finishes_bind (raises_ask _) fun screen => ?_
  refine finishes_orReport .markup (fun _ => id) ?_ ?_
  · exact raises_bind (raises_loadSettings _ _) fun _ _ =>
      raises_bind (raises_prepare _ _) fun _ _ => raises_pure _
  · -- behind the preparation only a launch's own faults are reported
    rintro ⟨settings, file⟩
    refine finishes_bind (raises_print _) fun _ => ?_
    split
    · exact finishes_success
    · split
      · exact finishes_bind (raises_say .markup _ _) fun _ => finishes_success
      · refine finishes_orReport .markup ?_ (raises_run _ _ _ _) fun _ => ?_
        · intro fault own
          simp [isExpected, own]
        · exact finishes_bind (raises_say .markup _ _) fun _ => finishes_success

theorem finishes_locate : Finishes (Escapes runner .locate) (locate options) := by
  refine finishes_withContext .markup options fun context => ?_
  refine finishes_bind (raises_ask _) fun screen => ?_
  refine finishes_bind (raises_mono ?_ (raises_firstFile _ _)) fun found => ?_
  · rintro fault (⟨markup, rfl⟩ | ⟨path, _, long, rfl⟩)
    · exact .markup markup
    · exact .probe (.inl rfl) long
  · cases found with
    | none => exact fun _ => outcome_of_report .markup (.inl ⟨.noLaunchFile, rfl, rfl⟩)
    | some file => exact finishes_bind (raises_print _) fun _ => finishes_success

theorem finishes_resolve : Finishes (Escapes runner .resolve) (resolve options) := by
  refine finishes_withContext .markup options fun context => ?_
  refine finishes_orReport .markup (fun _ => id) ?_ fun text => ?_
  · refine raises_bind ?_ fun path _ => raises_readTemplate path
    rw [templateOf]
    cases options.lookup .template with
    | some text => exact raises_pure _
    | none =>
      refine raises_bind (raises_find none _ _) fun found _ => ?_
      cases found with
      | none => exact raises_throw (.inl rfl)
      | some file => exact raises_pure file
  · refine finishes_bind (raises_ask _) fun _ => ?_
    exact finishes_bind (raises_print _) fun _ => finishes_success

theorem raises_printPanel {may : Fault → Prop} (markups : ∀ fault, may (.markup fault))
    (title : Option Text) (markup : Text) : Raises may (printPanel title markup) :=
  raises_bind (raises_render markups markup) fun _ _ =>
    raises_bind (raises_ask _) fun _ _ => raises_print _

theorem raises_printTable {may : Fault → Prop} (markups : ∀ fault, may (.markup fault))
    (title : Text) (columns : List (Text × Option Nat)) (rows : List (List Text)) :
    Raises may (printTable title columns rows) := by
  refine raises_bind (raises_mapM fun row _ => raises_mapM fun cell _ => ?_) fun _ _ =>
    raises_bind (raises_ask _) fun _ _ => raises_print _
  exact raises_render markups cell

theorem finishes_tokens : Finishes (Escapes runner .tokens) (tokens options) := by
  refine finishes_withContext .markup options fun context => ?_
  have lists : ∀ selected, Finishes (Escapes runner .tokens) (do
      printTable "Tokens".toList
        [("Clase".toList, none), ("Token".toList, none), ("Valor".toList, none)]
        (tokenRows context selected)
      return .success) := fun selected =>
    finishes_bind (raises_printTable .markup _ _ _) fun _ => finishes_success
  cases options.lookup .aliasName with
  | none => exact lists none
  | some name =>
    dsimp only
    cases Token.classOf? name with
    | none => exact fun _ => outcome_of_report .markup (.inr ⟨_, rfl⟩)
    | some tokenClass => exact lists (some tokenClass)

theorem finishes_candidates : Finishes (Escapes runner .candidates) (Cli.candidates options) := by
  refine finishes_withContext .markup options fun context => ?_
  refine finishes_bind (raises_mapM fun path _ => ?_) fun _ =>
    finishes_bind (raises_printTable .markup _ _ _) fun _ => finishes_success
  refine raises_askFiles fun tree place error fails => ?_
  obtain ⟨rfl, long⟩ := isFile_error fails
  exact .probe (.inr rfl) long

theorem finishes_perform : Finishes (Escapes runner command) (perform runner command options) := by
  cases command with
  | launch => exact finishes_launch
  | locate => exact finishes_locate
  | resolve => exact finishes_resolve
  | tokens => exact finishes_tokens
  | candidates => exact finishes_candidates
  | version => exact finishes_bind (raises_printPanel .markup _ _) fun _ => finishes_success
  | info =>
    refine finishes_bind (raises_printPanel .markup _ _) fun _ => ?_
    refine finishes_bind (raises_printTable .markup _ _ _) fun _ => ?_
    refine finishes_bind (raises_ask _) fun screen => ?_
    exact finishes_bind (raises_say .markup (some screen) _) fun _ => finishes_success

/-- What escapes is no fault of launching itself, and it is one of the file system only where a
program is started or the places of a template are asked for. -/
theorem kind_of_escapes {fault : Fault} (escapes : Escapes runner command fault) :
    fault.isOwn = false ∧ (fault.isFileFault →
      command = .launch ∨ command = .locate ∨ command = .candidates) := by
  cases escapes with
  | probe asks long => exact ⟨rfl, fun _ => .inr asks⟩
  | refused starts other => exact ⟨rfl, fun _ => .inl rfl⟩
  | _ => exact ⟨rfl, nofun⟩

/-- A command line that can be read is refused for its paths or for arguments too many, or it ends
as a command does. -/
theorem run_reports_or_escapes (runner : Runner) {arguments : List Text} {given : Arguments}
    (reads : Reads arguments command given) (machine : Machine) :
    ((∃ cause, ((run runner arguments).runOn machine).1 = .ok (.usage cause)) ∧
        (given.extra ∨ hasNullPath (EnvironmentFile.load.runOn machine).2.environment command.keys
          given.options) ∨
      Outcome (Escapes runner command) ((run runner arguments).runOn machine)) ∧
    ∀ fault, Escapes runner command fault → fault.isOwn = false ∧ (fault.isFileFault →
      command = .launch ∨ command = .locate ∨ command = .candidates) := by
  refine ⟨?_, fun _ => kind_of_escapes⟩
  rw [runOn_run reads]
  rcases loaded : EnvironmentFile.load.runOn machine with ⟨fault | _, middle⟩
  · exact .inr (.escaped middle (raises_loadEnvironment machine fault middle loaded))
  · dsimp only
    by_cases null : hasNullPath middle.environment command.keys given.options
    · rw [if_pos null]
      exact .inl ⟨⟨_, rfl⟩, .inr null⟩
    · rw [if_neg null]
      by_cases extra : given.extra
      · rw [if_pos extra]
        exact .inl ⟨⟨_, rfl⟩, .inl extra⟩
      · rw [if_neg extra]
        exact .inr (finishes_perform middle)

/-- The fault of a program that may not be started escapes, and it is none of launching itself. -/
theorem run_reports_or_escapes_refused :
    let machine : Machine :=
      { files := { entries := [([['w']], .directory),
          ([['w'], fileName], .file (Utf8.encode ['t']))] }
        directory := []
        environment := [(Settings.commandVariable, "./w".toList)] }
    let error : PathError := .refused .permissionDenied "./w".toList
    let runner : Runner := fun _ _ machine => (.refused error, machine.files)
    let arguments := ["launch", "-p", "/w/p", "-w", "/w", "-q"].map String.toList
    (((run runner arguments).runOn machine).1 = .error (.file error)) ∧
      Escapes runner .launch (.file error) ∧ (Fault.file error).isOwn = false := by
  intro machine error runner arguments
  have reads : Reads arguments .launch
      ⟨[(.quiet, []), (.workspace, "/w".toList), (.project, "/w/p".toList)], false⟩ := ⟨_, rfl, rfl⟩
  have fails : ((run runner arguments).runOn machine).1 = .error (.file error) := by decide +kernel
  have ran := runOn_of_result fails
  obtain ⟨⟨⟨cause, usage⟩, _⟩ | outcome, kinds⟩ :=
    run_reports_or_escapes runner reads machine
  · rw [fails] at usage
    cases usage
  · rw [ran] at outcome
    cases outcome with
    | escaped after lets => exact ⟨fails, lets, (kinds _ lets).1⟩

/-- Faults of the file system escape: that of a program that may not be started, behind the line
with the launch file, and that of a candidate with a name that is too long. -/
theorem file_faults_escape :
    (let machine : Machine :=
        { files := { entries := [([['w']], .directory),
            ([['w'], fileName], .file (Utf8.encode ['t']))] }
          directory := []
          environment := [(Settings.commandVariable, "./w".toList)] }
      let error : PathError := .refused .permissionDenied "./w".toList
      let runner : Runner := fun _ _ machine => (.refused error, machine.files)
      let arguments := ["launch", "-p", "/w/p", "-w", "/w", "-q"].map String.toList
      ∃ after, (run runner arguments).runOn machine = (.error (.file error), after) ∧
        after.output = "/w/p/bin/launch.json\n".toList) ∧
    (let machine : Machine := { files := default, directory := [] }
      let runner : Runner := fun _ _ machine => (.timedOut, machine.files)
      let name := List.replicate 256 'a'
      let arguments := ["locate".toList, "-q".toList, "-p".toList, name]
      let path := (((Path.ofText ('/' :: name)).child propertiesName).child fileName).toText
      ∃ after, (run runner arguments).runOn machine =
          (.error (.file (.refused .nameTooLong path)), after) ∧ after.output = []) := by
  constructor
  · intro machine error runner arguments
    exact ⟨_, runOn_of_result (by decide +kernel), by decide +kernel⟩
  · intro machine runner name arguments path
    exact ⟨_, runOn_of_result (by decide +kernel), by decide +kernel⟩

end Runs

end DebugLaunch.ReportedFaults
