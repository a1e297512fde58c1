import DebugLaunch.Cli.Run
import DebugLaunch.Proofs.ActionRuns
import DebugLaunch.Proofs.LaunchFileSearch

/-! Runs of a command line: it loads the environment file, reads its options, and does the work of
its command, which reports the faults that it expects in a panel and lets the others go on. -/
namespace DebugLaunch.CommandLineRuns
open DebugLaunch.Action Cli LaunchFileSearch

/-- Some arguments name a command, and this is what they say behind its name. -/
def Reads (arguments : List Text) (command : Command) (given : Arguments) : Prop :=
  ∃ rest, split arguments = .ok (command, rest) ∧ read command rest = .ok given

/-- Two lists of options select the same project. -/
structure SameSelection (options other : Options) : Prop where
  project : other.lookup .project = options.lookup .project
  workspace : other.lookup .workspace = options.lookup .workspace
  name : other.lookup .name = options.lookup .name

/-- What is reported of a message. -/
def reportLine (message : Text) : Text := tagged "red" ("✘ ".toList ++ message)

/-- The panel that shows a text that is reported. -/
def errorPanel (screen : Console) (shown : Text) : Text :=
  Display.Panel.draw screen.width (some "Remote Debug".toList) shown

/-- What is said of a settings file once it is read. -/
def loadedLine (path : Path) : Text :=
  tagged "dim" ("Configuración cargada: ".toList ++ path.toText)

/-- The entries of the settings file of a workspace, if there is one. -/
def fileEntries (console : Option Console) (workspace : Text) : Action (List (Value × Value)) := do
  if ← isThere (Settings.path workspace) then
    let entries ← Settings.load.liftExcept
      (Settings.entriesOf (Settings.path workspace).toText (← readBytes (Settings.path workspace)))
    say console (loadedLine (Settings.path workspace))
    return entries
  else return []

theorem value?_congr {options other : Options} {key : Key}
    (same : other.lookup key = options.lookup key) (environment : Environment) :
    value? environment other key = value? environment options key := by
  rw [value?, value?, same]

theorem selected?_congr {options other : Options} (same : SameSelection options other)
    (directory : Place) (environment : Environment) :
    selected? directory environment other = selected? directory environment options := by
  rw [selected?, selected?, value?_congr same.project, value?_congr same.workspace, same.name]

/-- A command whose paths are the roots of a selection takes the same selections for paths. -/
theorem hasNullPath_congr {options other : Options} (same : SameSelection options other)
    {keys : List Key} (paths : keys.filter Key.isPath = [.project, .workspace])
    (environment : Environment) :
    hasNullPath environment keys other = hasNullPath environment keys options := by
  rw [hasNullPath, hasNullPath, paths]
  simp [value?_congr same.project, value?_congr same.workspace]

section Steps
variable {α : Type} {machine : Machine}

theorem runOn_tryCatch (action : Action α) (handle : Fault → Action α) (machine : Machine) :
    (tryCatch action handle).runOn machine = match action.runOn machine with
      | (.ok value, after) => (.ok value, after)
      | (.error fault, after) => (handle fault).runOn after := by
  show (ExceptT.tryCatch action handle).run machine = _
  unfold runOn ExceptT.run StateT.run
  simp only [ExceptT.tryCatch, ExceptT.mk, bind, StateT.bind]
  rcases action machine with ⟨fault | value, after⟩ <;> rfl

theorem runOn_attempt (expected : Fault → Bool) (action : Action α) (machine : Machine) :
    (attempt expected action).runOn machine = match action.runOn machine with
      | (.ok value, after) => (.ok (.ok value), after)
      | (.error fault, after) =>
        if expected fault then (.ok (.error fault), after) else (.error fault, after) := by
  rw [attempt, runOn_tryCatch, runOn_bind]
  rcases action.runOn machine with ⟨fault | value, after⟩
  · dsimp only
    split <;> rfl
  · rfl

/-- What is done goes on, or its fault is reported if it is expected. -/
theorem runOn_orReport (expected : Fault → Bool) (action : Action α) (next : α → Action Exit)
    (machine : Machine) :
    (orReport expected action next).runOn machine = match action.runOn machine with
      | (.ok value, after) => (next value).runOn after
      | (.error fault, after) =>
        if expected fault then (report (fault.message after.manual)).runOn after
        else (.error fault, after) := by
  rw [orReport, runOn_bind, runOn_attempt]
  rcases action.runOn machine with ⟨fault | value, after⟩
  · dsimp only
    by_cases expects : expected fault = true
    · rw [if_pos expects, if_pos expects]
      dsimp only
      rw [runOn_bind, runOn_ask]
    · rw [if_neg expects, if_neg expects]
  · rfl

/-- A report is one panel, unless its message cannot be shown. -/
theorem runOn_report (message : Text) (machine : Machine) :
    (report message).runOn machine = match Display.Markup.render (reportLine message) with
      | .ok shown => (.ok .reported,
          { machine with output := machine.output ++ errorPanel machine.screen shown })
      | .error fault => (.error (.markup fault), machine) := by
  rw [report, runOn_bind, printPanel, runOn_bind, ← reportLine, render]
  cases Display.Markup.render (reportLine message) <;> rfl

theorem not_success_of_report {message : Text} {after : Machine} :
    (report message).runOn machine ≠ (.ok .success, after) := by
  rw [runOn_report]
  cases Display.Markup.render (reportLine message) <;> simp

theorem runOn_withContext (options : Options) (next : Context → Action Exit) (machine : Machine) :
    (withContext options next).runOn machine =
      match selected? machine.directory machine.environment options with
      | some context => (next context).runOn machine
      | none => (report Fault.noSelection.heading).runOn machine := by
  rw [withContext, runOn_bind, runOn_get]
  dsimp only
  cases selected? machine.directory machine.environment options <;> rfl

/-- Loading the environment file changes the environment only, also where a variable stops it. -/
theorem runOn_loadEnvironment (machine : Machine) :
    EnvironmentFile.load.runOn machine =
      match machine.files.isFile machine.directory (Path.ofText EnvironmentFile.fileName) with
      | .error error => (.error (.file error), machine)
      | .ok isThere =>
        if isThere && !EnvironmentFile.isDisabled machine.environment then
          match machine.files.read machine.directory (Path.ofText EnvironmentFile.fileName) with
          | .error error => (.error (.file error), machine)
          | .ok bytes =>
            match Utf8.readStrict? (Utf8.afterMark bytes) with
            | none => (.error .notUtf8, machine)
            | some text =>
              ((EnvironmentFile.apply machine.environment text).2,
                { machine with environment := (EnvironmentFile.apply machine.environment text).1 })
        else (.ok (), machine) := by
  rw [EnvironmentFile.load]
  dsimp only
  rw [runOn_bind, isFile, runOn_askFiles]
  cases machine.files.isFile machine.directory (Path.ofText EnvironmentFile.fileName) with
  | error error => rfl
  | ok isThere =>
    dsimp only [Except.mapError]
    rw [runOn_bind, runOn_ask]
    dsimp only
    split
    · rw [runOn_bind, readBytes, runOn_askFiles]
      cases machine.files.read machine.directory (Path.ofText EnvironmentFile.fileName) with
      | error error => rfl
      | ok bytes =>
        dsimp only [Except.mapError]
        cases Utf8.readStrict? (Utf8.afterMark bytes) with
        | none => rfl
        | some text =>
          dsimp only
          rw [runOn_bind, runOn_ask]
          dsimp only
          rcases EnvironmentFile.apply machine.environment text with ⟨_, fault | _⟩ <;> rfl
    · rfl

/-- Loading the environment file leaves all but the environment as it is. -/
theorem after_of_loadEnvironment {result : Except Fault Unit} {middle : Machine}
    (ran : EnvironmentFile.load.runOn machine = (result, middle)) :
    ∃ environment, middle = { machine with environment } := by
  rw [runOn_loadEnvironment] at ran
  repeat' split at ran
  all_goals
    cases ran
    exact ⟨_, rfl⟩

/-- Settings are put together from the entries of their file and the command of the environment. -/
theorem loadSettings_eq (console : Option Console) (workspace : Text) :
    Settings.load console workspace = (do
      let entries ← fileEntries console workspace
      let command ← Settings.load.liftExcept (Settings.overriding (← ask Machine.environment))
      Settings.load.liftExcept
        (Settings.combine (Settings.path workspace).toText entries command)) := by
  rw [Settings.load, fileEntries]
  dsimp only
  simp only [bind_assoc]
  congr 1
  funext isThere
  cases isThere with
  | true => simp [loadedLine]
  | false => simp

theorem onlyPrints_liftExcept (result : Except Fault α) :
    OnlyPrints (Settings.load.liftExcept result) := by
  cases result with
  | ok value => exact onlyPrints_pure value
  | error fault => exact onlyPrints_throw fault

theorem onlyPrints_fileEntries (console : Option Console) (workspace : Text) :
    OnlyPrints (fileEntries console workspace) := by
  refine onlyPrints_bind (onlyPrints_isThere _) fun isThere => ?_
  split
  · refine onlyPrints_bind (onlyPrints_askFiles _) fun _ => ?_
    refine onlyPrints_bind (onlyPrints_liftExcept _) fun _ => ?_
    exact onlyPrints_bind (onlyPrints_say _ _) fun _ => onlyPrints_pure _
  · exact onlyPrints_pure _

theorem onlyPrints_loadSettings (console : Option Console) (workspace : Text) :
    OnlyPrints (Settings.load console workspace) := by
  rw [loadSettings_eq]
  refine onlyPrints_bind (onlyPrints_fileEntries _ _) fun _ => ?_
  refine onlyPrints_bind (onlyPrints_ask _) fun _ => ?_
  exact onlyPrints_bind (onlyPrints_liftExcept _) fun _ => onlyPrints_liftExcept _

/-! ### Commands that only print -/

theorem onlyPrints_printPanel (title : Option Text) (markup : Text) :
    OnlyPrints (printPanel title markup) :=
  onlyPrints_bind (onlyPrints_render _) fun _ =>
    onlyPrints_bind (onlyPrints_ask _) fun _ => onlyPrints_print _

theorem onlyPrints_report (message : Text) : OnlyPrints (report message) :=
  onlyPrints_bind (onlyPrints_printPanel _ _) fun _ => onlyPrints_pure _

theorem onlyPrints_orReport {expected : Fault → Bool} {action : Action α}
    {next : α → Action Exit} (first : OnlyPrints action)
    (others : ∀ value, OnlyPrints (next value)) :
    OnlyPrints (orReport expected action next) := by
  intro machine
  rw [runOn_orReport]
  obtain ⟨output, same⟩ := first machine
  rcases ran : action.runOn machine with ⟨fault | value, middle⟩
  · rw [ran] at same
    obtain rfl : middle = _ := same
    dsimp only
    split
    · exact onlyPrints_report _ _
    · exact ⟨output, rfl⟩
  · rw [ran] at same
    obtain rfl : middle = _ := same
    exact others value _

theorem onlyPrints_withContext (options : Options) {next : Context → Action Exit}
    (others : ∀ context, OnlyPrints (next context)) : OnlyPrints (withContext options next) := by
  intro machine
  rw [runOn_withContext]
  cases selected? machine.directory machine.environment options with
  | none => exact onlyPrints_report _ _
  | some context => exact others context _

section Keeping
variable {γ : Type} {view : Machine → γ}
  (blind : ∀ machine output, view { machine with output } = view machine)
include blind

/-- A report behind an action changes the output only. -/
theorem keeps_orReport {expected : Fault → Bool} {action : Action α} {next : α → Action Exit}
    (first : Keeps view action) (others : ∀ value, Keeps view (next value)) :
    Keeps view (orReport expected action next) := by
  intro machine
  rw [runOn_orReport]
  rcases ran : action.runOn machine with ⟨fault | value, middle⟩
  · dsimp only
    split
    · exact (keeps_of_onlyPrints (onlyPrints_report _) blind middle).trans
        (after_of_keeps first ran)
    · exact after_of_keeps first ran
  · exact (others value middle).trans (after_of_keeps first ran)

theorem keeps_withContext (options : Options) {next : Context → Action Exit}
    (others : ∀ context, Keeps view (next context)) : Keeps view (withContext options next) := by
  intro machine
  rw [runOn_withContext]
  cases selected? machine.directory machine.environment options with
  | none => exact keeps_of_onlyPrints (onlyPrints_report _) blind machine
  | some context => exact others context machine

end Keeping

theorem onlyPrints_printTable (title : Text) (columns : List (Text × Option Nat))
    (rows : List (List Text)) : OnlyPrints (printTable title columns rows) := by
  refine onlyPrints_bind (onlyPrints_mapM (onlyPrints_mapM onlyPrints_render) rows) fun _ => ?_
  exact onlyPrints_bind (onlyPrints_ask _) fun _ => onlyPrints_print _

theorem onlyPrints_locate (options : Options) : OnlyPrints (locate options) := by
  refine onlyPrints_withContext options fun context => ?_
  refine onlyPrints_bind (onlyPrints_ask _) fun screen => ?_
  refine onlyPrints_bind (onlyPrints_firstFile _ _) fun found => ?_
  cases found with
  | none => exact onlyPrints_report _
  | some file => exact onlyPrints_bind (onlyPrints_print _) fun _ => onlyPrints_pure _

theorem onlyPrints_resolve (options : Options) : OnlyPrints (resolve options) := by
  refine onlyPrints_withContext options fun context => ?_
  refine onlyPrints_orReport (onlyPrints_bind ?_ fun path => ?_) fun text => ?_
  · rw [templateOf]
    cases options.lookup .template with
    | some template => exact onlyPrints_pure _
    | none =>
      refine onlyPrints_bind (onlyPrints_firstFile _ _) fun found => ?_
      cases found with
      | none => exact onlyPrints_throw _
      | some file => exact onlyPrints_pure _
  · exact onlyPrints_bind (onlyPrints_askFiles _) fun _ => onlyPrints_pure _
  · refine onlyPrints_bind (onlyPrints_ask _) fun _ => ?_
    exact onlyPrints_bind (onlyPrints_print _) fun _ => onlyPrints_pure _

theorem onlyPrints_tokens (options : Options) : OnlyPrints (tokens options) := by
  refine onlyPrints_withContext options fun context => ?_
  have lists : ∀ selected, OnlyPrints (do
      printTable "Tokens".toList
        [("Clase".toList, none), ("Token".toList, none), ("Valor".toList, none)]
        (tokenRows context selected)
      return Exit.success) := fun selected =>
    onlyPrints_bind (onlyPrints_printTable _ _ _) fun _ => onlyPrints_pure _
  cases options.lookup .aliasName with
  | none => exact lists none
  | some name =>
    dsimp only
    cases Token.classOf? name with
    | none => exact onlyPrints_report _
    | some tokenClass => exact lists (some tokenClass)

theorem onlyPrints_candidates (options : Options) : OnlyPrints (candidates options) := by
  refine onlyPrints_withContext options fun context => ?_
  refine onlyPrints_bind (onlyPrints_mapM (fun _ => onlyPrints_askFiles _) _) fun _ => ?_
  exact onlyPrints_bind (onlyPrints_printTable _ _ _) fun _ => onlyPrints_pure _

/-- Every command but `launch` leaves all of the machine but its output as it is. -/
theorem onlyPrints_perform {command : Command} (other : command ≠ .launch) (runner : Runner)
    (options : Options) : OnlyPrints (perform runner command options) := by
  cases command with
  | launch => exact absurd rfl other
  | locate => exact onlyPrints_locate options
  | resolve => exact onlyPrints_resolve options
  | tokens => exact onlyPrints_tokens options
  | candidates => exact onlyPrints_candidates options
  | version => exact onlyPrints_bind (onlyPrints_printPanel _ _) fun _ => onlyPrints_pure _
  | info =>
    refine onlyPrints_bind (onlyPrints_printPanel _ _) fun _ => ?_
    refine onlyPrints_bind (onlyPrints_printTable _ _ _) fun _ => ?_
    refine onlyPrints_bind (onlyPrints_ask _) fun screen => ?_
    exact onlyPrints_bind (onlyPrints_say (some screen) _) fun _ => onlyPrints_pure _

/-- A command line loads the environment file, and does its command unless a path cannot be one or
there are arguments too many. -/
theorem runOn_run {arguments : List Text} {command : Command} {given : Arguments}
    (reads : Reads arguments command given) (runner : Runner) (machine : Machine) :
    (run runner arguments).runOn machine = match EnvironmentFile.load.runOn machine with
      | (.error fault, middle) => (.error fault, middle)
      | (.ok _, middle) =>
        if hasNullPath middle.environment command.keys given.options then
          (.ok (.usage .nullPath), middle)
        else if given.extra then (.ok (.usage .unexpectedArgument), middle)
        else (perform runner command given.options).runOn middle := by
  obtain ⟨rest, splits, readsRest⟩ := reads
  rw [run, splits]
  dsimp only
  rw [runOn_bind, readsRest]
  rcases EnvironmentFile.load.runOn machine with ⟨fault | _, middle⟩
  · rfl
  · dsimp only
    rw [runOn_bind, runOn_ask]
    dsimp only
    split
    · rfl
    · split <;> rfl

/-- Loading the environment file changes nothing but the environment. -/
theorem keeps_loadEnvironment {γ : Type} {view : Machine → γ}
    (blind : ∀ machine environment, view { machine with environment } = view machine) :
    Keeps view EnvironmentFile.load := by
  intro machine
  obtain ⟨environment, same⟩ := after_of_loadEnvironment (runOn_of_result rfl)
  rw [same, blind]

/-- Arguments that cannot be read change nothing but the environment. -/
theorem keeps_of_unread {γ : Type} {view : Machine → γ}
    (blind : ∀ machine environment, view { machine with environment } = view machine)
    {arguments : List Text} (unread : ¬ ∃ command given, Reads arguments command given)
    (runner : Runner) : Keeps view (run runner arguments) := by
  rw [run]
  cases splits : split arguments with
  | error cause => exact keeps_pure _ _
  | ok parts =>
    obtain ⟨command, rest⟩ := parts
    refine keeps_bind (keeps_loadEnvironment blind) fun _ => ?_
    cases reads : read command rest with
    | error cause => exact keeps_pure _ _
    | ok given => exact absurd ⟨command, given, rest, splits, reads⟩ unread

end Steps

end DebugLaunch.CommandLineRuns
