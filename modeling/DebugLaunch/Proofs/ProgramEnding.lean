import DebugLaunch.Command
import DebugLaunch.Proofs.ActionRuns
import Mathlib.Control.Monad.Basic

/-! What becomes of a program that is started with a launch file. Its output is given exactly if it
has finished with code zero; a program that is missing, takes too long or finishes with another code
is reported as a fault of the command. But a program can also be there and not be startable, its
limit can be longer than anything waits, and what it prints need not be text. A command lets the
faults of these endings through, and no others. -/
namespace DebugLaunch.ProgramEnding
open DebugLaunch.Action

/-- What is said before a program is started. -/
def startingLine (words : List Text) : Text :=
  tagged "dim" ("Ejecutando: ".toList ++ Text.join [' '] words)

/-- A program has finished with a code, and its output and its error output are these texts. -/
def Finished (ending : Ending) (code : Int) (output errors : Text) : Prop :=
  ∃ outputBytes errorBytes, ending = .finished code outputBytes errorBytes ∧
    Utf8.readStrict? outputBytes = some output ∧ Utf8.readStrict? errorBytes = some errors

/-- The endings that are reported as a fault of the command, each with its fault. The detail of a
code is the error output, or the output if there is none. -/
inductive Reports (words : List Text) : Ending → CommandFault → Prop where
  | missing (path : Text) :
      Reports words (.refused (.refused .missing path)) (.notFound (words.headD []))
  | late : Reports words .timedOut (.timedOut words)
  | code {ending : Ending} {code : Int} {output errors : Text}
      (finished : Finished ending code output errors) (nonzero : code ≠ 0) :
      Reports words ending (.failed code (Text.strip (if errors = [] then output else errors)))

/-- The endings whose faults are let through: the program is there but cannot be started, nothing
waits as long as its limit, or what it printed is no text. -/
inductive LetsThrough : Ending → Fault → Prop where
  | refused {error : PathError} (other : ∀ path, error ≠ .refused .missing path) :
      LetsThrough (.refused error) (.file error)
  | waitTooLong : LetsThrough .waitTooLong .waitTooLong
  | noText {code : Int} {output errors : Utf8.Bytes}
      (damaged : Utf8.decode? output = none ∨ Utf8.decode? errors = none) :
      LetsThrough (.finished code output errors) .notUtf8

/-- What an ending comes to: an output, a fault of the command, or one that is let through. -/
structure Settles (words : List Text) (ending : Ending) (result : Except Fault Text) : Prop where
  output : ∀ text, result = .ok text ↔ ∃ errors, Finished ending 0 text errors
  reported : ∀ fault, result = .error (.command fault) ↔ Reports words ending fault
  letThrough : ∀ fault, (∀ own, fault ≠ .command own) →
    (result = .error fault ↔ LetsThrough ending fault)

section Endings
variable {words : List Text} {ending : Ending} {fault : Fault}

theorem readStrict?_eq_none_iff {bytes : Utf8.Bytes} :
    Utf8.readStrict? bytes = none ↔ Utf8.decode? bytes = none := by
  simp [Utf8.readStrict?]

/-- Every ending has finished well, is reported, or is let through. -/
theorem ending_cases (words : List Text) (ending : Ending) :
    (∃ text errors, Finished ending 0 text errors) ∨
      (∃ fault, Reports words ending fault) ∨ ∃ fault, LetsThrough ending fault := by
  cases ending with
  | refused error =>
    by_cases missing : ∃ path, error = .refused .missing path
    · obtain ⟨path, rfl⟩ := missing
      exact .inr (.inl ⟨_, .missing path⟩)
    · exact .inr (.inr ⟨_, .refused (not_exists.mp missing)⟩)
  | waitTooLong => exact .inr (.inr ⟨_, .waitTooLong⟩)
  | timedOut => exact .inr (.inl ⟨_, .late⟩)
  | finished code output errors =>
    cases reads : Utf8.readStrict? output with
    | none => exact .inr (.inr ⟨_, .noText (.inl (readStrict?_eq_none_iff.mp reads))⟩)
    | some text =>
      cases readsErrors : Utf8.readStrict? errors with
      | none => exact .inr (.inr ⟨_, .noText (.inr (readStrict?_eq_none_iff.mp readsErrors))⟩)
      | some errorText =>
        have finished : Finished (.finished code output errors) code text errorText :=
          ⟨output, errors, rfl, reads, readsErrors⟩
        by_cases zero : code = 0
        · exact .inl ⟨text, errorText, zero ▸ finished⟩
        · exact .inr (.inl ⟨_, .code finished zero⟩)

theorem outcome_of_finished {code : Int} {text errors : Text}
    (finished : Finished ending code text errors) :
    Command.outcome words ending = if code = 0 then .ok text
      else .error (.command (.failed code
        (Text.strip (if errors = [] then text else errors)))) := by
  obtain ⟨output, errorOutput, rfl, reads, readsErrors⟩ := finished
  simp only [Command.outcome, reads, readsErrors]

theorem outcome_of_reports {own : CommandFault} (reports : Reports words ending own) :
    Command.outcome words ending = .error (.command own) := by
  cases reports with
  | missing path => rfl
  | late => rfl
  | code finished nonzero => rw [outcome_of_finished finished, if_neg nonzero]

theorem outcome_of_letsThrough (lets : LetsThrough ending fault) :
    Command.outcome words ending = .error fault := by
  cases lets with
  | refused other =>
    unfold Command.outcome
    split <;> simp_all
  | waitTooLong => rfl
  | noText damaged =>
    simp only [Command.outcome]
    rw [← readStrict?_eq_none_iff, ← readStrict?_eq_none_iff] at damaged
    split
    · rename_i reads readsErrors
      rw [reads, readsErrors] at damaged
      simp at damaged
    · rfl

/-- No fault that is let through is one of the command. -/
theorem not_command_of_letsThrough (lets : LetsThrough ending fault) (own : CommandFault) :
    fault ≠ .command own := by
  cases lets <;> nofun

/-- The three kinds of ending show in the result, and no two of them come together. -/
theorem settles_outcome (words : List Text) (ending : Ending) :
    Settles words ending (Command.outcome words ending) := by
  refine ⟨fun text => ⟨fun gives => ?_, ?_⟩, fun own => ⟨fun gives => ?_, outcome_of_reports⟩,
    fun fault other => ⟨fun gives => ?_, outcome_of_letsThrough⟩⟩
  · rcases ending_cases words ending with ⟨_, errors, finished⟩ | ⟨_, reports⟩ | ⟨_, lets⟩
    · rw [outcome_of_finished finished, if_pos rfl] at gives
      cases gives
      exact ⟨errors, finished⟩
    · rw [outcome_of_reports reports] at gives
      cases gives
    · rw [outcome_of_letsThrough lets] at gives
      cases gives
  · rintro ⟨errors, finished⟩
    rw [outcome_of_finished finished, if_pos rfl]
  · rcases ending_cases words ending with ⟨_, errors, finished⟩ | ⟨_, reports⟩ | ⟨_, lets⟩
    · rw [outcome_of_finished finished, if_pos rfl] at gives
      cases gives
    · rw [outcome_of_reports reports] at gives
      cases gives
      exact reports
    · rw [outcome_of_letsThrough lets] at gives
      exact absurd (Except.error.inj gives) (not_command_of_letsThrough lets own)
  · rcases ending_cases words ending with ⟨_, errors, finished⟩ | ⟨own, reports⟩ | ⟨_, lets⟩
    · rw [outcome_of_finished finished, if_pos rfl] at gives
      cases gives
    · rw [outcome_of_reports reports] at gives
      exact absurd (Except.error.inj gives).symm (other own)
    · rw [outcome_of_letsThrough lets] at gives
      cases gives
      exact lets

/-- What settles an ending is an output or a fault of the command unless something is let through.
-/
theorem output_or_reported_iff {result : Except Fault Text}
    (settles : Settles words ending result) :
    ((∃ text, result = .ok text) ∨ ∃ own, result = .error (.command own)) ↔
      ¬ ∃ fault, LetsThrough ending fault := by
  constructor
  · rintro good ⟨fault, lets⟩
    have fails := (settles.letThrough fault (not_command_of_letsThrough lets)).mpr lets
    rcases good with ⟨text, gives⟩ | ⟨own, gives⟩
    · rw [fails] at gives
      cases gives
    · rw [fails] at gives
      exact not_command_of_letsThrough lets own (Except.error.inj gives)
  · intro nothing
    rcases ending_cases words ending with ⟨text, errors, finished⟩ | ⟨own, reports⟩ | lets
    · exact .inl ⟨text, (settles.output text).mpr ⟨errors, finished⟩⟩
    · exact .inr ⟨own, (settles.reported own).mpr reports⟩
    · exact absurd lets nothing

end Endings

/-! ### Running a command -/

section Runs
variable {runner : Runner} {console : Option Console} {timeout : Option Int} {command : List Text}
  {file : Path}

/-- The machine behind a start: its files are those that the program has left. -/
def afterStart (runner : Runner) (timeout : Option Int) (words : List Text) (before : Machine) :
    Machine :=
  { before with
    files := (runner timeout words before).2
    started := ⟨words, before.files⟩ :: before.started }

theorem runOn_start (runner : Runner) (timeout : Option Int) (words : List Text)
    (machine : Machine) :
    (Command.start runner timeout words).runOn machine =
      (.ok (runner timeout words machine).1, afterStart runner timeout words machine) := rfl

/-- Nothing is started without a command, or where the line about it cannot be shown; otherwise one
program is, and the result is that of its ending. -/
theorem runOn_run (runner : Runner) (console : Option Console) (timeout : Option Int)
    (command : List Text) (file : Path) (machine : Machine) :
    (Command.run runner console timeout command file).runOn machine =
      if command = [] then (.error (.command .notConfigured), machine)
      else match (say console (startingLine (Command.full command file))).runOn machine with
        | (.error fault, before) => (.error fault, before)
        | (.ok _, before) =>
          (Command.outcome (Command.full command file)
              (runner timeout (Command.full command file) before).1,
            afterStart runner timeout (Command.full command file) before) := by
  rw [Command.run]
  by_cases empty : command = []
  · rw [if_pos empty, if_pos empty]
    rfl
  · rw [if_neg empty, if_neg empty]
    show (say console (startingLine (Command.full command file)) >>= _).runOn machine = _
    rw [runOn_bind]
    rcases (say console (startingLine (Command.full command file))).runOn machine with
      ⟨fault | _, before⟩
    · rfl
    · show (Command.start runner timeout _ >>= _).runOn before = _
      rw [runOn_bind, runOn_start]
      dsimp only
      cases Command.outcome (Command.full command file)
        (runner timeout (Command.full command file) before).1 <;> rfl

/-- Without a command nothing is started. Otherwise the line about the start is printed, if there is
a screen, and may be refused there. Behind it exactly one program is started: the result is an
output or a fault of the command as its ending says, except where a fault is let through. -/
theorem run_output_or_fault (runner : Runner) (console : Option Console) (timeout : Option Int)
    (command : List Text) (file : Path) (machine : Machine) :
    let words := Command.full command file
    let ran := (Command.run runner console timeout command file).runOn machine
    (command = [] ∧ ran = (.error (.command .notConfigured), machine)) ∨
      (command ≠ [] ∧ ∃ output fault, ran = (.error (.markup fault), { machine with output }) ∧
        said console (startingLine words) = .error (.markup fault)) ∨
      (command ≠ [] ∧ said console (startingLine words) = .ok () ∧
        ∃ output result, ran = (result, afterStart runner timeout words { machine with output }) ∧
          let ending := (runner timeout words { machine with output }).1
          Settles words ending result ∧
            (((∃ text, result = .ok text) ∨ ∃ own, result = .error (.command own)) ↔
              ¬ ∃ fault, LetsThrough ending fault)) := by
  intro words ran
  have runs : ran = _ := runOn_run runner console timeout command file machine
  obtain ⟨output, saying⟩ := runOn_say console (startingLine words) machine
  by_cases empty : command = []
  · rw [if_pos empty] at runs
    exact .inl ⟨empty, runs⟩
  · rw [if_neg empty, saying] at runs
    cases line : said console (startingLine words) with
    | error fault =>
      obtain ⟨inner, rfl⟩ := said_error line
      rw [line] at runs
      exact .inr (.inl ⟨empty, output, inner, runs, rfl⟩)
    | ok _ =>
      rw [line] at runs
      have settles := settles_outcome words (runner timeout words { machine with output }).1
      exact .inr (.inr ⟨empty, rfl, output, _, runs, settles, output_or_reported_iff settles⟩)

/-- A system with one program, which prints a file, and that cannot wait longer than a limit.
Anything else that a command names is refused: a directory, and a file because it is in the form of
no program. -/
def onlyCat (longest : Int) : Runner := fun timeout words machine =>
  let ending : Ending := match words with
    | [program, file] =>
      if timeout.any (longest < ·) then .waitTooLong
      else if program = "cat".toList then
        match machine.files.read machine.directory (Path.ofText file) with
        | .ok content => .finished 0 content []
        | .error error => .finished 1 [] (Utf8.encode error.message)
      else match machine.files.find machine.directory (Path.ofText program) with
        | .ok (_, .directory) => .refused (.refused .permissionDenied program)
        | .ok (_, .file _) => .refused (.refused .notExecutable program)
        | .error error => .refused error
    | words => .refused (.refused .missing (words.headD []))
  (ending, machine.files)

/-- Neither an output nor a fault of the command comes of a directory or of a file without the form
of a program as the command, of a program that finishes with code zero behind a byte that is no
text, and of a limit that is too long to wait for. -/
theorem starts_without_output_or_fault :
    let files : FileTree := { entries := [([['d']], .directory), ([['f']], .file [0xff])] }
    let machine : Machine := { files, directory := [] }
    let runner : Runner := onlyCat 1000
    let run (timeout : Option Int) (command : List Text) : Except Fault Text :=
      ((Command.run runner none timeout command (Path.ofText ['f'])).runOn machine).1
    run none ["./d".toList] = .error (.file (.refused .permissionDenied "./d".toList)) ∧
      run none ["./f".toList] = .error (.file (.refused .notExecutable "./f".toList)) ∧
      run none ["cat".toList] = .error .notUtf8 ∧
      (runner none ["cat".toList, ['f']] machine).1 = .finished 0 [0xff] [] ∧
      run (some 1001) ["cat".toList] = .error .waitTooLong := by
  decide +kernel

end Runs

end DebugLaunch.ProgramEnding
