import DebugLaunch.Machine

/-! The command that is started with a launch file: its words with the path of the file as one
more word behind them. What the machine makes of a command is a parameter, so that whatever is said
here holds of every program. -/
namespace DebugLaunch

open Utf8 (Bytes)

/-- How an attempt to start a program ended: it was refused, its end cannot be waited for as long as
asked, it took too long, or it finished with a code, its output and its error output. -/
inductive Ending where
  | refused (error : PathError)
  | waitTooLong
  | timedOut
  | finished (code : Int) (output errors : Bytes)
  deriving DecidableEq, Repr

/-- What starting a command comes to: how it ends, and the files afterwards. The first argument is
the time that the program may take, in milliseconds, if it is limited. -/
abbrev Runner := Option Int → List Text → Machine → Ending × FileTree

namespace Command

open DebugLaunch.Action

/-- The words of the command for a launch file. -/
def full (command : List Text) (file : Path) : List Text := command ++ [file.toText]

/-- The output of a program that finished with code zero, or what is wrong with how it ended. -/
def outcome (words : List Text) : Ending → Except Fault Text
  | .refused (.refused .missing _) => .error (.command (.notFound (words.headD [])))
  | .refused error => .error (.file error)
  | .waitTooLong => .error .waitTooLong
  | .timedOut => .error (.command (.timedOut words))
  | .finished code output errors =>
    match Utf8.readStrict? output, Utf8.readStrict? errors with
    | some output, some errors =>
      if code = 0 then .ok output
      else .error (.command (.failed code (Text.strip (if errors = [] then output else errors))))
    | _, _ => .error .notUtf8

/-- Gives a command to the machine to start. -/
def start (runner : Runner) (timeout : Option Int) (words : List Text) : Action Ending := do
  let machine ← get
  let (ending, files) := runner timeout words machine
  set { machine with files, started := ⟨words, machine.files⟩ :: machine.started }
  return ending

/-- Starts a command with a launch file and gives its output. -/
def run (runner : Runner) (console : Option Console) (timeout : Option Int) (command : List Text)
    (file : Path) : Action Text := do
  if command = [] then throw (.command .notConfigured)
  let words := full command file
  say console (tagged "dim" ("Ejecutando: ".toList ++ Text.join [' '] words))
  match outcome words (← start runner timeout words) with
  | .ok output => return output
  | .error fault => throw fault

end Command
end DebugLaunch
