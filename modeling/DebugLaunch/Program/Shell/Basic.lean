import DebugLaunch.Program.Script
import DebugLaunch.Program.Signal
import DebugLaunch.Program.Utility

/-! The state of a shell: the process it works in, its variables and functions, and how the last
command came out. Some of the variables are passed on to the programs that the shell starts; those
are the environment of the process. -/
namespace DebugLaunch.Program

/-- What a shell does instead of going on with the next command: it leaves a number of loops, goes
on with the next round of a loop outside of some others, returns from a function, or finishes with a
code. The code is negative if a signal ends it. -/
inductive Jump where
  | leave (loops : Nat)
  | again (loops : Nat)
  | back
  | finish (code : Int)
  deriving DecidableEq, Repr

/-- A command in the background: its number, when it ends, its code, and whether the outputs of the
shell stay open until then. -/
structure Job where
  number : Nat
  ending : Nat
  code : Int
  holdsOutputs : Bool
  deriving DecidableEq, Repr

/-- The state of a shell. Its bindings are the variables that it does not pass on; variables that
are fixed cannot be changed. Options are kept by their letters. A shell inside of another one has
the number of the outermost one; signals for that number are `pending` until the outermost one goes
on. In a condition that is being tested, failures are no reason to stop. The code of the last script
that was run for its output is kept for commands that have no name. In a function the variables of
its own are noted with the values that they hide. While a file is run, complaints tell its name,
which is kept with the sign behind it. A shell that `isReplaced` does nothing after a program that
it starts. -/
structure Shell where
  process : Process
  name : Text
  parameters : List Text := []
  bindings : Environment := []
  fixed : List Text := []
  functions : List (Text × Command) := []
  traps : List (Signal × Text) := []
  jobs : List Job := []
  streams : List (Nat × Sink) := []
  options : List Char := []
  status : Nat := 0
  line : Nat := 1
  source : Text := []
  jump : Option Jump := none
  isInner : Bool := false
  pending : List Signal := []
  isTested : Bool := false
  isReplaced : Bool := false
  loops : Nat := 0
  outputStatus : Option Nat := none
  locals : Option (List (Text × Option Text × Option Text)) := none

namespace Shell

/-- The number of the shell's own process. -/
def ownNumber : Nat := 4242

/-- The beginning of the complaints of a shell: its name, the line, and the file that it runs. -/
def heading (shell : Shell) : Text :=
  shell.name ++ ": ".toList ++ Text.ofNat shell.line ++ ": ".toList ++ shell.source

/-- The shell with a complaint, after which it goes on. -/
def complain (shell : Shell) (message : Text) (status : Nat) : Shell :=
  { shell with process := shell.process.complain (shell.heading ++ message), status }

/-- The shell finished with a code. -/
def finish (shell : Shell) (code : Int) : Shell :=
  { shell with jump := some (.finish code), status := (code % 256).toNat }

/-- The shell with a complaint that finishes it with a code. -/
def failWith (shell : Shell) (message : Text) (status : Nat) : Shell :=
  (shell.complain message status).finish status

/-- The shell with a complaint that finishes it. -/
def fail (shell : Shell) (message : Text) : Shell := shell.failWith message 2

/-- The shell after a command that has succeeded. -/
def succeed (shell : Shell) : Shell := { shell with status := 0 }

/-- Whether an option is set. -/
def has (shell : Shell) (option : Char) : Bool := shell.options.contains option

/-- The number that decimal digits write. -/
def decimal (digits : Text) : Nat := digits.foldl (fun n c => 10 * n + (c.toNat - '0'.toNat)) 0

/-- The value of a variable. -/
def stored? (shell : Shell) (name : Text) : Option Text :=
  (shell.bindings.get? name).or (shell.process.environment.get? name)

/-- The value of a variable or parameter that has one. -/
def value? (shell : Shell) (name : Text) : Option Text :=
  match name with
  | ['#'] => some (Text.ofNat shell.parameters.length)
  | ['?'] => some (Text.ofNat shell.status)
  | ['$'] => some (Text.ofNat ownNumber)
  | ['@'] | ['*'] =>
    if shell.parameters = [] then none else some (Text.join [' '] shell.parameters)
  | ['!'] => shell.jobs.getLast?.map fun job => Text.ofNat job.number
  | ['-'] => some shell.options
  | name =>
    if name = "LINENO".toList then some (Text.ofNat shell.line)
    else if name != [] && name.all Char.isDigit then (shell.name :: shell.parameters)[decimal name]?
    else shell.stored? name

/-- The place of a variable among those that are passed on. They are grouped by the sum of the
codes of their letters, of which the first one counts seventeen times. -/
def slot (name : Text) : Nat :=
  (16 * ((name.head?.map Char.toNat).getD 0) + (name.map Char.toNat).foldl (· + ·) 0) % 39

/-- Variables in the order in which they are passed on. -/
def arranged (environment : Environment) : Environment :=
  environment.mergeSort fun one other => slot one.1 ≤ slot other.1

/-- Passes a variable on with a value. -/
def pass (shell : Shell) (name value : Text) : Shell :=
  let environment := arranged (shell.process.environment.set name value)
  { shell with
    bindings := shell.bindings.unset name, process := { shell.process with environment } }

/-- Gives a variable a value, without looking whether it may be changed. -/
def put (shell : Shell) (name value : Text) : Shell :=
  let isPassed := (shell.process.environment.get? name).isSome
  if isPassed || shell.has 'a' then shell.pass name value
  else { shell with bindings := shell.bindings.set name value }

/-- Gives a variable a value. -/
def assign (shell : Shell) (name value : Text) : Shell :=
  if shell.fixed.contains name then shell.fail (name ++ ": is read only".toList)
  else shell.put name value

/-- Takes a variable away. -/
def unset (shell : Shell) (name : Text) : Shell :=
  { shell with
    bindings := shell.bindings.unset name
    process := { shell.process with environment := shell.process.environment.unset name } }

/-- Restores a variable: its own value, and the one that was passed on. -/
def restore (shell : Shell) (name : Text) (own passed : Option Text) : Shell :=
  let shell := shell.unset name
  match own, passed with
  | some value, _ => { shell with bindings := shell.bindings.set name value }
  | none, some value => shell.pass name value
  | none, none => shell

/-- The sink with a number. -/
def sink (shell : Shell) (number : Nat) : Sink :=
  if number = 1 then shell.process.output
  else if number = 2 then shell.process.errors
  else (shell.streams.lookup number).getD .closed

/-- Lets a number stand for a sink. -/
def withSink (shell : Shell) (number : Nat) (sink : Sink) : Shell :=
  if number = 1 then { shell with process := { shell.process with output := sink } }
  else if number = 2 then { shell with process := { shell.process with errors := sink } }
  else { shell with streams := (number, sink) :: shell.streams.filter (·.1 != number) }

/-- A shell inside of another one. It begins with the same state but has no jobs, and of the traps
only those that ignore a signal. -/
def inner (shell : Shell) : Shell :=
  { shell with
    isInner := true, isReplaced := false, jobs := []
    traps := shell.traps.filter fun (_, action) => action = [] }

/-- The code with which a shell has ended. -/
def code (shell : Shell) : Int :=
  match shell.jump with
  | some (.finish code) => code
  | _ => shell.status

/-- The shell after a program or another shell has ended with a code. If a signal has ended it, that
is told, unless the signal is the one of the keyboard or of a broken pipe. -/
def afterCode (shell : Shell) (code : Int) : Shell :=
  if 0 ≤ code then { shell with status := code.toNat }
  else
    let signal := (-code).toNat
    let quiet := ["INT".toList, "PIPE".toList].contains (Signal.name signal)
    { shell with
      process := if quiet then shell.process else shell.process.complain (Signal.description signal)
      status := 128 + signal }

/-- The shell after another one inside of it has ended. Files, buffers, the time and the input that
is left are shared. -/
def afterInner (shell inner : Shell) : Shell :=
  let process := { shell.process with
    files := inner.process.files, buffers := inner.process.buffers
    elapsed := inner.process.elapsed, input := inner.process.input }
  { shell with process, pending := inner.pending }.afterCode inner.code

/-- Whether commands go on. -/
def goesOn (shell : Shell) : Bool := shell.jump.isNone

end Shell
end DebugLaunch.Program
