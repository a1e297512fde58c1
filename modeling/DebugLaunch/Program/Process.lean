import DebugLaunch.Environment
import DebugLaunch.FileTree

/-! A running program: the files and the environment it sees, its input, where its two outputs go,
and the time it has taken. What is written is kept in buffers, so that outputs that go to one place
stay in order. -/
namespace DebugLaunch.Program

open Utf8 (Bytes)

/-- Where an output goes: to a buffer, to the end of a file, or nowhere. A closed one cannot be
written to. -/
inductive Sink where
  | buffer (number : Nat)
  | file (place : Place)
  | nowhere
  | closed
  deriving DecidableEq, Repr, Inhabited

/-- The state of a running program. The first two buffers are the output and the error output that
the caller sees. The program knows the name that it was started by. -/
structure Process where
  files : FileTree
  directory : Place
  environment : Environment
  input : Bytes := []
  buffers : List Bytes := [[], []]
  output : Sink := .buffer 0
  errors : Sink := .buffer 1
  elapsed : Nat := 0
  ownName : Text := []

namespace Process

/-- The content of a buffer. -/
def buffer (process : Process) (number : Nat) : Bytes := process.buffers.getD number []

/-- Writes bytes to a sink. -/
def writeTo (process : Process) (sink : Sink) (bytes : Bytes) : Process :=
  match sink with
  | .buffer number =>
    { process with buffers := process.buffers.modify number (· ++ bytes) }
  | .file place =>
    match process.files.lookup? place with
    | some (.file content) =>
      { process with files := process.files.put place (.file (content ++ bytes)) }
    | _ => process
  | .nowhere | .closed => process

/-- Writes to the output. -/
def write (process : Process) (bytes : Bytes) : Process := process.writeTo process.output bytes

/-- Writes a line to the output. -/
def writeLine (process : Process) (line : Text) : Process :=
  process.write (Utf8.encode (line ++ ['\n']))

/-- Writes a line to the error output. -/
def complain (process : Process) (line : Text) : Process :=
  process.writeTo process.errors (Utf8.encode (line ++ ['\n']))

/-- Writes a complaint to the error output, behind the name of the program. -/
def report (process : Process) (complaint : Text) : Process :=
  process.complain (process.ownName ++ ": ".toList ++ complaint)

/-- The advice of a program to ask for help. -/
def adviseHelp (process : Process) : Process :=
  process.complain ("Try '".toList ++ process.ownName ++ " --help' for more information.".toList)

/-- A complaint of a program with the advice to ask for help. -/
def complainOfUse (process : Process) (complaint : Text) : Process :=
  (process.report complaint).adviseHelp

/-- The directory that a process works in, as a path. -/
def workingPath (process : Process) : Path := ⟨.root, process.directory⟩

/-- The process with a new buffer as its output. -/
def capturing (process : Process) : Process :=
  { process with
    buffers := process.buffers ++ [[]], output := .buffer process.buffers.length }

/-- What a process has captured since another one, and the process without it. -/
def captured (process before : Process) : Bytes × Process :=
  (process.buffer before.buffers.length,
    { process with
      buffers := process.buffers.take before.buffers.length, output := before.output })

/-- The time that nothing takes that ever ends, in milliseconds. -/
def endless : Nat := Nat.pow 10 18

/-- A process that never ends. -/
def withoutEnd (process : Process) : Process := { process with elapsed := endless }

end Process
end DebugLaunch.Program
