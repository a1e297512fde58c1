import DebugLaunch.Program.Setting
import DebugLaunch.Program.Shell.Builtin

/-! Scripts, shells and programs that are started: how a script is run line by line, what happens
when a shell ends, and how a program is started with its arguments. What runs a single command is
given throughout. -/
namespace DebugLaunch.Program

/-- Runs a command of a script. -/
abbrev Evaluation := Shell → Command → Shell

namespace Shell

open Utf8 (Bytes)

/-- Runs lines of commands one after the other. A line that is not well-formed ends the shell when
it is reached. -/
def runLines (run : Evaluation) : Nat → Shell → List Script.Lexeme → Shell
  | 0, shell, _ => shell
  | fuel + 1, shell, lexemes =>
    if lexemes = [] || !shell.goesOn then shell
    else match Script.line.run lexemes with
      | .error misfit =>
        { shell with line := misfit.line }.fail ("Syntax error: ".toList ++ misfit.complaint)
      | .ok (.nothing, rest) => runLines run fuel shell rest
      | .ok (command, rest) =>
        runLines run fuel (run shell command) rest

/-- Runs a script. One without commands succeeds. -/
def runScript (run : Evaluation) (shell : Shell) (script : Text) : Shell :=
  let lexemes := Script.lexemes script
  if lexemes.all fun lexeme => lexeme.sign = .newline || lexeme.sign = .ending then shell.succeed
  else runLines run (lexemes.length + 1) shell lexemes

/-- The shell after what is to be done at its end has been done. Signals that end it leave no time
for that. -/
def leave (run : Evaluation) (shell : Shell) : Shell :=
  let code := shell.code
  match shell.traps.lookup 0 with
  | none | some [] => shell.finish code
  | some action =>
    if code < 0 then shell.finish code
    else
      let others := shell.traps.filter fun (signal, _) => signal != 0
      let after := runScript run { shell with jump := none, traps := others } action
      match after.jump with
      | some (.finish code) => after.finish code
      | _ => after.finish code

/-- The shell after the signals that were sent to it: what was set for a signal is run, and where
nothing was set the signal ends the shell, unless it is harmless. -/
def attend (run : Evaluation) (shell : Shell) : Shell :=
  if shell.isInner then shell
  else shell.pending.foldl (fun shell signal =>
    let isFirm := ["KILL", "STOP"].any fun name => signal.name = name.toList
    match if isFirm || signal = 0 then none else shell.traps.lookup signal with
    | some [] => shell
    | some action =>
      if !shell.goesOn then shell
      else
        let after := runScript run shell action
        if after.goesOn then { after with status := shell.status } else after
    | none =>
      if signal.isHarmless then shell
      else if signal.isStop then { shell with process := shell.process.withoutEnd }.finish 0
      else shell.finish (-(signal : Int))) { shell with pending := [] }

/-- A process after the commands in the background have ended that hold its outputs. -/
def afterJobs (process : Process) (jobs : List Job) : Process :=
  let endings := (jobs.filter fun job => job.holdsOutputs).map fun job => job.ending
  { process with elapsed := endings.foldl max process.elapsed }

/-- The output of a script that is run in a shell inside, without the line ends behind it. -/
def outputOf (run : Evaluation) : Output := fun shell script =>
  let before := shell.process
  let inner := leave run (runScript run { shell.inner with process := before.capturing } script)
  let (bytes, process) := (afterJobs inner.process inner.jobs).captured before
  let after := shell.afterInner { inner with process }
  let text := (Utf8.decodeLenient bytes).filter (· != '\x00')
  (Text.trimRight (· = '\n') text,
    { after with status := shell.status, outputStatus := some after.status })

/-- The search path of a shell that is given none. -/
def usualSearchPath : Text :=
  "/usr/local/sbin:/usr/local/bin:/usr/sbin:/usr/bin:/sbin:/bin".toList

/-- The variables that a shell has from the start, and does not pass on. -/
def usualVariables : Environment := [("IFS".toList, " \t\n".toList), ("OPTIND".toList, ['1']),
  ("PATH".toList, usualSearchPath), ("PPID".toList, Text.ofNat (ownNumber - 1)),
  ("PS1".toList, "$ ".toList), ("PS2".toList, "> ".toList), ("PS4".toList, "+ ".toList)]

/-- The environment that a shell passes on: the variables with proper names, and the working
directory, spelled as it was if that is right. -/
def passedOn (process : Process) : Environment :=
  let named : Environment := process.environment.filter fun (name, _) => Script.isName name
  let here := match named.get? "PWD".toList with
    | some ('/' :: path) =>
      match process.files.find process.directory (Path.ofText ('/' :: path)) with
      | .ok (place, _) => if place = process.directory then some ('/' :: path) else none
      | .error _ => none
    | _ => none
  arranged (named.set "PWD".toList (here.getD process.workingPath.toText))

/-- What a shell is started for: a script among its arguments, or in its input, or in a file. -/
structure Start where
  options : List Char := []
  isGiven : Bool := false
  inInput : Bool := false

/-- Reads the options of a shell, and gives the arguments behind them. -/
def readOptions : Nat → Start → List Text → Except Text (Start × List Text)
  | 0, start, arguments => .ok (start, arguments)
  | fuel + 1, start, arguments =>
    match arguments with
    | ['-', '-'] :: rest => .ok (start, rest)
    | ['-'] :: rest => .ok (start, rest)
    | (sign :: letter :: letters) :: rest =>
      let isSet := sign = '-'
      if !isSet && sign != '+' then .ok (start, arguments)
      else
        let own (c : Char) : Bool := c = 'c' || c = 'o' || c = 'l' || c = 's'
        let group := letter :: letters
        match withOptions start.options isSet (group.filter fun c => !own c) with
        | .error wrong => .error ("Illegal option -".toList ++ [wrong])
        | .ok options =>
          let start := { start with
            options, isGiven := start.isGiven || group.contains 'c'
            inInput := start.inInput || group.contains 's' }
          if !group.contains 'o' then readOptions fuel start rest
          else match optionNames.lookup (rest.headD []) with
            | some letter =>
              readOptions fuel { start with options := withOption options isSet letter }
                (rest.drop 1)
            | none => .error ("Illegal option -o ".toList ++ rest.headD [])
    | _ => .ok (start, arguments)

/-- Runs a shell with its arguments, of which the first is its name: the process afterwards, and the
code. -/
def runShell (run : Evaluation) (process : Process) (words : List Text) : Process × Int :=
  let ownName := words.headD []
  let refuse (complaint : Text) : Process × Int :=
    (process.complain (ownName ++ ": 0: ".toList ++ complaint), 2)
  let begin (start : Start) (process : Process) (script name : Text) (parameters : List Text) :
      Process × Int :=
    let environment := passedOn process
    let bindings : Environment := usualVariables.filter fun (name, _) =>
      (environment.get? name).isNone
    let environment := if (environment.get? "IFS".toList).isSome
      then environment.set "IFS".toList " \t\n".toList else environment
    let shell : Shell :=
      { process := { process with environment }, name, parameters, bindings
        options := start.options }
    let shell := leave run (runScript run shell script)
    (afterJobs shell.process shell.jobs, shell.code)
  match readOptions words.length {} words.tail with
  | .error complaint => refuse complaint
  | .ok (start, arguments) =>
    match arguments with
    | [] =>
      if start.isGiven then refuse "-c requires an argument".toList
      else begin start { process with input := [] } (Utf8.decodeLenient process.input) ownName []
    | first :: rest =>
      if start.isGiven then begin start process first (rest.headD ownName) rest.tail
      else if start.inInput then
        begin start { process with input := [] } (Utf8.decodeLenient process.input) ownName
          arguments
      else match process.read first with
        | .ok content => begin start process (Utf8.decodeLenient content) first rest
        | .error .isADirectory => (process, 0)
        | .error fault =>
          let reason := if fault = .missing || fault = .notADirectory then "No such file".toList
            else fault.description
          refuse ("cannot open ".toList ++ first ++ ": ".toList ++ reason)

/-- The shared parts of a process after a program that was started in it. -/
def afterProgram (process after : Process) : Process :=
  { process with
    files := after.files, buffers := after.buffers, elapsed := after.elapsed, input := after.input }

/-- Starts a program with its words, of which the first is its name: the process afterwards, and the
code. Programs that start others can do that as often as they have words. -/
def launch (run : Evaluation) : Nat → Process → List Text → Installed → Process × Int
  | 0, process, _, _ => (process, 127)
  | fuel + 1, caller, words, program =>
    let process := { caller with ownName := words.headD [] }
    let onward (inside : Process) (failure : Text → Text) (command : List Text) : Process × Int :=
      match locate inside command with
      | .ok (_, program) =>
        let (after, code) := launch run fuel inside command program
        (afterProgram process after, code)
      | .error fault =>
        let name := process.quotedName (command.headD [])
        (process.report (failure (name ++ ": ".toList ++ fault.description)),
          if fault = .missing then 127 else 126)
    match program with
    | .tool tool =>
      let (after, code) := tool process words.tail
      (after, code)
    | .shell =>
      let (after, code) := runShell run process words
      (afterProgram process after, code)
    | .environment =>
      match Setting.apply process words.tail with
      | .error (process, code) => (process, code)
      | .ok (inside, setting, []) =>
        let lineEnd : Bytes := if setting.endsWithNull then [0] else [10]
        (inside.environment.foldl (fun process (name, value) =>
          process.write (Utf8.encode (name ++ '=' :: value) ++ lineEnd)) process, 0)
      | .ok (inside, _, command) => onward inside id command
    | .timed =>
      match Timing.limit process words.tail with
      | .error none =>
        (process.adviseHelp, 125)
      | .error (some complaint) => (process.complainOfUse complaint, 125)
      | .ok (timing, time, command) =>
        let (after, code) := onward process ("failed to run command ".toList ++ ·) command
        let limit := process.elapsed + time
        if time = 0 || after.elapsed < limit then (after, code)
        else ({ after with elapsed := limit }, timing.lateCode)

end Shell
end DebugLaunch.Program
