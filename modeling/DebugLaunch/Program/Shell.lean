import DebugLaunch.Program.Shell.Redirect
import DebugLaunch.Program.Shell.Start

/-! The shell: it runs the commands of a script one after the other. A simple command is one of the
shell's own, a function, or a program that is started; the others put commands together. Commands
inside of others are run by evaluation of a lower depth, so that every run ends. -/
namespace DebugLaunch.Program.Shell

open Utf8 (Bytes)

/-- A shell that stops where a failure is a reason to. -/
def checked (before shell : Shell) : Shell :=
  if shell.has 'e' && !before.isTested && shell.status != 0 && shell.goesOn then
    shell.finish shell.status
  else shell

/-- Runs a command of which the failure is no reason to stop. -/
def tested (run : Evaluation) (shell : Shell) (command : Command) : Shell :=
  { run { shell with isTested := true } command with isTested := shell.isTested }

/-- Starts a program and waits for it. -/
def runProgram (run : Evaluation) (shell : Shell) (words : List Text) : Shell :=
  let name := words.headD []
  match locate shell.forSearch words with
  | .ok (_, program) =>
    let (after, code) := launch run (words.length + 1) shell.process words program
    let shell := { shell with process := afterProgram shell.process after }
    if shell.isReplaced then shell.finish code else shell.afterCode code
  | .error fault =>
    if fault = .missing || fault = .notADirectory then
      shell.complain (name ++ ": not found".toList) 127
    else shell.complain (name ++ ": ".toList ++ fault.description) 126

/-- Puts a program in the place of the shell. -/
def becomeProgram (run : Evaluation) (shell : Shell) (words : List Text) : Shell :=
  let name := words.headD []
  match locate shell.forSearch words with
  | .ok (_, program) =>
    let (after, code) := launch run (words.length + 1) shell.process words program
    { shell with process := afterProgram shell.process after, traps := [] }.finish code
  | .error fault =>
    if fault = .missing || fault = .notADirectory then
      shell.failWith ("exec: ".toList ++ name ++ ": not found".toList) 127
    else shell.failWith ("exec: ".toList ++ name ++ ": ".toList ++ fault.description) 126

/-- Runs the script in a file. A name without a slash is looked up in the search path. -/
def runFile (run : Evaluation) (shell : Shell) (name : Text) : Shell :=
  let found := (searchPaths shell.forSearch name).filterMap fun path =>
    match shell.process.read path with
    | .ok content => some content
    | .error _ => none
  match found with
  | content :: _ =>
    let after := runScript run { shell with source := name ++ ": ".toList }
      (Utf8.decodeLenient content)
    { after with
      line := shell.line, source := shell.source
      jump := if after.jump = some .back then none else after.jump }
  | [] =>
    if name.contains '/' then
      shell.fail (".: cannot open ".toList ++ name ++ ": No such file".toList)
    else shell.fail (".: ".toList ++ name ++ ": not found".toList)

/-- Runs a function with arguments as parameters. Afterwards the parameters and the variables of its
own are what they were. -/
def call (run : Evaluation) (shell : Shell) (body : Command) (arguments : List Text) : Shell :=
  let inside := { shell with
    parameters := arguments, locals := some [], loops := 0, isReplaced := false }
  let after := run inside body
  let restored := (after.locals.getD []).foldl (fun shell (name, own, passed) =>
    shell.restore name own passed) after
  { restored with
    parameters := shell.parameters, locals := shell.locals, loops := shell.loops
    isReplaced := shell.isReplaced
    jump := if after.jump = some .back then none else after.jump }

/-- Runs the command that words stand for. Functions may be left out. -/
def invoke (run : Evaluation) (withFunctions : Bool) (shell : Shell) : List Text → Shell
  | [] => shell.succeed
  | name :: arguments =>
    let isFree := withFunctions && !specialNames.contains name
    match if isFree then shell.functions.lookup name else none, builtins.lookup name with
    | some body, _ => call run shell body arguments
    | none, some builtin =>
      { builtin { shell with source := [] } arguments with source := shell.source }
    | none, none =>
      match String.ofList name with
      | "eval" =>
        let after := runScript run { shell with source := "eval: ".toList }
          (Text.join [' '] arguments)
        { after with line := shell.line, source := shell.source }
      | "." => if arguments = [] then shell.succeed else runFile run shell (arguments.headD [])
      | "exec" => if arguments = [] then shell.succeed else becomeProgram run shell arguments
      | "type" => describe true shell arguments
      | "command" =>
        match arguments with
        | ['-', 'v'] :: names => describe false shell (names.take 1)
        | ['-', 'V'] :: names => describe true shell (names.take 1)
        | arguments => invoke run false shell arguments
      | _ => runProgram run shell (name :: arguments)

/-- Gives variables their values, one after the other, and collects what was given. -/
def assignAll (output : Output) (give : Shell → Text → Text → Shell) (shell : Shell)
    (assignments : List (Text × Word)) : Shell × Environment :=
  assignments.foldl (fun (shell, given) (name, word) =>
    if !shell.goesOn then (shell, given)
    else
      let (value, shell) := value output shell word
      (if !shell.goesOn then shell
        else if shell.fixed.contains name then shell.fail (name ++ ": is read only".toList)
        else give shell name value, given ++ [(name, value)])) (shell, [])

/-- Shows a command before it is run, if that is asked for. -/
def trace (shell : Shell) (errors : Sink) (given : Environment) (words : List Text) : Shell :=
  if !shell.has 'x' then shell
  else
    let parts := (given.map fun (name, value) => name ++ '=' :: value) ++ words
    let line := (shell.stored? "PS4".toList).getD [] ++ Text.join [' '] parts
    { shell with process := shell.process.writeTo errors (Utf8.encode (line ++ ['\n'])) }

/-- Runs a simple command. Variables that are given in front of it last as long as it, unless there
is no command, or one of the special ones. -/
def simple (run : Evaluation) (shell : Shell) (line : Nat) (words : List Word)
    (redirections : List Redirection) : Shell :=
  let output := outputOf run
  let assignments := (words.takeWhile fun word =>
    (Script.assignment? word).isSome).filterMap Script.assignment?
  let (command, before) :=
    texts output { shell with line, outputStatus := none } (words.drop assignments.length)
  if !before.goesOn then before
  else
    let isSpecial := specialNames.contains (command.headD [])
    match redirect output before redirections with
    | (false, after) =>
      let after := after.withStreamsOf before redirections
      if isSpecial && after.goesOn then after.finish 2 else after
    | (true, opened) =>
      let keeps := command = [] || isSpecial
      let (given, pairs) :=
        assignAll output (if keeps then Shell.put else Shell.pass) opened assignments
      let started := trace given before.process.errors pairs command
      let after :=
        if !started.goesOn then started
        else if command = [] then { started with status := started.outputStatus.getD 0 }
        else invoke run true started command
      let after :=
        if keeps then after
        else pairs.reverse.foldl (fun after (name, _) =>
          after.restore name (opened.bindings.get? name)
            (opened.process.environment.get? name)) after
      checked shell (if command = ["exec".toList] then after
        else after.withStreamsOf before redirections)

/-- What a loop does after a round: it stops, with what is left of the jump, or goes on. -/
def afterRound (shell : Shell) : Bool × Shell :=
  match shell.jump with
  | none => (true, shell)
  | some (.again 1) => (true, { shell with jump := none })
  | some (.leave 1) => (false, { shell with jump := none })
  | some (.again count) => (false, { shell with jump := some (.again (count - 1)) })
  | some (.leave count) => (false, { shell with jump := some (.leave (count - 1)) })
  | some _ => (false, shell)

/-- Runs the rounds of a loop, with the code of the last one. A loop that does not end in that many
rounds never does. -/
def rounds (run : Evaluation) (goal : Bool) (condition body : Command) : Nat → Nat → Shell → Shell
  | 0, _, shell => { shell with process := shell.process.withoutEnd }.finish 0
  | count + 1, last, shell =>
    match afterRound (tested run shell condition) with
    | (false, shell) => shell
    | (true, judged) =>
      if (judged.status = 0) = goal then { judged with status := last }
      else match afterRound (run judged body) with
        | (true, shell) => rounds run goal condition body count shell.status shell
        | (false, shell) => shell

/-- The number of rounds after which a loop is taken not to end. -/
def maxRounds : Nat := 10000

/-- Runs a command once for each value of a variable. -/
def eachOf (run : Evaluation) (name : Text) (body : Command) (shell : Shell) : List Text → Shell
  | [] => shell
  | value :: rest =>
    let shell := shell.assign name value
    if !shell.goesOn then shell
    else match afterRound (run shell body) with
      | (true, shell) => eachOf run name body shell rest
      | (false, shell) => shell

/-- Runs the first command of a choice of which a pattern fits. -/
def choose (run : Evaluation) (text : Text) (shell : Shell) :
    List (List Word × Command) → Shell
  | [] => shell.succeed
  | (words, body) :: rest =>
    let (fits, shell) := words.foldl (fun (fits, shell) word =>
      if fits || !shell.goesOn then (fits, shell)
      else
        let (pattern, shell) := pattern (outputOf run) shell word
        (Pattern.fits pattern text, shell)) (false, shell)
    if !shell.goesOn then shell
    else if !fits then choose run text shell rest
    else match body with
      | .nothing => shell.succeed
      | body => run shell body

/-- Runs commands at the same time, of which each reads what the one before writes. All begin at
`start`, and the last of them to end was done at `latest`. -/
def stages (run : Evaluation) (start : Nat) (input : Bytes) (latest : Nat) (shell : Shell) :
    List Command → Shell
  | [] => { shell with process := { shell.process with elapsed := latest } }
  | command :: rest =>
    let before := { shell.process with input, elapsed := start }
    let process := if rest = [] then before else before.capturing
    let inner := leave run (run { shell.inner with process } command)
    let ended := afterJobs inner.process (if rest = [] then [] else inner.jobs)
    let (written, process) := if rest = [] then ([], ended) else ended.captured before
    let after := shell.afterInner { inner with process }
    let after := { after with process := { after.process with input := shell.process.input } }
    stages run start written (max latest process.elapsed) after rest

/-- Runs a command in the background. It has nothing to read. -/
def background (run : Evaluation) (shell : Shell) (command : Command) : Shell :=
  let before := { shell.process with input := [] }
  let (isReplaced, redirections) := match command with
    | .simple _ _ redirections => (true, redirections)
    | .redirected _ redirections => (false, redirections)
    | _ => (false, [])
  let inner := leave run (run { shell.inner with process := before, isReplaced } command)
  let isRedirected (stream : Nat) : Bool := redirections.any fun other => other.stream = stream
  let job : Job :=
    { number := ownNumber + shell.jobs.length + 1, ending := inner.process.elapsed
      code := inner.code, holdsOutputs := !(isRedirected 1 && isRedirected 2) }
  { shell with
    process :=
      { shell.process with files := inner.process.files, buffers := inner.process.buffers }
    jobs := shell.jobs ++ [job], pending := inner.pending, status := 0 }

/-- The commands of a list. -/
def listed : Command → List Command
  | .sequence first second => listed first ++ [second]
  | command => [command]

/-- Runs a command, where the commands inside of it are run as given. -/
def step (run : Evaluation) (shell : Shell) (command : Command) : Shell :=
  let orElse (wanted : Bool) (first second : Command) : Shell :=
    let shell := tested run shell first
    if shell.goesOn && ((shell.status = 0) = wanted) then run shell second else shell
  if shell.has 'n' then shell
  else match command with
  | .nothing => shell.succeed
  | .simple line words redirections => attend run (simple run shell line words redirections)
  | .pipeline commands =>
    let process := shell.process
    attend run (checked shell
      (stages run process.elapsed process.input process.elapsed shell commands))
  | .negated command =>
    let after := tested run shell command
    if after.goesOn then { after with status := if after.status = 0 then 1 else 0 } else after
  | .both first second => orElse true first second
  | .either first second => orElse false first second
  | .sequence .. =>
    (listed command).foldl (fun shell command =>
      if shell.goesOn then run shell command else shell) shell
  | .background command => background run shell command
  | .subshell body =>
    let inner := leave run (run shell.inner body)
    let after := { shell with jobs := inner.jobs ++ shell.jobs }.afterInner inner
    attend run (checked shell after)
  | .redirected command redirections =>
    match redirect (outputOf run) shell redirections with
    | (true, opened) => (run opened command).withStreamsOf shell redirections
    | (false, after) => after.withStreamsOf shell redirections
  | .branch condition yes no =>
    let judged := tested run shell condition
    if !judged.goesOn then judged
    else run judged (if judged.status = 0 then yes else no)
  | .loop goal condition body =>
    let after := rounds run goal condition body maxRounds 0 { shell with loops := shell.loops + 1 }
    { after with loops := shell.loops }
  | .each name words body =>
    let (values, shell) := match words with
      | some words => texts (outputOf run) shell words
      | none => (shell.parameters, shell)
    if !shell.goesOn then shell
    else
      let after := eachOf run name body { shell with loops := shell.loops + 1, status := 0 } values
      { after with loops := shell.loops }
  | .choice word cases =>
    let (text, shell) := value (outputOf run) shell word
    if shell.goesOn then choose run text shell cases else shell
  | .define name body =>
    { shell with functions := (name, body) :: shell.functions, status := 0 }

/-- Runs a command, with commands inside of each other up to a depth. What goes deeper never ends.
-/
def evaluate : Nat → Evaluation
  | 0 => fun shell _ => { shell with process := shell.process.withoutEnd }.finish 0
  | depth + 1 => step (evaluate depth)

/-- How deep commands can be inside of each other. -/
def maxDepth : Nat := 1000

end Shell

/-- Starts a program with its words: the process afterwards, and the code, which is negative if a
signal ended the program. -/
def start (process : Process) (words : List Text) (program : Installed) : Process × Int :=
  Shell.launch (Shell.evaluate Shell.maxDepth) (words.length + 1) process words program

end DebugLaunch.Program
