import DebugLaunch.Program.Installed
import DebugLaunch.Program.Printf
import DebugLaunch.Program.Script.Grammar
import DebugLaunch.Program.Shell.Expansion

/-! The commands that the shell does itself and that run nothing else. Most of them change its
state: its variables, its parameters, its options, its directory, and what it does next. -/
namespace DebugLaunch.Program.Shell

open Utf8 (Bytes)

/-- A command that the shell does itself, with its arguments. -/
abbrev Builtin := Shell → List Text → Shell

/-- The complaint about a text that should be a number. -/
def illegalNumber (command text : Text) : Text :=
  command ++ ": Illegal number: ".toList ++ text

/-- The natural number that an argument is. -/
def natural? (argument : Text) : Option Nat :=
  if argument != [] && argument.all Char.isDigit && decimal argument < Nat.pow 2 31 then
    some (decimal argument)
  else none

/-- Leaves the shell or the function with a code, or complains about it. -/
def ending (command : String) (jump : Nat → Jump) : Builtin := fun shell arguments =>
  match arguments with
  | [] => { shell with jump := some (jump shell.status) }
  | argument :: _ =>
    match natural? argument with
    | some code => { shell with jump := some (jump (code % 256)), status := code % 256 }
    | none => shell.fail (illegalNumber command.toList argument)

/-- Leaves loops, or goes on with the next round of one. -/
def looping (command : String) (jump : Nat → Jump) : Builtin := fun shell arguments =>
  let argument := arguments.headD ['1']
  match natural? argument with
  | some (count + 1) =>
    if shell.loops = 0 then shell.succeed
    else { shell with jump := some (jump (min (count + 1) shell.loops)), status := 0 }
  | _ => shell.fail (illegalNumber command.toList argument)

/-- Writes arguments in one line. Escapes are always written out, and `-n` leaves out the end. -/
def echo : Builtin := fun shell arguments =>
  let (words, lineEnd) : List Text × Bytes := match arguments with
    | ['-', 'n'] :: rest => (rest, [])
    | words => (words, [10])
  let line := Text.join [' '] words
  let (bytes, goesOn) := unescape (.shell []) (line.length + 1) line
  let process := shell.process.write (bytes ++ if goesOn then lineEnd else [])
  { shell with process, status := 0 }

/-- Judges a condition. -/
def judge (command : String) : Builtin := fun shell arguments =>
  match Condition.judge shell.process arguments with
  | .ok holds => { shell with status := if holds then 0 else 1 }
  | .error complaint => shell.complain (command.toList ++ ": ".toList ++ complaint) 2

/-- Judges a condition that a bracket has to end. -/
def bracket : Builtin := fun shell arguments =>
  if arguments.getLast? = some [']'] then judge "[" shell arguments.dropLast
  else shell.complain "[: missing ]".toList 2

/-- Goes to another directory. -/
def changeDirectory : Builtin := fun shell arguments =>
  let process := shell.process
  let goesBack := arguments.head? = some ['-']
  let wanted := if goesBack then (shell.stored? "OLDPWD".toList).getD []
    else arguments.headD ((shell.stored? "HOME".toList).getD [])
  let wanted := if wanted = [] then ['.'] else wanted
  match process.files.find process.directory (Path.ofText wanted) with
  | .ok (place, .directory) =>
    let before := (shell.stored? "PWD".toList).getD process.workingPath.toText
    let process := { process with directory := place }
    let here := process.workingPath.toText
    let shell := ({ shell with process, status := 0 }.pass "OLDPWD".toList before).pass "PWD".toList
      here
    if goesBack then { shell with process := shell.process.writeLine here } else shell
  | _ => shell.complain ("cd: can't cd to ".toList ++ wanted) 2

/-- Writes the working directory. -/
def workingDirectory : Builtin := fun shell _ =>
  { shell with process := shell.process.writeLine shell.process.workingPath.toText, status := 0 }

/-- Drops parameters from the front. -/
def shift : Builtin := fun shell arguments =>
  let argument := arguments.headD ['1']
  match natural? argument with
  | none => shell.fail (illegalNumber "shift".toList argument)
  | some count =>
    if shell.parameters.length < count then shell.fail "shift: can't shift that many".toList
    else { shell with parameters := shell.parameters.drop count, status := 0 }

/-- The options with their letters. -/
def optionNames : List (Text × Char) := [
  ("errexit".toList, 'e'), ("noglob".toList, 'f'), ("ignoreeof".toList, 'I'),
  ("interactive".toList, 'i'), ("monitor".toList, 'm'), ("noexec".toList, 'n'),
  ("stdin".toList, 's'), ("xtrace".toList, 'x'), ("verbose".toList, 'v'), ("vi".toList, 'V'),
  ("emacs".toList, 'E'), ("noclobber".toList, 'C'), ("allexport".toList, 'a'),
  ("notify".toList, 'b'), ("nounset".toList, 'u'), ("privileged".toList, 'p')]

/-- The options that are left after one is set or taken back. -/
def withOption (options : List Char) (isSet : Bool) (letter : Char) : List Char :=
  let known := optionNames.map Prod.snd
  known.filter fun other => if other = letter then isSet else options.contains other

/-- Sets the options that a letter group names, or gives the letter that names none. -/
def withOptions (options : List Char) (isSet : Bool) : Text → Except Char (List Char)
  | [] => .ok options
  | letter :: rest =>
    if (optionNames.map Prod.snd).contains letter then
      withOptions (withOption options isSet letter) isSet rest
    else .error letter

/-- Sets options and parameters. What stands behind `--` becomes the parameters, and so does
everything from the first argument on that is no option. -/
def setFrom (shell : Shell) : List Text → Shell
  | [] => shell
  | ['-', '-'] :: parameters => { shell with parameters }
  | [sign, 'o'] :: name :: rest =>
    if sign = '-' || sign = '+' then
      match optionNames.lookup name with
      | some letter =>
        setFrom { shell with options := withOption shell.options (sign = '-') letter } rest
      | none => shell.fail ("set: Illegal option -o ".toList ++ name)
    else { shell with parameters := [sign, 'o'] :: name :: rest }
  | (sign :: letter :: letters) :: rest =>
    if sign = '-' || sign = '+' then
      let isCombined := (letter :: letters).getLast? = some 'o' && rest != []
      let group := if isCombined then (letter :: letters).dropLast else letter :: letters
      match withOptions shell.options (sign = '-') group with
      | .error wrong => shell.fail ("set: Illegal option -".toList ++ [wrong])
      | .ok options =>
        if !isCombined then setFrom { shell with options } rest
        else match optionNames.lookup (rest.headD []) with
          | some letter =>
            setFrom { shell with options := withOption options (sign = '-') letter } (rest.drop 1)
          | none => shell.fail ("set: Illegal option -o ".toList ++ rest.headD [])
    else { shell with parameters := (sign :: letter :: letters) :: rest }
  | parameters => { shell with parameters }
termination_by arguments => arguments.length
decreasing_by all_goals (simp; try omega)

/-- A value between single quotes, with apostrophes between double ones. -/
def inQuotes (text : Text) : Text :=
  match text.breakAt (· = '\'') with
  | (front, []) => '\'' :: front ++ ['\'']
  | _ => '\'' :: text.flatMap (fun c => if c = '\'' then "'\"'\"'".toList else [c]) ++ ['\'']

/-- Writes variables with their values, in the order of their names. -/
def writeVariables (shell : Shell) (before : String) (bindings : Environment) : Shell :=
  let sorted := bindings.mergeSort fun one other => one.1.atMost other.1
  let process := sorted.foldl (fun process (name, value) =>
    process.writeLine (before.toList ++ name ++ '=' :: inQuotes value)) shell.process
  { shell with process, status := 0 }

/-- Sets options and parameters, or writes the variables. -/
def set : Builtin := fun shell arguments =>
  if arguments = [] then
    shell.writeVariables "" (shell.bindings ++ shell.process.environment)
  else setFrom shell.succeed arguments

/-- The name and the value of an argument that gives a variable a value. -/
def nameAndValue (argument : Text) : Text × Option Text :=
  match Text.breakAt (· = '=') argument with
  | (name, _ :: value) => (name, some value)
  | (name, []) => (name, none)

/-- Does something for each variable that is named, with the value given for it. -/
def forNames (command : String) (act : Shell → Text → Option Text → Shell) : Builtin :=
  fun shell arguments =>
    arguments.foldl (fun shell argument =>
      let (name, value) := nameAndValue argument
      let complain (what : String) : Shell :=
        shell.fail (command.toList ++ ": ".toList ++ name ++ what.toList)
      if !shell.goesOn then shell
      else if !Script.isName name then complain ": bad variable name"
      else if value.isSome && shell.fixed.contains name then complain ": is read only"
      else act shell name value) shell.succeed

/-- Passes variables on to programs from now on. -/
def exportNames : Builtin := fun shell arguments =>
  if arguments = [] || arguments = [['-', 'p']] then
    shell.writeVariables "export " shell.process.environment
  else
    forNames "export" (fun shell name value =>
      match value.or (shell.stored? name) with
      | some value => shell.pass name value
      | none => shell) shell arguments

/-- Makes variables read-only. -/
def fixNames : Builtin := fun shell arguments =>
  if arguments = [] || arguments = [['-', 'p']] then
    shell.writeVariables "readonly " (shell.fixed.filterMap fun name =>
      (shell.stored? name).map fun value => (name, value))
  else
    forNames "readonly" (fun shell name value =>
      let shell := (value.map (shell.put name ·)).getD shell
      { shell with fixed := name :: shell.fixed }) shell arguments

/-- Takes variables away, or functions. -/
def unsetNames : Builtin := fun shell arguments =>
  match arguments with
  | ['-', 'f'] :: names =>
    { shell with functions := shell.functions.filter fun (name, _) => !names.contains name
                 status := 0 }
  | arguments =>
    let names := if arguments.head? = some ['-', 'v'] then arguments.drop 1 else arguments
    forNames "unset" (fun shell name _ =>
      if shell.fixed.contains name then
        shell.fail ("unset: ".toList ++ name ++ ": is read only".toList)
      else shell.unset name) shell names

/-- Makes variables belong to the function that is run: afterwards they are what they were. -/
def localNames : Builtin := fun shell arguments =>
  match shell.locals with
  | none => shell.fail "local: not in a function".toList
  | some _ =>
    forNames "local" (fun shell name value =>
      let hidden := (name, shell.bindings.get? name, shell.process.environment.get? name)
      let shell := { shell with locals := shell.locals.map (hidden :: ·) }
      (value.map (shell.put name ·)).getD shell) shell arguments

/-- A line at the front of a text, with whether each character is quoted, the number of line ends
that it takes, and whether it has one of its own. A backslash quotes the next character, and in
front of a line end it takes both away. -/
def takeLine (raw : Bool) : Text → Pattern × Nat × Bool
  | [] => ([], 0, false)
  | '\n' :: _ => ([], 1, true)
  | c :: rest =>
    match raw || c != '\\', rest with
    | false, '\n' :: rest =>
      let (line, taken, ended) := takeLine raw rest
      (line, taken + 1, ended)
    | false, d :: rest =>
      let (line, taken, ended) := takeLine raw rest
      ((d, true) :: line, taken, ended)
    | false, [] => ([], 0, false)
    | true, rest =>
      let (line, taken, ended) := takeLine raw rest
      ((c, false) :: line, taken, ended)

/-- What is behind a number of lines. -/
def behindLines : Nat → Bytes → Bytes
  | 0, input => input
  | count + 1, input => behindLines count ((input.dropWhile (· != 10)).drop 1)

/-- The values for a number of variables that a line is cut into; the last one takes the rest. -/
def cutLine (separators : Text) : Nat → Pattern → List Text
  | 0, _ => []
  | count + 1, line =>
    let isSeparator (character : Char × Bool) : Bool :=
      !character.2 && separators.contains character.1
    let isSpace (character : Char × Bool) : Bool :=
      isSeparator character && " \t\n".toList.contains character.1
    let line := line.dropWhile isSpace
    let field := line.takeWhile fun character => !isSeparator character
    let behind := (line.drop field.length).dropWhile isSpace
    let behind := match behind with
      | character :: rest => if isSeparator character then rest.dropWhile isSpace else behind
      | [] => []
    if count = 0 then
      if behind = [] then [Pattern.text field]
      else [Pattern.text (line.reverse.dropWhile isSpace).reverse]
    else Pattern.text field :: cutLine separators count behind

/-- Reads a line into variables. -/
def readLine : Builtin := fun shell arguments =>
  let raw := arguments.head? = some ['-', 'r']
  let names := if raw then arguments.drop 1 else arguments
  match names.find? fun name => !Script.isName name with
  | some wrong => shell.complain ("read: ".toList ++ wrong ++ ": bad variable name".toList) 2
  | none =>
    if names = [] then shell.complain "read: arg count".toList 2
    else
      let (line, taken, ended) := takeLine raw (Utf8.decodeLenient shell.process.input)
      let input := if ended then behindLines taken shell.process.input else []
      let separators := (shell.stored? "IFS".toList).getD " \t\n".toList
      let values := cutLine separators names.length line
      let shell := { shell with process := { shell.process with input } }
      let shell := (names.zip values).foldl (fun shell (name, value) =>
        if shell.goesOn then shell.assign name value else shell) shell
      if shell.goesOn then { shell with status := if ended then 0 else 1 } else shell

/-- The signals for which a trap can be set, by number or name. `EXIT` stands for the end of the
shell. -/
def trapSignal? (name : Text) : Option Signal :=
  if name.map Char.toUpper = "EXIT".toList then some 0 else Signal.ofName? name

/-- Sets what is done when a signal comes or the shell ends, or writes what is set. -/
def trap : Builtin := fun shell arguments =>
  let arguments := if arguments.head? = some ['-', '-'] then arguments.drop 1 else arguments
  let nameOf (signal : Signal) : Text := if signal = 0 then "EXIT".toList else Signal.name signal
  match arguments with
  | [] =>
    let sorted := shell.traps.mergeSort fun one other => one.1 ≤ other.1
    let line (signal : Signal) (action : Text) : Text :=
      "trap -- ".toList ++ inQuotes action ++ ' ' :: nameOf signal
    let process := sorted.foldl (fun process (signal, action) =>
      process.writeLine (line signal action)) shell.process
    { shell with process, status := 0 }
  | first :: rest =>
    let isReset := first = ['-'] || rest = [] || (natural? first).isSome
    let names := if first = ['-'] || !isReset then rest else arguments
    names.foldl (fun shell name =>
      match trapSignal? name with
      | none =>
        { shell with
          process := shell.process.complain ("trap: ".toList ++ name ++ ": bad trap".toList)
          status := 1 }
      | some signal =>
        let others := shell.traps.filter fun (other, _) => other != signal
        { shell with traps := if isReset then others else (signal, first) :: others })
      shell.succeed

/-- Waits for commands in the background: for all of them, or for those with the given numbers. -/
def wait : Builtin := fun shell arguments =>
  let awaited (shell : Shell) (job : Job) : Shell :=
    { shell with
      process := { shell.process with elapsed := max shell.process.elapsed job.ending } }
  if arguments = [] then (shell.jobs.foldl awaited shell).succeed
  else arguments.foldl (fun shell argument =>
    match shell.jobs.find? fun job => Text.ofNat job.number = argument with
    | some job => (awaited shell job).afterCode job.code
    | none => { shell with status := 127 }) shell

/-- The usage of the command that sends signals. -/
def killUsage : Text :=
  ("kill: Usage: kill [-s sigspec | -signum | -sigspec] [pid | job]... or\n" ++
    "kill -l [exitstatus]").toList

/-- The signal that the options in front of targets name, and the targets; or the shell with a
complaint. Without an option it is the one that asks a program to end. -/
def signalOf (shell : Shell) : List Text → Except Shell (Signal × List Text)
  | ['-', '-'] :: targets => .ok (Signal.terminate, targets)
  | ['-', 's'] :: name :: targets => named name targets
  | ('-' :: 's' :: name) :: targets => named name targets
  | ('-' :: name) :: targets =>
    match Signal.ofName? name with
    | some signal => .ok (signal, targets)
    | none => .error (shell.complain ("kill: Illegal option -".toList ++ name.take 1) 2)
  | targets => .ok (Signal.terminate, targets)
where
  /-- The signal with a name, in front of targets. -/
  named (name : Text) (targets : List Text) : Except Shell (Signal × List Text) :=
    match Signal.ofName? name with
    | some signal => .ok (signal, targets)
    | none => .error (shell.complain
        ("kill: invalid signal number or name: ".toList ++ name) 2)

/-- Sends a signal to a command in the background, which ends it if it has not ended before. -/
def signalJob (shell : Shell) (signal : Signal) (number : Nat) : Shell :=
  let now := shell.process.elapsed
  let after (job : Job) : Job :=
    if job.number = number && now < job.ending && !Signal.isHarmless signal then
      { job with ending := now, code := -(signal : Int) }
    else job
  { shell with jobs := shell.jobs.map after }

/-- Sends a signal to each of several targets, up to one that is none. -/
def send (signal : Signal) (shell : Shell) : List Text → Shell
  | [] => shell
  | target :: rest =>
    let digits := if target.head? = some '-' then target.drop 1 else target
    if target.head? = some '%' then shell.complain ("kill: No such job: ".toList ++ target) 2
    else match natural? digits with
      | none =>
        shell.complain (illegalNumber "kill".toList (if digits = [] then target else digits)) 2
      | some number =>
        let after :=
          if digits = target && number = ownNumber then
            { shell with pending := shell.pending ++ [signal] }
          else if digits = target && shell.jobs.any (·.number = number) then
            shell.signalJob signal number
          else shell.complain "kill: No such process\n".toList 1
        send signal after rest

/-- Sends signals. -/
def kill : Builtin := fun shell arguments =>
  match arguments with
  | [['-', 'l']] =>
    let names := (List.range (Signal.highest + 1)).map fun signal =>
      if signal = 0 then ['0'] else Signal.name signal
    { shell with process := names.foldl Process.writeLine shell.process, status := 0 }
  | ['-', 'l'] :: code :: _ =>
    let number := (natural? code).map fun n => if 128 < n then n - 128 else n
    match number with
    | none => shell.complain (illegalNumber "kill".toList code) 2
    | some number =>
      if 0 < number && number ≤ Signal.highest then
        { shell with process := shell.process.writeLine (Signal.name number), status := 0 }
      else
        shell.complain ("kill: invalid signal number or exit status: ".toList ++ code) 2
  | arguments =>
    match signalOf shell arguments with
    | .error shell => shell
    | .ok (_, []) => shell.complain killUsage 2
    | .ok (signal, targets) =>
      send signal shell.succeed targets

/-- Writes the mask for new files. -/
def mask : Builtin := fun shell arguments =>
  if arguments = [] then
    { shell with process := shell.process.writeLine "0022".toList, status := 0 }
  else shell.succeed

/-- The commands whose faults end the shell, and that keep the variables given in front of them. -/
def specialNames : List Text := [":", ".", "break", "continue", "eval", "exec", "exit", "export",
  "readonly", "return", "set", "shift", "times", "trap", "unset"].map String.toList

/-- The commands that the shell does itself and that run nothing else, by their names. -/
def builtins : List (Text × Builtin) := [
  ([':'], fun shell _ => shell.succeed), ("true".toList, fun shell _ => shell.succeed),
  ("false".toList, fun shell _ => { shell with status := 1 }),
  ("exit".toList, ending "exit" fun code => .finish code),
  ("return".toList, ending "return" fun _ => .back), ("break".toList, looping "break" .leave),
  ("continue".toList, looping "continue" .again), ("echo".toList, echo),
  ("printf".toList, fun shell arguments =>
    let (process, status) := printf (.shell shell.heading) shell.process arguments
    { shell with process, status }),
  ("test".toList, judge "test"), (['['], bracket), ("cd".toList, changeDirectory),
  ("chdir".toList, changeDirectory), ("pwd".toList, workingDirectory), ("shift".toList, shift),
  ("set".toList, set), ("export".toList, exportNames), ("readonly".toList, fixNames),
  ("unset".toList, unsetNames), ("local".toList, localNames), ("read".toList, readLine),
  ("trap".toList, trap), ("wait".toList, wait), ("kill".toList, kill), ("umask".toList, mask),
  ("times".toList, fun shell _ => { shell with
    process := (List.replicate 2 "0m0.000000s 0m0.000000s".toList).foldl Process.writeLine
      shell.process
    status := 0 }),
  ("hash".toList, fun shell _ => shell.succeed), ("jobs".toList, fun shell _ => shell.succeed),
  ("alias".toList, fun shell _ => shell.succeed), ("unalias".toList, fun shell _ => shell.succeed)]

/-- The process with the search path of a shell, which need not be passed on. -/
def forSearch (shell : Shell) : Process :=
  let path := (shell.stored? "PATH".toList).getD []
  { shell.process with environment := shell.process.environment.set "PATH".toList path }

/-- The commands that the shell does itself and that run other things. -/
def runningNames : List Text := ["eval", ".", "exec", "command", "type"].map String.toList

/-- Whether the shell does a command itself. -/
def isBuiltin (name : Text) : Bool :=
  (builtins.lookup name).isSome || runningNames.contains name

/-- What a name stands for, in a word or, for whoever asks, in a sentence; nothing if it is not
known. -/
def meaning? (shell : Shell) (long : Bool) (name : Text) : Option Text :=
  let told (short : Text) (kind : String) : Option Text :=
    some (if long then name ++ " is ".toList ++ kind.toList else short)
  if Script.keywords.contains name then told name "a shell keyword"
  else if specialNames.contains name then told name "a special shell builtin"
  else if (shell.functions.lookup name).isSome then told name "a shell function"
  else if isBuiltin name then told name "a shell builtin"
  else match locate shell.forSearch [name] with
    | .ok (path, _) => some (if long then name ++ " is ".toList ++ path else path)
    | .error _ => none

/-- Writes what names stand for. -/
def describe (long : Bool) : Builtin := fun shell names =>
  names.foldl (fun shell name =>
    match shell.meaning? long name with
    | some text => { shell with process := shell.process.writeLine text }
    | none =>
      let process := if long then shell.process.writeLine (name ++ ": not found".toList)
        else shell.process
      { shell with process, status := 127 }) shell.succeed

end DebugLaunch.Program.Shell
