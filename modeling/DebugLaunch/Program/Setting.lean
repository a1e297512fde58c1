import DebugLaunch.Program.FileTool
import DebugLaunch.Program.Signal

/-! Programs that start another program in a setting of its own: with another environment or
directory, or for a limited time. Here is what their arguments ask for. -/
namespace DebugLaunch.Program

/-- What `env` is asked for: an environment that starts empty, names to be taken away, a directory,
and null characters instead of line ends. -/
structure Setting where
  startsEmpty : Bool := false
  removed : List Text := []
  directory : Option Text := none
  endsWithNull : Bool := false
  deriving DecidableEq, Repr

/-- What `timeout` is asked for: the signal at the end of the time, and whether the code of the
program is kept then. -/
structure Timing where
  signal : Signal := Signal.terminate
  keepsCode : Bool := false
  deriving DecidableEq, Repr

namespace Setting

/-- The complaint about a letter that is no option. -/
def invalidLetter (letter : Char) : Text := "invalid option -- '".toList ++ [letter, '\'']

/-- The complaint about an option without its argument. -/
def withoutArgument (letter : Char) : Text :=
  "option requires an argument -- '".toList ++ [letter, '\'']

/-- The complaint about a long option that is not known. -/
def unknownOption (option : Text) : Text := "unrecognized option '".toList ++ option ++ ['\'']

/-- The argument of a long option. -/
def argumentOf? (option : String) (argument : Text) : Option Text :=
  let front := "--".toList ++ option.toList ++ ['=']
  if front.isPrefixOf argument then some (argument.drop front.length) else none

/-- Takes one letter out of a group of options that the letters behind it complete, where the next
argument can be the value of the last one. Tells whether that was used. -/
def withLetters (next : Option Text) (setting : Setting) : Text → Except Text (Setting × Bool)
  | [] => .ok (setting, false)
  | letter :: rest =>
    let withValue (use : Text → Setting) : Except Text (Setting × Bool) :=
      if rest != [] then .ok (use rest, false)
      else match next with
        | some value => .ok (use value, true)
        | none => .error (withoutArgument letter)
    match letter with
    | 'i' => withLetters next { setting with startsEmpty := true } rest
    | '0' => withLetters next { setting with endsWithNull := true } rest
    | 'u' => withValue fun name => { setting with removed := setting.removed ++ [name] }
    | 'C' => withValue fun directory => { setting with directory := some directory }
    | letter => .error (invalidLetter letter)

/-- Reads options, and gives the arguments behind them. -/
def read : Nat → Setting → List Text → Except Text (Setting × List Text)
  | 0, setting, arguments => .ok (setting, arguments)
  | _, setting, [] => .ok (setting, [])
  | fuel + 1, setting, argument :: rest =>
    if argument = ['-'] then .ok ({ setting with startsEmpty := true }, rest)
    else if argument = "--".toList then .ok (setting, rest)
    else if argument = "--ignore-environment".toList then
      read fuel { setting with startsEmpty := true } rest
    else if argument = "--null".toList then read fuel { setting with endsWithNull := true } rest
    else match argument, argumentOf? "unset" argument, argumentOf? "chdir" argument with
      | _, some name, _ => read fuel { setting with removed := setting.removed ++ [name] } rest
      | _, none, some directory => read fuel { setting with directory := some directory } rest
      | '-' :: '-' :: _, none, none => .error (unknownOption argument)
      | '-' :: letters, none, none =>
        match withLetters rest.head? setting letters with
        | .ok (setting, usedNext) => read fuel setting (if usedNext then rest.drop 1 else rest)
        | .error complaint => .error complaint
      | _, none, none => .ok (setting, argument :: rest)

/-- The process in a setting with the variables that arguments give, and the command behind them; or
the process after a complaint, with a code. -/
def apply (process : Process) (arguments : List Text) :
    Except (Process × Nat) (Process × Setting × List Text) :=
  let refuse (complaint : Text) : Except (Process × Nat) (Process × Setting × List Text) :=
    .error (process.report complaint, 125)
  let refuseUse (complaint : Text) : Except (Process × Nat) (Process × Setting × List Text) :=
    .error (process.complainOfUse complaint, 125)
  match read arguments.length {} arguments with
  | .error complaint => refuseUse complaint
  | .ok (setting, arguments) =>
    let given := arguments.takeWhile fun argument => argument.contains '='
    let command := arguments.drop given.length
    let environment : Environment := if setting.startsEmpty then [] else process.environment
    let environment := setting.removed.foldl Environment.unset environment
    let environment := given.foldl (fun (environment : Environment) argument =>
      let (name, value) := Text.breakAt (· = '=') argument
      environment.set name (value.drop 1)) environment
    match setting.removed.find? fun name => name = [] || name.contains '=' with
    | some name =>
      refuse ("cannot unset ".toList ++ process.quotedName name ++ ": Invalid argument".toList)
    | none =>
      if setting.endsWithNull && command != [] then
        refuseUse "cannot specify --null (-0) with command".toList
      else match setting.directory with
        | none => .ok ({ process with environment }, setting, command)
        | some name =>
          if command = [] then refuseUse "must specify command with --chdir (-C)".toList
          else
            let cannot (fault : FileFault) :
                Except (Process × Nat) (Process × Setting × List Text) :=
              refuse (FileTool.about process "cannot change directory to" name fault)
            match FileTool.entry process name with
            | .ok (directory, .directory) =>
              .ok ({ process with environment, directory }, setting, command)
            | .ok (_, .file _) => cannot .notADirectory
            | .error fault => cannot fault

end Setting

namespace Timing

/-- Reads options, and gives the arguments behind them. -/
def read (process : Process) : Nat → Timing → List Text → Except Text (Timing × List Text)
  | 0, timing, arguments => .ok (timing, arguments)
  | _, timing, [] => .ok (timing, [])
  | fuel + 1, timing, argument :: rest =>
    let withSignal (name : Text) (rest : List Text) : Except Text (Timing × List Text) :=
      let bare := if "SIG".toList.isPrefixOf (name.map Char.toUpper) then name.drop 3 else name
      match Signal.ofName? bare with
      | some signal => read process fuel { timing with signal } rest
      | none => .error (process.quotedName name ++ ": invalid signal".toList)
    let withDuration (text : Text) (rest : List Text) : Except Text (Timing × List Text) :=
      if (Utility.milliseconds? text).isSome then read process fuel timing rest
      else .error ("invalid time interval ".toList ++ process.quotedName text)
    if argument = "--".toList then .ok (timing, rest)
    else if argument = "--preserve-status".toList then
      read process fuel { timing with keepsCode := true } rest
    else if argument = "--foreground".toList then read process fuel timing rest
    else match argument, Setting.argumentOf? "signal" argument,
        Setting.argumentOf? "kill-after" argument, rest with
      | _, some name, _, _ => withSignal name rest
      | _, none, some text, _ => withDuration text rest
      | ['-', 's'], none, none, name :: rest => withSignal name rest
      | ['-', 'k'], none, none, text :: rest => withDuration text rest
      | ['-', letter], none, none, [] =>
        .error (if letter = 's' || letter = 'k' then Setting.withoutArgument letter
          else Setting.invalidLetter letter)
      | '-' :: '-' :: _, none, none, _ => .error (Setting.unknownOption argument)
      | '-' :: 's' :: name, none, none, _ => withSignal name rest
      | '-' :: 'k' :: text, none, none, _ => withDuration text rest
      | '-' :: letter :: _, none, none, _ => .error (Setting.invalidLetter letter)
      | _, none, none, _ => .ok (timing, argument :: rest)

/-- The time in milliseconds that a command has, and the command; or a complaint. No time at all
stands for no limit. -/
def limit (process : Process) (arguments : List Text) :
    Except (Option Text) (Timing × Nat × List Text) :=
  match read process arguments.length {} arguments with
  | .error complaint => .error (some complaint)
  | .ok (timing, duration :: name :: rest) =>
    match Utility.milliseconds? duration with
    | some time => .ok (timing, time, name :: rest)
    | none => .error (some ("invalid time interval ".toList ++ process.quotedName duration))
  | .ok _ => .error none

/-- The code of a command that has run out of time. -/
def lateCode (timing : Timing) : Int :=
  if timing.signal.name = "KILL".toList then -(timing.signal : Int)
  else if timing.keepsCode then 128 + timing.signal else 124

end Timing
end DebugLaunch.Program
