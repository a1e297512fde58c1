import DebugLaunch.Environment

/-! The command line: a command and its options. An option is written in full, with its value
behind an equals sign or as the next argument, or as one letter, where several letters may share
a dash and the value may follow at once. The last use of an option counts. -/
namespace DebugLaunch.Cli

/-- The commands. -/
inductive Command where
  | launch
  | locate
  | resolve
  | tokens
  | candidates
  | version
  | info
  deriving DecidableEq, Repr, Inhabited

/-- The options. -/
inductive Key where
  | project
  | workspace
  | name
  | template
  | aliasName
  | noRun
  | quiet
  | help
  deriving DecidableEq, Repr, Inhabited

namespace Key

/-- The full name of an option. -/
def long : Key → Text
  | project => "--project".toList
  | workspace => "--workspace".toList
  | name => "--name".toList
  | template => "--template".toList
  | aliasName => "--alias".toList
  | noRun => "--no-run".toList
  | quiet => "--quiet".toList
  | help => "--help".toList

/-- The letter of an option, if it has one. -/
def short? : Key → Option Char
  | project => some 'p'
  | workspace => some 'w'
  | name => some 'n'
  | template => some 't'
  | aliasName => some 'a'
  | noRun | help => none
  | quiet => some 'q'

/-- Whether an option has a value. -/
def takesValue : Key → Bool
  | noRun | quiet | help => false
  | _ => true

/-- Whether the value of an option is a path. -/
def isPath : Key → Bool
  | project | workspace | template => true
  | _ => false

/-- The environment variable that stands in for an option, if there is one. -/
def environmentName? : Key → Option Text
  | project => some "RDL_PROJECT_ROOT".toList
  | workspace => some "RDL_WORKSPACE_ROOT".toList
  | _ => none

end Key

namespace Command

/-- All commands. -/
def all : List Command := [launch, locate, resolve, tokens, candidates, version, info]

/-- The name of a command. -/
def name : Command → Text
  | launch => "launch".toList
  | locate => "locate".toList
  | resolve => "resolve".toList
  | tokens => "tokens".toList
  | candidates => "candidates".toList
  | version => "version".toList
  | info => "info".toList

/-- The options of a command, but for the one that asks for help, which every command has. -/
def keys : Command → List Key
  | launch => [.project, .workspace, .name, .noRun, .quiet]
  | locate => [.project, .workspace, .quiet]
  | resolve => [.project, .workspace, .name, .template]
  | tokens => [.project, .workspace, .name, .aliasName]
  | candidates => [.project, .workspace]
  | version | info => []

/-- The command with a name. -/
def ofName? (text : Text) : Option Command := all.find? fun command => command.name = text

end Command

/-- The uses of options, the last one first; an option without a value has the empty one. -/
abbrev Options := List (Key × Text)

/-- Why a command line ends before a command does its work: help is asked for, or the arguments make
no command line. -/
inductive UsageEnd where
  | help
  | missingCommand
  | unknownCommand
  | unknownOption
  | missingValue
  | unwantedValue
  | nullPath
  | unexpectedArgument
  deriving DecidableEq, Repr, Inhabited

/-- What the arguments of a command say: the options, and whether anything else is among them. -/
structure Arguments where
  options : Options := []
  extra : Bool := false
  deriving DecidableEq, Repr, Inhabited

/-- Reads letters behind a dash: the options, and the one whose value is the next argument. -/
def readLetters (keys : List Key) (options : Options) :
    Text → Except UsageEnd (Options × Option Key)
  | [] => .ok (options, none)
  | c :: rest =>
    match keys.find? fun key => key.short? = some c with
    | none => .error .unknownOption
    | some key =>
      if !key.takesValue then readLetters keys ((key, []) :: options) rest
      else if rest = [] then .ok (options, some key)
      else .ok ((key, rest) :: options, none)

/-- Reads one argument that begins with a dash: the options, and the one whose value is the next
argument. -/
def readOption (keys : List Key) (options : Options) (argument : Text) :
    Except UsageEnd (Options × Option Key) :=
  let (long, attached) := match Text.breakAt (· = '=') argument with
    | (long, _ :: value) => (long, some value)
    | (long, []) => (long, none)
  match keys.find? fun key => key.long = long with
  | some key =>
    match key.takesValue, attached with
    | true, some value => .ok ((key, value) :: options, none)
    | true, none => .ok (options, some key)
    | false, some _ => .error .unwantedValue
    | false, none => .ok ((key, []) :: options, none)
  | none =>
    match argument with
    | '-' :: '-' :: _ => .error .unknownOption
    | _ => readLetters keys options argument.tail

/-- Whether an argument is an option: a dash and something behind it. -/
def isOption : Text → Bool
  | '-' :: _ :: _ => true
  | _ => false

/-- Reads arguments; those behind two dashes are no options. -/
def readFrom (keys : List Key) (read : Arguments) : List Text → Except UsageEnd Arguments
  | [] => .ok read
  | argument :: rest =>
    if argument = ['-', '-'] then .ok { read with extra := read.extra || rest != [] }
    else if isOption argument then
      match readOption keys read.options argument with
      | .error cause => .error cause
      | .ok (options, none) => readFrom keys { read with options } rest
      | .ok (options, some key) =>
        match rest with
        | [] => .error .missingValue
        | value :: rest => readFrom keys { read with options := (key, value) :: options } rest
    else readFrom keys { read with extra := true } rest

/-- Whether an option without a value is given. -/
def has (options : Options) (key : Key) : Bool := (options.lookup key).isSome

/-- The arguments of a command. Help that is asked for among arguments that can be read comes before
all else that may be wrong with them. -/
def read (command : Command) (arguments : List Text) : Except UsageEnd Arguments :=
  match readFrom (.help :: command.keys) {} arguments with
  | .error cause => .error cause
  | .ok given => if has given.options .help then .error .help else .ok given

/-- How a command line ends that asks for help in front of its command, if there is one. -/
def askHelp : List Text → UsageEnd
  | [] => .help
  | first :: rest =>
    if first = ['-', '-'] || !isOption first then .help
    else match readOption [.help] [] first with
      | .ok _ => askHelp rest
      | .error cause => cause

/-- The command of a command line, and its arguments. -/
def split (arguments : List Text) : Except UsageEnd (Command × List Text) :=
  match arguments with
  | [] => .error .missingCommand
  | first :: rest =>
    if first = ['-', '-'] then
      match rest with
      | [] => .error .missingCommand
      | name :: rest => named name rest
    else if isOption first then .error (askHelp arguments)
    else named first rest
where
  /-- The command with a name, and its arguments. -/
  named (name : Text) (rest : List Text) : Except UsageEnd (Command × List Text) :=
    match Command.ofName? name with
    | some command => .ok (command, rest)
    | none => .error .unknownCommand

/-- The value of an option: the last one given, or else that of its environment variable, if it is
not empty. -/
def value? (environment : Environment) (options : Options) (key : Key) : Option Text :=
  match options.lookup key with
  | some value => some value
  | none =>
    match key.environmentName?.bind environment.get? with
    | some (c :: value) => some (c :: value)
    | _ => none

end DebugLaunch.Cli
