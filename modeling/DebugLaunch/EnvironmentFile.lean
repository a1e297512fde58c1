import DebugLaunch.Environment
import DebugLaunch.Machine

/-! Environment files: lines `NAME=value`, with quotes, comments and references to other variables.
A line that cannot be read is passed over. Loading such a file sets those of its variables that
the environment does not have; nothing that is set changes. -/
namespace DebugLaunch.EnvironmentFile

/-- A name with the value that is written for it, if there is one. -/
structure Binding where
  name : Text
  value : Option Text
  deriving DecidableEq, Repr, Inhabited

/-- White space within a line. -/
def isInlineBlank (c : Char) : Bool := Text.isBlank c && c != '\n' && c != '\r'

/-- The text behind the end of its first line. -/
def nextLine (text : Text) : Text := (text.dropWhile (· != '\n')).drop 1

/-- The text behind the word `export`, if that is what it begins with. -/
def skipExport (text : Text) : Text :=
  let word := "export".toList
  let behind := text.drop word.length
  if word.isPrefixOf text && (behind.head?.map isInlineBlank).getD false then
    behind.dropWhile isInlineBlank
  else text

/-- Reads a name, which may stand in single quotes. A comment stands for no name. -/
def takeName? : Text → Option (Option Text × Text)
  | '#' :: rest => some (none, '#' :: rest)
  | '\'' :: rest =>
    match Text.breakAt (· = '\'') rest with
    | (c :: name, _ :: behind) => some (some (c :: name), behind)
    | _ => none
  | text =>
    match Text.breakAt (fun c => c = '=' || c = '#' || Text.isBlank c) text with
    | ([], _) => none
    | (name, behind) => some (some name, behind)

/-- Reads up to a closing quote. A backslash takes the character behind it along, whatever it is. -/
def takeQuoted? (quote : Char) : Text → Option (Text × Text)
  | [] => none
  | '\\' :: c :: rest =>
    (takeQuoted? quote rest).map fun (text, behind) => ('\\' :: c :: text, behind)
  | c :: rest =>
    if c = quote then some ([], rest)
    else (takeQuoted? quote rest).map fun (text, behind) => (c :: text, behind)

/-- What a character behind a backslash stands for between the given quotes. -/
def escape? (quote : Char) : Char → Option Char
  | '\\' => some '\\'
  | '\'' => some '\''
  | c =>
    if quote = '\'' then none
    else match c with
      | '"' => some '"'
      | 'a' => some '\x07'
      | 'b' => some '\x08'
      | 'f' => some '\x0c'
      | 'n' => some '\n'
      | 'r' => some '\r'
      | 't' => some '\t'
      | 'v' => some '\x0b'
      | _ => none

/-- A quoted text with its escapes replaced. -/
def unescape (quote : Char) : Text → Text
  | '\\' :: c :: rest =>
    match escape? quote c with
    | some replacement => replacement :: unescape quote rest
    | none => '\\' :: unescape quote (c :: rest)
  | c :: rest => c :: unescape quote rest
  | [] => []

/-- A line without the comment that begins with a number sign behind a blank; `blank` tells
whether one stands in front. -/
def dropComment (blank : Bool) : Text → Text
  | [] => []
  | c :: rest => if blank && c = '#' then [] else c :: dropComment (Text.isBlank c) rest

/-- Reads a value; `blank` tells whether there are blanks in front of it, behind which a number sign
begins a comment at once. -/
def takeValue? (blank : Bool) (text : Text) : Option (Text × Text) :=
  match text with
  | '\'' :: rest => (takeQuoted? '\'' rest).map fun (raw, behind) => (unescape '\'' raw, behind)
  | '"' :: rest => (takeQuoted? '"' rest).map fun (raw, behind) => (unescape '"' raw, behind)
  | text =>
    let (line, behind) := Text.breakAt (fun c => c = '\n' || c = '\r') text
    some (Text.trimRight Text.isBlank (dropComment blank line), behind)

/-- The text behind the end of a line on which only a comment may still stand. -/
def takeLineEnd? (text : Text) : Option Text :=
  let text := text.dropWhile isInlineBlank
  let text := if text.head? = some '#' then text.dropWhile (· != '\n') else text
  match text with
  | [] => some []
  | '\n' :: rest => some rest
  | _ => none

/-- Reads a line with its name, and gives the text behind it; or the place where reading stops. -/
def takeBinding (text : Text) : Except Text (Option Binding × Text) :=
  let text := skipExport text
  match takeName? text with
  | none => .error text
  | some (name, behind) =>
    let behind := behind.dropWhile isInlineBlank
    let value? : Option (Option Text × Text) := match behind with
      | '=' :: rest =>
        let value := rest.dropWhile isInlineBlank
        (takeValue? (value != rest) value).map fun (value, rest) => (some value, rest)
      | rest => some (none, rest)
    match value? with
    | none => .error behind
    | some (value, rest) =>
      match takeLineEnd? rest with
      | some next => .ok (name.map fun name => ⟨name, value⟩, next)
      | none => .error rest

/-- The bindings of a text. Each step reads at least one line. -/
def bindingsFrom : Nat → Text → List Binding
  | 0, _ => []
  | fuel + 1, text =>
    match text.dropWhile Text.isBlank with
    | [] => []
    | text =>
      match takeBinding text with
      | .ok (binding, next) => binding.toList ++ bindingsFrom fuel next
      | .error stop => bindingsFrom fuel (nextLine stop)

/-- The bindings of a text. -/
def bindings (text : Text) : List Binding := bindingsFrom (text.length + 1) text

/-- Variables with their values, where a name may stand without one. -/
abbrev Values := List (Text × Option Text)

namespace Values

/-- Sets a name: in its place if it is there already, at the end if not. -/
def set (name : Text) (value : Option Text) : Values → Values
  | [] => [(name, value)]
  | entry :: rest => if entry.1 = name then (name, value) :: rest else entry :: set name value rest

end Values

/-- The value of a reference: that of the environment, or else that of the names before, or else
the default. A name without a value counts as empty. -/
def referenced (environment : Environment) (values : Values) (name : Text) (default : Option Text) :
    Text :=
  match environment.get? name with
  | some value => value
  | none =>
    match List.lookup name values with
    | some value => value.getD []
    | none => default.getD []

/-- A reference behind a dollar sign, in braces and perhaps with a default: its name, the default,
and the text behind it. -/
def takeReference? : Text → Option (Text × Option Text × Text)
  | '\x7b' :: rest =>
    match Text.breakAt (fun c => c = '\x7d' || c = ':') rest with
    | (name, '\x7d' :: behind) => some (name, none, behind)
    | (name, ':' :: '-' :: behind) =>
      match Text.breakAt (· = '\x7d') behind with
      | (default, _ :: behind) => some (name, some default, behind)
      | (_, []) => none
    | _ => none
  | _ => none

/-- A value with its references replaced. Each step reads at least one character. -/
def interpolateFrom (environment : Environment) (values : Values) : Nat → Text → Text
  | 0, _ => []
  | _ + 1, [] => []
  | fuel + 1, c :: rest =>
    if c = '$' then
      match takeReference? rest with
      | some (name, default, behind) =>
        referenced environment values name default ++
          interpolateFrom environment values fuel behind
      | none => c :: interpolateFrom environment values fuel rest
    else c :: interpolateFrom environment values fuel rest

/-- A value with its references replaced. -/
def interpolate (environment : Environment) (values : Values) (text : Text) : Text :=
  interpolateFrom environment values (text.length + 1) text

/-- The values of bindings, each of which may refer to those before it. -/
def resolve (environment : Environment) (bindings : List Binding) : Values :=
  bindings.foldl
    (fun values binding =>
      values.set binding.name (binding.value.map (interpolate environment values)))
    []

/-- The environment with a variable more, unless it has it already or there is no value. -/
def assign (environment : Environment) (name : Text) : Option Text → Except Fault Environment
  | none => .ok environment
  | some value =>
    if (environment.get? name).isSome then .ok environment
    else if name.contains '\x00' || value.contains '\x00' then .error (.file .nullCharacter)
    else if name.contains '=' then .error .variableName
    else .ok (environment.set name value)

/-- The environment with the variables of a list that it does not have, as far as they can be set,
and what stopped that. -/
def assignAll (environment : Environment) : Values → Environment × Except Fault Unit
  | [] => (environment, .ok ())
  | (name, value) :: rest =>
    match assign environment name value with
    | .ok environment => assignAll environment rest
    | .error fault => (environment, .error fault)

/-- The environment after loading a text, and what stopped the loading. -/
def apply (environment : Environment) (text : Text) : Environment × Except Fault Unit :=
  assignAll environment (resolve environment (bindings text))

/-- The environment file of a directory. -/
def fileName : Text := ".env".toList

/-- The variable that keeps environment files from being loaded. -/
def disablingVariable : Text := "PYTHON_DOTENV_DISABLED".toList

/-- Whether an environment says that no environment file is to be loaded. -/
def isDisabled (environment : Environment) : Bool :=
  let yes := [['1'], "TRUE".toList, ['T'], "YES".toList, ['Y']]
  (environment.get? disablingVariable).any fun value => yes.contains (Text.upper value)

open DebugLaunch.Action

/-- Loads the environment file of the working directory, if there is one. A byte order mark in
front of it is no part of it. -/
def load : Action Unit := do
  let path := Path.ofText fileName
  if (← isFile path) && !isDisabled (← ask Machine.environment) then
    match Utf8.readStrict? (Utf8.afterMark (← readBytes path)) with
    | none => throw .notUtf8
    | some text => do
      let (environment, result) := apply (← ask Machine.environment) text
      modify fun machine => { machine with environment }
      match result with
      | .ok () => return ()
      | .error fault => throw fault

end DebugLaunch.EnvironmentFile
