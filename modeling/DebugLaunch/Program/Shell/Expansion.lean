import DebugLaunch.Program.Arithmetic
import DebugLaunch.Program.Pattern
import DebugLaunch.Program.Script.Lexeme
import DebugLaunch.Program.Shell.Basic

/-! What words stand for. References are replaced first; then what was replaced outside of quotes is
cut into fields, and fields that are patterns stand for the names of the files that fit. Characters
keep whether they are quoted until the end. -/
namespace DebugLaunch.Program.Shell

/-- Runs a script for its output: the output, and the shell afterwards. -/
abbrev Output := Shell → Text → Text × Shell

/-- What is cut into fields: nothing, the values that references stand for, or literal text too, as
in the text that stands for a value. -/
inductive Cut where
  | nothing
  | values
  | all
  deriving DecidableEq, Repr

/-- Fields that are being made: the finished ones, and the current one if there is one. A blank may
have ended the last field. -/
structure Fields where
  shell : Shell
  done : List Pattern := []
  current : Option Pattern := none
  afterBlank : Bool := false

namespace Fields

/-- Adds text to the current field. -/
def add (fields : Fields) (text : Text) (quoted : Bool) : Fields :=
  { fields with
    current := some (fields.current.getD [] ++ text.map fun c => (c, quoted)), afterBlank := false }

/-- Ends the current field. -/
def close (fields : Fields) (afterBlank : Bool) : Fields :=
  { fields with done := fields.done ++ fields.current.toList, current := none, afterBlank }

/-- Adds a character of a value. Blanks among the separators end a field, and any number of them
count as one; every other separator ends a field of its own, perhaps an empty one. -/
def addSplit (separators : Text) (fields : Fields) (c : Char) : Fields :=
  if !separators.contains c then fields.add [c] false
  else if " \t\n".toList.contains c then
    if fields.current.isSome then fields.close true else fields
  else if fields.current.isNone && fields.afterBlank then { fields with afterBlank := false }
  else { fields with current := some (fields.current.getD []) }.close false

/-- Adds a value: whole if it is quoted or nothing is cut, and else cut at the separators. -/
def addValue (cut : Cut) (quoted : Bool) (fields : Fields) (text : Text) : Fields :=
  if quoted then fields.add text true
  else if cut != .nothing then
    let separators := (fields.shell.stored? "IFS".toList).getD " \t\n".toList
    text.foldl (addSplit separators) fields
  else if text = [] then fields
  else fields.add text false

/-- Adds several values, each as a field of its own. -/
def addAll (cut : Cut) (quoted : Bool) (fields : Fields) : List Text → Fields
  | [] => fields
  | [text] => fields.addValue cut quoted text
  | text :: rest => addAll cut quoted ((fields.addValue cut quoted text).close false) rest

/-- The finished fields. -/
def all (fields : Fields) : List Pattern := fields.done ++ fields.current.toList

end Fields

/-- The number of characters of a word, with two for each part. -/
def wordSize (word : Word) : Nat :=
  let sizes := word.map fun
    | .literal text _ | .output text _ | .arithmetic text _ => text.length + 2
    | .parameter parameter _ => parameter.name.length + parameter.operand.length + 2
  sizes.foldl (· + ·) 0

/-- The text between parameters that are put together to one. -/
def glue (shell : Shell) : Text :=
  match shell.stored? "IFS".toList with
  | some separators => separators.take 1
  | none => [' ']

/-- The value of a word that begins with a tilde, with the home directory in its place. -/
def withHome (shell : Shell) (word : Word) : Word :=
  match word with
  | .literal ('~' :: text) false :: rest =>
    match shell.stored? "HOME".toList, text, rest with
    | some home, [], [] => [.literal home true]
    | some home, '/' :: _, _ => .literal home true :: .literal text false :: rest
    | _, _, _ => word
  | _ => word

/-- The value of an expression, and the shell with the variables that it changes. -/
def arithmetic (shell : Shell) (expression : Text) : Text × Shell :=
  match Arithmetic.evaluate (shell.bindings ++ shell.process.environment) expression with
  | .error complaint => ([], shell.fail complaint)
  | .ok (value, bindings, changed) =>
    (Text.ofInt value, changed.eraseDups.foldl (fun shell name =>
      if shell.goesOn then shell.assign name ((bindings.get? name).getD []) else shell) shell)

/-- A value without the shortest or the longest part at its front or back that a pattern fits. -/
def without (value : Text) (pattern : Pattern) (atFront longest : Bool) : Text :=
  if atFront then
    let fronts := Pattern.frontsOf pattern value
    value.drop (((if longest then fronts.getLast? else fronts.head?)).getD 0)
  else
    let starts := (List.range (value.length + 1)).filter fun n =>
      Pattern.fits pattern (value.drop n)
    value.take ((if longest then starts.head? else starts.getLast?).getD value.length)

/-- Adds the segments of a word to fields. -/
def expand (output : Output) : Nat → Cut → Fields → Word → Fields
  | 0, _, fields, _ | _, _, fields, [] => fields
  | fuel + 1, cut, fields, segment :: rest =>
    let shell := fields.shell
    if !shell.goesOn then fields
    else
      let fields := match segment with
        | .literal text quoted =>
          if text = [] && !quoted then fields
          else if cut = .all && !quoted then fields.addValue cut false text
          else fields.add text quoted
        | .output script quoted =>
          let (text, shell) := output shell script
          Fields.addValue cut quoted { fields with shell } text
        | .arithmetic expression quoted =>
          let written := expand output fuel .nothing { shell } (Script.wordOf .inner expression)
          if !written.shell.goesOn then { fields with shell := written.shell }
          else
            let (text, shell) := written.shell.arithmetic (written.all.flatMap Pattern.text)
            Fields.addValue cut quoted { fields with shell } text
        | .parameter parameter quoted => reference fuel cut quoted fields parameter
      expand output fuel cut fields rest
where
  /-- Adds the value of a parameter to fields. -/
  addParameter (cut : Cut) (quoted : Bool) (fields : Fields) (name value : Text) : Fields :=
    let shell := fields.shell
    if name = ['@'] || (name = ['*'] && !quoted) then
      if cut != .nothing then fields.addAll cut quoted shell.parameters
      else if shell.parameters = [] then fields
      else fields.addValue .nothing quoted (Text.join [' '] shell.parameters)
    else if name = ['*'] then fields.add (Text.join shell.glue shell.parameters) true
    else fields.addValue cut quoted value
  /-- Adds what a reference to a parameter stands for to fields. -/
  reference (fuel : Nat) (cut : Cut) (quoted : Bool) (fields : Fields)
      (parameter : Parameter) : Fields :=
    let shell := fields.shell
    let name := parameter.name
    let value? := shell.value? name
    let refused (message : Text) : Fields :=
      { fields with shell := shell.fail (name ++ ": ".toList ++ message) }
    let mode : Script.Mode := if quoted then .inner else .plain
    let operand := Script.wordOf mode parameter.operand
    let isSet (emptyCounts : Bool) : Bool :=
      match value? with
      | some value => !(emptyCounts && value = [])
      | none => false
    let plain : Fields :=
      match value? with
      | some value => addParameter cut quoted fields name value
      | none =>
        if shell.has 'u' && name != ['@'] && name != ['*'] then refused "parameter not set".toList
        else addParameter cut quoted fields name []
    let single (word : Word) : Text × Shell :=
      let written := expand output fuel .nothing { shell } (withHome shell word)
      (written.all.flatMap Pattern.text, written.shell)
    let inside : Cut := if cut = .nothing || quoted then .nothing else .all
    let shorten (atFront longest : Bool) : Fields :=
      let written := expand output fuel .nothing { shell } (Script.wordOf .plain parameter.operand)
      let pattern := written.all.flatten
      match value? with
      | some value =>
        Fields.addValue cut quoted { fields with shell := written.shell }
          (without value pattern atFront longest)
      | none => plain
    match parameter.use with
    | .plain => plain
    | .length =>
      if value? = none && shell.has 'u' && name != ['@'] && name != ['*'] then
        refused "parameter not set".toList
      else
        let length := if name = ['@'] || name = ['*'] then shell.parameters.length
          else (Utf8.encode (value?.getD [])).length
        fields.addValue cut quoted (Text.ofNat length)
    | .otherwise emptyCounts =>
      if isSet emptyCounts then plain
      else
        let fields := if quoted then fields.add [] true else fields
        expand output fuel inside fields (withHome shell operand)
    | .instead emptyCounts =>
      let fields := if quoted then fields.add [] true else fields
      if !isSet emptyCounts then fields
      else expand output fuel inside fields (withHome shell operand)
    | .assigned emptyCounts =>
      if isSet emptyCounts then plain
      else if !Script.isName name then refused "bad variable name".toList
      else
        let (value, shell) := single operand
        let shell := if shell.goesOn then shell.assign name value else shell
        Fields.addValue cut quoted { fields with shell } value
    | .demanded emptyCounts =>
      if isSet emptyCounts then plain
      else if operand = [] then
        refused (if emptyCounts then "parameter not set or null".toList
          else "parameter not set".toList)
      else
        let (text, shell) := single operand
        { fields with
          shell := if shell.goesOn then shell.fail (name ++ ": ".toList ++ text) else shell }
    | .withoutFront longest => shorten true longest
    | .withoutBack longest => shorten false longest
    | .malformed => { fields with shell := shell.fail "Bad substitution".toList }

/-- The value of a word where it is not split, with what is quoted in it. -/
def pattern (output : Output) (shell : Shell) (word : Word) : Pattern × Shell :=
  let word := withHome shell word
  let fields := expand output (wordSize word + 2) .nothing { shell } word
  (fields.all.flatten, fields.shell)

/-- The value of a word where it is not split. -/
def value (output : Output) (shell : Shell) (word : Word) : Text × Shell :=
  let (pattern, shell) := pattern output shell word
  (Pattern.text pattern, shell)

/-- The names in a directory, in their order. -/
def namesIn (process : Process) (place : Place) : List Text :=
  let names := process.files.entries.filterMap fun (other, _) =>
    if other.dropLast = place then other.getLast? else none
  names.eraseDups.mergeSort Text.atMost

/-- The parts of a pattern between slashes. -/
def components (pattern : Pattern) : List Pattern :=
  match pattern with
  | [] => [[]]
  | (c, quoted) :: rest =>
    if c = '/' then [] :: components rest
    else match components rest with
      | [] => [[(c, quoted)]]
      | first :: others => ((c, quoted) :: first) :: others

/-- The paths that fit the parts of a pattern, behind the beginning of a path. -/
def matching (process : Process) (start : Text) : List Pattern → List Text
  | [] => [start]
  | part :: rest =>
    let more (name : Text) : Text := start ++ name ++ if rest = [] then [] else ['/']
    if Pattern.isOpen part then
      let here := if start = [] then ['.'] else start
      match process.files.find process.directory (Path.ofText here) with
      | .ok (place, .directory) =>
        let showsHidden := (part.map Prod.fst).head? = some '.'
        let dots := if showsHidden then [['.'], ['.', '.']] else []
        let names := (dots ++ namesIn process place).filter fun name =>
          Pattern.fits part name && (showsHidden || name.head? != some '.')
        names.flatMap fun name => matching process (more name) rest
      | _ => []
    else matching process (more (Pattern.text part)) rest

/-- The paths that a field stands for: those that fit if it is a pattern and any do, and else its
text. -/
def paths (shell : Shell) (field : Pattern) : List Text :=
  if !Pattern.isOpen field || shell.has 'f' then [Pattern.text field]
  else
    let found := (matching shell.process [] (components field)).filter fun path =>
      match shell.process.files.find shell.process.directory (Path.ofText path) with
      | .ok (_, .directory) => true
      | .ok (_, .file _) => path.getLast? != some '/'
      | .error _ => false
    if found = [] then [Pattern.text field] else found

/-- Whether a word is nothing but all parameters in quotes, which stands for no field if there are
none. -/
def isAllParameters (word : Word) : Bool :=
  word.contains (.parameter { name := ['@'] } true) && word.all fun
    | .literal text quoted => quoted && text = []
    | .parameter parameter quoted => quoted && parameter = { name := ['@'] }
    | _ => false

/-- The texts that words stand for, and the shell afterwards. -/
def texts (output : Output) (shell : Shell) (words : List Word) : List Text × Shell :=
  words.foldl (fun (texts, shell) word =>
    if isAllParameters word && shell.parameters = [] then (texts, shell)
    else if shell.goesOn then
      let word := withHome shell word
      let fields := expand output (wordSize word + 2) .values { shell } word
      (texts ++ fields.all.flatMap fields.shell.paths, fields.shell)
    else (texts, shell)) ([], shell)

end DebugLaunch.Program.Shell
