import DebugLaunch.Cli.Options
import DebugLaunch.Command
import DebugLaunch.Display.Panel
import DebugLaunch.Display.Table
import DebugLaunch.EnvironmentFile
import DebugLaunch.LaunchFile
import DebugLaunch.Settings.Load

/-! The commands of the command line. Each first loads the environment file, then reads its
options, and then does its work. The faults that a command expects are reported in a panel; any
other goes on to the caller. -/
namespace DebugLaunch.Cli

open DebugLaunch.Action

/-- How a command line ends when no fault escapes. -/
inductive Exit where
  | success
  | reported
  | usage (cause : UsageEnd)
  deriving DecidableEq, Repr, Inhabited

/-- The exit code. -/
def Exit.code : Exit → Nat
  | success => 0
  | reported => 1
  | usage .help => 0
  | usage _ => 2

/-- The name of the program. -/
def programName : Text := "rdlauncher".toList

/-- The version of the program. -/
def programVersion : Text := "1.0.0".toList

/-- Where an escape sequence for a terminal ends: behind digits, semicolons and question marks, at
a letter. -/
def escapeEnd? : Text → Option Text
  | [] => none
  | c :: rest =>
    if c.isAlpha then some rest
    else if c = ';' || c = '?' || c.isDigit then escapeEnd? rest
    else none

theorem length_of_escapeEnd? {text rest : Text} (ends : escapeEnd? text = some rest) :
    rest.length < text.length := by
  induction text with
  | nil => simp [escapeEnd?] at ends
  | cons c text ih =>
    unfold escapeEnd? at ends
    split at ends
    · simp only [Option.some.injEq] at ends
      subst ends
      simp
    · split at ends
      · have := ih ends
        simp only [List.length_cons]
        omega
      · simp at ends

/-- A text without escape sequences for a terminal. -/
def plainText (text : Text) : Text :=
  match text with
  | [] => []
  | c :: rest =>
    if c = '\x1b' && rest.head? = some '[' then
      match _ends : escapeEnd? rest.tail with
      | some behind => plainText behind
      | none => c :: plainText rest
    else c :: plainText rest
termination_by text.length
decreasing_by
  · have := length_of_escapeEnd? _ends
    simp only [List.length_tail] at this
    simp only [List.length_cons]
    omega
  · simp
  · simp

/-- Prints a text without escape sequences. -/
def printPlain (text : Text) : Action Unit := print (plainText text)

/-- Prints a panel around a marked up text. -/
def printPanel (title : Option Text) (markup : Text) : Action Unit := do
  let shown ← render markup
  print (Display.Panel.draw (← ask Machine.screen).width title shown)

/-- Prints a table of marked up cells; a column may have a fixed width. -/
def printTable (title : Text) (columns : List (Text × Option Nat)) (rows : List (List Text)) :
    Action Unit := do
  let rows ← rows.mapM fun row => row.mapM render
  let columns := columns.mapIdx fun index (header, fixedWidth) =>
    { header, fixedWidth, cells := rows.map fun row => row.getD index [] : Display.Column }
  print (Display.Table.draw (← ask Machine.screen).width title columns)

/-- Reports what went wrong. -/
def report (message : Text) : Action Exit := do
  printPanel (some "Remote Debug".toList) (tagged "red" ("✘ ".toList ++ message))
  return .reported

/-- What an action gives, or the fault that it stops with if that is one of those expected. -/
def attempt {α : Type} (expected : Fault → Bool) (action : Action α) : Action (Except Fault α) :=
  tryCatch (do return .ok (← action)) fun fault =>
    if expected fault then return .error fault else throw fault

/-- Does an action, and goes on with what it gives or reports the fault if it is expected. -/
def orReport {α : Type} (expected : Fault → Bool) (action : Action α) (next : α → Action Exit) :
    Action Exit := do
  match ← attempt expected action with
  | .ok result => next result
  | .error fault => report (fault.message (← ask Machine.manual))

/-- The faults of launching itself and those of the file system. -/
def isExpected (fault : Fault) : Bool := fault.isOwn || fault.isFileFault

/-- The absolute form of a path. -/
def absolute (directory : Place) (path : Text) : Text :=
  (Path.resolve directory (Path.ofText path)).toText

/-- The context that options select in a directory: both roots in absolute form, and the directory
itself for a workspace that is not given. -/
def selected? (directory : Place) (environment : Environment) (options : Options) :
    Option Context :=
  let project := value? environment options .project
  let workspace := value? environment options .workspace
  Context.ofSelection? {
    workspaceRoot := some (absolute directory (workspace.getD []))
    projectRoot := project.map (absolute directory)
    projectName := options.lookup .name }

/-- Goes on with the selected context, or reports that there is none. -/
def withContext (options : Options) (next : Context → Action Exit) : Action Exit := do
  let machine ← get
  match selected? machine.directory machine.environment options with
  | some context => next context
  | none => report Fault.noSelection.heading

/-- The screen for messages about what a command does, which is the given one unless options ask for
none. -/
def messages (screen : Console) (options : Options) : Option Console :=
  if has options .quiet then none else some screen

/-- Writes the launch file, and starts the command with it. -/
def launch (runner : Runner) (options : Options) : Action Exit :=
  withContext options fun context => do
    let console := messages (← ask Machine.screen) options
    let prepared : Action (Settings × Path) := do
      let settings ← Settings.load console context.workspaceRoot
      return (settings, ← LaunchFile.prepare console context)
    orReport isExpected prepared fun (settings, file) => do
      printPlain (file.toText ++ ['\n'])
      if has options .noRun then return .success
      if settings.launchCommand = [] then
        say console (tagged "yellow" ("⚠ Sin launch_command en ".toList ++
          (Settings.path context.workspaceRoot).toText ++ "; no se lanza nada".toList))
        return .success
      let timeout := some (1000 * settings.launchTimeout)
      let started := Command.run runner console timeout settings.launchCommand file
      orReport Fault.isOwn started fun _ => do
        say console (tagged "bold green" "✅ Depurador lanzado".toList)
        return .success

/-- Prints the place of the template. -/
def locate (options : Options) : Action Exit :=
  withContext options fun context => do
    let console := messages (← ask Machine.screen) options
    match ← LaunchFile.find console context.workspaceRoot context.projectRoot with
    | none => report Fault.noLaunchFile.heading
    | some file => do
      printPlain (file.toText ++ ['\n'])
      return .success

/-- The template that options name, or else the one of a context. -/
def templateOf (options : Options) (context : Context) : Action Path := do
  match options.lookup .template with
  | some template => return Path.ofText template
  | none =>
    match ← LaunchFile.find none context.workspaceRoot context.projectRoot with
    | some file => return file
    | none => throw .noLaunchFile

/-- Prints the resolved text of a template. -/
def resolve (options : Options) : Action Exit :=
  withContext options fun context => do
    let text : Action Text := do LaunchFile.readTemplate (← templateOf options context)
    orReport isExpected text fun text => do
      printPlain (context.resolve .dollar (← ask Machine.environment) text)
      return .success

/-- The rows of the table of tokens: the class, the token, and its value. -/
def tokenRows (context : Context) (selected : Option TokenClass) : List (List Text) :=
  (Token.table.filter fun (tokenClass, _) => selected.all (· = tokenClass)).map
    fun (tokenClass, name) => [tokenClass.name, Token.written name, context.value tokenClass]

/-- Prints the tokens with their values. -/
def tokens (options : Options) : Action Exit :=
  withContext options fun context => do
    let list (selected : Option TokenClass) : Action Exit := do
      printTable "Tokens".toList
        [("Clase".toList, none), ("Token".toList, none), ("Valor".toList, none)]
        (tokenRows context selected)
      return .success
    match options.lookup .aliasName with
    | none => list none
    | some name =>
      match Token.classOf? name with
      | some tokenClass => list (some tokenClass)
      | none =>
        report ("Token desconocido: ".toList ++ Token.written (Text.trim (· = '%') name))

/-- The row of a candidate: its number, its path, and whether it is there. -/
def candidateRow (number : Nat) (path : Path) (present : Bool) : List Text :=
  [Text.ofNat number, path.toText,
    if present then tagged "green" ['✔'] else tagged "dim" ['✘']]

/-- Prints the places where the template is looked for. -/
def candidates (options : Options) : Action Exit :=
  withContext options fun context => do
    let paths := LaunchFile.candidates context.workspaceRoot context.projectRoot
    let found ← paths.mapM isFile
    let rows := (paths.zip found).mapIdx fun index (path, present) =>
      candidateRow (index + 1) path present
    printTable "Candidatos".toList
      [(['#'], some 3), ("Ruta".toList, none), ("Existe".toList, none)] rows
    return .success

/-- Prints the version. -/
def version : Action Exit := do
  printPanel none
    (tagged "bold cyan" programName ++ ['\n'] ++ tagged "dim" "Remote Debug Launcher".toList ++
      "\n\n".toList ++ tagged "bold" "Versión:".toList ++ ' ' :: programVersion)
  return .success

/-- Prints what the commands do. -/
def info : Action Exit := do
  printPanel none (tagged "bold cyan" (programName ++ " - Información".toList))
  printTable "Comandos".toList [("Comando".toList, some 12), ("Descripción".toList, none)]
    [["launch".toList, "Genera bin/launch.json y ejecuta el lanzador".toList],
      ["locate".toList, "Muestra el launch.json que se usaría".toList],
      ["candidates".toList, "Lista las rutas de búsqueda".toList],
      ["resolve".toList, "Imprime la plantilla resuelta".toList],
      ["tokens".toList, "Lista los tokens y sus valores".toList]]
  printMarkup (← ask Machine.screen)
    ('\n' :: tagged "dim" ("Usa '".toList ++ programName ++
      " <comando> --help' para ver opciones".toList))
  return .success

/-- Does the work of a command. -/
def perform (runner : Runner) (command : Command) (options : Options) : Action Exit :=
  match command with
  | .launch => launch runner options
  | .locate => locate options
  | .resolve => resolve options
  | .tokens => tokens options
  | .candidates => candidates options
  | .version => version
  | .info => info

/-- Whether a path that options or the environment give holds a null character. -/
def hasNullPath (environment : Environment) (keys : List Key) (options : Options) : Bool :=
  (keys.filter Key.isPath).any fun key =>
    (value? environment options key).any fun path => path.contains '\x00'

/-- Runs a command line. The environment file is loaded as soon as the command is known. The text of
the help is left out. -/
def run (runner : Runner) (arguments : List Text) : Action Exit :=
  match split arguments with
  | .error cause => return .usage cause
  | .ok (command, rest) => do
    EnvironmentFile.load
    match read command rest with
    | .error cause => return .usage cause
    | .ok given => do
      if hasNullPath (← ask Machine.environment) command.keys given.options then
        return .usage .nullPath
      if given.extra then return .usage .unexpectedArgument
      perform runner command given.options

end DebugLaunch.Cli
