import DebugLaunch.Cli.Run
import DebugLaunch.Program.Run

/-! The program. It takes what a command can look at as a value: the environment, and what stands at
the places that the command line names. The command is done on that value; then its output is
printed, and the files that it has changed are written. -/
namespace DebugLaunch.Main

/-- Where a place is, as the machine writes it. -/
def location (place : Place) : String := String.ofList ('/' :: Text.join ['/'] place)

/-- The place that a path names. -/
def placeOf (directory : Place) (path : Path) : Place := (Path.resolve directory path).components

/-- The working directory. -/
def currentPlace : IO Place := do
  return (Path.ofText (← IO.currentDir).toString.toList).components

/-- The environment, from a text that ends each variable with a null character. -/
def environmentOf (text : Text) : Environment :=
  Environment.ofPairs ((Text.split '\x00' text).filterMap fun line =>
    if line = [] then none
    else
      let (name, value) := Text.breakAt (· = '=') line
      some (name, value.drop 1))

/-- The environment of the process. -/
def environment : IO Environment := do
  return environmentOf (Utf8.decodeLenient (← IO.FS.readBinFile "/proc/self/environ").toList)

/-- The screen, which is as wide as the environment says. -/
def screenOf (environment : Environment) : Console :=
  match environment.get? "COLUMNS".toList with
  | some (c :: digits) =>
    if (c :: digits).all Char.isDigit then ⟨LaxInteger.ofDigits (c :: digits)⟩ else ⟨80⟩
  | _ => ⟨80⟩

/-- What stands at a place. -/
def entryAt? (place : Place) : IO (Option Entry) := do
  let path := (← IO.currentDir) / location place
  match ← path.metadata.toBaseIO with
  | .error _ => return none
  | .ok metadata =>
    match metadata.type with
    | .dir => return some .directory
    | .file => return some (.file (← IO.FS.readBinFile path).toList)
    | _ => return none

/-- Adds what stands at the place of a path, and at the places above it. -/
def survey (directory : Place) (files : FileTree) (path : Path) : IO FileTree := do
  let place := placeOf directory path
  (List.range place.length).foldlM (fun files length => do
    match ← entryAt? (place.take (length + 1)) with
    | some entry => return files.put (place.take (length + 1)) entry
    | none => return files) files

/-- The paths that the options of a command line name. -/
def namedPaths (environment : Environment) (arguments : List Text) : List Text :=
  match Cli.split arguments with
  | .error _ => []
  | .ok (command, rest) =>
    match Cli.read command rest with
    | .error _ => []
    | .ok given =>
      [Cli.Key.project, .workspace, .template].filterMap (Cli.value? environment given.options)

/-- The paths that a command looks at if this is one of its roots. -/
def pathsUnder (root : Text) : List Path :=
  Path.ofText root :: Settings.path root :: LaunchFile.outputPath root ::
    LaunchFile.candidates root root

/-- The machine, as far as a command line looks at it. -/
def machineFor (arguments : List Text) : IO Machine := do
  let directory ← currentPlace
  if named : IsPlace directory ∧ IsUsable directory then
    let files ← survey directory default (Path.ofText EnvironmentFile.fileName)
    let environment ← environment
    let screen := screenOf environment
    let machine : Machine :=
      { files, directory, environment, screen, isPlace := named.1, isUsable := named.2 }
    let extended := (EnvironmentFile.load.runOn machine).2.environment
    let roots := [] :: namedPaths extended arguments
    return { machine with files := ← (roots.flatMap pathsUnder).foldlM (survey directory) files }
  else throw (.userError "the working directory has no plain names")

/-- Writes what is new in a file system. -/
def writeBack (before after : FileTree) : IO Unit := do
  for (place, entry) in after.entries.reverse do
    if before.lookup? place != some entry then
      match entry with
      | .directory => IO.FS.createDirAll (location place)
      | .file content =>
        IO.FS.createDirAll (location place.dropLast)
        IO.FS.writeBinFile (location place) ⟨content.toArray⟩

end DebugLaunch.Main

open DebugLaunch in
/-- Does a command line. A fault that no command expects goes to the error output. -/
def main (arguments : List String) : IO UInt32 := do
  let arguments := arguments.map String.toList
  let before ← Main.machineFor arguments
  let (result, after) := (Cli.run Program.run arguments).runOn before
  (← IO.getStdout).putStr (String.ofList after.output)
  Main.writeBack before.files after.files
  match result with
  | .ok exit => return exit.code.toUInt32
  | .error fault =>
    (← IO.getStderr).putStrLn (String.ofList (fault.message before.manual))
    return 1
