import DebugLaunch.Context
import DebugLaunch.Machine

/-! Launch files: where the template of a project is looked for, how it is read, and where its
resolved text goes. The first of three candidates that is a file is the template; the output goes to
a directory of its own in the project. -/
namespace DebugLaunch.LaunchFile

open DebugLaunch.Action

/-- The name of launch files. -/
def fileName : Text := "launch.json".toList

/-- The directory of a project that may hold its template. -/
def propertiesName : Text := "Properties".toList

/-- The directory of a project that holds the output. -/
def outputName : Text := "bin".toList

/-- The places where a template may be, from the most special to the most general. -/
def candidates (workspace project : Text) : List Path :=
  let project := Path.ofText project
  [(project.child propertiesName).child fileName, project.child fileName,
    (Path.ofText workspace).child fileName]

/-- The place of the resolved text. -/
def outputPath (project : Text) : Path := ((Path.ofText project).child outputName).child fileName

/-- The first of some paths that names a file. -/
def firstFile (console : Option Console) : List Path → Action (Option Path)
  | [] => return none
  | path :: rest => do
    say console (tagged "dim" ("Checking ".toList ++ path.toText))
    if ← isFile path then
      say console (tagged "green" ("✔ Using ".toList ++ path.toText))
      return some path
    else firstFile console rest

/-- The template of a project, if there is one. -/
def find (console : Option Console) (workspace project : Text) : Action (Option Path) :=
  firstFile console (candidates workspace project)

/-- The text of a template. -/
def readTemplate (path : Path) : Action Text := do return Utf8.readLenient (← readBytes path)

/-- Writes the resolved text of a project and gives its place. -/
def write (project content : Text) : Action Path := do
  let target := outputPath project
  ensureDirectory target.parent
  writeBytes target (Utf8.encode content)
  return target

/-- Resolves the template of a context with some environment, writes the result, and gives its
place. -/
def prepareWith (console : Option Console) (environment : Environment) (context : Context) :
    Action Path := do
  match ← find console context.workspaceRoot context.projectRoot with
  | none => throw .noLaunchFile
  | some template => do
    let text ← readTemplate template
    let target ← write context.projectRoot (context.resolve .dollar environment text)
    say console (tagged "dim" ("Wrote ".toList ++ target.toText))
    return target

/-- Resolves the template of a context, writes the result, and gives its place. -/
def prepare (console : Option Console) (context : Context) : Action Path := do
  prepareWith console (← ask Machine.environment) context

end DebugLaunch.LaunchFile
