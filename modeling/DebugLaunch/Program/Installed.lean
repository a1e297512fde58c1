import DebugLaunch.Program.FileTool

/-! The programs that can be started, and how one is found. A name without a slash is looked up in
the directories of the search path, any other is the path of the program itself. The programs stand
in `/bin` and `/usr/bin`; no other file can be executed. -/
namespace DebugLaunch.Program

/-- A program that can be started: one that takes arguments only, one that starts another one in a
changed environment or for a limited time, or the shell. -/
inductive Installed where
  | tool (tool : Tool)
  | environment
  | timed
  | shell

/-- The programs that take arguments only, by their names. -/
def tools : List (Text × Tool) := [
  ("echo".toList, Utility.echo), ("printf".toList, printf .program),
  ("true".toList, fun process _ => (process, 0)), ("false".toList, fun process _ => (process, 1)),
  ("sleep".toList, Utility.sleep), ("test".toList, Utility.test),
  (['['], Utility.bracket), ("pwd".toList, Utility.workingDirectory),
  ("basename".toList, Utility.baseName), ("dirname".toList, Utility.directoryName),
  ("seq".toList, Utility.sequence), ("printenv".toList, Utility.printEnvironment),
  ("cat".toList, Filter.cat), ("head".toList, Filter.head), ("tail".toList, Filter.tail),
  ("wc".toList, Filter.count), ("sort".toList, Filter.sort), ("uniq".toList, Filter.unique),
  ("tee".toList, Filter.tee), ("tr".toList, Filter.substitute), ("touch".toList, FileTool.touch),
  ("mkdir".toList, FileTool.makeDirectory), ("rm".toList, FileTool.remove),
  ("rmdir".toList, FileTool.removeDirectory), ("cp".toList, FileTool.copy),
  ("mv".toList, FileTool.move), ("ls".toList, FileTool.listing),
  ("realpath".toList, FileTool.realPath)]

/-- The program with a name. -/
def installed? (name : Text) : Option Installed :=
  if name = "sh".toList then some .shell
  else if name = "env".toList then some .environment
  else if name = "timeout".toList then some .timed
  else (tools.lookup name).map .tool

/-- The directories that programs stand in. -/
def homes : List Place := [["bin".toList], ["usr".toList, "bin".toList]]

/-- The search path where the environment has none. -/
def defaultSearchPath : Text := "/bin:/usr/bin".toList

/-- The longest word of a command, in bytes. -/
def maxWord : Nat := 131071

/-- The program that a path names, or why it cannot be executed. -/
def programAt (process : Process) (words : List Text) (path : Text) :
    Except FileFault Installed :=
  let written := Path.ofText path
  let home := match process.files.find process.directory written.parent with
    | .ok (place, .directory) => path.getLast? != some '/' && homes.contains place
    | _ => false
  match if home then installed? written.name else none with
  | some program =>
    if words.any fun word => maxWord < (Utf8.encode word).length then .error .argumentListTooLong
    else .ok program
  | none =>
    match FileTool.entry process path with
    | .ok _ => .error .permissionDenied
    | .error fault => .error fault

/-- The paths at which a program is looked for. -/
def searchPaths (process : Process) (name : Text) : List Text :=
  if name.contains '/' then [name]
  else
    let homes := (process.environment.get? "PATH".toList).getD defaultSearchPath
    (Text.split ':' homes).map fun home =>
      if home = [] || home.getLast? = some '/' then home ++ name else home ++ '/' :: name

/-- The first program that a list of paths gives, with its path. If there is none, the first fault
counts that is more than something missing, or else the last one. -/
def firstProgram (attempt : Text → Except FileFault Installed) (serious : Option FileFault)
    (last : FileFault) : List Text → Except FileFault (Text × Installed)
  | [] => .error (serious.getD last)
  | path :: rest =>
    match attempt path with
    | .ok program => .ok (path, program)
    | .error fault =>
      let isMinor := fault = .missing || fault = .notADirectory
      firstProgram attempt (serious.or (if isMinor then none else some fault)) fault rest

/-- The program of a command with its path, or why it cannot be started. -/
def locate (process : Process) (words : List Text) : Except FileFault (Text × Installed) :=
  firstProgram (programAt process words) none .missing (searchPaths process (words.headD []))

end DebugLaunch.Program
