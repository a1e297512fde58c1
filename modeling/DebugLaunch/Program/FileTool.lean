import DebugLaunch.Program.Filter

/-! The small programs that make, copy, move, remove and list files. -/
namespace DebugLaunch.Program.FileTool

open Utf8 (Bytes)

/-- Why a path cannot be used. -/
def faultOf : PathError → FileFault
  | .refused fault _ => fault
  | .nullCharacter => .missing

/-- What stands at a path, with its place, if a program can get there. -/
def entry (process : Process) (name : Text) : Except FileFault (Place × Entry) :=
  if name = [] then .error .missing
  else match process.files.find process.directory (Path.ofText name) with
    | .ok (place, .file content) =>
      if name.getLast? = some '/' then .error .notADirectory else .ok (place, .file content)
    | .ok found => .ok found
    | .error error => .error (faultOf error)

/-- Does something for each of the operands: the process, and one if anything failed. A failure has
a complaint. -/
def forEach (act : Process → Text → Except Text Process) (process : Process)
    (operands : List Text) : Process × Nat :=
  operands.foldl (fun (process, code) name =>
    match act process name with
    | .ok process => (process, code)
    | .error complaint => (process.report complaint, 1))
    (process, 0)

/-- A complaint about a path. -/
def about (process : Process) (what : String) (name : Text) (fault : FileFault) : Text :=
  what.toList ++ ' ' :: process.quotedName name ++ ": ".toList ++ fault.description

/-- Refuses to work without operands, unless the options allow that, or goes on with the options and
operands. -/
def withOperands (known missing : String) (mayBeNone : List Text → Bool)
    (work : Process → List Text → List Text → Process × Nat) : Tool := fun process arguments =>
  let (flags, operands) := Filter.takeFlags arguments
  match Filter.unknownFlag known flags with
  | some flag => Filter.refuseOption process flag 1
  | none =>
    if operands = [] && !mayBeNone flags then
      (process.complainOfUse ("missing ".toList ++ missing.toList), 1)
    else work process flags operands

/-- Where no options allow a lack of operands. -/
def never : List Text → Bool := fun _ => false

/-- Makes files that are not there. -/
def touch : Tool := withOperands "acm" "file operand" never fun process flags operands =>
  forEach (fun process name =>
    match entry process name with
    | .ok _ => .ok process
    | .error fault =>
      if Filter.hasFlag flags 'c' then .ok process
      else if fault = .missing && name != [] then
        match process.files.write process.directory (Path.ofText name) [] with
        | .ok files => .ok { process with files }
        | .error error => .error (about process "cannot touch" name (faultOf error))
      else .error (about process "cannot touch" name fault)) process operands

/-- Makes directories, with `-p` also those above them. -/
def makeDirectory : Tool := withOperands "p" "operand" never fun process flags operands =>
  forEach (fun process name =>
    let path := Path.ofText name
    if Filter.hasFlag flags 'p' then
      match process.files.ensureDirectory process.directory path with
      | (files, .ok ()) => .ok { process with files }
      | (_, .error error) =>
        .error (about process "cannot create directory" name (faultOf error))
    else match process.files.makeDirectory process.directory path with
      | .ok files => .ok { process with files }
      | .error error =>
        .error (about process "cannot create directory" name (faultOf error))) process operands

/-- Removes files, with `-r` also directories. -/
def remove : Tool := withOperands "rRf" "operand" (Filter.hasFlag · 'f')
    fun process flags operands =>
  let forced := Filter.hasFlag flags 'f'
  forEach (fun process name =>
    match entry process name with
    | .error fault =>
      if forced && (fault = .missing || fault = .notADirectory) then .ok process
      else .error (about process "cannot remove" name fault)
    | .ok (place, .directory) =>
      if Filter.hasFlag flags 'r' || Filter.hasFlag flags 'R' then
        .ok { process with files := process.files.erase place }
      else .error (about process "cannot remove" name .isADirectory)
    | .ok (place, _) => .ok { process with files := process.files.erase place }) process operands

/-- Removes empty directories. -/
def removeDirectory : Tool := withOperands "" "operand" never fun process _ operands =>
  forEach (fun process name =>
    match entry process name with
    | .error fault => .error (about process "failed to remove" name fault)
    | .ok (_, .file _) => .error (about process "failed to remove" name .notADirectory)
    | .ok (place, .directory) =>
      if process.files.below place = [] then
        .ok { process with files := process.files.erase place }
      else
        .error ("failed to remove ".toList ++ process.quotedName name ++
          ": Directory not empty".toList)) process operands

/-- The place that something goes to, given the name of the target: into a directory, or there. -/
def targetOf (process : Process) (name target : Text) : Text :=
  match entry process target with
  | .ok (_, .directory) =>
    (if target.getLast? = some '/' then target else target ++ ['/']) ++ (Utility.splitPath name).1
  | _ => target

/-- Copies or moves one thing to a target. -/
def carry (moves whole : Bool) (process : Process) (name target : Text) :
    Except Text Process :=
  match entry process name with
  | .error fault => .error (about process "cannot stat" name fault)
  | .ok (source, found) =>
    if found = .directory && !moves && !whole then
      .error ("-r not specified; omitting directory ".toList ++ process.quotedName name)
    else
      let written := targetOf process name target
      match process.files.target process.directory (Path.ofText written) with
      | .error error =>
        let what := if moves then "cannot move ".toList ++ process.quotedName name ++ " to".toList
          else if found = .directory then "cannot create directory".toList
          else "cannot create regular file".toList
        .error (about process (String.ofList what) written (faultOf error))
      | .ok (place, there) =>
        if place = source then
          .error (process.quotedName name ++ " and ".toList ++ process.quotedName written ++
            " are the same file".toList)
        else if there = some .directory && found != .directory then
          .error ("cannot overwrite directory ".toList ++ process.quotedName written ++
            " with non-directory".toList)
        else
          let files := if moves then process.files.erase source else process.files
          -- A directory comes before what stands in it.
          let below := (process.files.below source).mergeSort fun first second =>
            first.1.length ≤ second.1.length
          let files := below.foldl (fun files (rest, entry) => files.put (place ++ rest) entry)
            (files.put place found)
          .ok { process with files }

/-- Copies or moves what the operands but the last name to that one. -/
def carryAll (known : String) (moves : Bool) : Tool :=
  withOperands known "file operand" never fun process flags operands =>
    let whole := "rRa".toList.any fun letter => Filter.hasFlag flags letter
    match operands.reverse with
    | [] => (process, 1)
    | [name] =>
      let complaint := "missing destination file operand after ".toList ++ process.quotedName name
      (process.complainOfUse complaint, 1)
    | target :: names =>
      let isDirectory := match entry process target with
        | .ok (_, .directory) => true
        | _ => false
      if 1 < names.length && !isDirectory then
        let complaint := process.quotedName target ++
          (if (entry process target matches .ok _) then ": Not a directory" else
            ": No such file or directory").toList
        (process.report ("target ".toList ++ complaint), 1)
      else
        forEach (fun process name => carry moves whole process name target) process
          names.reverse

/-- Copies files. -/
def copy : Tool := carryAll "rRapf" false

/-- Moves files. -/
def move : Tool := carryAll "f" true

/-- Lists files, and the names in directories. -/
def listing : Tool := fun process arguments =>
  let (flags, operands) := Filter.takeFlags arguments
  match Filter.unknownFlag "1aAd" flags with
  | some flag => Filter.refuseOption process flag 2
  | none =>
    let operands := if operands = [] then [['.']] else operands
    let operands := operands.mergeSort Text.atMost
    let found := operands.map fun name => (name, entry process name)
    let process := found.foldl (fun process (name, result) =>
      match result with
      | .ok _ => process
      | .error fault =>
        process.report (about process "cannot access" name fault)) process
    let missing := found.any fun (_, result) => result matches .error _
    let isListed (name : Text) : Bool :=
      name.head? != some '.' || Filter.hasFlag flags 'a' || Filter.hasFlag flags 'A'
    let names (place : Place) : List Text :=
      let all := (process.files.below place).filterMap fun (rest, _) =>
        match rest with
        | [name] => if isListed name then some name else none
        | _ => none
      let dots := if Filter.hasFlag flags 'a' then [['.'], ['.', '.']] else []
      dots ++ all.mergeSort Text.atMost
    let plain := found.filterMap fun (name, result) =>
      match result with
      | .ok (_, .file _) => some name
      | .ok (_, .directory) => if Filter.hasFlag flags 'd' then some name else none
      | .error _ => none
    let directories := found.filterMap fun (name, result) =>
      match result with
      | .ok (place, .directory) =>
        if Filter.hasFlag flags 'd' then none
        else some ((if 1 < operands.length then [name ++ [':']] else []) ++ names place)
      | _ => none
    let blocks := (if plain = [] then [] else [plain]) ++ directories
    let rows := blocks.drop 1 |>.foldl (fun rows block => rows ++ [] :: block) (blocks.headD [])
    (rows.foldl Process.writeLine process, if missing then 2 else 0)

/-- Writes the paths of places from the root on. -/
def realPath : Tool := withOperands "" "operand" never fun process _ operands =>
  forEach (fun process name =>
    match entry process name with
    | .ok (place, _) => .ok (process.writeLine ('/' :: Text.join ['/'] place))
    | .error fault =>
      match process.files.target process.directory (Path.ofText name) with
      | .ok (place, none) => .ok (process.writeLine ('/' :: Text.join ['/'] place))
      | _ => .error (process.shownName name ++ ": ".toList ++ fault.description)) process operands

end DebugLaunch.Program.FileTool
