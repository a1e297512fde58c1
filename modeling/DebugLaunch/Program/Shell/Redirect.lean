import DebugLaunch.Program.FileTool
import DebugLaunch.Program.Shell.Expansion

/-! Redirections: they let a stream read from a file or a given text, or write to a file or to where
another stream goes. -/
namespace DebugLaunch.Program.Shell

open Utf8 (Bytes)

/-- The file that takes all and keeps nothing. -/
def nullFile : Text := "/dev/null".toList

/-- Why a file cannot be opened, or made if `making` is set. -/
def openingFault (making : Bool) (fault : FileFault) : Text :=
  if fault = .missing || fault = .notADirectory then
    if making then "Directory nonexistent".toList else "No such file".toList
  else fault.description

/-- The content of a file with a name, or a complaint. A directory can be opened, but gives
nothing. -/
def contentOf (shell : Shell) (name : Text) : Except Text Bytes :=
  match shell.process.read name with
  | .ok content => .ok content
  | .error .isADirectory => .ok []
  | .error fault =>
    .error ("cannot open ".toList ++ name ++ ": ".toList ++ openingFault false fault)

/-- The files with the one that is to be written, emptied unless it is appended to, and its sink; or
a complaint. -/
def sinkOf (shell : Shell) (append : Bool) (name : Text) : Except Text (FileTree × Sink) :=
  let process := shell.process
  let path := Path.ofText name
  let refused (fault : FileFault) : Except Text (FileTree × Sink) :=
    .error ("cannot create ".toList ++ name ++ ": ".toList ++ openingFault true fault)
  if name = nullFile then .ok (process.files, .nowhere)
  else if name = "/dev/stdout".toList then .ok (process.files, process.output)
  else if name = "/dev/stderr".toList then .ok (process.files, process.errors)
  else if name = [] then refused .missing
  else
    let before := match append, process.files.read process.directory path with
      | true, .ok content => content
      | _, _ => []
    if name.getLast? = some '/' then refused .isADirectory
    else match process.files.write process.directory path before with
      | .error error => refused (FileTool.faultOf error)
      | .ok files =>
        match files.find process.directory path with
        | .ok (place, _) => .ok (files, .file place)
        | .error error => refused (FileTool.faultOf error)

/-- Does one redirection, or complains. -/
def redirectOne (output : Output) (shell : Shell) (redirection : Redirection) : Bool × Shell :=
  let (word, shell) := value output shell redirection.word
  let refuse (complaint : Text) : Bool × Shell := (false, shell.complain complaint 2)
  let reading (content : Bytes) : Shell :=
    if redirection.stream = 0 then
      { shell with process := { shell.process with input := content } }
    else shell
  if !shell.goesOn then (false, shell)
  else match redirection.direction with
    | .here => (true, reading (Utf8.encode word))
    | .input =>
      match contentOf shell word with
      | .ok content => (true, reading content)
      | .error complaint => refuse complaint
    | .output append =>
      match sinkOf shell append word with
      | .ok (files, sink) =>
        (true, { shell with process := { shell.process with files } }.withSink
          redirection.stream sink)
      | .error complaint => refuse complaint
    | .both =>
      match sinkOf shell true word with
      | .ok (files, _) =>
        let content := match contentOf shell word with
          | .ok content => content
          | .error _ => []
        let shell := reading content
        (true, { shell with process := { shell.process with files } })
      | .error complaint => refuse complaint
    | .duplicate =>
      if word = ['-'] then
        (true, if redirection.stream = 0 then reading [] else
          shell.withSink redirection.stream .closed)
      else if word = [] || !word.all Char.isDigit then refuse "Bad fd number".toList
      else if redirection.stream = 0 || word = ['0'] then (true, shell)
      else
        let sink := shell.sink (decimal word)
        if sink = .closed then refuse (word ++ ": Bad file descriptor".toList)
        else (true, shell.withSink redirection.stream sink)

/-- Does redirections one after the other, up to the first one that cannot be done. -/
def redirect (output : Output) (shell : Shell) : List Redirection → Bool × Shell
  | [] => (true, shell)
  | redirection :: rest =>
    match redirectOne output shell redirection with
    | (true, shell) => redirect output shell rest
    | refused => refused

/-- The shell with the streams as they were before redirections. -/
def withStreamsOf (shell before : Shell) (redirections : List Redirection) : Shell :=
  let readsElsewhere := redirections.any fun redirection => redirection.stream = 0
  let process := { shell.process with
    output := before.process.output, errors := before.process.errors
    input := if readsElsewhere then before.process.input else shell.process.input }
  { shell with process, streams := before.streams }

end DebugLaunch.Program.Shell
