import DebugLaunch.Display.Markup
import DebugLaunch.Display.Wrap
import DebugLaunch.Environment
import DebugLaunch.Fault

/-! The machine that a launch runs on, as a value, and actions on it. An action gives a result or a
fault and the machine afterwards; what it changed before a fault stays changed. Programs that were
started are remembered with the files they found, so that a law can speak of them. -/
namespace DebugLaunch

open Utf8 (Bytes)

/-- A program that was started: the words of its command, and the files at that moment. -/
structure Start where
  command : List Text
  files : FileTree

/-- A screen that messages are printed on, of the given number of cells in a line. -/
structure Console where
  width : Nat
  deriving DecidableEq, Repr, Inhabited

/-- The files, the working directory, the environment, the screen, what was printed, the programs
that were started, the last one first, and the address of the manual that messages about settings
point to. The working directory is a place that a path can name. -/
structure Machine where
  files : FileTree
  directory : Place
  environment : Environment := []
  screen : Console := ⟨80⟩
  output : Text := []
  started : List Start := []
  manual : Text := []
  isPlace : IsPlace directory := by decide
  isUsable : IsUsable directory := by decide

/-- An action on the machine. -/
abbrev Action := ExceptT Fault (StateM Machine)

namespace Action

/-- The result of an action on a machine, and the machine afterwards. -/
def runOn {α : Type} (action : Action α) (machine : Machine) : Except Fault α × Machine :=
  (ExceptT.run action).run machine

/-- What can be read off the machine. -/
def ask {α : Type} (view : Machine → α) : Action α := do return view (← get)

/-- What can be read off the files by way of a path. -/
def askFiles {α : Type} (view : FileTree → Place → Except PathError α) : Action α := do
  let machine ← get
  match view machine.files machine.directory with
  | .ok answer => return answer
  | .error error => throw (.file error)

/-- Changes the files. -/
def changeFiles (change : FileTree → Place → Except PathError FileTree) : Action Unit := do
  let files ← askFiles change
  modify fun machine => { machine with files }

/-- Whether a path names a file. -/
def isFile (path : Path) : Action Bool := askFiles fun files place => files.isFile place path

/-- Whether a path names anything. -/
def isThere (path : Path) : Action Bool := do
  return (← askFiles fun files place => files.probe place path).isSome

/-- The content of a file. -/
def readBytes (path : Path) : Action Bytes := askFiles fun files place => files.read place path

/-- Puts a content into a file. -/
def writeBytes (path : Path) (content : Bytes) : Action Unit :=
  changeFiles fun files place => files.write place path content

/-- Makes a directory with the directories above it, unless it is there. -/
def ensureDirectory (path : Path) : Action Unit := do
  let machine ← get
  let (files, result) := machine.files.ensureDirectory machine.directory path
  set { machine with files }
  match result with
  | .ok () => return ()
  | .error error => throw (.file error)

/-- Prints a text as it is. -/
def print (text : Text) : Action Unit :=
  modify fun machine => { machine with output := machine.output ++ text }

/-- The text that a marked up text shows. -/
def render (markup : Text) : Action Text :=
  match Display.Markup.render markup with
  | .ok text => return text
  | .error fault => throw (.markup fault)

/-- Prints a marked up text on a screen, with line breaks where its lines are full. -/
def printMarkup (console : Console) (markup : Text) : Action Unit := do
  print (Display.Wrap.joinLines (Display.Wrap.wrap .fold console.width (← render markup)))

/-- Prints a marked up text if there is a screen to print it on. -/
def say (console : Option Console) (markup : Text) : Action Unit :=
  match console with
  | some console => printMarkup console markup
  | none => return ()

/-- A text between an opening and a closing tag. -/
def tagged (tag : String) (text : Text) : Text :=
  '[' :: tag.toList ++ ']' :: text ++ ['[', '/'] ++ tag.toList ++ [']']

end Action
end DebugLaunch
