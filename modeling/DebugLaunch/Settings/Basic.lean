import DebugLaunch.Number.LaxInteger
import DebugLaunch.Path
import DebugLaunch.Value.Printed

/-! The settings of a workspace: the command that is started with a launch file, and how many
seconds it may take. Each setting may be left out; `ofEntries` reads both and names everything
that is wrong, the command before the time. A report says it all in one text. -/
namespace DebugLaunch

/-- The settings. -/
structure Settings where
  launchCommand : List Text := []
  launchTimeout : Int := 30
  deriving DecidableEq, Repr, Inhabited

namespace Settings

/-- A setting. -/
inductive Field where
  | launchCommand
  | launchTimeout
  deriving DecidableEq, Repr, Inhabited

/-- The key of a setting. -/
def Field.key : Field → Text
  | launchCommand => "launch_command".toList
  | launchTimeout => "launch_timeout".toList

/-- What can be wrong with a setting. -/
inductive Problem where
  | notAList
  | notAText
  | notUnicode
  | integer (failure : LaxInteger.Failure)
  | notPositive
  deriving DecidableEq, Repr, Inhabited

/-- What a report shows of a value: its text and the name of its kind. -/
structure Exhibit where
  text : Text
  kind : Text
  deriving DecidableEq, Repr, Inhabited

/-- What a report shows of a value. -/
def Exhibit.ofValue (value : Value) : Exhibit := ⟨value.shown, value.kind⟩

/-- A problem, where it is, which is a setting or one item of its list, and the value there. -/
structure Finding where
  field : Field
  index : Option Nat := none
  problem : Problem
  value : Exhibit
  deriving DecidableEq, Repr, Inhabited

/-- The value of the last entry with a key. -/
def given? (entries : List (Text × Value)) (field : Field) : Option Value :=
  entries.reverse.lookup field.key

/-- The text that bytes are. -/
def textOfBytes (bytes : Utf8.Bytes) (otherwise : Problem) : Except Problem Text :=
  match Utf8.decode? bytes with
  | some text => .ok text
  | none => .error otherwise

/-- The text that an item of a list is. Bytes are one if they are UTF-8. A broken text is refused
here: no command has words that are not texts. -/
def itemText : Value → Except Problem Text
  | .text text => .ok text
  | .bytes bytes => textOfBytes bytes .notUnicode
  | .brokenText _ => .error .notUnicode
  | _ => .error .notAText

/-- The texts of a list whose first item has the given index, or a finding for each item that is
none. -/
def itemsFrom (index : Nat) : List Value → Except (List Finding) (List Text)
  | [] => .ok []
  | item :: rest =>
    match itemText item, itemsFrom (index + 1) rest with
    | .ok text, .ok texts => .ok (text :: texts)
    | .ok _, .error findings => .error findings
    | .error problem, others =>
      let finding : Finding := ⟨.launchCommand, some index, problem, .ofValue item⟩
      .error (finding :: match others with
        | .ok _ => []
        | .error findings => findings)

/-- The command that a value gives. -/
def command : Option Value → Except (List Finding) (List Text)
  | none => .ok ({ } : Settings).launchCommand
  | some (.list items) | some (.set items) => itemsFrom 0 items
  | some value => .error [⟨.launchCommand, none, .notAList, .ofValue value⟩]

/-- The integer that a text writes. -/
def integerOfText (text : Text) : Except Problem Int :=
  match LaxInteger.ofText text with
  | .ok value => .ok value
  | .error failure => .error (.integer failure)

/-- The integer that a value gives. -/
def integer : Value → Except Problem Int
  | .boolean value => .ok (if value then 1 else 0)
  | .integer value => .ok value
  | .real value =>
    match LaxInteger.ofBinary64 value with
    | .ok value => .ok value
    | .error failure => .error (.integer failure)
  | .text text => integerOfText text
  | .bytes bytes => do integerOfText (← textOfBytes bytes (.integer .unreadable))
  | .brokenText _ => .error .notUnicode
  | _ => .error (.integer .wrongKind)

/-- The time that a value gives, which is at least one second. -/
def timeout : Option Value → Except (List Finding) Int
  | none => .ok ({ } : Settings).launchTimeout
  | some value =>
    let refused (problem : Problem) : Except (List Finding) Int :=
      .error [⟨.launchTimeout, none, problem, .ofValue value⟩]
    match integer value with
    | .error problem => refused problem
    | .ok seconds => if 0 < seconds then .ok seconds else refused .notPositive

/-- The settings that entries give, or all that is wrong with them. -/
def ofEntries (entries : List (Text × Value)) : Except (List Finding) Settings :=
  match command (given? entries .launchCommand), timeout (given? entries .launchTimeout) with
  | .ok launchCommand, .ok launchTimeout => .ok { launchCommand, launchTimeout }
  | .ok _, .error findings => .error findings
  | .error findings, .ok _ => .error findings
  | .error findings, .error more => .error (findings ++ more)

/-- The name of the settings file of a workspace. -/
def fileName : Text := ".rdlauncher.yaml".toList

/-- The settings file of a workspace. -/
def path (workspace : Text) : Path := (Path.ofText workspace).child fileName

/-- The environment variable that replaces the command of the settings file. -/
def commandVariable : Text := "RDL_LAUNCH_COMMAND".toList

end Settings
end DebugLaunch
