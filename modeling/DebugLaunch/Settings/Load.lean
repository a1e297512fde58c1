import DebugLaunch.Settings.Basic
import DebugLaunch.Machine
import DebugLaunch.Yaml.Document

/-! Reading the settings of a workspace: from its settings file, if there is one, and from the
environment variable that replaces the command. -/
namespace DebugLaunch.Settings

open DebugLaunch.Action

/-- Whether a key is one of a setting. -/
def isOwnKey : Value → Bool
  | .text key => key = Field.launchCommand.key || key = Field.launchTimeout.key
  | _ => false

/-- The fault of a settings file that cannot be read. -/
def readingFault (path : Text) : Yaml.Fault → Fault
  | .notUtf8 => .notUtf8
  | .malformed malformation => .settings path (.malformed malformation)
  | .scalar fault _ => .scalar fault
  | .tooDeep => .tooDeep

/-- The entries of a settings file. An empty document has none. -/
def entriesOf (path : Text) (content : Utf8.Bytes) : Except Fault (List (Value × Value)) :=
  match Yaml.load isOwnKey (.ofBytes content) with
  | .error fault => .error (readingFault path fault)
  | .ok value =>
    if value.isEmpty then .ok []
    else match value with
      | .mapping entries => .ok entries
      | _ => .error (.settings path .notAMapping)

/-- The entries whose keys are texts, if all are. A broken text is one of those too, but it names no
setting, so its entry is left out. -/
def withTextKeys : List (Value × Value) → Option (List (Text × Value))
  | [] => some []
  | (.text key, value) :: rest => (withTextKeys rest).map ((key, value) :: ·)
  | (.brokenText _, _) :: rest => withTextKeys rest
  | _ :: _ => none

/-- Entries whose keys are texts are those that are put together from texts, apart from those whose
keys are broken ones. -/
theorem withTextKeys_eq_some_iff {entries : List (Value × Value)} {texts : List (Text × Value)} :
    withTextKeys entries = some texts ↔
      (entries.filter fun entry => !entry.1.isBroken) =
        texts.map fun entry => (.text entry.1, entry.2) := by
  induction entries generalizing texts with
  | nil => cases texts <;> simp [withTextKeys]
  | cons entry rest ih =>
    obtain ⟨key, value⟩ := entry
    cases key with
    | text key =>
      rw [withTextKeys, Option.map_eq_some_iff, List.filter_cons_of_pos rfl]
      constructor
      · rintro ⟨others, kept, rfl⟩
        rw [ih.mp kept, List.map_cons]
      · cases texts with
        | nil => nofun
        | cons first others =>
          intro same
          obtain ⟨front, behind⟩ := List.cons.inj same
          cases front
          exact ⟨others, ih.mpr behind, rfl⟩
    | brokenText points =>
      rw [withTextKeys, ih, List.filter_cons_of_neg (by simp [Value.isBroken])]
    | _ => cases texts <;> simp [withTextKeys, Value.isBroken]

/-- The command that the environment gives, if it gives one. -/
def overriding (environment : Environment) : Except Fault (Option (List Text)) :=
  let line := Text.strip ((environment.get? commandVariable).getD [])
  if line = [] then .ok none
  else match Shell.words line with
    | .ok words => .ok (some words)
    | .error fault => .error (.words fault)

/-- The settings that the entries of a file give, with a command that may replace theirs. -/
def combine (path : Text) (entries : List (Value × Value)) (command : Option (List Text)) :
    Except Fault Settings :=
  match withTextKeys entries with
  | none => .error .keyNotText
  | some entries =>
    let entries := match command with
      | none => entries
      | some words => entries ++ [(Field.launchCommand.key, .list (words.map Value.text))]
    match ofEntries entries with
    | .ok settings => .ok settings
    | .error findings => .error (.settings path (.invalid findings))

/-- The settings of a workspace. -/
def load (console : Option Console) (workspace : Text) : Action Settings := do
  let path := Settings.path workspace
  let entries ←
    if ← isThere path then do
      let entries ← liftExcept (entriesOf path.toText (← readBytes path))
      say console (tagged "dim" ("Configuración cargada: ".toList ++ path.toText))
      pure entries
    else pure []
  let command ← liftExcept (overriding (← ask Machine.environment))
  liftExcept (combine path.toText entries command)
where
  /-- A result or a fault as an action that changes nothing. -/
  liftExcept {α : Type} (result : Except Fault α) : Action α :=
    match result with
    | .ok value => return value
    | .error fault => throw fault

end DebugLaunch.Settings
