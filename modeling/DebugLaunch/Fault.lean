import DebugLaunch.Display.Markup
import DebugLaunch.FileTree
import DebugLaunch.Settings.Report
import DebugLaunch.Shell.Words
import DebugLaunch.Yaml.Fault

/-! Everything that can stop a launch, by its cause. Some faults belong to launching itself, some
come from the file system, and the others from what was read; which of them a command reports
depends on that origin only. -/
namespace DebugLaunch

/-- What can be wrong with a settings file. -/
inductive SettingsFault where
  | malformed (malformation : Yaml.Malformation)
  | notAMapping
  | invalid (findings : List Settings.Finding)
  deriving DecidableEq, Repr

/-- What can go wrong with the command that is started with a launch file. -/
inductive CommandFault where
  | notConfigured
  | notFound (program : Text)
  | timedOut (command : List Text)
  | failed (code : Int) (detail : Text)
  deriving DecidableEq, Repr

/-- What stops a launch. -/
inductive Fault where
  | noSelection
  | noLaunchFile
  | settings (path : Text) (fault : SettingsFault)
  | command (fault : CommandFault)
  | file (error : PathError)
  | words (fault : Shell.WordsFault)
  | scalar (fault : Yaml.ScalarFault)
  | notUtf8
  | keyNotText
  | variableName
  | markup (fault : Display.MarkupFault)
  | tooDeep
  | waitTooLong
  deriving DecidableEq, Repr

namespace Fault

/-- What the text of a fault says before all details. A fault that no command reports is only named
by it. -/
def heading : Fault → Text
  | noSelection => "There are no selected projects to debug".toList
  | noLaunchFile => "Could not find launch.json".toList
  | settings place (.malformed _) => "Error al parsear ".toList ++ place
  | settings place .notAMapping => place ++ " debe contener un mapa YAML".toList
  | settings place (.invalid _) => "Configuración inválida en ".toList ++ place
  | command .notConfigured => "No hay comando de lanzamiento configurado".toList
  | command (.notFound program) => "Comando no encontrado: ".toList ++ program
  | command (.timedOut line) => "Timeout ejecutando: ".toList ++ Text.join [' '] line
  | command (.failed code detail) =>
    "El comando terminó con código ".toList ++ Text.ofInt code ++
      if detail = [] then [] else ": ".toList ++ detail
  | file error => error.message
  | words fault => fault.message
  | scalar fault => fault.message
  | notUtf8 => "invalid start byte".toList
  | keyNotText => "keywords must be strings".toList
  | variableName => "illegal environment variable name".toList
  | markup (.component fault) => fault.message
  | markup .nothingToClose => "closing tag has nothing to close".toList
  | markup .unreadableHandler => "unreadable parameters of a handler".toList
  | tooDeep => "maximum recursion depth exceeded".toList
  | waitTooLong => "timeout is too large".toList

/-- What is known in detail of a fault: why a settings file is malformed, or what its settings
should have been, with the address of a manual for them. -/
def detail? (manual : Text) : Fault → Option Text
  | settings place (.malformed malformation) => some (malformation.message place)
  | settings _ (.invalid findings) => some (Settings.report manual findings)
  | _ => none

/-- The text of a fault. -/
def message (manual : Text) (fault : Fault) : Text :=
  match fault.detail? manual with
  | some detail => fault.heading ++ ": ".toList ++ detail
  | none => fault.heading

/-- The faults of launching itself. -/
def isOwn : Fault → Bool
  | noSelection | noLaunchFile | settings .. | command _ => true
  | _ => false

/-- The faults of the file system. -/
def isFileFault : Fault → Bool
  | file (.refused ..) => true
  | _ => false

end Fault
end DebugLaunch
