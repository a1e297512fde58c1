import DebugLaunch.Path
import DebugLaunch.Reference
import DebugLaunch.Token

/-! The values of one launch, derived from a selection: the roots of the workspace and of the
project as they were given, both in portable form, and the name of the project. A launch template
is resolved against them by replacing its tokens in one pass and then expanding the environment
references of the whole result, so that a value may itself refer to a variable. -/
namespace DebugLaunch

/-- A path in portable form: forward slashes only, a leading slash, and a drive letter as the
first component. -/
def portablePath (path : Text) : Text :=
  let text := path.map fun c => if c = '\\' then '/' else c
  match text with
  | [] => []
  | '/' :: _ => text
  | letter :: ':' :: rest =>
    if letter.isAlpha then
      match rest with
      | [] | ['/'] => ['/', letter]
      | '/' :: rest => '/' :: letter :: '/' :: rest
      | rest => '/' :: letter :: '/' :: rest
    else '/' :: text
  | _ => '/' :: text

/-- The name of the directory that a path ends in, whichever way its slashes lean. -/
def directoryName (path : Text) : Text :=
  (Path.ofText (Text.trimRight (· = '/') (path.map fun c => if c = '\\' then '/' else c))).name

/-- What a host has selected: roots as texts, and a project name if one is to be shown in place of
the directory's. -/
structure Selection where
  workspaceRoot : Option Text := none
  projectRoot : Option Text := none
  projectName : Option Text := none
  deriving DecidableEq, Repr, Inhabited

/-- The values that tokens stand for in one launch. -/
structure Context where
  workspaceRoot : Text
  projectRoot : Text
  workspaceRootPortable : Text
  projectRootPortable : Text
  projectName : Text
  deriving DecidableEq, Repr, Inhabited

namespace Context

/-- The context of a selection. A project root that is missing or blank is no selection; a missing
or empty workspace root is the project's. -/
def ofSelection? (selection : Selection) : Option Context :=
  match selection.projectRoot with
  | none => none
  | some project =>
    if (Text.strip project).isEmpty then none
    else
      let workspace := match selection.workspaceRoot with
        | some (c :: rest) => c :: rest
        | _ => project
      some {
        workspaceRoot := workspace
        projectRoot := project
        workspaceRootPortable := portablePath workspace
        projectRootPortable := portablePath project
        projectName := selection.projectName.getD (directoryName project) }

/-- The value of a class of tokens. -/
def value (context : Context) : TokenClass → Text
  | .workspaceRoot => context.workspaceRoot
  | .projectRoot => context.projectRoot
  | .projectName => context.projectName
  | .workspaceRootPortable => context.workspaceRootPortable
  | .projectRootPortable => context.projectRootPortable

/-- The text of a template with its tokens and environment references replaced. -/
def resolve (context : Context) (sign : Reference.Sign) (environment : Environment)
    (template : Text) : Text :=
  Reference.expand sign environment (Token.substitute context.value template)

end Context
end DebugLaunch
