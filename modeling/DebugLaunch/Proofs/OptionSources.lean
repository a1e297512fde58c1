import DebugLaunch.Proofs.CommandLineSpelling
import DebugLaunch.Proofs.LaunchStart
import DebugLaunch.Proofs.SettingsEnding
import DebugLaunch.Proofs.SettingsFindings
import Mathlib.Data.List.TakeWhile

/-! Where the values that a command works with come from. An option counts as it is used last; where
it is not used, a variable stands in for it unless the variable is empty. A variable is that of the
environment if it is set there at all, and only else that of the environment file. Since the file is
loaded before anything else is read, this order holds for the roots, for the references of a
template and for the command of the settings alike. -/
namespace DebugLaunch.OptionSources
open DebugLaunch.Action Cli LaunchFile LaunchFileSearch PreparedFile PlaceWalk CommandLineRuns
  CommandLineSpelling LaunchStart

/-- The value of an option where it is used last. -/
def lastUse? (uses : List (Key × Text)) (key : Key) : Option Text :=
  (uses.filter fun use => use.1 = key).getLast?.map Prod.snd

/-- The text of the environment file of a machine, if there is one and it is not disabled. -/
def environmentText? (machine : Machine) : Option Text :=
  if EnvironmentFile.isDisabled machine.environment then none
  else match machine.files.read machine.directory (Path.ofText EnvironmentFile.fileName) with
    | .ok content => Utf8.readStrict? (Utf8.afterMark content)
    | .error _ => none

/-- The value that the environment file gives to a variable. -/
def fileValue? (machine : Machine) (name : Text) : Option Text :=
  (environmentText? machine).bind fun text =>
    ((EnvironmentFile.resolve machine.environment (EnvironmentFile.bindings text)).lookup name).join

/-- The value of a variable: that of the environment if it is set there, be it empty, and that of
the environment file otherwise. -/
def seenVariable? (machine : Machine) (name : Text) : Option Text :=
  (machine.environment.get? name).or (fileValue? machine name)

/-- The value of an option: that of its last use, or else that of its variable unless it is empty.
-/
def chosen? (machine : Machine) (uses : List (Key × Text)) (key : Key) : Option Text :=
  (lastUse? uses key).or ((key.environmentName?.bind (seenVariable? machine)).filter (· ≠ []))

/-- The context of two roots in absolute form, with the name of the project if one is given. -/
def absoluteContext (directory : Place) (workspace project : Text) (name : Option Text) :
    Context :=
  let workspaceRoot := absolute directory workspace
  let projectRoot := absolute directory project
  { workspaceRoot, projectRoot
    workspaceRootPortable := portablePath workspaceRoot
    projectRootPortable := portablePath projectRoot
    projectName := name.getD (directoryName projectRoot) }

/-- The context of a project: it and the workspace that is chosen, or else the working directory, in
absolute form. -/
def rootsContext (machine : Machine) (uses : List (Key × Text)) (project : Text) : Context :=
  let workspaceRoot := absolute machine.directory ((chosen? machine uses .workspace).getD ['.'])
  let projectRoot := absolute machine.directory project
  { workspaceRoot, projectRoot
    workspaceRootPortable := portablePath workspaceRoot
    projectRootPortable := portablePath projectRoot
    projectName := (lastUse? uses .name).getD (directoryName projectRoot) }

/-- The context of the project that is chosen, if one is. -/
def chosenContext? (machine : Machine) (uses : List (Key × Text)) : Option Context :=
  (chosen? machine uses .project).map (rootsContext machine uses)

/-- A path of a command that is chosen holds a null character. No system lets one into its arguments
or its environment. -/
def NullPath (machine : Machine) (command : Command) (uses : List (Key × Text)) : Prop :=
  ∃ key ∈ command.keys, key.isPath = true ∧
    ∃ path, chosen? machine uses key = some path ∧ '\x00' ∈ path

/-- Some options are the same but for the roots. -/
def AlikeButRoots (options other : Options) : Prop :=
  ∀ key, key ≠ .project → key ≠ .workspace → other.lookup key = options.lookup key

/-- What a command does once it has its context. With any other roots it does the same in another
context, so it knows of the roots from its context only. -/
def WorksAs (runner : Runner) (command : Command) (options : Options)
    (work : Context → Action Exit) : Prop :=
  ∀ other, AlikeButRoots options other → perform runner command other = withContext other work

/-- A text with its references replaced by the values of variables that are known. -/
def expandWith (value? : Text → Option Text) (text : Text) : Text :=
  (Reference.Dollar.pieces text).flatMap fun
    | .literal text => text
    | .reference name source => (if name = [] then none else value? name).getD source

/-- The text of a template for a context, with the variables as they are seen. -/
def resolvedText (machine : Machine) (context : Context) (template : Text) : Text :=
  expandWith (seenVariable? machine) (Token.substitute context.value template)

/-- The command of settings is made of the words of a line. Where the line is blank, the settings
are those that a workspace has on a machine without variables. -/
structure CommandFrom (machine : Machine) (workspace line : Text) (settings : Settings) : Prop where
  words : Text.strip line ≠ [] → Shell.words (Text.strip line) = .ok settings.launchCommand
  file : Text.strip line = [] →
    ((Settings.load none workspace).runOn { machine with environment := [] }).1 = .ok settings

/-- A launch is prepared with the variables as they are seen: the output holds the resolved text of
the first candidate that is a file, and the variable of the command goes before the file of the
settings. -/
structure PreparedFrom (machine : Machine) (context : Context) (settings : Settings)
    (prepared : Machine) : Prop where
  output : ∃ found content,
    FirstFile machine.files machine.directory
      (candidates context.workspaceRoot context.projectRoot) found content ∧
    prepared.files.lookup? (outputPlace machine.directory context.projectRoot) =
      some (.file (Utf8.encode (resolvedText machine context (Utf8.readLenient content))))
  command : CommandFrom machine context.workspaceRoot
    ((seenVariable? machine Settings.commandVariable).getD []) settings

/-- A command that is spelled with some uses of options has run with the values that are chosen. The
machine is given as it was before the environment file was loaded and behind that. -/
structure RunsWithChosen (runner : Runner) (machine loaded : Machine) (command : Command)
    (uses : List (Key × Text)) (ran : Except Fault Exit × Machine) : Prop where
  nullPath : NullPath machine command uses → ran = (.ok (.usage .nullPath), loaded)
  noProject : ¬ NullPath machine command uses → chosen? machine uses .project = none →
    ∃ exit : Exit, exit.code = 1 ∧ ran = (.ok exit, { loaded with
      output := loaded.output ++
        errorPanel loaded.screen ("✘ ".toList ++ Fault.noSelection.heading) })
  roots : ¬ NullPath machine command uses → ∃ work, WorksAs runner command uses.reverse work ∧
    ∀ context, chosenContext? machine uses = some context → ran = (work context).runOn loaded
  resolves : ¬ NullPath machine command uses → command = .resolve →
    ∀ context template, chosenContext? machine uses = some context →
      ((do readTemplate (← templateOf uses.reverse context)).runOn loaded).1 = .ok template →
        ran = (.ok .success, { loaded with
          output := loaded.output ++ plainText (resolvedText machine context template) })
  launches : ¬ NullPath machine command uses → command = .launch →
    ∀ context settings path prepared, chosenContext? machine uses = some context →
      (preparing (messages loaded.screen uses.reverse) context).runOn loaded =
          (.ok (settings, path), prepared) →
        PreparedFrom machine context settings prepared ∧
          ran = (starting runner (messages loaded.screen uses.reverse) uses.reverse context settings
            path).runOn prepared

/-! ### Variables -/

section Variables
variable {machine loaded : Machine} {environment after : Environment} {name other : Text}
  {value : Option Text} {values : EnvironmentFile.Values}
open EnvironmentFile

/-- A variable is only set where it was not. -/
theorem get?_of_assign (assigns : assign environment name value = .ok after) (other : Text) :
    after.get? other = (environment.get? other).or (if other = name then value else none) := by
  cases value with
  | none =>
    cases assigns
    simp
  | some value =>
    rw [assign] at assigns
    by_cases isSet : (environment.get? name).isSome = true
    · rw [if_pos isSet] at assigns
      cases assigns
      by_cases same : other = name
      · obtain ⟨old, held⟩ := Option.isSome_iff_exists.mp isSet
        simp [same, held]
      · simp [same]
    · rw [if_neg isSet] at assigns
      have unset : environment.get? name = none := by simpa using isSet
      split at assigns
      · cases assigns
      · split at assigns
        · cases assigns
        · cases assigns
          by_cases same : other = name
          · simp [same, unset, Environment.get?_set_self]
          · simp [same, Environment.get?_set_of_ne same]

theorem get?_of_assignAll (distinct : (values.map Prod.fst).Nodup)
    (assigns : (assignAll environment values).2 = .ok ()) (name : Text) :
    (assignAll environment values).1.get? name =
      (environment.get? name).or (List.lookup name values).join := by
  induction values generalizing environment with
  | nil => simp [assignAll]
  | cons item rest ih =>
    obtain ⟨key, value⟩ := item
    rw [List.map_cons, List.nodup_cons] at distinct
    rw [assignAll] at assigns ⊢
    cases first : assign environment key value with
    | error fault =>
      rw [first] at assigns
      cases assigns
    | ok middle =>
      rw [first] at assigns
      dsimp only at assigns ⊢
      rw [ih distinct.2 assigns, get?_of_assign first, List.lookup_cons]
      by_cases same : name = key
      · subst same
        have gone : List.lookup name rest = none := by
          rw [List.lookup_eq_none_iff]
          rintro ⟨other, held⟩ inside
          simp only [bne_iff_ne, ne_eq]
          rintro rfl
          exact distinct.1 (List.mem_map.mpr ⟨_, inside, rfl⟩)
        simp [gone]
      · have different : (name == key) = false := by simpa using same
        simp [same, different]

/-- Setting a value keeps the names and adds at most one. -/
private theorem names_set (name : Text) (value : Option Text) (values : Values) :
    (values.set name value).map Prod.fst =
      if name ∈ values.map Prod.fst then values.map Prod.fst
      else values.map Prod.fst ++ [name] := by
  induction values with
  | nil => rfl
  | cons entry rest ih =>
    rw [Values.set]
    by_cases same : entry.1 = name
    · simp [same]
    · rw [if_neg same, List.map_cons, List.map_cons, ih]
      by_cases inside : name ∈ rest.map Prod.fst
      · simp [inside]
      · rw [if_neg inside, if_neg (by simp [inside, Ne.symm same])]
        rfl

/-- An environment file gives each name one value. -/
private theorem names_distinct (environment : Environment) (bindings : List Binding) :
    ((resolve environment bindings).map Prod.fst).Nodup := by
  have step : ∀ (bindings : List Binding) (values : Values), (values.map Prod.fst).Nodup →
      ((bindings.foldl (fun values binding => values.set binding.name
        (binding.value.map (interpolate environment values))) values).map Prod.fst).Nodup := by
    intro bindings
    induction bindings with
    | nil => exact fun values distinct => distinct
    | cons binding rest ih =>
      intro values distinct
      refine ih _ ?_
      rw [names_set]
      split
      · exact distinct
      · rename_i outside
        rw [List.nodup_append]
        refine ⟨distinct, by simp, fun one inside other isName same => ?_⟩
        rw [List.mem_singleton] at isName
        exact outside (isName ▸ same ▸ inside)
  exact step bindings [] List.nodup_nil

/-- Where no file is named, no environment file is read. -/
private theorem environmentText?_of_no_file
    (nothing : machine.files.isFile machine.directory (Path.ofText EnvironmentFile.fileName) =
      .ok false) : environmentText? machine = none := by
  rw [environmentText?]
  cases reads : machine.files.read machine.directory (Path.ofText EnvironmentFile.fileName) with
  | error error => simp
  | ok content => cases (isFile_iff nothing).mpr ⟨content, read_iff.mp reads⟩

/-- Once the environment file is loaded, every variable is what it is seen as. -/
theorem get?_of_load (loads : EnvironmentFile.load.runOn machine = (.ok (), loaded)) (name : Text) :
    loaded.environment.get? name = seenVariable? machine name := by
  have unread (nothing : environmentText? machine = none) :
      machine.environment.get? name = seenVariable? machine name := by
    simp [seenVariable?, fileValue?, nothing]
  rw [runOn_loadEnvironment] at loads
  cases asked : machine.files.isFile machine.directory (Path.ofText EnvironmentFile.fileName) with
  | error error =>
    rw [asked] at loads
    cases loads
  | ok isThere =>
    rw [asked] at loads
    cases isThere with
    | false =>
      cases loads
      exact unread (environmentText?_of_no_file asked)
    | true =>
      by_cases disabled : isDisabled machine.environment = true
      · simp only [disabled, Bool.not_true, Bool.and_false, Bool.false_eq_true,
          ↓reduceIte] at loads
        cases loads
        exact unread (if_pos disabled)
      · simp only [disabled, Bool.not_false, Bool.and_true, ↓reduceIte] at loads
        cases reads : machine.files.read machine.directory
            (Path.ofText EnvironmentFile.fileName) with
        | error error =>
          rw [reads] at loads
          cases loads
        | ok content =>
          rw [reads] at loads
          cases decoded : Utf8.readStrict? (Utf8.afterMark content) with
          | none =>
            simp only [decoded] at loads
            cases loads
          | some text =>
            simp only [decoded, Prod.mk.injEq] at loads
            obtain ⟨applies, rfl⟩ := loads
            have found : environmentText? machine = some text := by
              simp [environmentText?, disabled, reads, decoded]
            rw [seenVariable?, fileValue?, found]
            exact get?_of_assignAll (names_distinct _ _) applies name

theorem get?_eq_seenVariable? (loads : EnvironmentFile.load.runOn machine = (.ok (), loaded)) :
    loaded.environment.get? = seenVariable? machine := funext (get?_of_load loads)

end Variables

/-! ### Options -/

section Options
variable {machine loaded : Machine} {uses : List (Key × Text)} {key : Key}

/-- Where the last use comes first, it is the one that is looked up. -/
theorem lookup_reverse (uses : List (Key × Text)) (key : Key) :
    uses.reverse.lookup key = lastUse? uses key := by
  rw [lastUse?]
  induction uses using List.reverseRecOn with
  | nil => rfl
  | append_singleton front use ih =>
    obtain ⟨other, value⟩ := use
    rw [List.reverse_append, List.reverse_singleton, List.singleton_append, List.lookup_cons,
      List.filter_append]
    by_cases same : key = other
    · simp [same]
    · have different : (key == other) = false := by simpa using same
      rw [different]
      dsimp only
      rw [ih]
      simp [Ne.symm same]

/-- The value of an option on a loaded machine is the one that is chosen. -/
theorem value?_eq_chosen? (loads : EnvironmentFile.load.runOn machine = (.ok (), loaded))
    (uses : List (Key × Text)) (key : Key) :
    value? loaded.environment uses.reverse key = chosen? machine uses key := by
  rw [value?, chosen?, lookup_reverse, get?_eq_seenVariable? loads]
  cases lastUse? uses key with
  | some value => rfl
  | none =>
    rcases key.environmentName?.bind (seenVariable? machine) with _ | _ | ⟨c, value⟩
    · rfl
    · rfl
    · rw [Option.filter_some]
      rfl

theorem absolute_root (directory : Place) (path : Text) :
    ∃ rest, absolute directory path = '/' :: rest := by
  rw [absolute, Path.resolve]
  split <;> exact ⟨_, rfl⟩

/-- An absolute path is not blank. -/
private theorem strip_absolute (rest : Text) : (Text.strip ('/' :: rest)).isEmpty = false := by
  have slash : Text.isBlank '/' = false := by decide
  exact List.isEmpty_eq_false_iff.mpr
    (List.ne_nil_of_mem (Text.mem_trim (List.mem_cons_self ..) slash))

/-- Exactly a project makes a selection, and its context has both roots in absolute form. -/
theorem selected?_eq_map (directory : Place) (environment : Environment) (options : Options) :
    selected? directory environment options =
      (value? environment options .project).map fun project =>
        absoluteContext directory ((value? environment options .workspace).getD []) project
          (options.lookup .name) := by
  rw [selected?]
  cases value? environment options .project with
  | none => rfl
  | some project =>
    obtain ⟨rest, isAbsolute⟩ := absolute_root directory project
    obtain ⟨more, workspaceAbsolute⟩ := absolute_root directory
      ((value? environment options .workspace).getD [])
    simp only [Option.map_some, Context.ofSelection?, absoluteContext, isAbsolute,
      workspaceAbsolute, strip_absolute, Bool.false_eq_true, ↓reduceIte]

/-- On a loaded machine, the context of a selection is that of the roots that are chosen. -/
theorem selected?_eq (loads : EnvironmentFile.load.runOn machine = (.ok (), loaded))
    (uses : List (Key × Text)) :
    selected? machine.directory loaded.environment uses.reverse = chosenContext? machine uses := by
  rw [chosenContext?, selected?_eq_map, value?_eq_chosen? loads, value?_eq_chosen? loads,
    lookup_reverse]
  congr 1
  funext project
  rw [absoluteContext, rootsContext]
  -- a workspace that is not given is the working directory, as the empty path and as a dot
  cases chosen? machine uses .workspace <;> rfl

end Options

/-! ### Commands -/

section Commands
variable {runner : Runner} {machine loaded : Machine} {arguments : List Text} {command : Command}
  {uses : List (Key × Text)} {options : Options} {context : Context} {text : Text}

theorem exists_work (runner : Runner) (options : Options)
    (selects : command ≠ .version ∧ command ≠ .info) :
    ∃ work, WorksAs runner command options work := by
  have quiet : ∀ other, AlikeButRoots options other → ∀ screen,
      messages screen other = messages screen options := by
    intro other alike screen
    rw [messages, messages, has, has, alike .quiet (by decide) (by decide)]
  cases command with
  | launch =>
    refine ⟨?_, fun other alike => ?same⟩
    case same =>
      have noRun : has other .noRun = has options .noRun := by
        rw [has, has, alike .noRun (by decide) (by decide)]
      rw [perform, launch_eq]
      simp only [preparing, starting, quiet other alike, noRun]
      rfl
  | locate =>
    refine ⟨?_, fun other alike => ?same⟩
    case same =>
      simp only [perform, locate, quiet other alike]
      rfl
  | resolve =>
    refine ⟨?_, fun other alike => ?same⟩
    case same =>
      have template : ∀ context, templateOf other context = templateOf options context := by
        intro context
        rw [templateOf, templateOf, alike .template (by decide) (by decide)]
      simp only [perform, resolve, template]
      rfl
  | tokens =>
    refine ⟨?_, fun other alike => ?same⟩
    case same =>
      rw [perform, tokens, alike .aliasName (by decide) (by decide)]
  | candidates => exact ⟨_, fun other alike => rfl⟩
  | version => exact absurd rfl selects.1
  | info => exact absurd rfl selects.2

theorem hasNullPath_iff (loads : EnvironmentFile.load.runOn machine = (.ok (), loaded)) :
    hasNullPath loaded.environment command.keys uses.reverse = true ↔
      NullPath machine command uses := by
  simp only [hasNullPath, List.any_eq_true, List.mem_filter, NullPath, value?_eq_chosen? loads,
    Option.any_eq_true, List.contains_iff_mem, and_assoc]

/-- A command line that is spelled does its command on the loaded machine. -/
theorem runOn_spelled (loads : EnvironmentFile.load.runOn machine = (.ok (), loaded))
    (spelled : Spelled arguments command uses) (runner : Runner) :
    (NullPath machine command uses →
        (run runner arguments).runOn machine = (.ok (.usage .nullPath), loaded)) ∧
      (¬ NullPath machine command uses → (run runner arguments).runOn machine =
        (perform runner command uses.reverse).runOn loaded) := by
  obtain ⟨reads, _⟩ := reads_iff_spelled.mpr ⟨uses, spelled, rfl⟩
  rw [runOn_run reads, loads]
  dsimp only
  rw [← hasNullPath_iff loads]
  exact ⟨fun null => if_pos null, fun noNull => if_neg noNull⟩

/-- A message without tags, codes and characters that are hidden is reported as it is. -/
theorem runOn_report_of_shown {message : Text}
    (split : Display.Markup.parts (reportLine message) = [.plain [], .plain [], .tag "red".toList,
      .plain ("✘ ".toList ++ message), .plain [], .tag "/red".toList, .plain []])
    (same : Display.Markup.shown ("✘ ".toList ++ message) = "✘ ".toList ++ message)
    (machine : Machine) :
    (report message).runOn machine = (.ok .reported, { machine with
      output := machine.output ++ errorPanel machine.screen ("✘ ".toList ++ message) }) := by
  rw [runOn_report, reportLine, MarkupTags.render_red split, same]

/-- That no project is selected can always be shown. -/
theorem runOn_report_noSelection (machine : Machine) :
    (report Fault.noSelection.heading).runOn machine = (.ok .reported, { machine with
      output := machine.output ++
        errorPanel machine.screen ("✘ ".toList ++ Fault.noSelection.heading) }) :=
  runOn_report_of_shown (by decide +kernel) (by decide +kernel) machine

/-- So can it that there is no template. -/
theorem runOn_report_noLaunchFile (machine : Machine) :
    (report Fault.noLaunchFile.heading).runOn machine = (.ok .reported, { machine with
      output := machine.output ++
        errorPanel machine.screen ("✘ ".toList ++ Fault.noLaunchFile.heading) }) :=
  runOn_report_of_shown (by decide +kernel) (by decide +kernel) machine

/-- Reading the template of `resolve` changes nothing. -/
private theorem keeps_readTemplate (options : Options) (context : Context) :
    Keeps id (do readTemplate (← templateOf options context)) := by
  refine keeps_bind ?_ fun path => keeps_bind (keeps_askFiles id _) fun _ => keeps_pure id _
  rw [templateOf]
  cases options.lookup .template with
  | some template => exact keeps_pure id _
  | none =>
    refine keeps_bind (keeps_firstFile_silent _) fun found => ?_
    cases found with
    | none => exact keeps_throw id _
    | some file => exact keeps_pure id _

theorem runOn_resolve (selects : selected? machine.directory machine.environment options =
      some context)
    (reads : ((do readTemplate (← templateOf options context)).runOn machine).1 = .ok text) :
    (resolve options).runOn machine = (.ok .success, { machine with
      output := machine.output ++
        plainText (context.resolve .dollar machine.environment text) }) := by
  have same := keeps_readTemplate options context machine
  rw [id, id] at same
  rw [resolve, runOn_withContext, selects]
  dsimp only
  rw [runOn_orReport, runOn_of_result reads, same]
  rfl

/-- On a loaded machine a template is resolved with the variables as they are seen. -/
theorem resolve_eq (loads : EnvironmentFile.load.runOn machine = (.ok (), loaded))
    (context : Context) (template : Text) :
    context.resolve .dollar loaded.environment template =
      resolvedText machine context template := by
  rw [Context.resolve, Reference.expand, Reference.Dollar.expand, resolvedText, expandWith,
    ← get?_eq_seenVariable? loads]
  rfl

end Commands

/-! ### The command of the settings -/

section Settings
variable {console : Option Console} {workspace path : Text} {machine after : Machine}
  {settings : Settings} {entries : List (Value × Value)} {words : List Text}
open Settings SettingsEnding SettingsFindings

/-- A command that replaces that of the file is the one of the settings. -/
theorem launchCommand_of_combine (combined : combine path entries (some words) = .ok settings) :
    settings.launchCommand = words := by
  cases found : withTextKeys entries with
  | none =>
    rw [combine, found] at combined
    cases combined
  | some texts =>
    rw [combine_command found] at combined
    cases time : timeout (given? texts .launchTimeout) with
    | error findings =>
      rw [time] at combined
      cases combined
    | ok seconds =>
      rw [time] at combined
      cases combined
      rfl

/-- Settings that are loaded come from a settings file that is there or is not. -/
private theorem holds_of_load
    (loads : (Settings.load console workspace).runOn machine = (.ok settings, after)) :
    ∃ content, Holds machine workspace content := by
  rw [loadSettings_eq] at loads
  obtain ⟨_, _, gives, _⟩ := bind_ok loads
  obtain ⟨isThere, _, asked, gives⟩ := bind_ok gives
  rw [runOn_isThere] at asked
  cases probed : machine.files.probe machine.directory (Settings.path workspace) with
  | error error =>
    rw [probed] at asked
    cases asked
  | ok entry =>
    rw [probed] at asked
    cases asked
    cases entry with
    | none => exact ⟨none, probed⟩
    | some entry =>
      dsimp only [Option.isSome] at gives
      rw [if_pos rfl] at gives
      obtain ⟨content, _, reads, _⟩ := bind_ok gives
      exact ⟨some content, read_iff.mp (runOn_askFiles_ok.mp reads).1⟩

/-- Entries that can be had with a line about them can be had without it. -/
private theorem silently {content : Option Utf8.Bytes}
    (said : entriesSaid console workspace content = .ok entries) :
    entriesSaid none workspace content = .ok entries := by
  cases content with
  | none => exact said
  | some bytes =>
    simp only [entriesSaid, bind, Except.bind] at said ⊢
    cases document : entriesOf (Settings.path workspace).toText bytes with
    | error fault =>
      rw [document] at said
      cases said
    | ok found =>
      rw [document] at said
      dsimp only at said ⊢
      split at said
      · cases said
      · exact said

/-- The command of settings that are loaded comes from the line of the variable, unless it is blank.
-/
theorem commandFrom_of_load
    (loads : (Settings.load console workspace).runOn machine = (.ok settings, after)) :
    CommandFrom machine workspace ((machine.environment.get? commandVariable).getD [])
      settings := by
  obtain ⟨content, holds⟩ := holds_of_load loads
  obtain ⟨output, ran⟩ := runOn_load console holds
  have gives : settingsOf console workspace content machine.environment = .ok settings := by
    rw [loads] at ran
    exact (Prod.mk.inj ran).1.symm
  simp only [settingsOf, bind, Except.bind] at gives
  cases said : entriesSaid console workspace content with
  | error fault =>
    rw [said] at gives
    cases gives
  | ok entries =>
    have silent : entriesSaid none workspace content = .ok entries := silently said
    simp only [said, overriding_eq] at gives
    refine ⟨fun (filled : overridingLine machine.environment ≠ []) => ?_,
      fun (blank : overridingLine machine.environment = []) => ?_⟩
    · show Shell.words (overridingLine machine.environment) = _
      rw [if_neg filled] at gives
      cases words : Shell.words (overridingLine machine.environment) with
      | error fault =>
        rw [words] at gives
        cases gives
      | ok words =>
        rw [words] at gives
        rw [launchCommand_of_combine gives]
    · rw [if_pos blank] at gives
      have bare : Holds { machine with environment := [] } workspace content := by
        cases content <;> exact holds
      obtain ⟨_, ranBare⟩ := runOn_load none bare
      rw [ranBare, settingsOf, silent]
      exact gives

end Settings

/-! ### The whole command line -/

section Whole
variable {machine loaded prepared : Machine} {arguments : List Text} {command : Command}
  {uses : List (Key × Text)} {context : Context} {settings : Settings}
  {path : Path} {console : Option Console}

/-- Arguments that do not spell a command with its options, those that ask for help among them, are
answered with how to use it. -/
theorem usage_of_misspelled (loads : EnvironmentFile.load.runOn machine = (.ok (), loaded))
    (misspelled : ∀ command uses, ¬ Spelled arguments command uses) (runner : Runner) :
    ∃ cause after, (run runner arguments).runOn machine = (.ok (.usage cause), after) := by
  by_cases unread : ∃ command given, Reads arguments command given
  · obtain ⟨command, given, reads⟩ := unread
    rw [runOn_run reads, loads]
    dsimp only
    split
    · exact ⟨_, _, rfl⟩
    · by_cases extra : given.extra = true
      · rw [if_pos extra]
        exact ⟨_, _, rfl⟩
      · obtain ⟨uses, spelled, _⟩ := reads_iff_spelled.mp ⟨reads, by simpa using extra⟩
        exact absurd spelled (misspelled command uses)
  · rw [run]
    cases splits : split arguments with
    | error cause => exact ⟨_, _, rfl⟩
    | ok parts =>
      obtain ⟨command, rest⟩ := parts
      dsimp only
      rw [runOn_bind, loads]
      cases reads : read command rest with
      | error cause => exact ⟨_, _, rfl⟩
      | ok given => exact absurd ⟨command, given, rest, splits, reads⟩ unread

/-- What a launch prepares on a loaded machine, it prepares with the variables as they are seen. -/
theorem preparedFrom_of_preparing (loads : EnvironmentFile.load.runOn machine = (.ok (), loaded))
    (prepares : (preparing console context).runOn loaded = (.ok (settings, path), prepared)) :
    PreparedFrom machine context settings prepared := by
  have seen := get?_of_load loads Settings.commandVariable
  have resolves := resolve_eq loads context
  obtain ⟨environment, rfl⟩ := after_of_loadEnvironment loads
  obtain ⟨_, found, content, first, written⟩ := written_of_preparing prepares
  obtain ⟨_, loadsSettings, _⟩ := preparing_ok_iff.mp prepares
  refine ⟨⟨found, content, first, ?_⟩, ?_⟩
  · rw [written.output, resolves]
  · rw [← seen]
    obtain ⟨words, file⟩ := commandFrom_of_load loadsSettings
    exact ⟨words, file⟩

theorem runsWithChosen (loads : EnvironmentFile.load.runOn machine = (.ok (), loaded))
    (spelled : Spelled arguments command uses) (selects : command ≠ .version ∧ command ≠ .info)
    (runner : Runner) :
    RunsWithChosen runner machine loaded command uses
      ((run runner arguments).runOn machine) := by
  obtain ⟨null, performs⟩ := runOn_spelled loads spelled runner
  have directory : loaded.directory = machine.directory := by
    obtain ⟨environment, rfl⟩ := after_of_loadEnvironment loads
    rfl
  have selected : selected? loaded.directory loaded.environment uses.reverse =
      chosenContext? machine uses := by
    rw [directory, selected?_eq loads]
  obtain ⟨work, works⟩ := exists_work runner uses.reverse selects
  have worksHere := works uses.reverse fun _ _ _ => rfl
  refine ⟨null, fun noNull none => ?_, fun noNull => ⟨work, works, fun context some => ?_⟩,
    fun noNull isResolve context template some reads => ?_,
    fun noNull isLaunch context settings path prepared some prepares => ?_⟩
  · refine ⟨.reported, rfl, ?_⟩
    rw [performs noNull, worksHere, runOn_withContext, selected, chosenContext?, none]
    exact runOn_report_noSelection loaded
  · rw [performs noNull, worksHere, runOn_withContext, selected, some]
  · rw [some] at selected
    rw [performs noNull, isResolve, perform, runOn_resolve selected reads, resolve_eq loads]
  · rw [some] at selected
    refine ⟨preparedFrom_of_preparing loads prepares, ?_⟩
    rw [performs noNull, isLaunch, perform, runOn_launch selected, runOn_orReport, prepares]

/-- Behind an environment file that loads, whatever the arguments: a variable is that of the
environment if it is set there, and only else that of the file. Arguments that do not spell a
command with its options, be it that they ask for help, are answered with how to use it. The others
run with the values that are chosen: the last use of an option, or else its variable unless it is
empty, or else the working directory for the workspace and a report for the project. The references
of a template and the command of the settings are decided by the same variables. -/
theorem option_before_variable_before_file
    (loads : EnvironmentFile.load.runOn machine = (.ok (), loaded)) (runner : Runner)
    (arguments : List Text) :
    (∀ name, loaded.environment.get? name = seenVariable? machine name) ∧
      ((∀ command uses, ¬ Spelled arguments command uses) →
        ∃ cause after, (run runner arguments).runOn machine = (.ok (.usage cause), after)) ∧
      ∀ command uses, Spelled arguments command uses → command ≠ .version ∧ command ≠ .info →
        RunsWithChosen runner machine loaded command uses
          ((run runner arguments).runOn machine) :=
  ⟨get?_of_load loads, fun misspelled => usage_of_misspelled loads misspelled runner,
    fun _ _ spelled selects => runsWithChosen loads spelled selects runner⟩

/-- The last project of two is used, and that of the environment file where none is given. A
variable that is set but empty hides that of the file, so the workspace is the working directory.
-/
theorem option_before_variable_before_file_of_resolve :
    let tree : FileTree := { entries := [([['w']], .directory),
      ([['w'], fileName], .file (Utf8.encode "%projectName%$A$B".toList)),
      ([['w'], EnvironmentFile.fileName], .file (Utf8.encode
        "RDL_PROJECT_ROOT=q\nRDL_WORKSPACE_ROOT=/x\nA=file\nB=b\n".toList))] }
    let machine : Machine :=
      { files := tree, directory := [['w']]
        environment := [("RDL_WORKSPACE_ROOT".toList, []), (['A'], "process".toList)] }
    let runner : Runner := fun _ _ machine => (.waitTooLong, machine.files)
    let printed (arguments : List String) : Text :=
      ((run runner (arguments.map String.toList)).runOn machine).2.output
    ∃ loaded, EnvironmentFile.load.runOn machine = (.ok (), loaded) ∧
      printed ["resolve", "-p", "a", "--project=p"] = "pprocessb".toList ∧
      printed ["resolve"] = "qprocessb".toList := by
  intro tree machine runner printed
  have loads : EnvironmentFile.load.runOn machine =
      (.ok (), (EnvironmentFile.load.runOn machine).2) := runOn_of_result (by decide +kernel)
  have noNull : ∀ uses, hasNullPath (EnvironmentFile.load.runOn machine).2.environment
      Command.resolve.keys uses.reverse = false → ¬ NullPath machine .resolve uses := by
    intro uses without null
    rw [(hasNullPath_iff loads).mpr null] at without
    cases without
  let context (project : Text) : Context :=
    ⟨"/w".toList, "/w/".toList ++ project, "/w".toList, "/w/".toList ++ project, project⟩
  refine ⟨_, loads, ?_, ?_⟩
  · obtain ⟨_, _, runs⟩ := option_before_variable_before_file loads runner
      (["resolve", "-p", "a", "--project=p"].map String.toList)
    have first : SpellsOption Command.resolve.keys "-p".toList [] (some .project) :=
      .letters (by decide) (.last (by decide) rfl rfl)
    have second : SpellsOption Command.resolve.keys (Key.project.long ++ '=' :: ['p'])
        [(.project, ['p'])] none := .equals (by decide) rfl
    have ran := (runs .resolve [(.project, ['a']), (.project, ['p'])]
      ⟨_, .inl rfl, .withNext first (.option second .nothing)⟩ (by decide)).resolves
      (noNull _ (by decide +kernel)) rfl (context ['p']) "%projectName%$A$B".toList
      (by decide +kernel) (by decide +kernel)
    refine (congrArg (fun ran => ran.2.output) ran).trans ?_
    decide +kernel
  · obtain ⟨_, _, runs⟩ := option_before_variable_before_file loads runner ["resolve".toList]
    have ran := (runs .resolve [] ⟨_, .inl rfl, .nothing⟩ (by decide)).resolves
      (noNull _ (by decide +kernel)) rfl (context ['q']) "%projectName%$A$B".toList
      (by decide +kernel) (by decide +kernel)
    refine (congrArg (fun ran => ran.2.output) ran).trans ?_
    decide +kernel

end Whole

end DebugLaunch.OptionSources
