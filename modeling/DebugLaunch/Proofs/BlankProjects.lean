import DebugLaunch.Proofs.PathSpelling

/-! A selection without a project, or with a blank one, has no context. The command line never comes
to ask whether a project is blank: it gives a project its absolute form first, and no absolute path
is blank. So it misses a selection only where no project is given at all, and a blank one selects
the working directory, or the entry of that blank name in it. -/
namespace DebugLaunch.BlankProjects
open DebugLaunch.Action Cli LaunchFile PlaceWalk PreparedFile LaunchStart CommandLineRuns
  CommandLineSpelling OptionSources PathSpelling
open Place (Plain)

/-- A text without anything but white space. -/
def Blank (text : Text) : Prop := ∀ c ∈ text, Text.isBlank c = true

instance (text : Text) : Decidable (Blank text) := List.decidableBAll _ text

/-- The place that a blank path names: the directory itself if the path is empty, and else the entry
of that name. -/
def blankPlace (directory : Place) (path : Text) : Place :=
  if path = [] then directory else directory ++ [path]

/-- A command that is spelled with some uses of options has run with any project that is chosen,
blank or not. The machine is given as it was before the environment file was loaded and behind that.
A launch with a blank project leaves its output below the place that the blank path names. -/
structure RunsBlindly (runner : Runner) (machine loaded : Machine) (command : Command)
    (uses : List (Key × Text)) (ran : Except Fault Exit × Machine) : Prop where
  missing : chosen? machine uses .project = none →
    ran.2.files = machine.files ∧ ∃ exit : Exit, exit.code = 1 ∧ ran = (.ok exit, { loaded with
      output := loaded.output ++
        errorPanel loaded.screen ("✘ ".toList ++ Fault.noSelection.heading) })
  given : ∀ project, chosen? machine uses .project = some project →
    ∃ work, WorksAs runner command uses.reverse work ∧
      ran = (work (rootsContext machine uses project)).runOn loaded
  blank : ∀ project, chosen? machine uses .project = some project → Blank project →
    (rootsContext machine uses project).projectRoot =
      written (blankPlace machine.directory project)
  launches : command = .launch → ∀ project settings path prepared,
    chosen? machine uses .project = some project → Blank project →
      (preparing (messages loaded.screen uses.reverse) (rootsContext machine uses project)).runOn
        loaded = (.ok (settings, path), prepared) →
      (∃ content, prepared.files.lookup?
        (blankPlace machine.directory project ++ [outputName, fileName]) = some (.file content)) ∧
        ran = (starting runner (messages loaded.screen uses.reverse) uses.reverse
          (rootsContext machine uses project) settings path).runOn prepared

/-! ### What counts as no selection -/

section Selections
variable {directory : Place} {path : Text} {selection : Selection} {environment : Environment}
  {options : Options}

/-- There is no context of a project that is missing or blank, and of no other. -/
theorem ofSelection?_eq_none_iff :
    Context.ofSelection? selection = none ↔ ∀ project ∈ selection.projectRoot, Blank project := by
  rw [Context.ofSelection?]
  cases selection.projectRoot with
  | none => simp
  | some project =>
    dsimp only
    by_cases blank : Blank project
    · rw [Text.strip_eq_nil_iff.mpr blank]
      simpa using blank
    · have kept : (Text.strip project).isEmpty = false :=
        List.isEmpty_eq_false_iff.mpr fun nothing => blank (Text.strip_eq_nil_iff.mp nothing)
      simpa [kept] using blank

/-- The command line has no context where no project is given, and nowhere else. -/
theorem selected?_eq_none_iff :
    selected? directory environment options = none ↔
      value? environment options .project = none := by
  rw [selected?_eq_map, Option.map_eq_none_iff]

theorem not_mem_of_blank {c : Char} (blank : Blank path) (kept : Text.isBlank c = false) :
    c ∉ path := by
  intro inside
  rw [blank c inside] at kept
  cases kept

/-- A blank path is a name unless it is empty. -/
theorem plain_of_blank (blank : Blank path) (something : path ≠ []) : Plain path := by
  have noDot : '.' ∉ path := not_mem_of_blank blank (by decide)
  refine ⟨something, ?_, ?_, not_mem_of_blank blank (by decide)⟩ <;>
    · rintro rfl
      simp at noDot

theorem named_of_blank (directory : Place) (blank : Blank path) :
    named directory (Path.ofText path) = blankPlace directory path := by
  rw [blankPlace]
  by_cases empty : path = []
  · subst empty
    rfl
  · have plain := plain_of_blank blank empty
    have relative : path.head? ≠ some '/' := fun slash =>
      plain.noSlash (List.mem_of_mem_head? (Option.mem_def.mpr slash))
    rw [if_neg empty, named, start_ofText, if_neg relative,
      Path.components_of_not_mem (plain_iff.mp plain).1.1 plain.noSlash]
    exact descend_of_no_up (by simpa using Ne.symm plain.noUp) directory

/-- The output of a project stands below the place that the project names, absolute or not. -/
theorem outputPlace_absolute (isPlace : IsPlace directory) (path : Text) :
    outputPlace directory (absolute directory path) =
      named directory (Path.ofText path) ++ [outputName, fileName] := by
  rw [outputPlace_eq, absolute_eq isPlace, named_written (isPlace_named isPlace path)]

end Selections

section Runs
variable {machine loaded : Machine} {arguments : List Text} {command : Command}
  {uses : List (Key × Text)}

theorem runsBlindly (loads : EnvironmentFile.load.runOn machine = (.ok (), loaded))
    (spelled : Spelled arguments command uses) (selects : command ≠ .version ∧ command ≠ .info)
    (noNull : ¬ NullPath machine command uses) (runner : Runner) :
    RunsBlindly runner machine loaded command uses ((run runner arguments).runOn machine) := by
  have runs := runsWithChosen loads spelled selects runner
  have chooses : ∀ project, chosen? machine uses .project = some project →
      chosenContext? machine uses = some (rootsContext machine uses project) := by
    intro project given
    rw [chosenContext?, given, Option.map_some]
  refine ⟨fun none => ?missing, fun project given => ?given, fun project given blank => ?blank,
    fun isLaunch project settings path prepared given blank prepares => ?launches⟩
  case missing =>
    obtain ⟨exit, code, ran⟩ := runs.noProject noNull none
    obtain ⟨environment, rfl⟩ := after_of_loadEnvironment loads
    exact ⟨by rw [ran], exit, code, ran⟩
  case given =>
    obtain ⟨work, works, ran⟩ := runs.roots noNull
    exact ⟨work, works, ran _ (chooses project given)⟩
  case blank =>
    exact (absolute_eq machine.isPlace project).trans
      (congrArg written (named_of_blank machine.directory blank))
  case launches =>
    obtain ⟨⟨⟨_, _, _, stands⟩, _⟩, ran⟩ :=
      runs.launches noNull isLaunch _ settings path prepared (chooses project given) prepares
    have place := outputPlace_absolute machine.isPlace project
    rw [named_of_blank machine.directory blank] at place
    exact ⟨⟨_, place ▸ stands⟩, ran⟩

end Runs

/-- What counts as no selection: for a host a project that is missing or blank, for the command line
only one that is missing. So every command that needs a project reports that there is none, with the
code 1 and with all files as they were, exactly where neither the option nor its variable gives one.
A blank one is taken as it is: the command does its work in the working directory, or in the entry
of that blank name in it, and a launch leaves its output there. -/
theorem no_selection_of_missing_project {machine loaded : Machine}
    (loads : EnvironmentFile.load.runOn machine = (.ok (), loaded)) (runner : Runner) :
    (∀ selection, Context.ofSelection? selection = none ↔
        ∀ project ∈ selection.projectRoot, Blank project) ∧
      (∀ options, selected? machine.directory loaded.environment options = none ↔
        value? loaded.environment options .project = none) ∧
      ∀ arguments command uses, Spelled arguments command uses →
        command ≠ .version ∧ command ≠ .info → ¬ NullPath machine command uses →
          RunsBlindly runner machine loaded command uses ((run runner arguments).runOn machine) :=
  ⟨fun _ => ofSelection?_eq_none_iff, fun _ => selected?_eq_none_iff,
    fun _ _ _ spelled selects noNull => runsBlindly loads spelled selects noNull runner⟩

/-- Without a project `tokens` has no selection; with a space for one, `launch` has one. -/
theorem no_selection_of_missing_project_space :
    let tree : FileTree := { entries := [([['w']], .directory),
      ([['w'], fileName], .file (Utf8.encode "%projDir%".toList))] }
    let machine : Machine := { files := tree, directory := [['w']] }
    let runner : Runner := fun _ _ machine => (.waitTooLong, machine.files)
    let uses : List (Key × Text) := [(.project, [' ']), (.noRun, []), (.quiet, [])]
    ∃ loaded, EnvironmentFile.load.runOn machine = (.ok (), loaded) ∧
      Context.ofSelection? ⟨none, some [' '], none⟩ = none ∧
      selected? machine.directory loaded.environment [] = none ∧
      (∃ exit : Exit, exit.code = 1 ∧
        ((run runner ["tokens".toList]).runOn machine).1 = .ok exit) ∧
      ∃ settings path prepared, (preparing (messages loaded.screen uses.reverse)
          (rootsContext machine uses [' '])).runOn loaded = (.ok (settings, path), prepared) ∧
        ∃ content, prepared.files.lookup? [['w'], [' '], outputName, fileName] =
          some (.file content) := by
  intro tree machine runner uses
  have loads : EnvironmentFile.load.runOn machine =
      (.ok (), (EnvironmentFile.load.runOn machine).2) := runOn_of_result (by decide +kernel)
  obtain ⟨host, commandLine, runs⟩ := no_selection_of_missing_project loads runner
  have tokens := runs ["tokens".toList] .tokens [] ⟨_, .inl rfl, .nothing⟩ (by decide) fun null =>
    absurd ((hasNullPath_iff loads).mpr null) (by decide +kernel)
  have first : SpellsOption Command.launch.keys "-p".toList [] (some .project) :=
    .letters (by decide) (.last (by decide) rfl rfl)
  have second : SpellsOption Command.launch.keys Key.noRun.long [(.noRun, [])] none :=
    .flag (by decide) rfl
  have third : SpellsOption Command.launch.keys "-q".toList [(.quiet, [])] none :=
    .letters (by decide) (.flag (by decide) rfl rfl .done)
  have launch := runs ("launch".toList :: ["-p", " ", "--no-run", "-q"].map String.toList) .launch
    uses ⟨_, .inl rfl, .withNext first (.option second (.option third .nothing))⟩ (by decide)
    fun null =>
      absurd ((hasNullPath_iff loads).mpr null) (by decide +kernel)
  obtain ⟨_, exit, code, reported⟩ := tokens.missing (by decide +kernel)
  have prepares := runOn_of_result (show ((preparing none
    (rootsContext machine uses [' '])).runOn (EnvironmentFile.load.runOn machine).2).1 =
      .ok (⟨[], 30⟩, outputPath "/w/ ".toList) by decide +kernel)
  have blank : Blank [' '] := by decide
  refine ⟨_, loads, (host _).mpr (by simpa using blank),
    (commandLine []).mpr (by decide +kernel), ⟨exit, code, by rw [reported]⟩, _, _, _, prepares, ?_⟩
  exact (launch.launches rfl [' '] _ _ _ (by decide +kernel) blank prepares).1

/-- An empty project and one of two spaces: a host has no selection for them, and commands do their
work. A launch leaves its output in the working directory. -/
theorem blank_project_is_no_missing_one :
    let tree : FileTree := { entries := [([['w']], .directory),
      ([['w'], fileName], .file (Utf8.encode "%projDir%".toList))] }
    let machine : Machine := { files := tree, directory := [['w']] }
    let runner : Runner := fun _ _ machine => (.waitTooLong, machine.files)
    let ran (arguments : List String) := (run runner (arguments.map String.toList)).runOn machine
    ∀ project ∈ ["", "  "],
      Context.ofSelection? ⟨some "/w".toList, some project.toList, none⟩ = none ∧
        (∀ arguments ∈ [["launch", "--no-run", "-q"], ["locate", "-q"], ["resolve"], ["tokens"]],
          (ran (arguments ++ ["-p", project])).1 = .ok .success) ∧
        machine.files.lookup? (blankPlace [['w']] project.toList ++ [outputName, fileName]) = none ∧
        (ran ["launch", "--no-run", "-q", "-p", project]).2.files.lookup?
          (blankPlace [['w']] project.toList ++ [outputName, fileName]) =
            some (.file (Utf8.encode (written (blankPlace [['w']] project.toList)))) := by
  decide +kernel

end DebugLaunch.BlankProjects
