import DebugLaunch.Proofs.OptionSources

/-! Command lines that run one after the other in a process share its environment. Loading the
environment file is the only step that changes it, and that step sets what is not set: so the first
run whose command is known sets every name that the file gives a value to, and for the runs behind
it nothing is left to set, whatever the references in the file come to for them. -/
namespace DebugLaunch.ProcessEnvironment
open DebugLaunch.Action Cli LaunchFile LaunchFileSearch CommandLineRuns LaunchStart OptionSources
open EnvironmentFile (Binding Values bindings resolve interpolate assign assignAll apply)

/-- A turn of a process: a command line, what starts programs for it, and the files that it finds,
as the turns before and everybody else have left them. -/
structure Turn where
  runner : Runner
  arguments : List Text
  files : FileTree

/-- The machine behind a turn. -/
def afterTurn (machine : Machine) (turn : Turn) : Machine :=
  ((run turn.runner turn.arguments).runOn { machine with files := turn.files }).2

/-- The machine behind some turns, of which the first one comes first. -/
def afterTurns (machine : Machine) (turns : List Turn) : Machine := turns.foldl afterTurn machine

/-- The command of a turn is known, so that it loads the environment file. -/
def Turn.Loads (turn : Turn) : Prop := ∃ parts, split turn.arguments = .ok parts

/-- The environment file of a directory is the same in two file systems. -/
structure SameFile (directory : Place) (files other : FileTree) : Prop where
  there : other.isFile directory (Path.ofText EnvironmentFile.fileName) =
    files.isFile directory (Path.ofText EnvironmentFile.fileName)
  content : other.read directory (Path.ofText EnvironmentFile.fileName) =
    files.read directory (Path.ofText EnvironmentFile.fileName)

/-- The environment file of a machine gives a name some value. -/
structure Assigns (machine : Machine) (name : Text) : Prop where
  binding : ∃ content text binding,
    machine.files.read machine.directory (Path.ofText EnvironmentFile.fileName) = .ok content ∧
      Utf8.readStrict? (Utf8.afterMark content) = some text ∧
      binding ∈ bindings text ∧ binding.name = name ∧ binding.value.isSome

/-! ### Values of an environment file -/

section Values
variable {environment other after : Environment} {values others : Values} {name : Text}

/-- Two lists of values have the same names, and values for the same ones. -/
def SameNames : Values → Values → Prop :=
  List.Forall₂ fun entry other => other.1 = entry.1 ∧ other.2.isSome = entry.2.isSome

theorem sameNames_set (same : SameNames values others) {value otherValue : Option Text}
    (both : otherValue.isSome = value.isSome) (name : Text) :
    SameNames (values.set name value) (others.set name otherValue) := by
  induction same with
  | nil => exact .cons ⟨rfl, both⟩ .nil
  | @cons entry other rest more first later ih =>
    rw [Values.set, Values.set, first.1]
    split
    · exact .cons ⟨rfl, both⟩ later
    · exact .cons first ih

/-- Which names an environment file gives values to does not depend on the environment. -/
theorem sameNames_resolve (environment other : Environment) (bindings : List Binding) :
    SameNames (resolve environment bindings) (resolve other bindings) := by
  have step : ∀ (values others : Values), SameNames values others →
      SameNames
        (bindings.foldl (fun values binding => values.set binding.name
          (binding.value.map (interpolate environment values))) values)
        (bindings.foldl (fun values binding => values.set binding.name
          (binding.value.map (interpolate other values))) others) := by
    induction bindings with
    | nil => exact fun _ _ same => same
    | cons binding rest ih => exact fun _ _ same => ih _ _ (sameNames_set same (by simp) _)
  exact step [] [] .nil

theorem mem_set {entry : Text × Option Text} {value : Option Text}
    (inside : entry ∈ values.set name value) : entry = (name, value) ∨ entry ∈ values := by
  induction values with
  | nil => exact .inl (List.mem_singleton.mp inside)
  | cons first rest ih =>
    rw [Values.set] at inside
    split at inside
    · exact (List.mem_cons.mp inside).imp_right (List.mem_cons_of_mem _)
    · rcases List.mem_cons.mp inside with rfl | later
      · exact .inr (List.mem_cons_self ..)
      · exact (ih later).imp_right (List.mem_cons_of_mem _)

/-- A value is that of a line of the file. -/
theorem exists_binding {bindings : List Binding} {value : Text}
    (inside : (name, some value) ∈ resolve environment bindings) :
    ∃ binding ∈ bindings, binding.name = name ∧ binding.value.isSome := by
  have step : ∀ values : Values, (name, some value) ∈ bindings.foldl (fun values binding =>
      values.set binding.name (binding.value.map (interpolate environment values))) values →
      (name, some value) ∈ values ∨
        ∃ binding ∈ bindings, binding.name = name ∧ binding.value.isSome := by
    clear inside
    induction bindings with
    | nil => exact fun _ => .inl
    | cons binding rest ih =>
      intro values inside
      rcases ih _ inside with before | ⟨later, member, found⟩
      · rcases mem_set before with here | old
        · obtain ⟨rfl, gives⟩ := Prod.mk.inj here
          exact .inr ⟨binding, List.mem_cons_self .., rfl,
            by simpa using congrArg Option.isSome gives.symm⟩
        · exact .inl old
      · exact .inr ⟨later, List.mem_cons_of_mem _ member, found⟩
  exact (step [] inside).resolve_left (by simp)

/-- Nothing that is set is changed, also where a variable that cannot be set stops the rest. -/
theorem get?_of_set {value : Text} (isSet : environment.get? name = some value) :
    (assignAll environment values).1.get? name = some value := by
  induction values generalizing environment with
  | nil => exact isSet
  | cons entry rest ih =>
    rw [assignAll]
    cases assigns : assign environment entry.1 entry.2 with
    | error fault => exact isSet
    | ok middle => exact ih (by rw [get?_of_assign assigns, isSet]; rfl)

/-- What is set behind and was not set before has a value in the list. -/
theorem mem_of_added (unset : environment.get? name = none)
    (added : (assignAll environment values).1.get? name ≠ none) :
    ∃ value, (name, some value) ∈ values := by
  induction values generalizing environment with
  | nil => exact absurd unset added
  | cons entry rest ih =>
    obtain ⟨key, value⟩ := entry
    rw [assignAll] at added
    cases assigns : assign environment key value with
    | error fault =>
      rw [assigns] at added
      exact absurd unset added
    | ok middle =>
      rw [assigns] at added
      have here := get?_of_assign assigns name
      rw [unset, Option.none_or] at here
      by_cases given : name = key ∧ value.isSome
      · obtain ⟨rfl, isGiven⟩ := given
        obtain ⟨value, rfl⟩ := Option.isSome_iff_exists.mp isGiven
        exact ⟨value, List.mem_cons_self ..⟩
      · have still : middle.get? name = none := by
          rw [here]
          split
          · rename_i same
            simpa using fun isGiven => given ⟨same, isGiven⟩
          · rfl
        obtain ⟨value, member⟩ := ih still added
        exact ⟨value, List.mem_cons_of_mem _ member⟩

/-- Where nothing stops it, every name with a value is set behind. -/
theorem isSome_of_assignAll (assigns : assignAll environment values = (after, .ok ())) :
    ∀ entry ∈ values, entry.2.isSome → (after.get? entry.1).isSome := by
  induction values generalizing environment with
  | nil => simp
  | cons entry rest ih =>
    rw [assignAll] at assigns
    cases first : assign environment entry.1 entry.2 with
    | error fault =>
      rw [first] at assigns
      cases assigns
    | ok middle =>
      rw [first] at assigns
      refine List.forall_mem_cons.mpr ⟨fun given => ?_, ih assigns⟩
      have here := get?_of_assign first entry.1
      rw [if_pos rfl] at here
      have isSet : (middle.get? entry.1).isSome := by simp [here, given]
      obtain ⟨value, holds⟩ := Option.isSome_iff_exists.mp isSet
      have kept := @get?_of_set middle rest entry.1 value holds
      dsimp only at assigns
      rw [assigns] at kept
      exact Option.isSome_iff_exists.mpr ⟨value, kept⟩

/-- Where every name with a value is set, nothing is left to do. -/
theorem assignAll_of_set (set : ∀ entry ∈ values, entry.2.isSome →
    (environment.get? entry.1).isSome) : assignAll environment values = (environment, .ok ()) := by
  induction values with
  | nil => rfl
  | cons entry rest ih =>
    obtain ⟨key, value⟩ := entry
    rw [List.forall_mem_cons] at set
    have stays : assign environment key value = .ok environment := by
      cases value with
      | none => rfl
      | some value => exact if_pos (set.1 rfl)
    rw [assignAll, stays]
    exact ih set.2

/-- Applied once more, an environment file changes nothing. -/
theorem apply_again {text : Text} (applies : apply environment text = (after, .ok ())) :
    apply after text = (after, .ok ()) := by
  refine assignAll_of_set fun entry inside given => ?_
  have set := isSome_of_assignAll applies
  have same := sameNames_resolve environment after (bindings text)
  generalize resolve environment (bindings text) = values at set same
  generalize resolve after (bindings text) = others at same inside
  induction same with
  | nil => cases inside
  | cons first _ ih =>
    rw [List.forall_mem_cons] at set
    rcases List.mem_cons.mp inside with rfl | later
    · rw [first.1]
      exact set.1 (first.2 ▸ given)
    · exact ih set.2 later

end Values

/-! ### What a command leaves as it is -/

/-- The working directory and the environment of a machine. -/
def surroundings (machine : Machine) : Place × Environment :=
  (machine.directory, machine.environment)

section Commands
variable {runner : Runner} {options : Options} {command : Command}

private theorem keeps_printing {α : Type} {action : Action α} (prints : OnlyPrints action) :
    Keeps surroundings action :=
  keeps_of_onlyPrints prints fun _ _ => rfl

theorem keeps_surroundings_start (runner : Runner) (timeout : Option Int) (words : List Text) :
    Keeps surroundings (Command.start runner timeout words) := fun _ => rfl

theorem keeps_surroundings_runCommand (console : Option Console) (timeout : Option Int)
    (words : List Text) (file : Path) :
    Keeps surroundings (Command.run runner console timeout words file) := by
  rw [Command.run]
  by_cases empty : words = []
  · rw [if_pos empty]
    exact keeps_throw _ _
  · rw [if_neg empty]
    refine keeps_bind (keeps_printing (onlyPrints_say _ _)) fun _ => ?_
    refine keeps_bind (keeps_surroundings_start _ _ _) fun ending => ?_
    split
    · exact keeps_pure _ _
    · exact keeps_throw _ _

theorem keeps_surroundings_starting (console : Option Console) (context : Context)
    (settings : Settings) (file : Path) :
    Keeps surroundings (starting runner console options context settings file) := by
  rw [starting]
  refine keeps_bind (keeps_printing (onlyPrints_print _)) fun _ => ?_
  split
  · exact keeps_pure _ _
  · split
    · exact keeps_printing (onlyPrints_bind (onlyPrints_say _ _) fun _ => onlyPrints_pure _)
    · refine keeps_orReport (fun _ _ => rfl) (keeps_surroundings_runCommand _ _ _ _) fun _ => ?_
      exact keeps_printing (onlyPrints_bind (onlyPrints_say _ _) fun _ => onlyPrints_pure _)

/-- No command changes the environment or goes to another directory. -/
theorem keeps_surroundings_perform (runner : Runner) (command : Command) (options : Options) :
    Keeps surroundings (perform runner command options) := by
  by_cases launches : command = .launch
  · subst launches
    show Keeps surroundings (launch runner options)
    rw [launch_eq]
    refine keeps_withContext (fun _ _ => rfl) options fun context => ?_
    refine keeps_bind (keeps_printing (onlyPrints_ask _)) fun screen => ?_
    refine keeps_orReport (fun _ _ => rfl) (keeps_preparing (fun _ _ _ => rfl) _ _) ?_
    exact fun _ => keeps_surroundings_starting _ _ _ _
  · exact keeps_printing (onlyPrints_perform launches runner options)

/-- A command line leaves behind the surroundings that loading the environment file has made, or
those that it has found if it names no command. -/
theorem surroundings_of_run (runner : Runner) (arguments : List Text) (machine : Machine) :
    surroundings ((run runner arguments).runOn machine).2 =
      surroundings (match split arguments with
        | .ok _ => (EnvironmentFile.load.runOn machine).2
        | .error _ => machine) := by
  rw [run]
  cases split arguments with
  | error cause => rfl
  | ok parts =>
    obtain ⟨command, rest⟩ := parts
    dsimp only
    rw [runOn_bind]
    rcases EnvironmentFile.load.runOn machine with ⟨fault | _, loaded⟩
    · rfl
    · dsimp only
      cases read command rest with
      | error cause => rfl
      | ok given =>
        refine (?_ : Keeps surroundings (do
          if hasNullPath (← ask Machine.environment) command.keys given.options then
            return .usage .nullPath
          if given.extra then return .usage .unexpectedArgument
          perform runner command given.options)) loaded
        refine keeps_bind (keeps_printing (onlyPrints_ask _)) fun _ => ?_
        split
        · exact keeps_pure _ _
        · split
          · exact keeps_pure _ _
          · exact keeps_surroundings_perform _ _ _

end Commands

/-! ### Loading once and again -/

section Loading
variable {machine other loaded : Machine} {name : Text}

/-- Loading comes to the same wherever the environment file, the directory and the environment are
the same. -/
theorem load_congr (same : SameFile machine.directory machine.files other.files)
    (around : surroundings other = surroundings machine) :
    (EnvironmentFile.load.runOn other).1 = (EnvironmentFile.load.runOn machine).1 ∧
      surroundings (EnvironmentFile.load.runOn other).2 =
        surroundings (EnvironmentFile.load.runOn machine).2 := by
  obtain ⟨files, directory, environment⟩ := machine
  obtain ⟨otherFiles, otherDirectory, otherEnvironment⟩ := other
  obtain ⟨rfl, rfl⟩ := Prod.mk.inj around
  rw [runOn_loadEnvironment, runOn_loadEnvironment]
  simp only [same.there, same.content]
  repeat' split
  all_goals exact ⟨rfl, rfl⟩

/-- The environment file is not loaded, or its text is applied to the environment. -/
theorem load_cases (loads : EnvironmentFile.load.runOn machine = (.ok (), loaded)) :
    loaded = machine ∨ ∃ content text environment,
      machine.files.isFile machine.directory (Path.ofText EnvironmentFile.fileName) = .ok true ∧
        machine.files.read machine.directory (Path.ofText EnvironmentFile.fileName) =
          .ok content ∧
        Utf8.readStrict? (Utf8.afterMark content) = some text ∧
        apply machine.environment text = (environment, .ok ()) ∧
        loaded = { machine with environment } := by
  rw [runOn_loadEnvironment] at loads
  cases there : machine.files.isFile machine.directory (Path.ofText EnvironmentFile.fileName) with
  | error error =>
    rw [there] at loads
    cases loads
  | ok isThere =>
    rw [there] at loads
    dsimp only at loads
    split at loads
    · rename_i loading
      obtain ⟨rfl, -⟩ := Bool.and_eq_true_iff.mp loading
      cases reads : machine.files.read machine.directory
          (Path.ofText EnvironmentFile.fileName) with
      | error error =>
        rw [reads] at loads
        cases loads
      | ok content =>
        rw [reads] at loads
        dsimp only at loads
        cases decodes : Utf8.readStrict? (Utf8.afterMark content) with
        | none =>
          rw [decodes] at loads
          cases loads
        | some text =>
          rw [decodes] at loads
          obtain ⟨applies, rfl⟩ := Prod.mk.inj loads
          exact .inr ⟨content, text, _, rfl, rfl, decodes, Prod.ext rfl applies, rfl⟩
    · cases loads
      exact .inl rfl

/-- What is set stays, and what is added is assigned in the file. -/
theorem keeps_and_assigns_of_load
    (loads : EnvironmentFile.load.runOn machine = (.ok (), loaded)) (name : Text) :
    (∀ value, machine.environment.get? name = some value →
      loaded.environment.get? name = some value) ∧
    (machine.environment.get? name = none → loaded.environment.get? name ≠ none →
      Assigns machine name) := by
  rcases load_cases loads with rfl | ⟨content, text, environment, -, reads, decodes, applies, rfl⟩
  · exact ⟨fun _ => id, fun unset set => absurd unset set⟩
  · obtain rfl : (assignAll machine.environment _).1 = environment := congrArg Prod.fst applies
    refine ⟨fun value => get?_of_set, fun unset added => ?_⟩
    obtain ⟨value, given⟩ := mem_of_added unset added
    obtain ⟨binding, member, named, hasValue⟩ := exists_binding given
    exact ⟨content, text, binding, reads, decodes, member, named, hasValue⟩

/-- Loaded once more, the environment file changes nothing: it may now be disabled, and if it is
not, it has nothing to add. -/
theorem load_again (loads : EnvironmentFile.load.runOn machine = (.ok (), loaded)) :
    EnvironmentFile.load.runOn loaded = (.ok (), loaded) := by
  rcases load_cases loads with
    rfl | ⟨content, text, environment, there, reads, decodes, applies, rfl⟩
  · exact loads
  · rw [runOn_loadEnvironment]
    simp only [there, reads, decodes, apply_again applies]
    split <;> rfl

end Loading

/-! ### Turns of a process -/

section Turns
variable {machine loaded current : Machine} {turn : Turn} {turns : List Turn}

/-- A turn that loads leaves the surroundings behind that loading makes of those it has found, and
any other leaves them as they are. -/
theorem surroundings_afterTurn (loads : EnvironmentFile.load.runOn machine = (.ok (), loaded))
    (same : SameFile machine.directory machine.files turn.files)
    (around : surroundings current = surroundings machine) :
    turn.Loads ∧ surroundings (afterTurn current turn) = surroundings loaded ∨
      ¬ turn.Loads ∧ surroundings (afterTurn current turn) = surroundings machine := by
  let found : Machine := { current with files := turn.files }
  have ran := surroundings_of_run turn.runner turn.arguments found
  cases splits : split turn.arguments with
  | error fault =>
    rw [splits] at ran
    refine .inr ⟨fun ⟨parts, known⟩ => ?_, ran.trans around⟩
    rw [splits] at known
    cases known
  | ok parts =>
    rw [splits] at ran
    have alike : SameFile machine.directory machine.files found.files := same
    have here := (load_congr alike around).2
    rw [loads] at here
    exact .inl ⟨⟨parts, splits⟩, ran.trans here⟩

/-- Behind all turns, the surroundings are the first ones as long as no turn has loaded, and the
loaded ones from then on. -/
theorem surroundings_afterTurns (loads : EnvironmentFile.load.runOn machine = (.ok (), loaded))
    (unchanged : ∀ turn ∈ turns, SameFile machine.directory machine.files turn.files) :
    (∃ turn ∈ turns, turn.Loads) ∧
        surroundings (afterTurns machine turns) = surroundings loaded ∨
      (∀ turn ∈ turns, ¬ turn.Loads) ∧
        surroundings (afterTurns machine turns) = surroundings machine := by
  induction turns using List.reverseRecOn with
  | nil => exact .inr ⟨by simp, rfl⟩
  | append_singleton turns turn ih =>
    rw [List.forall_mem_append, List.forall_mem_singleton] at unchanged
    obtain ⟨before, here⟩ := unchanged
    rw [afterTurns, List.foldl_append, List.foldl_cons, List.foldl_nil, ← afterTurns]
    rcases ih before with ⟨⟨first, member, known⟩, settled⟩ | ⟨unknown, fresh⟩
    · refine .inl ⟨⟨first, List.mem_append_left _ member, known⟩, ?_⟩
      have again := load_again loads
      obtain ⟨environment, rfl⟩ := after_of_loadEnvironment loads
      rcases surroundings_afterTurn again here settled with ⟨-, after⟩ | ⟨-, after⟩
      · exact after
      · exact after
    · rcases surroundings_afterTurn loads here fresh with ⟨known, after⟩ | ⟨other, after⟩
      · exact .inl ⟨⟨turn, by simp, known⟩, after⟩
      · refine .inr ⟨List.forall_mem_append.mpr ⟨unknown, ?_⟩, after⟩
        exact List.forall_mem_singleton.mpr other

/-- The turns of a process whose environment file loads, behind any turns before: a turn keeps every
variable that is set, also one that is empty; each variable that it adds is assigned in the file;
and once a turn has loaded the file, no later one changes the environment at all. -/
theorem turn_keeps_environment (loads : (EnvironmentFile.load.runOn machine).1 = .ok ())
    (unchanged : ∀ other ∈ turns ++ [turn], SameFile machine.directory machine.files other.files) :
    let before := (afterTurns machine turns).environment
    let after := (afterTurns machine (turns ++ [turn])).environment
    (∀ name value, before.get? name = some value → after.get? name = some value) ∧
      (∀ name, before.get? name = none → after.get? name ≠ none → Assigns machine name) ∧
      ((∃ earlier ∈ turns, earlier.Loads) → after = before) := by
  intro before after
  have loads := runOn_of_result loads
  generalize (EnvironmentFile.load.runOn machine).2 = loaded at loads
  have earlier : ∀ other ∈ turns, SameFile machine.directory machine.files other.files :=
    fun other member => unchanged other (List.mem_append_left _ member)
  have environmentOf {one other : Machine} (same : surroundings one = surroundings other) :
      one.environment = other.environment := congrArg Prod.snd same
  rcases surroundings_afterTurns loads unchanged with ⟨-, settled⟩ | ⟨unknown, still⟩
  · rcases surroundings_afterTurns loads earlier with ⟨-, settledBefore⟩ | ⟨unknown, fresh⟩
    · have same : after = before := (environmentOf settled).trans (environmentOf settledBefore).symm
      rw [same]
      exact ⟨fun _ _ => id, fun _ unset set => absurd unset set, fun _ => rfl⟩
    · have beforeIs : before = machine.environment := environmentOf fresh
      have afterIs : after = loaded.environment := environmentOf settled
      rw [beforeIs, afterIs]
      exact ⟨fun name => (keeps_and_assigns_of_load loads name).1,
        fun name => (keeps_and_assigns_of_load loads name).2,
        fun ⟨first, member, known⟩ => absurd known (unknown first member)⟩
  · rcases surroundings_afterTurns loads earlier with ⟨⟨first, member, known⟩, -⟩ | ⟨-, fresh⟩
    · exact absurd known (unknown first (List.mem_append_left _ member))
    · have same : after = before := (environmentOf still).trans (environmentOf fresh).symm
      rw [same]
      exact ⟨fun _ _ => id, fun _ unset set => absurd unset set, fun _ => rfl⟩

/-- A file that gives a name two values, with a reference to it in between, and a variable that is
set to nothing before: a command that is not known changes nothing, and the first one that is sets
what is missing. In the environment behind it the reference comes to something else, but the next
turn does not set it again. -/
theorem turn_keeps_environment_reference_in_between :
    let text : Text := "A=1\nB=$\x7bA\x7dx\nA=2\nE=3\n".toList
    let tree : FileTree := { entries := [([['w']], .directory),
      ([['w'], EnvironmentFile.fileName], .file (Utf8.encode text))] }
    let machine : Machine := { files := tree, directory := [['w']], environment := [(['E'], [])] }
    let turn (command : String) : Turn :=
      ⟨fun _ _ machine => (.finished 0 [] [], machine.files), [command.toList], tree⟩
    let loaded : Environment := [(['E'], []), (['A'], ['2']), (['B'], ['1', 'x'])]
    (afterTurns machine [turn "start"]).environment = machine.environment ∧
      (afterTurns machine [turn "start", turn "version"]).environment = loaded ∧
      loaded.get? ['E'] = some [] ∧ Assigns machine ['A'] ∧
      List.lookup ['B'] (resolve loaded (bindings text)) = some (some ['2', 'x']) ∧
      (afterTurns machine [turn "start", turn "version", turn "tokens"]).environment = loaded := by
  intro text tree machine turn loaded
  have loads : (EnvironmentFile.load.runOn machine).1 = .ok () := by decide +kernel
  have unknown : (afterTurns machine [turn "start"]).environment = machine.environment := by
    decide +kernel
  have unchanged {turns : List Turn} (given : ∀ other ∈ turns, other.files = tree) :
      ∀ other ∈ turns, SameFile machine.directory machine.files other.files := by
    intro other member
    rw [given other member]
    exact ⟨rfl, rfl⟩
  have isLoading : (turn "version").Loads := ⟨(.version, []), by decide +kernel⟩
  have known : (afterTurns machine [turn "start", turn "version"]).environment = loaded := by
    have two : ∀ other ∈ [turn "start", turn "version"], other.files = tree := by simp [turn]
    rcases surroundings_afterTurns (runOn_of_result loads) (unchanged two) with
      ⟨-, settled⟩ | ⟨other, -⟩
    · rw [(Prod.mk.inj settled).2]
      decide +kernel
    · exact absurd isLoading (other _ (by simp))
  obtain ⟨keeps, adds, -⟩ :=
    @turn_keeps_environment machine (turn "version") [turn "start"] loads
      (unchanged (by simp [turn]))
  obtain ⟨-, -, settled⟩ :=
    @turn_keeps_environment machine (turn "tokens") [turn "start", turn "version"] loads
      (unchanged (by simp [turn]))
  have knownBehind : (afterTurns machine ([turn "start"] ++ [turn "version"])).environment =
      loaded := known
  rw [unknown, knownBehind] at keeps adds
  rw [known] at settled
  exact ⟨unknown, known, keeps ['E'] [] rfl, adds ['A'] rfl (by decide), by decide +kernel,
    settled ⟨turn "version", by simp, isLoading⟩⟩

end Turns

end DebugLaunch.ProcessEnvironment
