import DebugLaunch.Proofs.OptionSources
import Mathlib.Data.List.Forall2
import Mathlib.Logic.Relation

/-! A root that is selected is kept in its absolute form, which writes out the place that it names
from the working directory. That place can be named in many ways: from the root or from the working
directory, with dots, with detours through a directory and back, with slashes doubled. A command
knows its roots from the context only, so it cannot tell which of these ways was taken. -/
namespace DebugLaunch.PathSpelling
open DebugLaunch.Action Cli FileTree PlaceWalk CommandLineRuns CommandLineSpelling OptionSources
open Place (Plain)

/-- A place as it is written, from the root. -/
def written (place : Place) : Text := '/' :: Text.join ['/'] place

/-- A path is spelled in another way from a directory: with the directory in front of it, with a dot
or a detour behind one of its components, or with a slash doubled. -/
inductive Respelled (directory : Place) : Text → Text → Prop where
  | fromDirectory {path : Text} (relative : path.head? ≠ some '/') :
      Respelled directory path (written directory ++ '/' :: path)
  | dot {front behind : Text} (component : ∃ c ∈ front.getLast?, c ≠ '/')
      (complete : ∀ c ∈ behind.head?, c = '/') :
      Respelled directory (front ++ behind) (front ++ "/.".toList ++ behind)
  | detour {front name behind : Text} (component : ∃ c ∈ front.getLast?, c ≠ '/')
      (complete : ∀ c ∈ behind.head?, c = '/') (plain : Plain name) (noNull : '\x00' ∉ name) :
      Respelled directory (front ++ behind) (front ++ '/' :: name ++ "/..".toList ++ behind)
  | slash {front behind : Text} :
      Respelled directory (front ++ '/' :: behind) (front ++ '/' :: '/' :: behind)

/-- Two paths are one path in two spellings. -/
abbrev SamePath (directory : Place) : Text → Text → Prop :=
  Relation.EqvGen (Respelled directory)

/-- Two uses of an option are the same, but for how a root is spelled. -/
def SameUse (directory : Place) (use other : Key × Text) : Prop :=
  other.1 = use.1 ∧
    if use.1 = .project ∨ use.1 = .workspace then SamePath directory use.2 other.2
    else other.2 = use.2

/-- Arguments that begin with both roots. -/
def withRoots (project workspace : Text) (rest : List Text) : List Text :=
  "-p".toList :: project :: "-w".toList :: workspace :: rest

/-! ### Places that paths name -/

section Places
variable {directory : Place} {front behind path other : Text}

theorem plain_iff {name : Text} :
    Plain name ↔ (Path.isComponent name ∧ '/' ∉ name) ∧ name ≠ ['.', '.'] := by
  constructor
  · intro plain
    exact ⟨⟨by simp [Path.isComponent, plain.something, plain.noDot], plain.noSlash⟩, plain.noUp⟩
  · rintro ⟨⟨isPart, noSlash⟩, noUp⟩
    simp only [Path.isComponent, Bool.and_eq_true, bne_iff_ne] at isPart
    exact ⟨isPart.1, isPart.2, noUp, noSlash⟩

theorem noUp_of_isPlace (isPlace : IsPlace directory) : ['.', '.'] ∉ directory :=
  fun inside => (isPlace _ inside).noUp rfl

/-- Below the root, every name of a place has a slash in front of it. -/
theorem written_of_ne_nil (below : directory ≠ []) :
    written directory = directory.flatMap ('/' :: ·) := by
  cases directory with
  | nil => exact absurd rfl below
  | cons first rest => rw [written, Text.join_cons_eq, List.flatMap_cons, List.cons_append]

theorem components_join_of_isPlace (isPlace : IsPlace directory) :
    (Path.ofText (Text.join ['/'] directory)).components = directory :=
  Path.components_join fun name inside => (plain_iff.mp (isPlace name inside)).1

theorem components_written (isPlace : IsPlace directory) :
    (Path.ofText (written directory)).components = directory := by
  rw [written, Path.components_rooted, components_join_of_isPlace isPlace]

/-- A place that is written out is the one named. -/
theorem named_written {place : Place} (isPlace : IsPlace place) (directory : Place) :
    named directory (Path.ofText (written place)) = place := by
  rw [named, components_written isPlace, start_ofText]
  exact (descend_of_no_up (noUp_of_isPlace isPlace) []).trans (List.nil_append _)

/-- The absolute form of a path writes out the place that it names. -/
theorem absolute_eq (isPlace : IsPlace directory) (path : Text) :
    absolute directory path = written (named directory (Path.ofText path)) := by
  have resolved : Path.resolve directory (Path.ofText path) =
      ⟨.root, named directory (Path.ofText path)⟩ := by
    rw [Path.resolve, named, start]
    cases (Path.ofText path).anchor with
    | relative =>
      dsimp only
      rw [collapse_eq_descend, descend_append, descend_of_no_up (noUp_of_isPlace isPlace),
        List.nil_append]
    | root => exact congrArg _ (collapse_eq_descend _)
    | doubleRoot => exact congrArg _ (collapse_eq_descend _)
  rw [absolute, resolved]
  rfl

/-- What a path names is a place, wherever it goes up. -/
theorem isPlace_named (isPlace : IsPlace directory) (path : Text) :
    IsPlace (named directory (Path.ofText path)) := by
  intro name inside
  rcases of_mem_descend inside with inside | ⟨member, noUp⟩
  · rw [start_ofText] at inside
    split at inside
    · cases inside
    · exact isPlace name inside
  · exact plain_iff.mpr ⟨Path.of_mem_components member, noUp⟩

/-- All spellings of a path name one place. -/
theorem named_respelled (isPlace : IsPlace directory) (respelled : Respelled directory path other) :
    named directory (Path.ofText other) = named directory (Path.ofText path) := by
  have head_append : ∀ {front : Text}, (∃ c ∈ front.getLast?, c ≠ '/') → ∀ rest : Text,
      (front ++ rest).head? = front.head? := by
    intro front ⟨c, last, _⟩ rest
    cases front with
    | nil => cases last
    | cons d front => rfl
  cases respelled with
  | fromDirectory relative =>
    rw [named, named, start_ofText, start_ofText, if_neg relative, Path.components_slash,
      components_written isPlace, descend_append]
    show descend (descend [] directory) _ = _
    rw [descend_of_no_up (noUp_of_isPlace isPlace), List.nil_append]
  | @dot front behind component complete =>
    have inserted : (Path.ofText "/.".toList).components = [] := by decide
    rw [named, named, start_ofText, start_ofText, List.append_assoc, head_append component,
      head_append component, ← List.append_assoc, Path.components_append complete,
      Path.components_append (by simp) front, inserted, List.append_nil,
      Path.components_append complete]
  | @detour front name behind component complete plain _ =>
    have inserted : (Path.ofText ('/' :: name ++ "/..".toList)).components =
        [name, ['.', '.']] := by
      have behindName : (Path.ofText "/..".toList).components = [['.', '.']] := by decide
      rw [Path.components_append (by simp), behindName, Path.components_rooted,
        Path.components_of_not_mem (plain_iff.mp plain).1.1 plain.noSlash]
      rfl
    have back : ∀ place : Place, descend place [name, ['.', '.']] = place := by
      intro place
      simp [descend, plain.noUp]
    rw [named, named, start_ofText, start_ofText, List.append_assoc, List.append_assoc,
      head_append component, head_append component, ← List.append_assoc, ← List.append_assoc,
      Path.components_append complete, List.append_assoc front,
      Path.components_append (by simp) front, inserted, Path.components_append complete,
      descend_append, descend_append, back, descend_append]
  | @slash front behind =>
    have head_eq : (front ++ '/' :: '/' :: behind).head? = (front ++ '/' :: behind).head? := by
      cases front <;> rfl
    rw [named, named, start_ofText, start_ofText, head_eq, Path.components_slash,
      Path.components_slash, Path.components_rooted]

end Places

/-! ### Roots that are selected -/

section Roots
variable {directory : Place} {path other : Text} {options others : Options} {key : Key}
  {environment : Environment} {context : Context}

theorem absolute_samePath (isPlace : IsPlace directory) (same : SamePath directory path other) :
    absolute directory other = absolute directory path := by
  induction same with
  | rel path other respelled =>
    rw [absolute_eq isPlace, absolute_eq isPlace, named_respelled isPlace respelled]
  | refl path => rfl
  | symm path other _ ih => exact ih.symm
  | trans path middle other _ _ first second => exact second.trans first

theorem null_not_mem_written (isUsable : IsUsable directory) :
    '\x00' ∉ written directory := by
  by_cases root : directory = []
  · subst root
    decide
  · rw [written_of_ne_nil root, List.mem_flatMap]
    rintro ⟨name, member, inside⟩
    exact isUsable name member ((List.mem_cons.mp inside).resolve_left (by decide))

/-- No spelling brings in a null character or leaves one out. -/
theorem null_mem_samePath (isUsable : IsUsable directory)
    (same : SamePath directory path other) : '\x00' ∈ other ↔ '\x00' ∈ path := by
  induction same with
  | rel path other respelled =>
    cases respelled with
    | fromDirectory _ => simp [null_not_mem_written isUsable]
    | dot _ _ => simp
    | detour _ _ _ clean => simp [clean]
    | slash => simp
  | refl path => rfl
  | symm path other _ ih => exact ih.symm
  | trans path middle other _ _ first second => exact second.trans first

theorem sameUse_refl (use : Key × Text) : SameUse directory use use := by
  refine ⟨rfl, ?_⟩
  split
  · exact .refl _
  · rfl

theorem lookup_sameUses (same : List.Forall₂ (SameUse directory) options others) (key : Key) :
    options.lookup key = none ∧ others.lookup key = none ∨
      ∃ value other, options.lookup key = some value ∧ others.lookup key = some other ∧
        SameUse directory (key, value) (key, other) := by
  induction same with
  | nil => exact .inl ⟨rfl, rfl⟩
  | @cons use other rest more first _ ih =>
    obtain ⟨_, value⟩ := use
    obtain ⟨used, otherValue⟩ := other
    obtain ⟨rfl, values⟩ := first
    rw [List.lookup_cons, List.lookup_cons]
    cases here : key == used with
    | true =>
      obtain rfl : key = used := beq_iff_eq.mp here
      exact .inr ⟨value, otherValue, rfl, rfl, rfl, values⟩
    | false => exact ih

theorem lookup_of_no_root (same : List.Forall₂ (SameUse directory) options others)
    (noRoot : ¬ (key = .project ∨ key = .workspace)) : others.lookup key = options.lookup key := by
  rcases lookup_sameUses same key with ⟨unused, otherUnused⟩ | ⟨_, _, used, otherUsed, _, values⟩
  · rw [unused, otherUnused]
  · rw [if_neg noRoot] at values
    rw [used, otherUsed]
    exact congrArg some values

/-- The values of a root are one path in two spellings, or neither is given. -/
theorem value?_of_root (same : List.Forall₂ (SameUse directory) options others)
    (isRoot : key = .project ∨ key = .workspace) (environment : Environment) :
    value? environment options key = none ∧ value? environment others key = none ∨
      ∃ path other, value? environment options key = some path ∧
        value? environment others key = some other ∧ SamePath directory path other := by
  rcases lookup_sameUses same key with
    ⟨unused, otherUnused⟩ | ⟨path, other, used, otherUsed, _, values⟩
  · have instead : value? environment others key = value? environment options key := by
      rw [value?, value?, unused, otherUnused]
    cases given : value? environment options key with
    | none => exact .inl ⟨rfl, instead.trans given⟩
    | some path => exact .inr ⟨path, path, rfl, instead.trans given, .refl _⟩
  · rw [if_pos isRoot] at values
    exact .inr ⟨path, other, by rw [value?, used], by rw [value?, otherUsed], values⟩

theorem selected?_sameUses (isPlace : IsPlace directory)
    (same : List.Forall₂ (SameUse directory) options others) (environment : Environment) :
    selected? directory environment others = selected? directory environment options := by
  have project : (value? environment others .project).map (absolute directory) =
      (value? environment options .project).map (absolute directory) := by
    rcases value?_of_root same (.inl rfl) environment with
      ⟨none, otherNone⟩ | ⟨path, other, given, otherGiven, paths⟩
    · rw [none, otherNone]
    · rw [given, otherGiven, Option.map_some, Option.map_some, absolute_samePath isPlace paths]
  have workspace : absolute directory ((value? environment others .workspace).getD []) =
      absolute directory ((value? environment options .workspace).getD []) := by
    rcases value?_of_root same (.inr rfl) environment with
      ⟨none, otherNone⟩ | ⟨path, other, given, otherGiven, paths⟩
    · rw [none, otherNone]
    · rw [given, otherGiven]
      exact absolute_samePath isPlace paths
  rw [selected?, selected?, project, workspace, lookup_of_no_root same (by decide)]

theorem hasNullPath_sameUses (isUsable : IsUsable directory)
    (same : List.Forall₂ (SameUse directory) options others) (environment : Environment)
    (keys : List Key) :
    hasNullPath environment keys others = hasNullPath environment keys options := by
  have each : ∀ key : Key,
      (value? environment others key).any (fun path => path.contains '\x00') =
        (value? environment options key).any fun path => path.contains '\x00' := by
    intro key
    by_cases isRoot : key = .project ∨ key = .workspace
    · rcases value?_of_root same isRoot environment with
        ⟨none, otherNone⟩ | ⟨path, other, given, otherGiven, paths⟩
      · rw [none, otherNone]
      · rw [given, otherGiven, Option.any_some, Option.any_some, Bool.eq_iff_iff,
          List.contains_iff_mem, List.contains_iff_mem]
        exact null_mem_samePath isUsable paths
    · rw [value?_congr (lookup_of_no_root same isRoot)]
  rw [hasNullPath, hasNullPath, funext each]

/-- Both roots of a context that is selected write out places. -/
theorem roots_of_selected (isPlace : IsPlace directory)
    (selects : selected? directory environment options = some context) :
    ∃ project workspace, IsPlace project ∧ IsPlace workspace ∧
      context.projectRoot = written project ∧ context.workspaceRoot = written workspace := by
  rw [selected?_eq_map] at selects
  obtain ⟨project, _, rfl⟩ := Option.map_eq_some_iff.mp selects
  exact ⟨_, _, isPlace_named isPlace _, isPlace_named isPlace _, absolute_eq isPlace project,
    absolute_eq isPlace _⟩

end Roots

/-! ### Commands and their arguments -/

section Commands
variable {runner : Runner} {machine : Machine} {command : Command} {options others : Options}

/-- A command cannot tell how its roots are spelled. -/
theorem runOn_perform_sameUses (runner : Runner) (command : Command) (machine : Machine)
    (same : List.Forall₂ (SameUse machine.directory) options others) :
    (perform runner command others).runOn machine =
      (perform runner command options).runOn machine := by
  by_cases selects : command ≠ .version ∧ command ≠ .info
  · obtain ⟨work, works⟩ := exists_work runner options selects
    have alike : AlikeButRoots options others := fun key noProject noWorkspace =>
      lookup_of_no_root same (not_or.mpr ⟨noProject, noWorkspace⟩)
    rw [works others alike, works options fun _ _ _ => rfl, runOn_withContext, runOn_withContext,
      selected?_sameUses machine.isPlace same]
  · cases command <;> first | rfl | exact absurd (by decide) selects

theorem runOn_run_sameUses {arguments other : List Text} {given otherGiven : Arguments}
    (reads : Reads arguments command given)
    (otherReads : Reads other command otherGiven) (extra : otherGiven.extra = given.extra)
    (same : List.Forall₂ (SameUse machine.directory) given.options otherGiven.options)
    (runner : Runner) :
    (run runner other).runOn machine = (run runner arguments).runOn machine := by
  rw [runOn_run reads, runOn_run otherReads]
  rcases loads : EnvironmentFile.load.runOn machine with ⟨fault | _, middle⟩
  · rfl
  · obtain ⟨environment, rfl⟩ := after_of_loadEnvironment loads
    dsimp only
    rw [hasNullPath_sameUses machine.isUsable same, extra,
      runOn_perform_sameUses runner command { machine with environment } same]

/-! What was read before stays behind what is read. -/

variable {keys : List Key} {base : Options}

theorem readLetters_behind (keys : List Key) (options base : Options) (letters : Text) :
    readLetters keys (options ++ base) letters =
      (readLetters keys options letters).map fun found => (found.1 ++ base, found.2) := by
  induction letters generalizing options with
  | nil => rfl
  | cons c rest ih =>
    rw [readLetters, readLetters]
    cases keys.find? fun key => key.short? = some c with
    | none => rfl
    | some key =>
      dsimp only
      split
      · exact ih ((key, []) :: options)
      · split <;> rfl

theorem readOption_behind (keys : List Key) (options base : Options) (argument : Text) :
    readOption keys (options ++ base) argument =
      (readOption keys options argument).map fun found => (found.1 ++ base, found.2) := by
  unfold readOption
  dsimp only
  split
  · split <;> rfl
  · split
    · rfl
    · exact readLetters_behind keys options base _

theorem readFrom_behind (keys : List Key) (base : Options) (given : Arguments)
    (arguments : List Text) :
    readFrom keys { given with options := given.options ++ base } arguments =
      (readFrom keys given arguments).map fun read =>
        { read with options := read.options ++ base } := by
  fun_induction readFrom keys given arguments with
  | case1 => rfl
  | case2 => simp [readFrom, Except.map]
  | case3 given argument rest other dash cause option =>
    rw [readFrom, if_neg other, if_pos dash, readOption_behind, option]
    rfl
  | case4 given argument rest other dash options option ih =>
    rw [readFrom, if_neg other, if_pos dash, readOption_behind, option]
    exact ih
  | case5 given argument other dash options key option =>
    rw [readFrom, if_neg other, if_pos dash, readOption_behind, option]
    rfl
  | case6 given argument other dash options key option value rest ih =>
    rw [readFrom, if_neg other, if_pos dash, readOption_behind, option]
    exact ih
  | case7 given argument rest other noDash ih =>
    rw [readFrom, if_neg other, if_neg noDash]
    exact ih

/-- Roots do not ask for help. -/
private theorem has_help_append_roots (options : Options) (project workspace : Text) :
    has (options ++ [(.workspace, workspace), (.project, project)]) .help =
      has options .help := by
  rw [has, has, List.lookup_append]
  cases options.lookup .help <;> rfl

/-- The roots are read first, and so they stand behind all that follows. -/
theorem read_withRoots (selects : command ≠ .version ∧ command ≠ .info)
    (project workspace : Text) (rest : List Text) :
    read command (withRoots project workspace rest) =
      (read command rest).map fun given => { given with
        options := given.options ++ [(.workspace, workspace), (.project, project)] } := by
  have behind := readFrom_behind (.help :: command.keys)
    [(.workspace, workspace), (.project, project)] {} rest
  have reads : readFrom (.help :: command.keys) {} (withRoots project workspace rest) =
      readFrom (.help :: command.keys) ⟨[(.workspace, workspace), (.project, project)], false⟩
        rest := by
    cases command with
    | version => exact absurd rfl selects.1
    | info => exact absurd rfl selects.2
    | _ => rfl
  rw [Cli.read, Cli.read, reads.trans behind]
  cases readFrom (.help :: command.keys) {} rest with
  | error cause => rfl
  | ok given =>
    dsimp only [Except.map]
    rw [has_help_append_roots]
    split <;> rfl

/-- A command without roots takes none. -/
theorem read_withRoots_of_none (selectsNone : ¬ (command ≠ .version ∧ command ≠ .info))
    (project workspace : Text) (rest : List Text) :
    read command (withRoots project workspace rest) = .error .unknownOption := by
  cases command with
  | version | info => rfl
  | _ => exact absurd (by decide) selectsNone

/-- In front of a command roots are no options, so it does not matter what they are. -/
private theorem askHelp_withRoots {first : Text} (closed : first ≠ ['-', '-'])
    (dash : isOption first = true) (rest : List Text) : ∃ cause, ∀ project workspace,
      askHelp (first :: withRoots project workspace rest) = cause := by
  have isOpen : ¬ (decide (first = ['-', '-']) || !isOption first) = true := by
    simp [closed, dash]
  cases option : readOption [.help] [] first with
  | ok _ =>
    refine ⟨.unknownOption, fun project workspace => ?_⟩
    rw [askHelp, if_neg isOpen, option]
    rfl
  | error cause =>
    refine ⟨cause, fun project workspace => ?_⟩
    rw [askHelp, if_neg isOpen, option]

theorem split_withRoots {first : Text} (noName : ∀ command : Command, command.name ≠ first)
    (rest : List Text) : ∃ cause, ∀ project workspace,
      Cli.split (first :: withRoots project workspace rest) = .error cause := by
  have unknown : Command.ofName? first = none := by
    cases named : Command.ofName? first with
    | none => rfl
    | some command => exact absurd (ofName?_eq_some_iff.mp named) (noName command)
  by_cases closed : first = ['-', '-']
  · subst closed
    exact ⟨.unknownCommand, fun _ _ => rfl⟩
  · by_cases dash : isOption first = true
    · obtain ⟨cause, asks⟩ := askHelp_withRoots closed dash rest
      refine ⟨cause, fun project workspace => ?_⟩
      unfold Cli.split
      dsimp only
      rw [if_neg closed, if_pos dash, asks]
    · refine ⟨.unknownCommand, fun _ _ => ?_⟩
      unfold Cli.split
      dsimp only
      rw [if_neg closed, if_neg dash, Cli.split.named, unknown]

theorem run_of_misread {arguments rest : List Text} {cause : UsageEnd}
    (splits : Cli.split arguments = .ok (command, rest)) (fails : read command rest = .error cause)
    (runner : Runner) :
    run runner arguments = (do EnvironmentFile.load; return .usage cause) := by
  rw [run, splits]
  dsimp only
  rw [fails]

theorem runOn_withRoots {project otherProject workspace otherWorkspace : Text}
    (projects : SamePath machine.directory project otherProject)
    (workspaces : SamePath machine.directory workspace otherWorkspace) (runner : Runner)
    (first : Text) (rest : List Text) :
    (run runner (first :: withRoots otherProject otherWorkspace rest)).runOn machine =
      (run runner (first :: withRoots project workspace rest)).runOn machine := by
  -- The same line is refused for the same reason, whatever its roots are, so that only one that is
  -- read has roots to compare.
  by_cases named : ∃ command : Command, command.name = first
  · obtain ⟨command, rfl⟩ := named
    have splits : ∀ project workspace,
        Cli.split (command.name :: withRoots project workspace rest) =
          .ok (command, withRoots project workspace rest) :=
      fun _ _ => split_iff.mpr (.inl rfl)
    by_cases selects : command ≠ .version ∧ command ≠ .info
    · cases reads : read command rest with
      | error cause =>
        have fails : ∀ project workspace,
            read command (withRoots project workspace rest) = .error cause := by
          intro project workspace
          rw [read_withRoots selects, reads]
          rfl
        rw [run_of_misread (splits _ _) (fails _ _), run_of_misread (splits _ _) (fails _ _)]
      | ok given =>
        have succeeds : ∀ project workspace,
            Reads (command.name :: withRoots project workspace rest) command { given with
              options := given.options ++ [(.workspace, workspace), (.project, project)] } := by
          intro project workspace
          refine ⟨_, splits _ _, ?_⟩
          rw [read_withRoots selects, reads]
          rfl
        refine runOn_run_sameUses (succeeds project workspace)
          (succeeds otherProject otherWorkspace) rfl ?_ runner
        exact List.rel_append (List.forall₂_same.mpr fun use _ => sameUse_refl use)
          (.cons ⟨rfl, workspaces⟩ (.cons ⟨rfl, projects⟩ .nil))
    · have fails := read_withRoots_of_none selects
      rw [run_of_misread (splits _ _) (fails ..), run_of_misread (splits _ _) (fails ..)]
  · rw [not_exists] at named
    obtain ⟨cause, fails⟩ := split_withRoots named rest
    rw [run, run, fails, fails]

end Commands

/-- However the roots of a command are spelled, a run of it is the same: it ends alike, and leaves
the same output and the same files. That holds for all arguments that are read alike but for the
spelling of their roots, and so for a line that begins with its roots, whatever stands behind them.
The roots that a command is given are always written out: they are absolute, and none of their
components is empty or a dot or goes up. -/
theorem run_of_respelled_roots (machine : Machine) (runner : Runner) :
    (∀ project otherProject workspace otherWorkspace : Text,
      SamePath machine.directory project otherProject →
      SamePath machine.directory workspace otherWorkspace → ∀ (first : Text) (rest : List Text),
        (run runner (first :: withRoots otherProject otherWorkspace rest)).runOn machine =
          (run runner (first :: withRoots project workspace rest)).runOn machine) ∧
      (∀ (command : Command) (arguments other : List Text) (given otherGiven : Arguments),
        Reads arguments command given → Reads other command otherGiven →
        otherGiven.extra = given.extra →
        List.Forall₂ (SameUse machine.directory) given.options otherGiven.options →
          (run runner other).runOn machine = (run runner arguments).runOn machine) ∧
      ∀ (environment : Environment) (options : Options) (context : Context),
        selected? machine.directory environment options = some context →
        ∃ project workspace, IsPlace project ∧ IsPlace workspace ∧
          context.projectRoot = written project ∧ context.workspaceRoot = written workspace :=
  ⟨fun _ _ _ _ projects workspaces => runOn_withRoots projects workspaces runner,
    fun _ _ _ _ _ reads otherReads extra same =>
      runOn_run_sameUses reads otherReads extra same runner,
    fun _ _ _ => roots_of_selected machine.isPlace⟩

/-- A project from the root with a slash too many and a detour through a directory that is not
there, and a workspace with two dots. -/
theorem run_of_respelled_roots_detour :
    let tree : FileTree := { entries := [([['w']], .directory),
      ([['w'], LaunchFile.fileName], .file (Utf8.encode "%root% %projDir%".toList))] }
    let machine : Machine := { files := tree, directory := [['w']] }
    let runner : Runner := fun _ _ machine => (.waitTooLong, machine.files)
    let ran (arguments : List String) := (run runner (arguments.map String.toList)).runOn machine
    SamePath machine.directory "p".toList "/w//p/x/..".toList ∧
      SamePath machine.directory ".".toList "/w/./.".toList ∧
      ran ["resolve", "-p", "/w//p/x/..", "-w", "/w/./."] = ran ["resolve", "-p", "p", "-w", "."] ∧
      ran ["resolve", "--project=/w//p/x/..", "-w/w/./."] = ran ["resolve", "-p", "p", "-w", "."] ∧
      (ran ["resolve", "-p", "p", "-w", "."]).2.output = "/w /w/p".toList ∧
      ∃ context project workspace,
        selected? machine.directory [] [(.project, "../../x/../p".toList)] = some context ∧
        IsPlace project ∧ IsPlace workspace ∧ context.projectRoot = written project ∧
        context.workspaceRoot = written workspace := by
  intro tree machine runner ran
  have projects : SamePath machine.directory "p".toList "/w//p/x/..".toList := by
    have fromDirectory : Respelled machine.directory "p".toList "/w/p".toList :=
      .fromDirectory (by decide)
    have slash : Respelled machine.directory "/w/p".toList "/w//p".toList :=
      @Respelled.slash _ "/w".toList ['p']
    have detour : Respelled machine.directory "/w//p".toList "/w//p/x/..".toList :=
      @Respelled.detour _ "/w//p".toList ['x'] [] ⟨'p', rfl, by decide⟩ (by simp)
        (by decide) (by decide)
    exact .trans _ _ _ (.rel _ _ fromDirectory) (.trans _ _ _ (.rel _ _ slash) (.rel _ _ detour))
  have workspaces : SamePath machine.directory ".".toList "/w/./.".toList := by
    have fromDirectory : Respelled machine.directory ".".toList "/w/.".toList :=
      .fromDirectory (by decide)
    have dot : Respelled machine.directory "/w/.".toList "/w/./.".toList :=
      @Respelled.dot _ "/w/.".toList [] ⟨'.', rfl, by decide⟩ (by simp)
    exact .trans _ _ _ (.rel _ _ fromDirectory) (.rel _ _ dot)
  obtain ⟨lines, readings, roots⟩ := run_of_respelled_roots machine runner
  have line := lines _ _ _ _ projects workspaces "resolve".toList []
  have reads : Reads ("resolve".toList :: ["-p", "p", "-w", "."].map String.toList) .resolve
      ⟨[(.workspace, ".".toList), (.project, "p".toList)], false⟩ :=
    ⟨["-p", "p", "-w", "."].map String.toList, by decide +kernel, by decide +kernel⟩
  have otherReads : Reads ("resolve".toList ::
      ["--project=/w//p/x/..", "-w/w/./."].map String.toList) .resolve
      ⟨[(.workspace, "/w/./.".toList), (.project, "/w//p/x/..".toList)], false⟩ :=
    ⟨["--project=/w//p/x/..", "-w/w/./."].map String.toList, by decide +kernel, by decide +kernel⟩
  have reading := readings _ _ _ _ _ reads otherReads rfl
    (.cons ⟨rfl, workspaces⟩ (.cons ⟨rfl, projects⟩ .nil))
  obtain ⟨context, selects⟩ : ∃ context,
      selected? machine.directory [] [(.project, "../../x/../p".toList)] = some context := ⟨_, rfl⟩
  obtain ⟨project, workspace, shape⟩ := roots _ _ context selects
  exact ⟨projects, workspaces, line, reading, by decide +kernel, context, project,
    workspace, selects, shape⟩

end DebugLaunch.PathSpelling
