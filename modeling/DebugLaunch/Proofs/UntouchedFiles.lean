import DebugLaunch.Proofs.LaunchStart

/-! Command lines that leave the files as they are. Only a launch writes, and nothing of it before
the text of its template has been read: selecting a project, loading the settings and looking for
the template do no more than print, whether or not they succeed. So a run that has touched the files
is known to have come that far, and one that ends before, reported or not, has made no directory on
the way to an output that it does not write. -/
namespace DebugLaunch.UntouchedFiles
open DebugLaunch.Action Cli LaunchFile LaunchFileSearch PreparedFile CommandLineRuns LaunchStart

/-- A launch ends before its output: no project is selected, the settings cannot be loaded for
whatever fault, or no template is found. -/
inductive EndsEarly (options : Options) (machine : Machine) : Prop where
  | selection (selects : selected? machine.directory machine.environment options = none)
  | settings {context : Context} {fault : Fault} {after : Machine}
      (selects : selected? machine.directory machine.environment options = some context)
      (fails : (Settings.load (messages machine.screen options) context.workspaceRoot).runOn
        machine = (.error fault, after))
  | template {context : Context} {settings : Settings} {found : Except Fault (Option Path)}
      {loaded located : Machine}
      (selects : selected? machine.directory machine.environment options = some context)
      (loads : (Settings.load (messages machine.screen options) context.workspaceRoot).runOn
        machine = (.ok settings, loaded))
      (searches : (find (messages machine.screen options) context.workspaceRoot
        context.projectRoot).runOn loaded = (found, located))
      (nothing : ∀ path, found ≠ .ok (some path))

/-- A launch comes to its output: a project is selected, its settings are loaded, and its template
is found and read. -/
inductive ComesToOutput (options : Options) (machine : Machine) : Prop where
  | reads {context : Context} {settings : Settings} {text : Text} {loaded located : Machine}
      (selects : selected? machine.directory machine.environment options = some context)
      (loads : (Settings.load (messages machine.screen options) context.workspaceRoot).runOn
        machine = (.ok settings, loaded))
      (templated : (template (messages machine.screen options) context).runOn loaded =
        (.ok text, located))

/-- A command line comes to an output: it is one of `launch`, its environment file is loaded, its
arguments can be used, and the launch comes to its output then. -/
inductive Touches (arguments : List Text) (machine : Machine) : Prop where
  | launch {given : Arguments} {environment : Environment}
      (reads : Reads arguments .launch given)
      (loads : EnvironmentFile.load.runOn machine = (.ok (), { machine with environment }))
      (paths : ¬ hasNullPath environment Command.launch.keys given.options)
      (expected : ¬ given.extra)
      (comes : ComesToOutput given.options { machine with environment })

/-! ### A launch -/

section Launching
variable {options : Options} {context : Context} {machine : Machine}

theorem keeps_files_of_onlyPrints {α : Type} {action : Action α} (prints : OnlyPrints action) :
    Keeps Machine.files action :=
  keeps_of_onlyPrints prints fun _ _ => rfl

/-- A launch that ends early does not come to its output. -/
theorem not_comesToOutput_of_endsEarly (early : EndsEarly options machine) :
    ¬ ComesToOutput options machine := by
  rintro ⟨selects, loads, templated⟩
  cases early with
  | selection nothing =>
    rw [nothing] at selects
    cases selects
  | settings selectsOther fails =>
    cases selects.symm.trans selectsOther
    rw [loads] at fails
    cases fails
  | template selectsOther loadsOther searches nothing =>
    cases selects.symm.trans selectsOther
    cases loads.symm.trans loadsOther
    obtain ⟨found, middle, finds, reads⟩ := bind_ok templated
    cases searches.symm.trans finds
    cases found with
    | none => cases reads
    | some path => exact nothing path rfl

/-- Where the settings are not loaded or the template is not read, preparing fails, and has only
printed. -/
theorem preparing_of_not_comesToOutput
    (selects : selected? machine.directory machine.environment options = some context)
    (stops : ¬ ComesToOutput options machine) :
    ∃ fault after, (preparing (messages machine.screen options) context).runOn machine =
      (.error fault, after) ∧ after.files = machine.files := by
  rw [preparing, runOn_bind]
  rcases loads : (Settings.load (messages machine.screen options) context.workspaceRoot).runOn
      machine with ⟨fault | settings, loaded⟩
  · exact ⟨fault, loaded, rfl,
      after_of_keeps (keeps_files_of_onlyPrints (onlyPrints_loadSettings _ _)) loads⟩
  · have same := after_of_keeps (keeps_files_of_onlyPrints (onlyPrints_loadSettings _ _)) loads
    dsimp only
    rw [runOn_bind, runOn_prepare, prepareWith_eq, runOn_bind]
    rcases templated : (template (messages machine.screen options) context).runOn loaded with
      ⟨fault | text, located⟩
    · have still := after_of_keeps (keeps_files_of_onlyPrints (onlyPrints_template _ _)) templated
      exact ⟨fault, located, rfl, still.trans same⟩
    · -- only behind the text of the template anything is written
      exact absurd (.reads selects loads templated) stops

/-- A launch that does not come to its output ends in a report or a fault, on files as they were. -/
theorem runOn_launch_of_not_comesToOutput (stops : ¬ ComesToOutput options machine)
    (runner : Runner) : ∃ before, before.files = machine.files ∧
      ((∃ message, (launch runner options).runOn machine = (report message).runOn before) ∨
        ∃ fault, (launch runner options).runOn machine = (.error fault, before)) := by
  cases selects : selected? machine.directory machine.environment options with
  | none =>
    rw [launch_eq, runOn_withContext, selects]
    exact ⟨machine, rfl, .inl ⟨_, rfl⟩⟩
  | some context =>
    obtain ⟨fault, after, ran, same⟩ := preparing_of_not_comesToOutput selects stops
    refine ⟨after, same, ?_⟩
    rw [runOn_launch selects, runOn_orReport, ran]
    by_cases expected : isExpected fault
    · exact .inl ⟨fault.message after.manual, if_pos expected⟩
    · exact .inr ⟨fault, if_neg expected⟩

/-- So it leaves the files as they are, and has no success. -/
theorem launch_of_not_comesToOutput (stops : ¬ ComesToOutput options machine) (runner : Runner) :
    ((launch runner options).runOn machine).2.files = machine.files ∧
      ((launch runner options).runOn machine).1 ≠ .ok .success := by
  obtain ⟨before, same, ⟨message, ran⟩ | ⟨fault, ran⟩⟩ :=
    runOn_launch_of_not_comesToOutput stops runner
  · rw [ran]
    refine ⟨(keeps_files_of_onlyPrints (onlyPrints_report message) before).trans same, ?_⟩
    exact fun ends => not_success_of_report (runOn_of_result ends)
  · rw [ran]
    exact ⟨same, by simp⟩

end Launching

/-! ### The whole command line -/

/-- Files that have changed were changed by a launch that came to its output. -/
theorem touches_of_changed {runner : Runner} {arguments : List Text} {machine : Machine}
    (changed : ((run runner arguments).runOn machine).2.files ≠ machine.files) :
    Touches arguments machine := by
  by_contra stops
  apply changed
  by_cases unread : ∃ command given, Reads arguments command given
  · obtain ⟨command, given, reads⟩ := unread
    rw [runOn_run reads]
    rcases loads : EnvironmentFile.load.runOn machine with ⟨fault | _, middle⟩
    · exact after_of_keeps (keeps_loadEnvironment fun _ _ => rfl) loads
    · obtain ⟨environment, rfl⟩ := after_of_loadEnvironment loads
      dsimp only
      by_cases null : hasNullPath environment command.keys given.options
      · rw [if_pos null]
      · rw [if_neg null]
        by_cases extra : given.extra
        · rw [if_pos extra]
        · rw [if_neg extra]
          by_cases launches : command = .launch
          · subst launches
            have before : ¬ ComesToOutput given.options { machine with environment } :=
              fun comes => stops (.launch reads loads null extra comes)
            exact (launch_of_not_comesToOutput before runner).1
          · -- no other command does more than print
            exact keeps_files_of_onlyPrints (onlyPrints_perform launches runner _) _
  · exact keeps_of_unread (fun _ _ => rfl) unread runner machine

/-- A launch that ends early has no success. -/
theorem not_success_of_endsEarly {arguments : List Text} {given : Arguments} {machine : Machine}
    {environment : Environment} (reads : Reads arguments .launch given)
    (loads : EnvironmentFile.load.runOn machine = (.ok (), { machine with environment }))
    (early : EndsEarly given.options { machine with environment }) (runner : Runner) :
    ((run runner arguments).runOn machine).1 ≠ .ok .success := by
  rw [runOn_run reads, loads]
  dsimp only
  split
  · simp
  · split
    · simp
    · exact (launch_of_not_comesToOutput (not_comesToOutput_of_endsEarly early) runner).2

/-- For every command line and every machine: all commands but `launch` leave the files as they are,
and so does a launch without a selected project, one whose settings cannot be loaded for whatever
fault, and one without a template, none of which has success. What changes the files is a launch
that has come to its output. -/
theorem only_launch_touches_files (runner : Runner) (arguments : List Text) (machine : Machine) :
    let ran := (run runner arguments).runOn machine
    ((∀ rest, split arguments ≠ .ok (.launch, rest)) → ran.2.files = machine.files) ∧
      (∀ given environment, Reads arguments .launch given →
        EnvironmentFile.load.runOn machine = (.ok (), { machine with environment }) →
        EndsEarly given.options { machine with environment } →
          ran.2.files = machine.files ∧ ran.1 ≠ .ok .success) ∧
      (ran.2.files ≠ machine.files → Touches arguments machine) := by
  intro ran
  refine ⟨fun other => ?other, fun given environment reads loads early => ?early,
    touches_of_changed⟩
  case other =>
    by_contra changed
    obtain ⟨⟨rest, splits, _⟩, _⟩ := touches_of_changed changed
    exact other rest splits
  case early =>
    refine ⟨?_, not_success_of_endsEarly reads loads early runner⟩
    by_contra changed
    obtain ⟨readsOther, loadsOther, _, _, comes⟩ := touches_of_changed changed
    obtain ⟨_, rfl⟩ := reads_unique reads readsOther
    cases loads.symm.trans loadsOther
    exact not_comesToOutput_of_endsEarly early comes

/-- A project that is not there, in a workspace without a template and in one whose settings have a
key that is no text: launching it makes neither its directory nor one for its output, and asking for
its template does not either. Where there are a template and no settings the launch makes both. -/
theorem only_launch_touches_files_of_missing_project :
    let bare : Machine := { files := { entries := [([['w']], .directory)] }, directory := [] }
    let ready : Machine := { bare with
      files := { entries := bare.files.entries ++ [([['w'], fileName], .file [])] } }
    let stray : Machine := { bare with
      files := { entries := ready.files.entries ++
        [([['w'], Settings.fileName], .file (Utf8.encode "1: 2".toList))] } }
    let runner : Runner := fun _ _ machine => (.finished 0 [] [], machine.files)
    let line (command : String) : List Text :=
      [command, "-p", "/w/p", "-w", "/w", "-q"].map String.toList
    let output : Place := [['w'], ['p'], outputName]
    ((run runner (line "launch")).runOn bare).2.files = bare.files ∧
      ((run runner (line "launch")).runOn stray).2.files = stray.files ∧
      ((run runner (line "locate")).runOn ready).2.files = ready.files ∧
      (∀ files ∈ [bare.files, stray.files, ready.files],
        files.lookup? output.dropLast = none ∧ files.lookup? output = none) ∧
      ((run runner (line "launch")).runOn ready).2.files.lookup? output = some .directory ∧
      Touches (line "launch") ready := by
  intro bare ready stray runner line output
  let options : Options := [(.quiet, []), (.workspace, "/w".toList), (.project, "/w/p".toList)]
  let context : Context := ⟨"/w".toList, "/w/p".toList, "/w".toList, "/w/p".toList, ['p']⟩
  have reads : Reads (line "launch") .launch ⟨options, false⟩ := ⟨_, rfl, rfl⟩
  have selects : selected? [] [] options = some context := by decide +kernel
  have withoutTemplate : EndsEarly options bare :=
    .template selects (runOn_of_result (by decide +kernel : _ = Except.ok ⟨[], 30⟩))
      (runOn_of_result (by decide +kernel : _ = Except.ok none)) (by simp)
  have withStrayKey : EndsEarly options stray :=
    .settings selects (runOn_of_result (by decide +kernel : _ = Except.error Fault.keyNotText))
  have bareLoads : EnvironmentFile.load.runOn bare = (.ok (), bare) := runOn_of_result rfl
  have strayLoads : EnvironmentFile.load.runOn stray = (.ok (), stray) := runOn_of_result rfl
  have bareStays := (only_launch_touches_files runner (line "launch") bare).2.1 _ [] reads
    bareLoads withoutTemplate
  have strayStays := (only_launch_touches_files runner (line "launch") stray).2.1 _ [] reads
    strayLoads withStrayKey
  have readyStays := (only_launch_touches_files runner (line "locate") ready).1
    fun rest splits => by cases congrArg (Except.map Prod.fst) splits
  have made : ((run runner (line "launch")).runOn ready).2.files.lookup? output =
      some .directory := by decide +kernel
  have missing : ∀ files ∈ [bare.files, stray.files, ready.files],
      files.lookup? output.dropLast = none ∧ files.lookup? output = none := by decide +kernel
  refine ⟨bareStays.1, strayStays.1, readyStays, missing, made, ?_⟩
  apply (only_launch_touches_files runner (line "launch") ready).2.2
  intro same
  rw [same, (missing _ (by simp)).2] at made
  cases made

end DebugLaunch.UntouchedFiles
