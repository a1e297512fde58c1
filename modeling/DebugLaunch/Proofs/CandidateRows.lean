import DebugLaunch.Proofs.Diagnostics
import DebugLaunch.Proofs.OptionSources
import DebugLaunch.Proofs.PrintedTables
import DebugLaunch.Proofs.PrintedTemplate

/-! The listing of the candidates asks for all three of them, while a search stops at the first
file. Where the listing comes to its end, the search has an answer for each path that it asks for,
and each of its lines can be shown since the path in it has been shown in the table. So the search
ends at the first row that is marked, and all that looks for a template goes on from there. -/
namespace DebugLaunch.CandidateRows
open DebugLaunch.Action Cli LaunchFile LaunchFileSearch MarkupTags VerbatimMarkup PrintedTables
  PlaceWalk CommandLineRuns PreparedFile Diagnostics OptionSources

/-- The rows of some paths, each with a mark that says whether it is there. -/
def markedRows (paths : List Path) (marks : List Bool) : List (List Text) :=
  (paths.zip marks).mapIdx fun index (path, present) => candidateRow (index + 1) path present

/-- Prints the table of some rows. -/
def printRows (rows : List (List Text)) : Action Unit :=
  printTable "Candidatos".toList
    [(['#'], some 3), ("Ruta".toList, none), ("Existe".toList, none)] rows

/-- Lists the candidates of a context. -/
def listing (context : Context) : Action Exit := do
  let found ← (candidates context.workspaceRoot context.projectRoot).mapM isFile
  printRows (markedRows (candidates context.workspaceRoot context.projectRoot) found)
  return .success

/-- The path of the first row that is marked. -/
def firstMarked (paths : List Path) (marks : List Bool) : Option Path :=
  ((paths.zip marks).find? Prod.snd).map Prod.fst

/-- Each path has been asked for, and this is the answer. -/
def Answered (tree : FileTree) (directory : Place) (paths : List Path) (marks : List Bool) : Prop :=
  List.Forall₂ (fun path mark => tree.isFile directory path = .ok mark) paths marks

/-- What is left to do once the template of a context is found. -/
def prepareFrom (console : Option Console) (environment : Environment) (context : Context)
    (path : Path) : Action Path := do
  let text ← readTemplate path
  let target ← write context.projectRoot (context.resolve .dollar environment text)
  say console (wroteLine target)
  return target

/-- Prints the resolved text of a template that is found, or reports why it cannot be read. -/
def resolveFrom (context : Context) (path : Path) : Action Exit :=
  orReport isExpected (readTemplate path) fun text => do
    printPlain (context.resolve .dollar (← ask Machine.environment) text)
    return .success

/-- Contexts have the same roots. -/
def SameRoots (context other : Context) : Prop :=
  other.workspaceRoot = context.workspaceRoot ∧ other.projectRoot = context.projectRoot

/-- Everything that looks for the template of a context takes a path for it. -/
structure TakesFile (machine : Machine) (context : Context) (path : Path) : Prop where
  finds : ∀ console, ∃ output,
    (find console context.workspaceRoot context.projectRoot).runOn machine =
      (.ok (some path), { machine with output })
  prepares : ∀ console environment, ∃ output,
    (prepareWith console environment context).runOn machine =
      (prepareFrom console environment context path).runOn { machine with output }
  locates : ∀ options,
    selected? machine.directory machine.environment options = some context → ∃ output,
      (locate options).runOn machine =
        (.ok .success, { machine with output := output ++ plainText (path.toText ++ ['\n']) })
  resolves : ∀ options,
    selected? machine.directory machine.environment options = some context →
      options.lookup .template = none →
        (resolve options).runOn machine = (resolveFrom context path).runOn machine

/-- Everything that looks for the template of a context says that there is none. -/
structure TakesNone (machine : Machine) (context : Context) : Prop where
  finds : ∀ console, ∃ output,
    (find console context.workspaceRoot context.projectRoot).runOn machine =
      (.ok none, { machine with output })
  prepares : ∀ console environment, ∃ output,
    (prepareWith console environment context).runOn machine =
      (.error .noLaunchFile, { machine with output })
  locates : ∀ options,
    selected? machine.directory machine.environment options = some context → ∃ output,
      (locate options).runOn machine = (.ok .reported, { machine with
        output := output ++
          errorPanel machine.screen ("✘ ".toList ++ Fault.noLaunchFile.heading) })
  resolves : ∀ options,
    selected? machine.directory machine.environment options = some context →
      options.lookup .template = none →
        (resolve options).runOn machine = (.ok .reported, { machine with
          output := machine.output ++
            errorPanel machine.screen ("✘ ".toList ++ Fault.noLaunchFile.heading) })

/-- Everything that looks for the template of a context agrees on one choice. -/
def Takes (machine : Machine) (context : Context) : Option Path → Prop
  | some path => TakesFile machine context path
  | none => TakesNone machine context

/-- The candidates of a context have been listed with some marks, and nothing has changed but what
is printed. A row is marked exactly if there is a file, and not marked exactly if something keeps
its path from naming one. -/
structure Listed (machine : Machine) (context : Context) (marks : List Bool) (after : Machine) :
    Prop where
  printed : (printRows (markedRows (candidates context.workspaceRoot context.projectRoot)
    marks)).runOn machine = (.ok (), after)
  marked : List.Forall₂ (fun path mark =>
    (mark = true ↔ ∃ content, NamesFile machine.files machine.directory path content) ∧
      (mark = false ↔ NoFile machine.files machine.directory path))
    (candidates context.workspaceRoot context.projectRoot) marks
  unchanged : ∃ output, after = { machine with output }

theorem candidates_eq (options : Options) : Cli.candidates options = withContext options listing :=
  rfl

/-! ### The listing -/

section Listing
variable {machine after : Machine} {paths : List Path} {marks : List Bool} {context : Context}
  {exit : Exit}

/-- A table is printed exactly if each of its cells can be shown. -/
theorem exists_runOn_printRows_iff {rows : List (List Text)} :
    (∃ after, (printRows rows).runOn machine = (.ok (), after)) ↔
      ∀ row ∈ rows, ∀ cell ∈ row, Renders cell := by
  simp only [printRows, runOn_printTable_iff, exists_and_left, exists_eq, and_true]

/-- The number of a row is shown as it is. -/
theorem verbatim_ofNat (n : Nat) : Verbatim (Text.ofNat n) := by
  have other : ∀ c : Char, c.isDigit = false → c ∉ Text.ofNat n := by
    intro c noDigit inside
    rw [Nat.isDigit_of_mem_toDigits (by decide) (by decide) inside] at noDigit
    cases noDigit
  refine verbatim_of_plain (fun c inside => ?_) fun c inside => ⟨?_, ?_⟩
  · refine ⟨?_, ?_, ?_⟩ <;> rintro rfl <;> exact other _ (by decide) inside
  · rintro rfl
    exact other _ (by decide) inside
  · by_contra hidden
    simp only [Display.Markup.isHidden, Bool.not_eq_false, Bool.or_eq_true,
      decide_eq_true_eq] at hidden
    rcases hidden with (((rfl | rfl) | rfl) | rfl) | rfl <;> exact other _ (by decide) inside

/-- The mark of a row is shown without its colour. -/
theorem render_mark (present : Bool) :
    Display.Markup.render (if present then tagged "green" ['✔'] else tagged "dim" ['✘']) =
      .ok (if present then ['✔'] else ['✘']) := by
  cases present with
  | true =>
    have shown : Display.Markup.shown ['✔'] = ['✔'] := by decide +kernel
    exact (render_between styleTag_green (by decide +kernel)).trans (congrArg Except.ok shown)
  | false =>
    have shown : Display.Markup.shown ['✘'] = ['✘'] := by decide +kernel
    exact (render_between styleTag_dim (by decide +kernel)).trans (congrArg Except.ok shown)

/-- Whether a row can be shown is a matter of its path. -/
theorem renders_candidateRow (number : Nat) (path : Path) (present : Bool) :
    (∀ cell ∈ candidateRow number path present, Renders cell) ↔ Renders path.toText := by
  have mark : Renders (if present then tagged "green" ['✔'] else tagged "dim" ['✘']) :=
    ⟨_, render_mark present⟩
  simp only [candidateRow, List.forall_mem_cons, renders_of_verbatim (verbatim_ofNat _), mark,
    true_and, and_true, List.not_mem_nil, false_implies, implies_true]

/-- Rows can be shown exactly if their paths can. -/
theorem renders_markedRows (sameLength : paths.length = marks.length) :
    (∀ row ∈ markedRows paths marks, ∀ cell ∈ row, Renders cell) ↔
      ∀ path ∈ paths, Renders path.toText := by
  have zipped : (paths.zip marks).map Prod.fst = paths :=
    List.map_fst_zip (Nat.le_of_eq sameLength)
  constructor
  · intro rows path inside
    rw [← zipped] at inside
    obtain ⟨⟨_, present⟩, member, rfl⟩ := List.mem_map.mp inside
    obtain ⟨index, bound, here⟩ := List.getElem_of_mem member
    refine (renders_candidateRow (index + 1) _ present).mp (rows _ ?_)
    exact List.mem_mapIdx.mpr ⟨index, bound, by rw [here]⟩
  · intro shown row inside
    obtain ⟨index, bound, rfl⟩ := List.mem_mapIdx.mp inside
    have member := List.mem_map_of_mem (f := Prod.fst) (List.getElem_mem bound)
    rw [zipped] at member
    exact (renders_candidateRow (index + 1) _ _).mpr (shown _ member)

theorem runOn_isFile_iff {path : Path} {mark : Bool} :
    (isFile path).runOn machine = (.ok mark, machine) ↔
      machine.files.isFile machine.directory path = .ok mark := by
  rw [isFile, runOn_askFiles_ok]
  exact and_iff_left rfl

theorem keeps_isFile (path : Path) : Keeps id (isFile path) := keeps_askFiles id _

/-- A listing that comes to its end has an answer for each path, and prints them all. -/
theorem of_listing (ran : (listing context).runOn machine = (.ok exit, after)) :
    ∃ marks, Answered machine.files machine.directory
        (candidates context.workspaceRoot context.projectRoot) marks ∧
      (printRows (markedRows (candidates context.workspaceRoot context.projectRoot)
        marks)).runOn machine = (.ok (), after) := by
  obtain ⟨marks, middle, asked, printed⟩ := bind_ok ran
  obtain ⟨rfl, each⟩ := (runOn_mapM_iff keeps_isFile).mp asked
  obtain ⟨_, last, rows, ends⟩ := bind_ok printed
  cases ends
  exact ⟨marks, each.imp fun _ _ => runOn_isFile_iff.mp, rows⟩

/-- The listing comes to its end exactly if each path is answered for and can be shown. -/
theorem exists_runOn_listing_iff :
    (∃ after, (listing context).runOn machine = (.ok .success, after)) ↔
      ∀ path ∈ candidates context.workspaceRoot context.projectRoot,
        Renders path.toText ∧ ∃ mark, machine.files.isFile machine.directory path = .ok mark := by
  constructor
  · rintro ⟨after, ran⟩ path inside
    obtain ⟨marks, answered, rows⟩ := of_listing ran
    exact ⟨(renders_markedRows answered.length_eq).mp (exists_runOn_printRows_iff.mp ⟨_, rows⟩)
      path inside, exists_forall₂.mp ⟨marks, answered⟩ path inside⟩
  · intro each
    obtain ⟨marks, answered⟩ := exists_forall₂.mpr fun path inside => (each path inside).2
    have shown := (renders_markedRows answered.length_eq).mpr fun path inside =>
      (each path inside).1
    obtain ⟨after, rows⟩ := (@exists_runOn_printRows_iff machine _).mpr shown
    have asked : ((candidates context.workspaceRoot context.projectRoot).mapM isFile).runOn
        machine = (.ok marks, machine) :=
      (runOn_mapM_iff keeps_isFile).mpr ⟨rfl, answered.imp fun _ _ => runOn_isFile_iff.mpr⟩
    refine ⟨after, ?_⟩
    rw [listing, runOn_bind_of_ok asked, runOn_bind_of_ok rows]
    rfl

end Listing

/-! ### The search -/

section Search
variable {machine : Machine} {context : Context} {tree : FileTree} {directory : Place}
  {paths : List Path} {marks : List Bool} {console : Option Console}

theorem firstMarked_eq_none_iff (sameLength : paths.length = marks.length) :
    firstMarked paths marks = none ↔ true ∉ marks := by
  have zipped : (paths.zip marks).map Prod.snd = marks :=
    List.map_snd_zip (Nat.le_of_eq sameLength.symm)
  rw [firstMarked, Option.map_eq_none_iff, List.find?_eq_none]
  conv_rhs => rw [← zipped, List.mem_map]
  simp only [not_exists, not_and]

/-- Once each path is answered for, the search ends at the first one that is marked. -/
theorem runOn_firstFile_of_answered (answered : Answered tree directory paths marks)
    (shown : LinesShown console paths) (machine : Machine) (sameFiles : machine.files = tree)
    (sameDirectory : machine.directory = directory) :
    ∃ output, (firstFile console paths).runOn machine =
      (.ok (firstMarked paths marks), { machine with output }) := by
  -- A line about a path that is not there adds to the output, and the search goes on behind it.
  induction answered generalizing machine with
  | nil => exact ⟨machine.output, rfl⟩
  | @cons path mark rest marks answer _ ih =>
    rw [LinesShown, List.forall_mem_cons] at shown
    obtain ⟨output, step⟩ := runOn_firstFile_cons console path rest machine
    have asks : machine.files.isFile machine.directory path = .ok mark := by
      rw [sameFiles, sameDirectory, answer]
    rw [step, shown.1.1, asks]
    cases mark with
    | false => exact ih shown.2 { machine with output } sameFiles sameDirectory
    | true =>
      refine ⟨output, ?_⟩
      dsimp only
      rw [shown.1.2]
      rfl

/-- What can be shown in a table can be shown in the lines of a search. -/
theorem linesShown_of_renders {workspace project : Text}
    (shown : ∀ path ∈ candidates workspace project, Renders path.toText) :
    LinesShown console (candidates workspace project) := by
  intro path inside
  have renders := shown path inside
  obtain ⟨parent, rfl⟩ : ∃ parent : Path, path = parent.child fileName := by
    simp only [LaunchFile.candidates, List.mem_cons, List.not_mem_nil, or_false] at inside
    rcases inside with rfl | rfl | rfl <;> exact ⟨_, rfl⟩
  cases console with
  | none => exact ⟨rfl, rfl⟩
  | some console =>
    rw [Path.toText_child] at renders
    have said : ∀ {tag : String}, StyleTag tag.toList → ∀ {front : Text}, Plain front →
        said (some console) (tagged tag (front ++ (parent.child fileName).toText)) = .ok () := by
      intro tag isStyle front plain
      rw [said_iff_renders, Path.toText_child, ← List.append_assoc]
      exact renders_tagged_of_renders isStyle plain (by decide) (by decide) renders
    exact ⟨said styleTag_dim (by decide), said styleTag_green (by decide)⟩

theorem find_of_answered (answered : Answered machine.files machine.directory
      (candidates context.workspaceRoot context.projectRoot) marks)
    (shown : ∀ path ∈ candidates context.workspaceRoot context.projectRoot, Renders path.toText)
    (console : Option Console) :
    ∃ output, (find console context.workspaceRoot context.projectRoot).runOn machine =
      (.ok (firstMarked (candidates context.workspaceRoot context.projectRoot) marks),
        { machine with output }) :=
  runOn_firstFile_of_answered answered (linesShown_of_renders shown) machine rfl rfl

/-- Where the search takes a path, the template is read from there. -/
theorem runOn_template_of_found {path : Path} {output : Text}
    (found : (find console context.workspaceRoot context.projectRoot).runOn machine =
      (.ok (some path), { machine with output })) :
    (template console context).runOn machine =
      (readTemplate path).runOn { machine with output } := by
  rw [template, runOn_bind_of_ok found]

theorem runOn_template_of_nothing {output : Text}
    (found : (find console context.workspaceRoot context.projectRoot).runOn machine =
      (.ok none, { machine with output })) :
    (template console context).runOn machine = (.error .noLaunchFile, { machine with output }) := by
  rw [template, runOn_bind_of_ok found]
  rfl

/-- A selected project is searched with messages on the screen of the machine. -/
theorem runOn_locate {options : Options}
    (selects : selected? machine.directory machine.environment options = some context) :
    (locate options).runOn machine = (do
      match ← find (messages machine.screen options) context.workspaceRoot context.projectRoot with
      | none => report Fault.noLaunchFile.heading
      | some file =>
        printPlain (file.toText ++ ['\n'])
        return .success : Action Exit).runOn machine := by
  rw [locate, runOn_withContext, selects]
  exact runOn_bind_of_ok (runOn_ask _ _)

/-- A silent search leaves the machine as it is. -/
theorem find_silent {chosen : Option Path}
    (finds : ∀ console, ∃ output,
      (find console context.workspaceRoot context.projectRoot).runOn machine =
        (.ok chosen, { machine with output })) :
    (find none context.workspaceRoot context.projectRoot).runOn machine =
      (.ok chosen, { machine with output := machine.output }) := by
  obtain ⟨output, ran⟩ := finds none
  rw [ran]
  exact congrArg _ (after_of_keeps (keeps_firstFile_silent _) ran)

theorem takesFile_of_finds {path : Path}
    (finds : ∀ console, ∃ output,
      (find console context.workspaceRoot context.projectRoot).runOn machine =
        (.ok (some path), { machine with output })) : TakesFile machine context path := by
  refine ⟨finds, fun console environment => ?prepares, fun options selects => ?locates,
    fun options selects noTemplate => ?resolves⟩
  case prepares =>
    obtain ⟨output, found⟩ := finds console
    refine ⟨output, ?_⟩
    rw [prepareWith_eq, runOn_bind, runOn_template_of_found found, prepareFrom, runOn_bind]
  case locates =>
    obtain ⟨output, found⟩ := finds (messages machine.screen options)
    refine ⟨output, ?_⟩
    rw [runOn_locate selects, runOn_bind_of_ok found]
    rfl
  case resolves =>
    have templated := runOn_template_of_found (find_silent finds)
    rw [resolve, runOn_withContext, selects]
    dsimp only
    rw [runOn_orReport, PrintedTemplate.readTemplate_templateOf noTemplate, templated, resolveFrom,
      runOn_orReport]

theorem takesNone_of_finds
    (finds : ∀ console, ∃ output,
      (find console context.workspaceRoot context.projectRoot).runOn machine =
        (.ok none, { machine with output })) : TakesNone machine context := by
  refine ⟨finds, fun console environment => ?prepares, fun options selects => ?locates,
    fun options selects noTemplate => ?resolves⟩
  case prepares =>
    obtain ⟨output, found⟩ := finds console
    refine ⟨output, ?_⟩
    rw [prepareWith_eq, runOn_bind, runOn_template_of_nothing found]
  case locates =>
    obtain ⟨output, found⟩ := finds (messages machine.screen options)
    refine ⟨output, ?_⟩
    rw [runOn_locate selects, runOn_bind_of_ok found]
    exact runOn_report_noLaunchFile _
  case resolves =>
    have templated := runOn_template_of_nothing (find_silent finds)
    rw [resolve, runOn_withContext, selects]
    dsimp only
    rw [runOn_orReport, PrintedTemplate.readTemplate_templateOf noTemplate, templated]
    exact runOn_report_noLaunchFile machine

theorem takes_of_finds {chosen : Option Path}
    (finds : ∀ console, ∃ output,
      (find console context.workspaceRoot context.projectRoot).runOn machine =
        (.ok chosen, { machine with output })) : Takes machine context chosen := by
  cases chosen with
  | some path => exact takesFile_of_finds finds
  | none => exact takesNone_of_finds finds

end Search

/-- The command lists the candidates of the context that its options select. -/
theorem listing_of_candidates {options : Options} {machine after : Machine}
    (ran : (Cli.candidates options).runOn machine = (.ok .success, after)) :
    ∃ context, selected? machine.directory machine.environment options = some context ∧
      (listing context).runOn machine = (.ok .success, after) := by
  rw [candidates_eq, runOn_withContext] at ran
  cases selects : selected? machine.directory machine.environment options with
  | none =>
    rw [selects] at ran
    exact absurd ran not_success_of_report
  | some context =>
    rw [selects] at ran
    exact ⟨context, rfl, ran⟩

/-- Where the listing of the candidates comes to its end, whatever the roots are and whatever stands
in the files, its marks say which of the three paths is a file, and everything that looks for a
template takes the first one that is marked: the search, with lines about it or without, a
preparation, `locate`, and `resolve` unless it is given another template. Where none is marked they
all say that there is no template. Nothing is changed by asking, so that this holds of the machine
before the listing and behind it, and of any other one with the same files. -/
theorem search_takes_first_marked (machine : Machine) :
    (∀ options after, (Cli.candidates options).runOn machine = (.ok .success, after) →
        ∃ context, selected? machine.directory machine.environment options = some context ∧
          (listing context).runOn machine = (.ok .success, after)) ∧
      ∀ context exit after, (listing context).runOn machine = (.ok exit, after) →
        ∃ marks chosen, Listed machine context marks after ∧
          chosen = firstMarked (candidates context.workspaceRoot context.projectRoot) marks ∧
          (chosen = none ↔ true ∉ marks) ∧
          ∀ (later : Machine) (other : Context), later.files = machine.files →
            later.directory = machine.directory → SameRoots context other →
              Takes later other chosen := by
  refine ⟨fun options after => listing_of_candidates, fun context exit after ran => ?_⟩
  obtain ⟨marks, answered, rows⟩ := of_listing ran
  have shown := (renders_markedRows answered.length_eq).mp (exists_runOn_printRows_iff.mp ⟨_, rows⟩)
  refine ⟨marks, _, ⟨rows, answered.imp fun _ _ tells => ⟨isFile_iff tells, isFile_false_iff tells⟩,
    after_of_onlyPrints (onlyPrints_printTable _ _ _) rows⟩, rfl,
    firstMarked_eq_none_iff answered.length_eq, ?_⟩
  rintro later other sameFiles sameDirectory ⟨workspace, project⟩
  rw [← workspace, ← project] at answered shown ⊢
  rw [← sameFiles, ← sameDirectory] at answered
  exact takes_of_finds (find_of_answered answered shown)

/-- A directory in the place of the first candidate, and files in those of the others: everything
takes the second one. -/
theorem search_takes_first_marked_behind_directory :
    let place : Place := [['w'], ['p']]
    let tree : FileTree := { entries := [([['w']], .directory), (place, .directory),
      (place ++ [propertiesName], .directory), (place ++ [propertiesName, fileName], .directory),
      (place ++ [fileName], .file []), ([['w'], fileName], .file [])] }
    let machine : Machine := { files := tree, directory := [['w']] }
    let options : Options := [(.project, ['p'])]
    ∃ after context, (Cli.candidates options).runOn machine = (.ok .success, after) ∧
      selected? machine.directory machine.environment options = some context ∧
      (listing context).runOn machine = (.ok .success, after) ∧
      TakesFile after context (Path.ofText "/w/p/launch.json".toList) := by
  intro place tree machine options
  let context : Context := ⟨"/w".toList, "/w/p".toList, "/w".toList, "/w/p".toList, ['p']⟩
  have selects : selected? machine.directory machine.environment options = some context := by
    decide +kernel
  have answers : ∀ path ∈ candidates context.workspaceRoot context.projectRoot,
      Plain path.toText ∧ ∃ mark, machine.files.isFile machine.directory path = .ok mark := by
    intro path inside
    simp only [LaunchFile.candidates, List.mem_cons, List.not_mem_nil, or_false] at inside
    rcases inside with rfl | rfl | rfl
    · exact ⟨by decide +kernel, false, by decide +kernel⟩
    · exact ⟨by decide +kernel, true, by decide +kernel⟩
    · exact ⟨by decide +kernel, true, by decide +kernel⟩
  obtain ⟨after, lists⟩ := exists_runOn_listing_iff.mpr fun path inside =>
    (answers path inside).imp_left renders_of_plain
  have ran : (Cli.candidates options).runOn machine = (.ok .success, after) := by
    rw [candidates_eq, runOn_withContext, selects]
    exact lists
  obtain ⟨whole, search⟩ := search_takes_first_marked machine
  obtain ⟨listedContext, selectsListed, listsContext⟩ := whole options after ran
  obtain rfl : context = listedContext := Option.some.inj (selects.symm.trans selectsListed)
  obtain ⟨marks, _, listed, rfl, _, takes⟩ := search context _ after listsContext
  obtain ⟨output, rfl⟩ := listed.unchanged
  have takesHere := takes { machine with output } context rfl rfl ⟨rfl, rfl⟩
  have marked : List.Forall₂ _ [_, _, _] marks := listed.marked
  cases marked with | cons first others =>
  cases others with | cons second others =>
  obtain rfl := first.2.mpr (.isDirectory (by decide +kernel))
  have isFile : tree.isFile machine.directory ((Path.ofText "/w/p".toList).child fileName) =
      .ok true := by decide +kernel
  obtain rfl := second.1.mpr ((isFile_iff isFile).mp rfl)
  exact ⟨_, context, ran, selects, lists, takesHere⟩

end DebugLaunch.CandidateRows
