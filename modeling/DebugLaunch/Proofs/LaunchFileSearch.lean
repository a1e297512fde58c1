import DebugLaunch.LaunchFile
import DebugLaunch.Proofs.ActionRuns
import DebugLaunch.Proofs.PlaceWalk

/-! The search for a template asks for one path after the other and stops at the first file. It
changes nothing but what is printed, whether or not it comes to an end; where it does, every path in
front of the template was answered for, and each line about a path was shown. -/
namespace DebugLaunch.LaunchFileSearch
open DebugLaunch.Action LaunchFile PlaceWalk

/-- What is said of a path before it is asked for. -/
def checkingLine (path : Path) : Text := tagged "dim" ("Checking ".toList ++ path.toText)

/-- What is said of the path that the search ends at. -/
def usingLine (path : Path) : Text := tagged "green" ("✔ Using ".toList ++ path.toText)

/-- The first of some paths that names a file, with the content of that file. -/
def FirstFile (tree : FileTree) (directory : Place) (paths : List Path) (path : Path)
    (content : Utf8.Bytes) : Prop :=
  ∃ front behind, paths = front ++ path :: behind ∧
    (∀ other ∈ front, ∀ held, ¬ NamesFile tree directory other held) ∧
    NamesFile tree directory path content

/-- A search comes past some paths to a file: it has an answer for each, and no line stops it. -/
structure Reaches (console : Option Console) (tree : FileTree) (directory : Place)
    (front : List Path) (path : Path) : Prop where
  passed : ∀ other ∈ front, tree.isFile directory other = .ok false
  reached : tree.isFile directory path = .ok true
  saidChecking : ∀ other ∈ front ++ [path], said console (checkingLine other) = .ok ()
  saidUsing : said console (usingLine path) = .ok ()

/-- The text of the template of a context. -/
def template (console : Option Console) (context : Context) : Action Text := do
  match ← find console context.workspaceRoot context.projectRoot with
  | none => throw .noLaunchFile
  | some path => readTemplate path

/-- There is one first item with a property in a list, and one part in front of it. -/
theorem first_unique {α : Type} {P : α → Prop} {front other behind rest : List α} {item second : α}
    (same : front ++ item :: behind = other ++ second :: rest) (before : ∀ x ∈ front, ¬ P x)
    (holds : P item) (beforeSecond : ∀ x ∈ other, ¬ P x) (holdsSecond : P second) :
    front = other ∧ item = second := by
  rcases List.append_eq_append_iff.mp same with ⟨more, rfl, shape⟩ | ⟨more, rfl, shape⟩
  · cases more with
    | nil => exact ⟨by simp, (List.cons.inj shape).1⟩
    | cons first more =>
      obtain ⟨rfl, _⟩ := List.cons.inj shape
      exact absurd holds (beforeSecond item (by simp))
  · cases more with
    | nil => exact ⟨by simp, (List.cons.inj shape).1.symm⟩
    | cons first more =>
      obtain ⟨rfl, _⟩ := List.cons.inj shape
      exact absurd holdsSecond (before second (by simp))

/-- The first file among some paths is one, and so is what it holds. -/
theorem firstFile_unique {tree : FileTree} {directory : Place} {paths : List Path}
    {path other : Path} {content held : Utf8.Bytes}
    (first : FirstFile tree directory paths path content)
    (second : FirstFile tree directory paths other held) : path = other ∧ content = held := by
  obtain ⟨front, behind, whole, before, names⟩ := first
  obtain ⟨otherFront, otherBehind, otherWhole, otherBefore, otherNames⟩ := second
  obtain ⟨_, rfl⟩ := first_unique (P := fun path => ∃ held, NamesFile tree directory path held)
    (whole.symm.trans otherWhole)
    (fun passed inside ⟨held, names⟩ => before passed inside held names) ⟨content, names⟩
    (fun passed inside ⟨held, names⟩ => otherBefore passed inside held names)
    ⟨held, otherNames⟩
  have same := names.2.symm.trans otherNames.2
  rw [Option.some.injEq, Entry.file.injEq] at same
  exact ⟨rfl, same⟩

section Search
variable {console : Option Console} {machine : Machine} {path : Path}

/-- One step of the search: the line about the path, the question, and the way on. -/
theorem runOn_firstFile_cons (console : Option Console) (path : Path) (rest : List Path)
    (machine : Machine) :
    ∃ output, (firstFile console (path :: rest)).runOn machine =
      match said console (checkingLine path), machine.files.isFile machine.directory path with
      | .error fault, _ => (.error fault, { machine with output })
      | .ok (), .error error => (.error (.file error), { machine with output })
      | .ok (), .ok true =>
        ((said console (usingLine path)).map fun _ => some path, { machine with output })
      | .ok (), .ok false => (firstFile console rest).runOn { machine with output } := by
  obtain ⟨output, line⟩ := runOn_say console (checkingLine path) machine
  rw [firstFile, runOn_bind, ← checkingLine, line]
  cases said console (checkingLine path) with
  | error fault => exact ⟨output, rfl⟩
  | ok _ =>
    dsimp only
    rw [runOn_bind, isFile, runOn_askFiles]
    cases machine.files.isFile machine.directory path with
    | error error => exact ⟨output, rfl⟩
    | ok answer =>
      cases answer with
      | false => exact ⟨output, rfl⟩
      | true =>
        obtain ⟨later, lineUsing⟩ := runOn_say console (usingLine path) { machine with output }
        refine ⟨later, ?_⟩
        show (say console (usingLine path) >>= fun _ => pure (some path)).runOn
          { machine with output } = _
        rw [runOn_bind, lineUsing]
        cases said console (usingLine path) <;> rfl

private theorem reaches_cons {tree : FileTree} {directory : Place} {first : Path}
    {rest : List Path} :
    (∃ front behind, first :: rest = front ++ path :: behind ∧
        Reaches console tree directory front path) ↔
      said console (checkingLine first) = .ok () ∧
        ((tree.isFile directory first = .ok true ∧ said console (usingLine first) = .ok () ∧
            first = path) ∨
          tree.isFile directory first = .ok false ∧ ∃ front behind,
            rest = front ++ path :: behind ∧ Reaches console tree directory front path) := by
  constructor
  · rintro ⟨front, behind, whole, reaches⟩
    cases front with
    | nil =>
      obtain ⟨rfl, rfl⟩ := List.cons.inj whole
      exact ⟨reaches.saidChecking _ (by simp), .inl ⟨reaches.reached, reaches.saidUsing, rfl⟩⟩
    | cons other front =>
      obtain ⟨rfl, rfl⟩ := List.cons.inj whole
      refine ⟨reaches.saidChecking _ (by simp), .inr ⟨reaches.passed _ (by simp), front, behind,
        rfl, ⟨?_, reaches.reached, ?_, reaches.saidUsing⟩⟩⟩
      · exact fun other inside => reaches.passed other (List.mem_cons_of_mem _ inside)
      · exact fun other inside => reaches.saidChecking other (List.mem_cons_of_mem _ inside)
  · rintro ⟨shown, ⟨found, shownUsing, rfl⟩ | ⟨passed, front, behind, rfl, reaches⟩⟩
    · exact ⟨[], rest, rfl, by simp, found, by simpa using shown, shownUsing⟩
    · refine ⟨first :: front, behind, rfl, ?_, reaches.reached, ?_, reaches.saidUsing⟩
      · exact List.forall_mem_cons.mpr ⟨passed, reaches.passed⟩
      · exact List.forall_mem_cons.mpr ⟨shown, reaches.saidChecking⟩

/-- The search gives a path exactly if it comes to it past all that stand in front of it. -/
theorem runOn_firstFile_iff (console : Option Console) (paths : List Path) (machine : Machine) :
    (∃ output, (firstFile console paths).runOn machine =
        (.ok (some path), { machine with output })) ↔
      ∃ front behind, paths = front ++ path :: behind ∧
        Reaches console machine.files machine.directory front path := by
  induction paths generalizing machine with
  | nil =>
    constructor
    · rintro ⟨output, ran⟩
      cases (Prod.mk.inj ran).1
    · rintro ⟨front, behind, empty, _⟩
      exact absurd empty (by simp)
  | cons first rest ih =>
    obtain ⟨output, step⟩ := runOn_firstFile_cons console first rest machine
    rw [step, reaches_cons]
    cases said console (checkingLine first) with
    | error fault => simp
    | ok _ =>
      cases machine.files.isFile machine.directory first with
      | error error => simp
      | ok answer =>
        cases answer with
        | false => simpa using ih { machine with output }
        | true => cases said console (usingLine first) <;> simp [Except.map]

theorem onlyPrints_firstFile (console : Option Console) (paths : List Path) :
    OnlyPrints (firstFile console paths) := by
  induction paths with
  | nil => exact onlyPrints_pure none
  | cons path rest ih =>
    refine onlyPrints_bind (onlyPrints_say _ _) fun _ => ?_
    refine onlyPrints_bind (onlyPrints_askFiles _) fun answer => ?_
    cases answer with
    | false => exact ih
    | true => exact onlyPrints_bind (onlyPrints_say _ _) fun _ => onlyPrints_pure _

/-- Locating and reading a template leaves the files as they are, also where it fails. -/
theorem onlyPrints_template (console : Option Console) (context : Context) :
    OnlyPrints (template console context) := by
  refine onlyPrints_bind (onlyPrints_firstFile _ _) fun found => ?_
  cases found with
  | none => exact onlyPrints_throw _
  | some path => exact onlyPrints_bind (onlyPrints_askFiles _) fun _ => onlyPrints_pure _

/-- A template is read exactly if the search comes to it and it can be read. -/
theorem runOn_template_iff {context : Context} {text : Text} (machine : Machine) :
    (∃ output, (template console context).runOn machine = (.ok text, { machine with output })) ↔
      ∃ front path behind content,
        candidates context.workspaceRoot context.projectRoot = front ++ path :: behind ∧
        Reaches console machine.files machine.directory front path ∧
        machine.files.read machine.directory path = .ok content ∧
        text = Utf8.readLenient content := by
  constructor
  · rintro ⟨output, ran⟩
    obtain ⟨found, middle, searched, ran⟩ := bind_ok ran
    obtain ⟨shown, rfl⟩ := after_of_onlyPrints (onlyPrints_firstFile _ _) searched
    cases found with
    | none => cases (Prod.mk.inj ran).1
    | some path =>
      obtain ⟨content, _, reads, ran⟩ := bind_ok ran
      obtain ⟨front, behind, whole, reaches⟩ := (runOn_firstFile_iff ..).mp ⟨shown, searched⟩
      cases (Prod.mk.inj ran).1
      exact ⟨front, path, behind, content, whole, reaches, (runOn_askFiles_ok.mp reads).1, rfl⟩
  · rintro ⟨front, path, behind, content, whole, reaches, reads, rfl⟩
    obtain ⟨output, searched⟩ := (runOn_firstFile_iff console _ machine).mpr
      ⟨front, behind, whole, reaches⟩
    refine ⟨output, ?_⟩
    rw [template, find, runOn_bind_of_ok searched]
    show (readBytes path >>= fun bytes => pure (Utf8.readLenient bytes)).runOn _ = _
    rw [readBytes, runOn_bind_of_ok (runOn_askFiles_ok.mpr ⟨reads, rfl⟩)]
    rfl

/-- Without a screen the search changes nothing at all. -/
theorem keeps_firstFile_silent (paths : List Path) : Keeps id (firstFile none paths) := by
  induction paths with
  | nil => exact keeps_pure id none
  | cons path rest ih =>
    refine keeps_bind (keeps_pure id _) fun _ => ?_
    refine keeps_bind (keeps_askFiles id _) fun answer => ?_
    cases answer with
    | false => exact ih
    | true => exact keeps_bind (keeps_pure id _) fun _ => keeps_pure id _

theorem keeps_template_silent (context : Context) : Keeps id (template none context) := by
  refine keeps_bind (keeps_firstFile_silent _) fun found => ?_
  cases found with
  | none => exact keeps_throw id _
  | some path => exact keeps_bind (keeps_askFiles id _) fun _ => keeps_pure id _

/-- A template that is read with a line about each step is read without these lines too. -/
theorem runOn_template_silent {context : Context} {text output printed : Text}
    (templated : (template console context).runOn { machine with output } =
      (.ok text, { machine with output := printed })) :
    (template none context).runOn machine = (.ok text, machine) := by
  obtain ⟨front, path, behind, content, whole, reaches, reads, rfl⟩ :=
    (runOn_template_iff { machine with output }).mp ⟨printed, templated⟩
  have silentReaches : Reaches none machine.files machine.directory front path :=
    ⟨reaches.passed, reaches.reached, fun _ _ => rfl, rfl⟩
  obtain ⟨later, silent⟩ := (runOn_template_iff machine).mpr
    ⟨front, path, behind, content, whole, silentReaches, reads, rfl⟩
  rw [silent]
  exact congrArg _ (after_of_keeps (keeps_template_silent context) silent)

/-- The file that a search comes to is the first one. -/
theorem firstFile_of_reaches {tree : FileTree} {directory : Place} {front behind : List Path}
    {content : Utf8.Bytes} (reaches : Reaches console tree directory front path)
    (reads : tree.read directory path = .ok content) :
    FirstFile tree directory (front ++ path :: behind) path content := by
  refine ⟨front, behind, rfl, fun other inside held names => ?_, read_iff.mp reads⟩
  have isNone := (isFile_iff (reaches.passed other inside)).mpr ⟨held, names⟩
  cases isNone

end Search

end DebugLaunch.LaunchFileSearch
