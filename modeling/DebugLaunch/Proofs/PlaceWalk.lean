import DebugLaunch.FileTree
import Mathlib.Data.List.Infix

/-! Which place a path names is known from the path alone; the files only say whether the walk gets
there. Everything that an operation on a path can do follows from what stands at the place named and
from the directories above it. -/
namespace DebugLaunch.PlaceWalk
open FileTree

/-- The place that names lead to from a place, one directory up at each `..`. -/
def descend (place : Place) (names : List Text) : Place :=
  names.foldl
    (fun place name => if name = ['.', '.'] then place.dropLast else place ++ [name]) place

/-- The place that a path names, whether or not anything stands there. -/
def named (directory : Place) (path : Path) : Place :=
  descend (start directory path) path.components

/-- A place that is named by a front of a path, which may be the whole of it. -/
def Passes (directory : Place) (path : Path) (place : Place) : Prop :=
  ∃ front, front <+: path.components ∧ descend (start directory path) front = place

/-- A name that the files can hold. -/
def Fits (name : Text) : Prop := name = ['.', '.'] ∨ (Utf8.encode name).length ≤ maxName

/-- All that stands above the end of a walk is directories. -/
def Above (tree : FileTree) (place : Place) (names : List Text) : Prop :=
  ∀ front, front <+: names → front ≠ names → tree.lookup? (descend place front) = some .directory

/-- The way to what a path names is open: the path can be used, each of its names fits, and each of
its fronts names a directory. -/
structure IsOpen (tree : FileTree) (directory : Place) (path : Path) : Prop where
  usable : checkPath path = .ok ()
  fits : ∀ name ∈ path.components, Fits name
  above : Above tree (start directory path) path.components

/-- There is no file where a path leads: the path holds a null character, nothing or a directory
stands at its end, or nothing or a file stands on the way there. -/
inductive NoFile (tree : FileTree) (directory : Place) (path : Path) : Prop where
  | nullCharacter (inside : '\x00' ∈ path.toText)
  | missing (nothing : tree.lookup? (named directory path) = none)
  | isDirectory (here : tree.lookup? (named directory path) = some .directory)
  | missingParent {front : List Text} (isFront : front <+: path.components)
      (proper : front ≠ path.components)
      (nothing : tree.lookup? (descend (start directory path) front) = none)
  | fileAsParent {front : List Text} {content : Utf8.Bytes} (isFront : front <+: path.components)
      (proper : front ≠ path.components)
      (here : tree.lookup? (descend (start directory path) front) = some (.file content))

/-- A path names a file with this content. -/
def NamesFile (tree : FileTree) (directory : Place) (path : Path) (content : Utf8.Bytes) : Prop :=
  IsOpen tree directory path ∧ tree.lookup? (named directory path) = some (.file content)

/-! ### Walking -/

theorem descend_cons (place : Place) (name : Text) (names : List Text) :
    descend place (name :: names) = descend (descend place [name]) names := rfl

private theorem descend_up (place : Place) : descend place [['.', '.']] = place.dropLast := rfl

private theorem descend_down {name : Text} (down : name ≠ ['.', '.']) (place : Place) :
    descend place [name] = place ++ [name] := by
  simp [descend, down]

theorem descend_append (place : Place) (front behind : List Text) :
    descend place (front ++ behind) = descend (descend place front) behind := by
  simp [descend]

/-- Names that never go up lead straight down. -/
theorem descend_of_no_up {names : List Text} (noUp : ['.', '.'] ∉ names) (place : Place) :
    descend place names = place ++ names := by
  induction names generalizing place with
  | nil => simp [descend]
  | cons name names ih =>
    rw [List.mem_cons, not_or] at noUp
    rw [descend_cons, descend_down (Ne.symm noUp.1), ih noUp.2, List.append_assoc]
    rfl

/-- What names lead to holds only names that were there or that lead down. -/
theorem of_mem_descend {place : Place} {names : List Text} {name : Text}
    (inside : name ∈ descend place names) :
    name ∈ place ∨ name ∈ names ∧ name ≠ ['.', '.'] := by
  induction names generalizing place with
  | nil => exact .inl inside
  | cons first names ih =>
    rw [descend_cons] at inside
    rcases ih inside with inside | ⟨member, noUp⟩
    · by_cases up : first = ['.', '.']
      · rw [up, descend_up] at inside
        exact .inl (List.mem_of_mem_dropLast inside)
      · rw [descend_down up, List.mem_append, List.mem_singleton] at inside
        rcases inside with inside | rfl
        · exact .inl inside
        · exact .inr ⟨List.mem_cons_self .., up⟩
    · exact .inr ⟨List.mem_cons_of_mem _ member, noUp⟩

/-- A walk begins at the root where a slash stands in front of the path. -/
theorem start_ofText (directory : Place) (text : Text) :
    start directory (Path.ofText text) = if text.head? = some '/' then [] else directory := by
  have relative_iff := @Path.anchorOf_eq_relative_iff text
  rw [start, Path.ofText]
  by_cases slash : text.head? = some '/'
  · rw [if_pos slash]
    cases anchor : Path.anchorOf text with
    | relative => exact absurd slash (relative_iff.mp anchor)
    | root => rfl
    | doubleRoot => rfl
  · rw [if_neg slash, relative_iff.mpr slash]

/-- Taking each `..` away with the name before it is the walk from the root. -/
theorem collapse_eq_descend (components : List Text) :
    Path.collapse components = descend [] components := by
  -- What is collapsed so far stands upside down, so the induction is over all of it.
  have step : ∀ above : List Text, (components.foldl
      (fun above component => if component = ['.', '.'] then above.tail else component :: above)
      above).reverse = descend above.reverse components := by
    induction components with
    | nil => exact fun _ => rfl
    | cons name rest ih =>
      intro above
      rw [List.foldl_cons, ih, descend_cons]
      congr 1
      by_cases up : name = ['.', '.'] <;> simp [descend, up]
  exact step []

theorem named_child (directory : Place) (path : Path) {name : Text} (down : name ≠ ['.', '.']) :
    named directory (path.child name) = named directory path ++ [name] := by
  show descend (start directory path) (path.components ++ [name]) = _
  rw [descend_append, descend_down down]
  rfl

theorem passes_child {directory : Place} {path : Path} {name : Text} {place : Place} :
    Passes directory (path.child name) place ↔
      Passes directory path place ∨ place = named directory (path.child name) := by
  constructor
  · rintro ⟨front, isFront, rfl⟩
    rcases List.prefix_concat_iff.mp isFront with rfl | isFront
    · exact .inr rfl
    · exact .inl ⟨front, isFront, rfl⟩
  · rintro (⟨front, isFront, leads⟩ | rfl)
    · exact ⟨front, isFront.trans (List.prefix_append ..), leads⟩
    · exact ⟨path.components ++ [name], List.prefix_rfl, rfl⟩

theorem above_nil (tree : FileTree) (place : Place) : Above tree place [] := by
  intro front isFront other
  exact absurd (List.prefix_nil.mp isFront) other

private theorem above_cons {tree : FileTree} {place : Place} {name : Text} {names : List Text} :
    Above tree place (name :: names) ↔
      tree.lookup? place = some .directory ∧ Above tree (descend place [name]) names := by
  constructor
  · intro above
    refine ⟨above [] List.nil_prefix (by simp), fun front isFront other => ?_⟩
    rw [← descend_cons]
    exact above (name :: front) (List.cons_prefix_cons.mpr ⟨rfl, isFront⟩) (by simpa using other)
  · rintro ⟨here, above⟩ front isFront other
    cases front with
    | nil => exact here
    | cons first front =>
      obtain ⟨rfl, tailFront⟩ := List.cons_prefix_cons.mp isFront
      rw [descend_cons]
      exact above front tailFront (by simpa using other)

theorem above_concat {tree : FileTree} {place : Place} {names : List Text} {name : Text} :
    Above tree place (names ++ [name]) ↔
      tree.lookup? (descend place names) = some .directory ∧ Above tree place names := by
  constructor
  · intro above
    refine ⟨above names (List.prefix_append ..) (by simp), fun front isFront other => ?_⟩
    refine above front (isFront.trans (List.prefix_append ..)) ?_
    rintro rfl
    have := isFront.length_le
    rw [List.length_append, List.length_singleton] at this
    omega
  · rintro ⟨last, above⟩ front isFront other
    rcases List.prefix_concat_iff.mp isFront with same | isFront
    · exact absurd same other
    · by_cases whole : front = names
      · exact whole ▸ last
      · exact above front isFront whole

/-- A walk that is not refused ends where the names lead. -/
private theorem walk_end {tree : FileTree} {place final : Place} {names : List Text}
    (walks : tree.walk place names = .ok final) : final = descend place names := by
  induction names generalizing place with
  | nil =>
    cases walks
    rfl
  | cons name names ih =>
    rw [walk] at walks
    rw [descend_cons]
    split at walks
    · cases walks
    · cases walks
    · split at walks
      · rename_i up
        rw [up, descend_up]
        exact ih walks
      · rename_i down
        rw [descend_down down]
        split at walks
        · cases walks
        · split at walks
          · cases walks
          · exact ih walks

/-- Behind a place where nothing is there is nothing to come to. -/
private theorem nothing_behind {tree : FileTree} {place : Place} {names : List Text}
    (missing : tree.lookup? place = none) (above : Above tree place names) :
    tree.lookup? (descend place names) = none := by
  cases names with
  | nil => exact missing
  | cons name names =>
    rw [above_cons, missing] at above
    cases above.1

/-- A walk ends where the names lead, and it ends at an entry exactly if the names fit and lead
through directories. -/
theorem walk_iff {tree : FileTree} {place final : Place} {names : List Text} {entry : Entry} :
    (tree.walk place names = .ok final ∧ tree.lookup? final = some entry) ↔
      final = descend place names ∧ tree.lookup? final = some entry ∧
        (∀ name ∈ names, Fits name) ∧ Above tree place names := by
  induction names generalizing place with
  | nil =>
    simp only [walk, Except.ok.injEq, descend, List.foldl_nil, List.not_mem_nil, false_implies,
      implies_true, above_nil, and_true]
    constructor
    · rintro ⟨rfl, found⟩
      exact ⟨rfl, found⟩
    · rintro ⟨rfl, found⟩
      exact ⟨rfl, found⟩
  | cons name names ih =>
    rw [above_cons, List.forall_mem_cons, walk, descend_cons]
    cases here : tree.lookup? place with
    | none => simp
    | some kind =>
      cases kind with
      | file content => simp
      | directory =>
        by_cases up : name = ['.', '.']
        · subst up
          simp only [↓reduceIte, ih, true_and, Fits, true_or, descend_up]
        · have step := descend_down up place
          by_cases long : maxName < (Utf8.encode name).length
          · have misfit : ¬ Fits name := by
              rintro (same | short)
              · exact up same
              · omega
            simp [up, long, misfit]
          · have fits : Fits name := .inr (by omega)
            simp only [up, long, ↓reduceIte, fits, true_and, step]
            cases there : tree.lookup? (place ++ [name]) with
            | some _ => exact ih
            | none =>
              simp only [reduceCtorEq, false_and, false_iff, not_and]
              rintro rfl found _ above
              rw [nothing_behind there above] at found
              cases found

/-- A walk asks for nothing but what stands at the places it passes. -/
private theorem walk_congr {first second : FileTree} {place : Place} {names : List Text}
    (same : ∀ front, front <+: names →
      first.lookup? (descend place front) = second.lookup? (descend place front)) :
    first.walk place names = second.walk place names := by
  induction names generalizing place with
  | nil => rfl
  | cons name names ih =>
    have here : first.lookup? place = second.lookup? place := same [] List.nil_prefix
    have there := same [name] (List.cons_prefix_cons.mpr ⟨rfl, List.nil_prefix⟩)
    have later :
        first.walk (descend place [name]) names = second.walk (descend place [name]) names :=
      ih fun front isFront => same (name :: front) (List.cons_prefix_cons.mpr ⟨rfl, isFront⟩)
    rw [walk, walk, here]
    by_cases up : name = ['.', '.']
    · subst up
      rw [descend_up] at later
      simp only [↓reduceIte, later]
    · rw [descend_down up] at later there
      simp only [up, ↓reduceIte, there, later]

/-! ### Operations on a path -/

section Operations
variable {tree : FileTree} {directory : Place} {path : Path} {place : Place}

private theorem isOpen_iff : IsOpen tree directory path ↔ checkPath path = .ok () ∧
    (∀ name ∈ path.components, Fits name) ∧ Above tree (start directory path) path.components :=
  ⟨fun isOpen => ⟨isOpen.usable, isOpen.fits, isOpen.above⟩,
    fun ⟨usable, fits, above⟩ => ⟨usable, fits, above⟩⟩

/-- Something is found exactly where the path names it, if the way there is open. -/
theorem find_iff {entry : Entry} :
    tree.find directory path = .ok (place, entry) ↔
      place = named directory path ∧ tree.lookup? place = some entry ∧
        IsOpen tree directory path := by
  have walked := @walk_iff tree (start directory path) place path.components entry
  rw [isOpen_iff, FileTree.find]
  cases usable : checkPath path with
  | error error => simp [bind, Except.bind]
  | ok _ =>
    simp only [true_and, named, ← walked]
    cases walks : tree.walk (start directory path) path.components with
    | error fault => simp [bind, Except.bind]
    | ok final =>
      cases found : tree.lookup? final with
      | none =>
        simp only [bind, Except.bind, found, reduceCtorEq, Except.ok.injEq, false_iff, not_and]
        rintro rfl
        simp [found]
      | some other =>
        simp only [bind, Except.bind, found, Except.ok.injEq, Prod.mk.injEq]
        constructor
        · rintro ⟨rfl, rfl⟩
          exact ⟨rfl, found⟩
        · rintro ⟨rfl, same⟩
          exact ⟨rfl, Option.some.inj (found.symm.trans same)⟩

/-- Where the way is open and nothing is found, nothing is there. -/
private theorem missing_of_find {error : PathError}
    (fails : tree.find directory path = .error error) (isOpen : IsOpen tree directory path) :
    tree.lookup? (named directory path) = none := by
  cases here : tree.lookup? (named directory path) with
  | none => rfl
  | some entry =>
    have found := find_iff.mpr ⟨rfl, here, isOpen⟩
    rw [fails] at found
    cases found

/-- From a directory, the last name of a path leads to its target unless it is too long. -/
private theorem last_step_iff {name : Text} {final : Place} {error : PathError}
    {entry : Option Entry} :
    (if name = ['.', '.'] then .ok (final.dropLast, tree.lookup? final.dropLast)
      else if maxName < (Utf8.encode name).length then .error error
      else .ok (final ++ [name], tree.lookup? (final ++ [name]))) = Except.ok (place, entry) ↔
      place = descend final [name] ∧ entry = tree.lookup? place ∧ Fits name := by
  have ok_iff : ∀ there : Place, Fits name →
      ((.ok (there, tree.lookup? there) : Except PathError (Place × Option Entry)) =
        .ok (place, entry) ↔ place = there ∧ entry = tree.lookup? place ∧ Fits name) := by
    intro there fits
    simp only [Except.ok.injEq, Prod.mk.injEq, fits, and_true]
    constructor <;> rintro ⟨rfl, rfl⟩ <;> exact ⟨rfl, rfl⟩
  by_cases up : name = ['.', '.']
  · subst up
    exact ok_iff final.dropLast (.inl rfl)
  · rw [if_neg up, descend_down up]
    by_cases long : maxName < (Utf8.encode name).length
    · rw [if_pos long]
      refine iff_of_false (fun given => by cases given) ?_
      rintro ⟨_, _, same | short⟩
      · exact up same
      · omega
    · rw [if_neg long]
      exact ok_iff (final ++ [name]) (.inr (by omega))

/-- A path with a name at its end has a target where it leads, if the way there is open. -/
theorem target_iff (nonempty : path.components ≠ []) {entry : Option Entry} :
    tree.target directory path = .ok (place, entry) ↔
      place = named directory path ∧ entry = tree.lookup? place ∧ IsOpen tree directory path := by
  obtain ⟨front, name, parts⟩ := (List.eq_nil_or_concat path.components).resolve_left nonempty
  rw [List.concat_eq_append] at parts
  have last : path.components.getLast? = some name := by simp [parts]
  have others : path.components.dropLast = front := by simp [parts]
  have walked := fun final => @walk_iff tree (start directory path) final front .directory
  have step : named directory path = descend (descend (start directory path) front) [name] := by
    rw [named, parts, descend_append]
  rw [isOpen_iff, target, last, others, parts, above_concat, List.forall_mem_append,
    List.forall_mem_singleton, step]
  cases usable : checkPath path with
  | error error => simp [bind, Except.bind]
  | ok _ =>
    simp only [bind, Except.bind, true_and]
    constructor
    · intro targets
      split at targets
      · cases targets
      · rename_i final walks
        split at targets
        · cases targets
        · cases targets
        · rename_i here
          obtain ⟨rfl, _, fits, above⟩ := (walked final).mp ⟨walks, here⟩
          obtain ⟨leads, found, nameFits⟩ := last_step_iff.mp targets
          exact ⟨leads, found, ⟨fits, nameFits⟩, here, above⟩
    · rintro ⟨leads, found, ⟨fits, nameFits⟩, here, above⟩
      obtain ⟨walks, _⟩ := (walked _).mpr ⟨rfl, here, fits, above⟩
      simp only [walks, here]
      exact last_step_iff.mpr ⟨leads, found, nameFits⟩

theorem read_iff {content : Utf8.Bytes} :
    tree.read directory path = .ok content ↔ NamesFile tree directory path content := by
  rw [FileTree.read]
  cases result : tree.find directory path with
  | error error =>
    simp only [bind, Except.bind, reduceCtorEq, false_iff]
    rintro ⟨isOpen, here⟩
    rw [missing_of_find result isOpen] at here
    cases here
  | ok answer =>
    obtain ⟨place, entry⟩ := answer
    obtain ⟨rfl, here, isOpen⟩ := find_iff.mp result
    cases entry <;> simp [bind, Except.bind, NamesFile, here, isOpen]

/-- What is no file is either told to be none, or its name is too long to be looked for. -/
theorem isFile_iff {answer : Bool} (tells : tree.isFile directory path = .ok answer) :
    answer = true ↔ ∃ content, NamesFile tree directory path content := by
  rw [isFile, probe] at tells
  cases result : tree.find directory path with
  | error error =>
    have missing : ¬ ∃ content, NamesFile tree directory path content := by
      rintro ⟨content, isOpen, here⟩
      rw [missing_of_find result isOpen] at here
      cases here
    rw [result] at tells
    simp only [missing, iff_false]
    rintro rfl
    rcases error with _ | ⟨fault, _⟩
    · cases tells
    · cases fault <;> cases tells
  | ok place =>
    obtain ⟨place, entry⟩ := place
    obtain ⟨rfl, here, isOpen⟩ := find_iff.mp result
    rw [result] at tells
    cases entry <;> cases tells <;> simp [NamesFile, here, isOpen]

/-- A walk is stopped by what is missing or is no directory, or by a name that does not fit. -/
private theorem walk_fault {place : Place} {names : List Text} {fault : FileFault}
    (walks : tree.walk place names = .error fault) :
    fault = .missing ∨ fault = .notADirectory ∨
      fault = .nameTooLong ∧ ∃ name ∈ names, ¬ Fits name := by
  induction names generalizing place with
  | nil => cases walks
  | cons name names ih =>
    have later {next : Place} (walks : tree.walk next names = .error fault) :
        fault = .missing ∨ fault = .notADirectory ∨
          fault = .nameTooLong ∧ ∃ other ∈ name :: names, ¬ Fits other :=
      (ih walks).imp_right (Or.imp_right fun ⟨long, other, inside, misfit⟩ =>
        ⟨long, other, List.mem_cons_of_mem _ inside, misfit⟩)
    rw [walk] at walks
    cases here : tree.lookup? place with
    | none =>
      rw [here] at walks
      exact .inl (Except.error.inj walks).symm
    | some kind =>
      rw [here] at walks
      cases kind with
      | file content => exact .inr (.inl (Except.error.inj walks).symm)
      | directory =>
        by_cases up : name = ['.', '.']
        · rw [if_pos up] at walks
          exact later walks
        · by_cases long : maxName < (Utf8.encode name).length
          · simp only [if_neg up, if_pos long] at walks
            have misfit : ¬ Fits name := not_or.mpr ⟨up, Nat.not_le.mpr long⟩
            exact .inr (.inr ⟨(Except.error.inj walks).symm, name, List.mem_cons_self .., misfit⟩)
          · simp only [if_neg up, if_neg long] at walks
            cases there : tree.lookup? (place ++ [name]) with
            | none =>
              rw [there] at walks
              exact .inl (Except.error.inj walks).symm
            | some entry =>
              rw [there] at walks
              exact later walks

/-- A path is too long to be looked at, or one of its names is. -/
def TooLong (path : Path) : Prop :=
  maxPath < (Utf8.encode path.toText).length ∨ ∃ name ∈ path.components, ¬ Fits name

/-- Looking at a path fails only if the path is too long. -/
theorem probe_error {error : PathError} (fails : tree.probe directory path = .error error) :
    error = .refused .nameTooLong path.toText ∧ TooLong path := by
  rw [probe, FileTree.find, checkPath] at fails
  by_cases null : path.toText.contains '\x00' = true
  · rw [if_pos null] at fails
    cases fails
  · by_cases long : maxPath < (Utf8.encode path.toText).length
    · rw [if_neg null, if_pos long] at fails
      cases fails
      exact ⟨rfl, .inl long⟩
    · rw [if_neg null, if_neg long] at fails
      cases walks : tree.walk (start directory path) path.components with
      | error fault =>
        rw [walks] at fails
        rcases walk_fault walks with rfl | rfl | ⟨rfl, misfit⟩
        · cases fails
        · cases fails
        · cases fails
          exact ⟨rfl, .inr misfit⟩
      | ok place =>
        rw [walks] at fails
        dsimp only [bind, Except.bind] at fails
        cases there : tree.lookup? place with
        | none =>
          rw [there] at fails
          cases fails
        | some entry =>
          rw [there] at fails
          cases fails

theorem isFile_error {error : PathError} (fails : tree.isFile directory path = .error error) :
    error = .refused .nameTooLong path.toText ∧ TooLong path := by
  rw [isFile] at fails
  cases probed : tree.probe directory path with
  | error other =>
    rw [probed] at fails
    cases fails
    exact probe_error probed
  | ok entry =>
    rw [probed] at fails
    rcases entry with _ | _ | _ <;> cases fails

/-- Only a name that does not fit stops a walk through directories to something that is there. -/
private theorem walk_above {place : Place} {names : List Text} {entry : Entry}
    (above : Above tree place names) (there : tree.lookup? (descend place names) = some entry) :
    tree.walk place names = .ok (descend place names) ∨
      tree.walk place names = .error .nameTooLong := by
  induction names generalizing place with
  | nil => exact .inl rfl
  | cons name names ih =>
    rw [above_cons] at above
    rw [descend_cons] at there
    have later := ih above.2 there
    rw [walk, above.1, descend_cons]
    by_cases up : name = ['.', '.']
    · subst up
      exact later
    · rw [descend_down up] at above there later ⊢
      by_cases long : maxName < (Utf8.encode name).length
      · simp [up, long]
      · cases next : tree.lookup? (place ++ [name]) with
        | some _ => simpa [up, long, next] using later
        | none =>
          rw [nothing_behind next above.2] at there
          cases there

/-- Where a path is answered for, there is either a file or one of the reasons why there is none. -/
theorem isFile_false_iff {answer : Bool} (tells : tree.isFile directory path = .ok answer) :
    answer = false ↔ NoFile tree directory path := by
  have isFile := isFile_iff tells
  constructor
  · rintro rfl
    by_cases null : '\x00' ∈ path.toText
    · exact .nullCharacter null
    by_cases above : Above tree (start directory path) path.components
    · cases there : tree.lookup? (named directory path) with
      | none => exact .missing there
      | some entry =>
        cases entry with
        | directory => exact .isDirectory there
        | file content =>
          have clean : ¬ path.toText.contains '\x00' = true := by rwa [List.contains_iff_mem]
          rw [FileTree.isFile, probe, FileTree.find, checkPath, if_neg clean] at tells
          rw [named] at there
          by_cases long : maxPath < (Utf8.encode path.toText).length
          · rw [if_pos long] at tells
            cases tells
          · rw [if_neg long] at tells
            rcases walk_above above there with walks | walks <;>
              simp [bind, Except.bind, walks, there] at tells
    · simp only [Above, not_forall] at above
      obtain ⟨front, isFront, proper, blocked⟩ := above
      cases here : tree.lookup? (descend (start directory path) front) with
      | none => exact .missingParent isFront proper here
      | some entry =>
        cases entry with
        | directory => exact absurd here blocked
        | file content => exact .fileAsParent isFront proper here
  · intro noFile
    rw [← Bool.not_eq_true, isFile]
    rintro ⟨content, isOpen, here⟩
    cases noFile with
    | nullCharacter inside =>
      have usable := isOpen.usable
      rw [checkPath, if_pos (List.contains_iff_mem.mpr inside)] at usable
      cases usable
    | missing nothing => simp [here] at nothing
    | isDirectory other => simp [here] at other
    | missingParent isFront proper nothing => simp [isOpen.above _ isFront proper] at nothing
    | fileAsParent isFront proper other => simp [isOpen.above _ isFront proper] at other

/-- A path whose names fit is answered for in every file system if it is in one. -/
theorem isFile_answers {first second : FileTree} {answer : Bool}
    (answers : first.isFile directory path = .ok answer)
    (fits : ∀ name ∈ path.components, Fits name) :
    ∃ answer, second.isFile directory path = .ok answer := by
  rw [isFile, probe, FileTree.find] at answers
  rw [isFile, probe, FileTree.find]
  cases usable : checkPath path with
  | error error =>
    rw [usable] at answers
    rcases error with _ | ⟨fault, place⟩
    · exact ⟨false, rfl⟩
    · exact ⟨answer, answers⟩
  | ok _ =>
    cases walks : second.walk (start directory path) path.components with
    | error fault =>
      rcases walk_fault walks with rfl | rfl | ⟨_, name, inside, misfit⟩
      · exact ⟨false, rfl⟩
      · exact ⟨false, rfl⟩
      · exact absurd (fits name inside) misfit
    | ok place =>
      simp only [bind, Except.bind]
      rcases second.lookup? place with _ | _ | _
      · exact ⟨false, rfl⟩
      · exact ⟨true, rfl⟩
      · exact ⟨false, rfl⟩

/-- A file is written where its path leads, unless a directory stands there. -/
theorem write_iff (nonempty : path.components ≠ []) {content : Utf8.Bytes} {made : FileTree} :
    tree.write directory path content = .ok made ↔
      IsOpen tree directory path ∧ tree.lookup? (named directory path) ≠ some .directory ∧
        made = tree.put (named directory path) (.file content) := by
  have targets := fun place entry => @target_iff tree directory path place nonempty entry
  rw [write]
  cases result : tree.target directory path with
  | error error =>
    simp only [bind, Except.bind, reduceCtorEq, false_iff, not_and]
    intro isOpen
    have := (targets _ _).mpr ⟨rfl, rfl, isOpen⟩
    rw [result] at this
    cases this
  | ok answer =>
    obtain ⟨place, entry⟩ := answer
    obtain ⟨rfl, rfl, isOpen⟩ := (targets _ _).mp result
    rcases tree.lookup? (named directory path) with _ | _ | _ <;>
      simp [bind, Except.bind, isOpen, eq_comm]

/-- A directory is made where nothing is, at the end of a path whose fronts are directories. -/
theorem makeDirectory_ok {made : FileTree} (makes : tree.makeDirectory directory path = .ok made) :
    path.components ≠ [] ∧ IsOpen tree directory path ∧
      tree.lookup? (named directory path) = none ∧
      made = tree.put (named directory path) .directory := by
  rw [makeDirectory] at makes
  have nonempty : path.components ≠ [] := by
    intro parts
    have last : path.components.getLast? = none := by simp [parts]
    rw [target, last] at makes
    cases usable : checkPath path with
    | error error =>
      rw [usable] at makes
      cases makes
    | ok _ =>
      rw [usable] at makes
      cases found : tree.find directory path with
      | error error => simp [bind, Except.bind, found] at makes
      | ok answer => simp [bind, Except.bind, found] at makes
  cases result : tree.target directory path with
  | error error =>
    rw [result] at makes
    cases makes
  | ok answer =>
    obtain ⟨place, entry⟩ := answer
    obtain ⟨rfl, rfl, isOpen⟩ := (target_iff nonempty).mp result
    rw [result] at makes
    cases here : tree.lookup? (named directory path) with
    | some entry => simp [bind, Except.bind, here] at makes
    | none =>
      simp only [bind, Except.bind, here, Except.ok.injEq] at makes
      exact ⟨nonempty, isOpen, rfl, makes.symm⟩

/-- Going up from a directory leads to a directory. -/
private theorem lookup?_up {place : Place} (here : tree.lookup? place = some .directory) :
    tree.lookup? place.dropLast = some .directory := by
  rcases List.eq_nil_or_concat place with rfl | ⟨above, name, rfl⟩
  · exact here
  · rw [List.concat_eq_append] at here
    rw [List.concat_eq_append, List.dropLast_concat]
    exact tree.lookup?_above here

/-- There is room at the end of an open path, unless a directory stands there. -/
theorem hasRoom_of_isOpen (nonempty : path.components ≠ []) (isOpen : IsOpen tree directory path)
    (free : tree.lookup? (named directory path) ≠ some .directory) (entry : Entry) :
    tree.entries.hasRoom (named directory path) entry = true := by
  obtain ⟨front, name, whole⟩ := List.eq_nil_or_concat path.components |>.resolve_left nonempty
  rw [List.concat_eq_append] at whole
  have above := isOpen.above front (whole ▸ List.prefix_append front [name]) (by simp [whole])
  rw [named, whole, descend_append] at free ⊢
  by_cases up : name = ['.', '.']
  · rw [up, descend_up] at free
    exact absurd (lookup?_up above) free
  · rw [descend_down up] at free ⊢
    refine Entries.hasRoom_iff.mpr ⟨by simp, ?_, .inr free⟩
    rw [List.dropLast_concat]
    exact above

theorem hasRoom_of_makeDirectory {made : FileTree}
    (makes : tree.makeDirectory directory path = .ok made) :
    tree.entries.hasRoom (named directory path) .directory = true := by
  obtain ⟨nonempty, isOpen, missing, _⟩ := makeDirectory_ok makes
  exact hasRoom_of_isOpen nonempty isOpen (by simp [missing]) _

theorem isDirectory_iff :
    tree.isDirectory directory path = true ↔
      IsOpen tree directory path ∧ tree.lookup? (named directory path) = some .directory := by
  rw [isDirectory]
  cases result : tree.find directory path with
  | error error =>
    simp only [Bool.false_eq_true, false_iff, not_and]
    intro isOpen here
    rw [missing_of_find result isOpen] at here
    cases here
  | ok answer =>
    obtain ⟨place, entry⟩ := answer
    obtain ⟨rfl, here, isOpen⟩ := find_iff.mp result
    cases entry <;> simp [here, isOpen]

/-- The way to a path depends on the places above it only. -/
theorem isOpen_congr {first second : FileTree}
    (same : ∀ front, front <+: path.components → front ≠ path.components →
      first.lookup? (descend (start directory path) front) =
        second.lookup? (descend (start directory path) front)) :
    IsOpen first directory path ↔ IsOpen second directory path := by
  rw [isOpen_iff, isOpen_iff]
  refine and_congr_right fun _ => and_congr_right fun _ => ?_
  exact forall_congr' fun front => forall_congr' fun isFront => forall_congr' fun other => by
    rw [same front isFront other]

section Agreement
variable {first second : FileTree}
  (same : ∀ place, Passes directory path place → first.lookup? place = second.lookup? place)
include same

theorem find_congr : first.find directory path = second.find directory path := by
  have walks : first.walk (start directory path) path.components =
      second.walk (start directory path) path.components :=
    walk_congr fun front isFront => same _ ⟨front, isFront, rfl⟩
  rw [FileTree.find, FileTree.find, walks]
  cases found : second.walk (start directory path) path.components with
  | error fault => rfl
  | ok place =>
    have here := same place ⟨_, List.prefix_rfl, (walk_end found).symm⟩
    simp only [here]

theorem isFile_congr : first.isFile directory path = second.isFile directory path := by
  rw [isFile, isFile, probe, probe, find_congr same]

theorem read_congr : first.read directory path = second.read directory path := by
  rw [FileTree.read, FileTree.read, find_congr same]

theorem target_congr : first.target directory path = second.target directory path := by
  rcases List.eq_nil_or_concat path.components with parts | ⟨front, name, parts⟩
  · have last : path.components.getLast? = none := by simp [parts]
    rw [target, target, last, find_congr same]
  · rw [List.concat_eq_append] at parts
    have last : path.components.getLast? = some name := by simp [parts]
    have others : path.components.dropLast = front := by simp [parts]
    have isFront : front <+: path.components := parts ▸ List.prefix_append ..
    have walks : first.walk (start directory path) front =
        second.walk (start directory path) front :=
      walk_congr fun more isMore => same _ ⟨more, isMore.trans isFront, rfl⟩
    rw [target, target, last, others, walks]
    cases found : second.walk (start directory path) front with
    | error fault => rfl
    | ok place =>
      have here := same place ⟨front, isFront, (walk_end found).symm⟩
      have there := same (descend place [name])
        ⟨path.components, List.prefix_rfl, by rw [walk_end found, parts, descend_append]⟩
      simp only [here]
      by_cases up : name = ['.', '.']
      · rw [up, descend_up] at there
        simp only [up, ↓reduceIte, there]
      · rw [descend_down up] at there
        simp only [up, ↓reduceIte, there]

end Agreement

/-! ### Where only directories stand in the way -/

/-- Nothing but directories stands where a front of a path leads. -/
def Clear (tree : FileTree) (directory : Place) (path : Path) : Prop :=
  ∀ place, Passes directory path place →
    tree.lookup? place = some .directory ∨ tree.lookup? place = none

/-- A path can be used if one that goes on behind it can. -/
private theorem checkPath_of_child {name : Text} (nonempty : path.components ≠ [])
    (usable : checkPath (path.child name) = .ok ()) : checkPath path = .ok () := by
  have longer : (path.child name).toText = path.toText ++ '/' :: name := by
    obtain ⟨front, last, parts⟩ := (List.eq_nil_or_concat path.components).resolve_left nonempty
    rw [List.concat_eq_append] at parts
    rw [Path.toText_child, Path.toText, parts]
    simp [Text.join_concat]
  rw [checkPath, longer] at usable
  rw [checkPath]
  by_cases null : path.toText.contains '\x00' = true
  · have stillNull : (path.toText ++ '/' :: name).contains '\x00' = true := by
      rw [List.contains_iff_mem] at null ⊢
      exact List.mem_append_left _ null
    rw [if_pos stillNull] at usable
    cases usable
  · rw [if_neg null, if_neg fun long => ?_]
    have stillLong : maxPath < (Utf8.encode (path.toText ++ '/' :: name)).length := by
      rw [Utf8.encode, List.flatMap_append, List.length_append]
      exact Nat.lt_add_right _ long
    rw [if_pos stillLong] at usable
    split at usable <;> cases usable

theorem checkPath_front {anchor : Anchor} {front names : List Text} (isFront : front <+: names)
    (nonempty : front ≠ []) (usable : checkPath ⟨anchor, names⟩ = .ok ()) :
    checkPath ⟨anchor, front⟩ = .ok () := by
  obtain ⟨rest, rfl⟩ := isFront
  induction rest using List.reverseRecOn with
  | nil => simpa using usable
  | append_singleton rest name ih =>
    rw [← List.append_assoc] at usable
    have longer : checkPath (Path.child ⟨anchor, front ++ rest⟩ name) = .ok () := usable
    exact ih (checkPath_of_child (by simp [nonempty]) longer)

/-- A walk in whose way only directories stand comes to its end unless something is missing. -/
private theorem walk_clear {place : Place} {names : List Text} (fits : ∀ name ∈ names, Fits name)
    (clear : ∀ front, front <+: names → tree.lookup? (descend place front) = some .directory ∨
      tree.lookup? (descend place front) = none) :
    tree.walk place names = .ok (descend place names) ∨
      tree.walk place names = .error .missing := by
  induction names generalizing place with
  | nil => exact .inl rfl
  | cons name names ih =>
    have later : tree.walk (descend place [name]) names =
          .ok (descend (descend place [name]) names) ∨
        tree.walk (descend place [name]) names = .error .missing :=
      ih (fun other inside => fits other (List.mem_cons_of_mem _ inside))
        fun front isFront => clear (name :: front) (List.cons_prefix_cons.mpr ⟨rfl, isFront⟩)
    have here : tree.lookup? place = some .directory ∨ tree.lookup? place = none :=
      clear [] List.nil_prefix
    rw [walk, descend_cons]
    rcases here with here | here
    · rw [here]
      by_cases up : name = ['.', '.']
      · rw [up, descend_up] at later ⊢
        simpa using later
      · have short : ¬ maxName < (Utf8.encode name).length :=
          Nat.not_lt.mpr ((fits name (List.mem_cons_self ..)).resolve_left up)
        rw [descend_down up] at later ⊢
        simp only [if_neg up, if_neg short]
        cases tree.lookup? (place ++ [name]) with
        | none => exact .inr rfl
        | some entry => exact later
    · rw [here]
      exact .inr rfl

/-- Where only directories stand in the way, a path is open unless something is missing. -/
theorem isOpen_or_missing (usable : checkPath path = .ok ())
    (fits : ∀ name ∈ path.components, Fits name) (nonempty : path.components ≠ [])
    (clear : Clear tree directory path) :
    IsOpen tree directory path ∨
      tree.target directory path = .error (.refused .missing path.toText) := by
  obtain ⟨front, name, parts⟩ := (List.eq_nil_or_concat path.components).resolve_left nonempty
  rw [List.concat_eq_append] at parts
  have last : path.components.getLast? = some name := by simp [parts]
  have others : path.components.dropLast = front := by simp [parts]
  have isFront : front <+: path.components := parts ▸ List.prefix_append ..
  have frontFits : ∀ other ∈ front, Fits other := fun other inside =>
    fits other (isFront.subset inside)
  have here := clear (descend (start directory path) front) ⟨front, isFront, rfl⟩
  rcases walk_clear frontFits fun more isMore => clear _ ⟨more, isMore.trans isFront, rfl⟩ with
    walks | walks
  · rcases here with here | here
    · obtain ⟨_, _, _, above⟩ := walk_iff.mp ⟨walks, here⟩
      exact .inl ⟨usable, fits, parts ▸ above_concat.mpr ⟨here, above⟩⟩
    · right
      rw [target, usable, last, others]
      simp only [bind, Except.bind, walks, here]
  · right
    rw [target, usable, last, others]
    simp only [bind, Except.bind, walks]

end Operations

end DebugLaunch.PlaceWalk
