import DebugLaunch.Path
import DebugLaunch.Text.Quoted
import DebugLaunch.Text.Utf8

/-! A file system as a value: what stands at each place, where a place is the list of names from
the root. Everything stands in a directory, which a file system carries a proof of. A path names a
place by a walk that starts at the root or at a working directory, goes down one component at a time
through directories that exist, and goes up at `..`. Every operation says which fault stops it, and
writing changes one place only (`lookup?_put_of_ne`). -/
namespace DebugLaunch

open Utf8 (Bytes)

/-- Why the file system refuses an operation. -/
inductive FileFault where
  | missing
  | argumentListTooLong
  | notExecutable
  | permissionDenied
  | alreadyExists
  | notADirectory
  | isADirectory
  | nameTooLong
  deriving DecidableEq, Repr, Inhabited

namespace FileFault

/-- The number of a fault. -/
def code : FileFault → Nat
  | missing => 2
  | argumentListTooLong => 7
  | notExecutable => 8
  | permissionDenied => 13
  | alreadyExists => 17
  | notADirectory => 20
  | isADirectory => 21
  | nameTooLong => 36

/-- The description of a fault. -/
def description : FileFault → Text
  | missing => "No such file or directory".toList
  | argumentListTooLong => "Argument list too long".toList
  | notExecutable => "Exec format error".toList
  | permissionDenied => "Permission denied".toList
  | alreadyExists => "File exists".toList
  | notADirectory => "Not a directory".toList
  | isADirectory => "Is a directory".toList
  | nameTooLong => "File name too long".toList

end FileFault

/-- Why a path cannot be used: no path holds a null character, and the file system may refuse. -/
inductive PathError where
  | nullCharacter
  | refused (fault : FileFault) (path : Text)
  deriving DecidableEq, Repr

/-- The text of a path error. -/
def PathError.message : PathError → Text
  | nullCharacter => "embedded null byte".toList
  | refused fault path =>
    "[Errno ".toList ++ Text.ofNat fault.code ++ "] ".toList ++ fault.description ++ ": ".toList ++
      Text.quoted path

/-- What stands at a place. -/
inductive Entry where
  | file (content : Bytes)
  | directory
  deriving DecidableEq, Repr, Inhabited

/-- Whether an entry is a directory. -/
def Entry.isDirectory : Entry → Bool
  | file _ => false
  | directory => true

/-- The names from the root to a place. -/
abbrev Place := List Text

/-- A name that stands for a file or a directory in a path. -/
structure Place.Plain (name : Text) : Prop where
  something : name ≠ []
  noDot : name ≠ ['.']
  noUp : name ≠ ['.', '.']
  noSlash : '/' ∉ name

instance (name : Text) : Decidable (Place.Plain name) :=
  decidable_of_iff (((name ≠ [] ∧ name ≠ ['.']) ∧ name ≠ ['.', '.']) ∧ '/' ∉ name)
    ⟨fun ⟨⟨⟨something, noDot⟩, noUp⟩, noSlash⟩ => ⟨something, noDot, noUp, noSlash⟩,
      fun ⟨something, noDot, noUp, noSlash⟩ => ⟨⟨⟨something, noDot⟩, noUp⟩, noSlash⟩⟩

/-- A place is named by plain names. -/
def IsPlace (place : Place) : Prop := ∀ name ∈ place, Place.Plain name

instance (place : Place) : Decidable (IsPlace place) := List.decidableBAll _ place

/-- No name on the way to a place holds a null character, so that a path can name the place. -/
def IsUsable (place : Place) : Prop := ∀ name ∈ place, '\x00' ∉ name

instance (place : Place) : Decidable (IsUsable place) := List.decidableBAll _ place

/-- What stands at places: all that is there, but the root, which is always a directory. -/
abbrev Entries := List (Place × Entry)

namespace Entries

/-- What stands at a place. -/
def lookup? (entries : Entries) (place : Place) : Option Entry :=
  if place = [] then some .directory else entries.lookup place

/-- Everything stands in a directory. -/
def Grounded (entries : Entries) : Prop :=
  ∀ item ∈ entries, entries.lookup? item.1.dropLast = some .directory

/-- Whether everything stands in a directory. -/
def isGrounded (entries : Entries) : Bool :=
  entries.all fun item => (entries.lookup? item.1.dropLast).any Entry.isDirectory

/-- Whether an entry can be put at a place: in a directory, and not a file instead of a directory.
-/
def hasRoom (entries : Entries) (place : Place) (entry : Entry) : Bool :=
  place ≠ [] && entries.lookup? place.dropLast = some .directory &&
    (entry = .directory || entries.lookup? place ≠ some .directory)

/-- An entry at a place, instead of what stands there. -/
def put (entries : Entries) (place : Place) (entry : Entry) : Entries :=
  (place, entry) :: entries.filter fun other => other.1 != place

/-- All but what stands at a place and below it. -/
def erase (entries : Entries) (place : Place) : Entries :=
  entries.filter fun other => !place.isPrefixOf other.1

variable {entries : Entries} {place other : Place} {entry : Entry}

theorem grounded_of_isGrounded (checked : entries.isGrounded = true) : entries.Grounded := by
  intro item inside
  have above := List.all_eq_true.mp checked item inside
  cases held : entries.lookup? item.1.dropLast with
  | none => simp [held] at above
  | some found =>
    cases found with
    | file content => simp [held, Entry.isDirectory] at above
    | directory => rfl

theorem hasRoom_iff :
    entries.hasRoom place entry = true ↔
      place ≠ [] ∧ entries.lookup? place.dropLast = some .directory ∧
        (entry = .directory ∨ entries.lookup? place ≠ some .directory) := by
  simp [hasRoom, and_assoc]

theorem lookup_filter_of_ne {keeps : Place × Entry → Bool}
    (kept : ∀ entry, keeps (place, entry) = true) :
    (entries.filter keeps).lookup place = entries.lookup place := by
  induction entries with
  | nil => rfl
  | cons item rest ih =>
    obtain ⟨key, entry⟩ := item
    by_cases same : place = key
    · subst same
      rw [List.filter_cons_of_pos (kept entry), List.lookup_cons_self, List.lookup_cons_self]
    · have differs : (place == key) = false := by simpa using same
      rw [List.filter_cons]
      split
      · rw [List.lookup_cons, List.lookup_cons, differs, ih]
      · rw [List.lookup_cons, differs, ih]

theorem lookup?_filter {keeps : Place × Entry → Bool}
    (kept : ∀ entry, keeps (place, entry) = true) :
    lookup? (entries.filter keeps) place = entries.lookup? place := by
  rw [lookup?, lookup?, lookup_filter_of_ne kept]

/-- Putting an entry somewhere changes no other place. -/
theorem lookup?_put_of_ne (different : other ≠ place) :
    (entries.put place entry).lookup? other = entries.lookup? other := by
  have differs : (other == place) = false := by simpa using different
  rw [put, lookup?, lookup?, List.lookup_cons, differs,
    lookup_filter_of_ne fun _ => by simpa using different]

theorem lookup?_put_self (below : place ≠ []) :
    (entries.put place entry).lookup? place = some entry := by
  rw [put, lookup?, if_neg below, List.lookup_cons_self]

/-- Where there is room for an entry, everything still stands in a directory once it is put there.
-/
theorem grounded_put (grounded : entries.Grounded) (room : entries.hasRoom place entry = true) :
    (entries.put place entry).Grounded := by
  obtain ⟨below, above, fits⟩ := hasRoom_iff.mp room
  have shorter : place.dropLast ≠ place := by
    intro same
    have := congrArg List.length same
    rw [List.length_dropLast] at this
    have := List.length_pos_iff.mpr below
    omega
  intro item inside
  rcases List.mem_cons.mp inside with rfl | inside
  · rw [lookup?_put_of_ne shorter, above]
  · have held := grounded item (List.mem_filter.mp inside).1
    by_cases here : item.1.dropLast = place
    · rw [here] at held ⊢
      rw [lookup?_put_self below]
      exact congrArg some (fits.resolve_right (not_not_intro held))
    · rw [lookup?_put_of_ne here, held]

/-- What is left stands in directories that are left. -/
theorem grounded_erase (grounded : entries.Grounded) (place : Place) :
    (entries.erase place).Grounded := by
  intro item inside
  obtain ⟨inside, outside⟩ := List.mem_filter.mp inside
  rw [Bool.not_eq_true', ← Bool.not_eq_true, List.isPrefixOf_iff_prefix] at outside
  rw [erase, lookup?_filter, grounded item inside]
  intro _
  rw [Bool.not_eq_true', ← Bool.not_eq_true, List.isPrefixOf_iff_prefix]
  exact fun isPrefix => outside (isPrefix.trans (List.dropLast_prefix item.1))

end Entries

/-- A file system: what stands at places, with the directories that hold it. -/
structure FileTree where
  entries : Entries
  grounded : entries.Grounded := by exact Entries.grounded_of_isGrounded rfl
  deriving Repr

namespace FileTree

instance : Inhabited FileTree := ⟨{ entries := [] }⟩

/-- What stands at a place. -/
def lookup? (tree : FileTree) (place : Place) : Option Entry := tree.entries.lookup? place

/-- Puts an entry at a place, instead of what stands there, if there is room for it. -/
def put (tree : FileTree) (place : Place) (entry : Entry) : FileTree :=
  if room : tree.entries.hasRoom place entry then
    ⟨tree.entries.put place entry, Entries.grounded_put tree.grounded room⟩
  else tree

/-- Takes away what stands at a place and below it. -/
def erase (tree : FileTree) (place : Place) : FileTree :=
  ⟨tree.entries.erase place, Entries.grounded_erase tree.grounded place⟩

/-- The longest name of a component, in bytes. -/
def maxName : Nat := 255

/-- The longest path, in bytes. -/
def maxPath : Nat := 4095

/-- Walks down from a place. Each step needs a directory to start from. -/
def walk (tree : FileTree) : Place → List Text → Except FileFault Place
  | place, [] => .ok place
  | place, name :: rest =>
    match tree.lookup? place with
    | none => .error .missing
    | some (.file _) => .error .notADirectory
    | some .directory =>
      if name = ['.', '.'] then walk tree place.dropLast rest
      else if maxName < (Utf8.encode name).length then .error .nameTooLong
      else match tree.lookup? (place ++ [name]) with
        | none => .error .missing
        | some _ => walk tree (place ++ [name]) rest

/-- The place that a walk along a path starts from. -/
def start (directory : Place) (path : Path) : Place :=
  match path.anchor with
  | .relative => directory
  | _ => []

/-- Refuses paths that no operation can use. -/
def checkPath (path : Path) : Except PathError Unit :=
  if path.toText.contains '\x00' then .error .nullCharacter
  else if maxPath < (Utf8.encode path.toText).length then
    .error (.refused .nameTooLong path.toText)
  else .ok ()

/-- The place of something that exists, and what it is. -/
def find (tree : FileTree) (directory : Place) (path : Path) :
    Except PathError (Place × Entry) := do
  checkPath path
  match tree.walk (start directory path) path.components with
  | .error fault => .error (.refused fault path.toText)
  | .ok place =>
    match tree.lookup? place with
    | none => .error (.refused .missing path.toText)
    | some entry => .ok (place, entry)

/-- The place that a path names in a directory that exists, whether or not something stands
there, and what does. -/
def target (tree : FileTree) (directory : Place) (path : Path) :
    Except PathError (Place × Option Entry) := do
  checkPath path
  match path.components.getLast? with
  | none => do
    let (place, entry) ← tree.find directory path
    .ok (place, some entry)
  | some name =>
    let refuse (fault : FileFault) : Except PathError (Place × Option Entry) :=
      .error (.refused fault path.toText)
    match tree.walk (start directory path) path.components.dropLast with
    | .error fault => refuse fault
    | .ok place =>
      match tree.lookup? place with
      | none => refuse .missing
      | some (.file _) => refuse .notADirectory
      | some .directory =>
        if name = ['.', '.'] then .ok (place.dropLast, tree.lookup? place.dropLast)
        else if maxName < (Utf8.encode name).length then refuse .nameTooLong
        else .ok (place ++ [name], tree.lookup? (place ++ [name]))

/-- Looks at what a path names. Whatever makes the path name nothing counts as nothing there; only
a name that is too long is a fault. -/
def probe (tree : FileTree) (directory : Place) (path : Path) : Except PathError (Option Entry) :=
  match tree.find directory path with
  | .ok (_, entry) => .ok (some entry)
  | .error .nullCharacter => .ok none
  | .error (.refused .missing _) | .error (.refused .notADirectory _) => .ok none
  | .error error => .error error

/-- Whether a path names a file. -/
def isFile (tree : FileTree) (directory : Place) (path : Path) : Except PathError Bool := do
  match ← tree.probe directory path with
  | some (.file _) => .ok true
  | _ => .ok false

/-- The content of a file. -/
def read (tree : FileTree) (directory : Place) (path : Path) : Except PathError Bytes := do
  match ← tree.find directory path with
  | (_, .file content) => .ok content
  | (_, .directory) => .error (.refused .isADirectory path.toText)

/-- Puts a file with this content where the path says, in a directory that exists. -/
def write (tree : FileTree) (directory : Place) (path : Path) (content : Bytes) :
    Except PathError FileTree := do
  match ← tree.target directory path with
  | (_, some .directory) => .error (.refused .isADirectory path.toText)
  | (place, _) => .ok (tree.put place (.file content))

/-- Makes one directory, in a directory that exists. -/
def makeDirectory (tree : FileTree) (directory : Place) (path : Path) :
    Except PathError FileTree := do
  match ← tree.target directory path with
  | (place, none) => .ok (tree.put place .directory)
  | (_, some _) => .error (.refused .alreadyExists path.toText)

/-- Whether a path names a directory. -/
def isDirectory (tree : FileTree) (directory : Place) (path : Path) : Bool :=
  match tree.find directory path with
  | .ok (_, .directory) => true
  | _ => false

/-- Makes the directory of a path unless it is there, given the path's components from the last to
the first; `anchor` is where it begins. Missing directories above it are made first, and those
that were made stay if a later one cannot be. -/
def ensureDirectoryFrom (directory : Place) (anchor : Anchor) (tree : FileTree) :
    List Text → FileTree × Except PathError Unit
  | [] => (tree, .ok ())
  | name :: above =>
    let path : Path := ⟨anchor, (name :: above).reverse⟩
    let settle (tree : FileTree) (error : PathError) : FileTree × Except PathError Unit :=
      if tree.isDirectory directory path then (tree, .ok ()) else (tree, .error error)
    match tree.makeDirectory directory path with
    | .ok made => (made, .ok ())
    | .error (.refused .missing _) =>
      match ensureDirectoryFrom directory anchor tree above with
      | (made, .error error) => (made, .error error)
      | (made, .ok ()) =>
        match made.makeDirectory directory path with
        | .ok final => (final, .ok ())
        | .error error => settle made error
    | .error error => settle tree error

/-- Makes the directory of a path unless it is there, with the missing directories above it. -/
def ensureDirectory (tree : FileTree) (directory : Place) (path : Path) :
    FileTree × Except PathError Unit :=
  match checkPath path with
  | .error error => (tree, .error error)
  | .ok () => ensureDirectoryFrom directory path.anchor tree path.components.reverse

/-- Removes a file, or a directory with everything below it. -/
def remove (tree : FileTree) (directory : Place) (path : Path) : Except PathError FileTree := do
  let (place, _) ← tree.find directory path
  .ok (tree.erase place)

/-- Everything below a place: the names from there on, and what it is. -/
def below (tree : FileTree) (place : Place) : List (Place × Entry) :=
  tree.entries.filterMap fun (other, entry) =>
    if place.isPrefixOf other && place != other then some (other.drop place.length, entry) else none

theorem lookup?_put_self (tree : FileTree) {place : Place} {entry : Entry}
    (room : tree.entries.hasRoom place entry = true) :
    (tree.put place entry).lookup? place = some entry := by
  rw [put, dif_pos room]
  exact Entries.lookup?_put_self (Entries.hasRoom_iff.mp room).1

/-- Putting an entry somewhere changes no other place. -/
theorem lookup?_put_of_ne (tree : FileTree) {place other : Place} (different : other ≠ place)
    (entry : Entry) : (tree.put place entry).lookup? other = tree.lookup? other := by
  rw [put]
  split
  · exact Entries.lookup?_put_of_ne different
  · rfl

/-- What stands anywhere stands in a directory. -/
theorem lookup?_above (tree : FileTree) {place : Place} {name : Text} {entry : Entry}
    (held : tree.lookup? (place ++ [name]) = some entry) :
    tree.lookup? place = some .directory := by
  rw [lookup?, Entries.lookup?, if_neg (by simp)] at held
  obtain ⟨front, behind, whole, _⟩ := List.lookup_eq_some_iff.mp held
  have inside : (place ++ [name], entry) ∈ tree.entries := by simp [whole]
  have above := tree.grounded _ inside
  rwa [List.dropLast_concat] at above

end FileTree
end DebugLaunch
