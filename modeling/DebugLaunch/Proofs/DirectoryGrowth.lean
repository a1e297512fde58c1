import DebugLaunch.Proofs.PlaceWalk

/-! Making a directory with the missing ones above it only ever adds directories, and only at places
that a front of its path names. So whatever stops it half way, what stood somewhere before still
stands there; and where it succeeds, the whole path leads through directories. -/
namespace DebugLaunch.DirectoryGrowth
open FileTree PlaceWalk

/-- Directories were made at places that satisfy `P` and where nothing was, and every other place is
as it was. -/
def Grown (P : Place → Prop) (before after : FileTree) : Prop :=
  ∀ place, after.lookup? place = before.lookup? place ∨
    (P place ∧ before.lookup? place = none ∧ after.lookup? place = some .directory)

section Growth
variable {P Q : Place → Prop} {before middle after : FileTree} {directory : Place} {path : Path}

theorem grown_refl (P : Place → Prop) (tree : FileTree) : Grown P tree tree := fun _ => .inl rfl

theorem grown_mono (grown : Grown P before after) (wider : ∀ place, P place → Q place) :
    Grown Q before after := fun place =>
  (grown place).imp_right fun ⟨allowed, rest⟩ => ⟨wider place allowed, rest⟩

theorem grown_trans (first : Grown P before middle) (second : Grown P middle after) :
    Grown P before after := by
  intro place
  rcases second place with same | ⟨allowed, missing, made⟩
  · rw [same]
    exact first place
  · rcases first place with same | ⟨_, _, there⟩
    · exact .inr ⟨allowed, same ▸ missing, made⟩
    · rw [missing] at there
      cases there

/-- What stood somewhere is still there. -/
theorem grown_keeps (grown : Grown P before after) {place : Place} {entry : Entry}
    (here : before.lookup? place = some entry) : after.lookup? place = some entry := by
  rcases grown place with same | ⟨_, missing, _⟩
  · exact same.trans here
  · rw [here] at missing
    cases missing

/-- No file has come, gone or changed. -/
theorem grown_files (grown : Grown P before after) (place : Place) (content : Utf8.Bytes) :
    after.lookup? place = some (.file content) ↔ before.lookup? place = some (.file content) := by
  rcases grown place with same | ⟨_, missing, made⟩
  · rw [same]
  · simp [missing, made]

theorem grown_put {place : Place} (allowed : P place) (missing : before.lookup? place = none)
    (room : before.entries.hasRoom place .directory = true) :
    Grown P before (before.put place .directory) := by
  intro other
  by_cases same : other = place
  · subst same
    exact .inr ⟨allowed, missing, lookup?_put_self before room⟩
  · exact .inl (lookup?_put_of_ne before same .directory)

theorem isOpen_grown (grown : Grown P before after) (isOpen : IsOpen before directory path) :
    IsOpen after directory path :=
  ⟨isOpen.usable, isOpen.fits, fun front isFront other =>
    grown_keeps grown (isOpen.above front isFront other)⟩

theorem passes_named (directory : Place) (path : Path) :
    Passes directory path (named directory path) :=
  ⟨path.components, List.prefix_rfl, rfl⟩

theorem passes_front {anchor : Anchor} {front names : List Text} (isFront : front <+: names)
    {place : Place} (passes : Passes directory ⟨anchor, front⟩ place) :
    Passes directory ⟨anchor, names⟩ place := by
  obtain ⟨more, isMore, leads⟩ := passes
  exact ⟨more, isMore.trans isFront, leads⟩

theorem makeDirectory_grown (makes : before.makeDirectory directory path = .ok after) :
    Grown (Passes directory path) before after := by
  obtain ⟨_, _, missing, rfl⟩ := makeDirectory_ok makes
  exact grown_put (passes_named directory path) missing (hasRoom_of_makeDirectory makes)

theorem makeDirectory_isDirectory (makes : before.makeDirectory directory path = .ok after) :
    after.isDirectory directory path = true := by
  have grown := makeDirectory_grown makes
  have room := hasRoom_of_makeDirectory makes
  obtain ⟨_, isOpen, _, rfl⟩ := makeDirectory_ok makes
  exact isDirectory_iff.mpr ⟨isOpen_grown grown isOpen, lookup?_put_self before room⟩

end Growth

/-! ### A directory with those above it -/

/-- One attempt at a directory, which may be there already. -/
def attempt (tree : FileTree) (directory : Place) (path : Path) :
    FileTree × Except PathError Unit :=
  match tree.makeDirectory directory path with
  | .ok made => (made, .ok ())
  | .error error =>
    if tree.isDirectory directory path then (tree, .ok ()) else (tree, .error error)

/-- An attempt fails for something that is missing, which may be a directory above. -/
def Lacks (tree : FileTree) (directory : Place) (path : Path) : Prop :=
  ∃ place, tree.makeDirectory directory path = .error (.refused .missing place)

/-- A directory is attempted at once, or again after those above it were made. -/
private theorem ensureDirectoryFrom_cons (directory : Place) (anchor : Anchor) (tree : FileTree)
    (name : Text) (above : List Text) :
    let path : Path := ⟨anchor, (name :: above).reverse⟩
    let upper := ensureDirectoryFrom directory anchor tree above
    (¬ Lacks tree directory path ∧
        ensureDirectoryFrom directory anchor tree (name :: above) = attempt tree directory path) ∨
      (Lacks tree directory path ∧ ensureDirectoryFrom directory anchor tree (name :: above) =
        match upper.2 with
        | .error error => (upper.1, .error error)
        | .ok () => attempt upper.1 directory path) := by
  intro path upper
  rw [ensureDirectoryFrom, attempt, Lacks]
  cases makes : tree.makeDirectory directory path with
  | ok made => exact .inl ⟨nofun, rfl⟩
  | error error =>
    rcases error with _ | ⟨fault, place⟩
    · exact .inl ⟨nofun, rfl⟩
    · by_cases missing : fault = .missing
      · subst missing
        refine .inr ⟨⟨place, rfl⟩, ?_⟩
        dsimp only [upper, attempt]
        rcases ensureDirectoryFrom directory anchor tree above with ⟨made, error | _⟩ <;> rfl
      · refine .inl ⟨fun ⟨_, same⟩ => ?_, ?_⟩
        · cases same
          exact missing rfl
        · cases fault <;> first | rfl | exact absurd rfl missing

private theorem attempt_spec (tree : FileTree) (directory : Place) (path : Path) :
    Grown (Passes directory path) tree (attempt tree directory path).1 ∧
      ((attempt tree directory path).2 = .ok () →
        (attempt tree directory path).1.isDirectory directory path = true) := by
  rw [attempt]
  cases makes : tree.makeDirectory directory path with
  | ok made => exact ⟨makeDirectory_grown makes, fun _ => makeDirectory_isDirectory makes⟩
  | error error =>
    dsimp only
    split
    · rename_i isThere
      exact ⟨grown_refl _ tree, fun _ => isThere⟩
    · exact ⟨grown_refl _ tree, nofun⟩

/-- Directories are made along the path only, and where that succeeds the path names one. The
induction is on the path from its end: the part above it is made first. -/
theorem ensureDirectoryFrom_spec (directory : Place) (anchor : Anchor) (tree : FileTree)
    (above : List Text) :
    Grown (Passes directory ⟨anchor, above.reverse⟩) tree
        (ensureDirectoryFrom directory anchor tree above).1 ∧
      (above ≠ [] → (ensureDirectoryFrom directory anchor tree above).2 = .ok () →
        (ensureDirectoryFrom directory anchor tree above).1.isDirectory directory
          ⟨anchor, above.reverse⟩ = true) := by
  induction above with
  | nil => exact ⟨grown_refl _ tree, fun empty => absurd rfl empty⟩
  | cons name above ih =>
    have wider : ∀ place, Passes directory ⟨anchor, above.reverse⟩ place →
        Passes directory ⟨anchor, (name :: above).reverse⟩ place := fun place =>
      passes_front (by rw [List.reverse_cons]; exact List.prefix_append ..)
    have upperGrown := grown_mono ih.1 wider
    rcases ensureDirectoryFrom_cons directory anchor tree name above with
      ⟨_, atOnce⟩ | ⟨_, again⟩
    · obtain ⟨grown, isThere⟩ := attempt_spec tree directory ⟨anchor, (name :: above).reverse⟩
      rw [atOnce]
      exact ⟨grown, fun _ => isThere⟩
    · rw [again]
      rcases (ensureDirectoryFrom directory anchor tree above).2 with error | _
      · exact ⟨upperGrown, fun _ => nofun⟩
      · obtain ⟨grown, isThere⟩ := attempt_spec
          (ensureDirectoryFrom directory anchor tree above).1 directory
          ⟨anchor, (name :: above).reverse⟩
        exact ⟨grown_trans upperGrown grown, fun _ => isThere⟩

theorem ensureDirectory_spec (tree : FileTree) (directory : Place) (path : Path) :
    Grown (Passes directory path) tree (tree.ensureDirectory directory path).1 ∧
      (path.components ≠ [] → (tree.ensureDirectory directory path).2 = .ok () →
        (tree.ensureDirectory directory path).1.isDirectory directory path = true) := by
  have spec := ensureDirectoryFrom_spec directory path.anchor tree path.components.reverse
  rw [List.reverse_reverse] at spec
  rw [ensureDirectory]
  cases checkPath path with
  | error error => exact ⟨grown_refl _ tree, fun _ done => by cases done⟩
  | ok _ => exact ⟨spec.1, fun nonempty => spec.2 (by simpa using nonempty)⟩

/-- Where the path names a directory there is nothing left to make. -/
theorem ensureDirectory_of_isDirectory {tree : FileTree} {directory : Place} {path : Path}
    (isThere : tree.isDirectory directory path = true) :
    tree.ensureDirectory directory path = (tree, .ok ()) := by
  obtain ⟨isOpen, here⟩ := isDirectory_iff.mp isThere
  rw [ensureDirectory, isOpen.usable]
  cases shape : path.components.reverse with
  | nil => rfl
  | cons name above =>
    have whole : (⟨path.anchor, (name :: above).reverse⟩ : Path) = path := by
      rw [← shape, List.reverse_reverse]
    have nonempty : path.components ≠ [] := by
      intro empty
      simp [empty] at shape
    have refused : tree.makeDirectory directory path =
        .error (.refused .alreadyExists path.toText) := by
      rw [makeDirectory, (target_iff nonempty).mpr ⟨rfl, rfl, isOpen⟩, here]
      rfl
    have steps := ensureDirectoryFrom_cons directory path.anchor tree name above
    dsimp only at steps ⊢
    rw [whole] at steps
    rcases steps with ⟨_, atOnce⟩ | ⟨⟨place, lacks⟩, _⟩
    · rw [atOnce, attempt, refused]
      simp [isThere]
    · rw [refused] at lacks
      cases lacks

/-! ### Where only directories stand in the way -/

section Unhindered
variable {P : Place → Prop} {tree before after : FileTree} {directory : Place} {path : Path}

theorem clear_grown (grown : Grown P before after) (clear : Clear before directory path) :
    Clear after directory path := by
  intro place passes
  rcases grown place with same | ⟨_, _, made⟩
  · rw [same]
    exact clear place passes
  · exact .inl made

/-- One attempt is enough where the directories above are there and no file stands in the place. -/
private theorem attempt_of_isOpen (isOpen : IsOpen tree directory path)
    (nonempty : path.components ≠ []) (clear : Clear tree directory path) :
    (attempt tree directory path).2 = .ok () := by
  have targets := (target_iff nonempty).mpr ⟨rfl, rfl, isOpen⟩
  rcases clear _ (passes_named directory path) with here | here
  · have isThere : tree.isDirectory directory path = true := isDirectory_iff.mpr ⟨isOpen, here⟩
    simp only [attempt, makeDirectory, targets, here, bind, Except.bind, isThere, if_true]
  · simp only [attempt, makeDirectory, targets, here, bind, Except.bind]

/-- Where only directories stand in the way and the names can be used, all that is missing is made.
The induction is on the path from its end, as the directories are tried. -/
private theorem ensureDirectoryFrom_clear {anchor : Anchor} {above : List Text}
    (usable : above ≠ [] → checkPath ⟨anchor, above.reverse⟩ = .ok ())
    (fits : ∀ name ∈ above.reverse, Fits name)
    (origin : tree.lookup? (start directory ⟨anchor, []⟩) = some .directory)
    (clear : Clear tree directory ⟨anchor, above.reverse⟩) :
    (ensureDirectoryFrom directory anchor tree above).2 = .ok () := by
  induction above with
  | nil => rfl
  | cons name above ih =>
    have nonempty : (name :: above).reverse ≠ [] := by simp
    have isFront : above.reverse <+: (name :: above).reverse := by simp
    rcases ensureDirectoryFrom_cons directory anchor tree name above with
      ⟨notLacks, atOnce⟩ | ⟨_, again⟩
    · rw [atOnce]
      rcases isOpen_or_missing (usable (by simp)) fits nonempty clear with isOpen | missing
      · exact attempt_of_isOpen isOpen nonempty clear
      · have lacks : Lacks tree directory ⟨anchor, (name :: above).reverse⟩ := by
          rw [Lacks, makeDirectory, missing]
          exact ⟨_, rfl⟩
        exact absurd lacks notLacks
    · have upper : (ensureDirectoryFrom directory anchor tree above).2 = .ok () :=
        ih (fun below => checkPath_front isFront (by simpa using below) (usable (by simp)))
          (fun other inside => fits other (isFront.subset inside))
          fun place passes => clear place (passes_front isFront passes)
      obtain ⟨grown, isThere⟩ := ensureDirectoryFrom_spec directory anchor tree above
      have openAbove : (ensureDirectoryFrom directory anchor tree above).1.lookup?
            (descend (start directory ⟨anchor, []⟩) above.reverse) = some .directory ∧
          Above (ensureDirectoryFrom directory anchor tree above).1
            (start directory ⟨anchor, []⟩) above.reverse := by
        cases above with
        | nil => exact ⟨origin, above_nil _ _⟩
        | cons _ _ =>
          obtain ⟨isOpen, here⟩ := isDirectory_iff.mp (isThere (by simp) upper)
          exact ⟨here, isOpen.above⟩
      have whole : Above (ensureDirectoryFrom directory anchor tree above).1
          (start directory ⟨anchor, []⟩) (name :: above).reverse := by
        rw [List.reverse_cons]
        exact above_concat.mpr openAbove
      rw [again, upper]
      exact attempt_of_isOpen ⟨usable (by simp), fits, whole⟩ nonempty (clear_grown grown clear)

/-- Where only directories stand in the way of a path that can be used, its directory can be made.
-/
theorem ensureDirectory_of_clear (usable : checkPath path = .ok ())
    (fits : ∀ name ∈ path.components, Fits name)
    (origin : tree.lookup? (start directory path) = some .directory)
    (clear : Clear tree directory path) :
    (tree.ensureDirectory directory path).2 = .ok () := by
  have whole : path.components.reverse.reverse = path.components := List.reverse_reverse _
  rw [ensureDirectory, usable]
  refine ensureDirectoryFrom_clear (fun _ => ?_) ?_ origin ?_
  all_goals rw [whole]
  · exact usable
  · exact fits
  · exact clear

end Unhindered

/-! ### Two file systems alike along the path -/

section Agreement
variable {directory : Place} {first second : FileTree}

theorem lookup?_put_agree {place other : Place} {entry : Entry}
    (room : first.entries.hasRoom place entry = true)
    (secondRoom : second.entries.hasRoom place entry = true)
    (same : first.lookup? other = second.lookup? other) :
    (first.put place entry).lookup? other = (second.put place entry).lookup? other := by
  by_cases equal : other = place
  · subst equal
    rw [lookup?_put_self _ room, lookup?_put_self _ secondRoom]
  · rw [lookup?_put_of_ne _ equal, lookup?_put_of_ne _ equal, same]

private theorem makeDirectory_congr {path : Path}
    (same : ∀ place, Passes directory path place → first.lookup? place = second.lookup? place) :
    (∃ error, first.makeDirectory directory path = .error error ∧
        second.makeDirectory directory path = .error error) ∨
      ∃ made other, first.makeDirectory directory path = .ok made ∧
        second.makeDirectory directory path = .ok other := by
  rw [makeDirectory, makeDirectory, target_congr same]
  rcases second.target directory path with error | ⟨place, _ | _⟩
  · exact .inl ⟨error, rfl, rfl⟩
  · exact .inr ⟨_, _, rfl, rfl⟩
  · exact .inl ⟨_, rfl, rfl⟩

theorem isDirectory_congr {path : Path}
    (same : ∀ place, Passes directory path place → first.lookup? place = second.lookup? place) :
    first.isDirectory directory path = second.isDirectory directory path := by
  rw [isDirectory, isDirectory, find_congr same]

private theorem lacks_congr {path : Path}
    (same : ∀ place, Passes directory path place → first.lookup? place = second.lookup? place) :
    Lacks first directory path ↔ Lacks second directory path := by
  rw [Lacks, Lacks]
  rcases makeDirectory_congr same with
    ⟨error, firstFails, secondFails⟩ | ⟨_, _, firstMakes, secondMakes⟩
  · rw [firstFails, secondFails]
  · simp [firstMakes, secondMakes]

private theorem attempt_congr {path : Path}
    (same : ∀ place, Passes directory path place → first.lookup? place = second.lookup? place) :
    (attempt first directory path).2 = (attempt second directory path).2 ∧
      ∀ place, first.lookup? place = second.lookup? place →
        (attempt first directory path).1.lookup? place =
          (attempt second directory path).1.lookup? place := by
  rw [attempt, attempt]
  rcases makeDirectory_congr same with
    ⟨error, firstFails, secondFails⟩ | ⟨_, _, firstMakes, secondMakes⟩
  · rw [firstFails, secondFails, isDirectory_congr same]
    dsimp only
    split <;> exact ⟨rfl, fun _ equal => equal⟩
  · have room := hasRoom_of_makeDirectory firstMakes
    have secondRoom := hasRoom_of_makeDirectory secondMakes
    obtain ⟨_, _, _, rfl⟩ := makeDirectory_ok firstMakes
    obtain ⟨_, _, _, rfl⟩ := makeDirectory_ok secondMakes
    rw [firstMakes, secondMakes]
    exact ⟨rfl, fun other equal => lookup?_put_agree room secondRoom equal⟩

/-- Where two file systems are alike along the path, the same directories are made in both, so that
they stay alike wherever they were. -/
theorem ensureDirectoryFrom_congr (anchor : Anchor) (above : List Text)
    (same : ∀ place, Passes directory ⟨anchor, above.reverse⟩ place →
      first.lookup? place = second.lookup? place) :
    (ensureDirectoryFrom directory anchor first above).2 =
        (ensureDirectoryFrom directory anchor second above).2 ∧
      ∀ place, first.lookup? place = second.lookup? place →
        (ensureDirectoryFrom directory anchor first above).1.lookup? place =
          (ensureDirectoryFrom directory anchor second above).1.lookup? place := by
  induction above with
  | nil => exact ⟨rfl, fun _ equal => equal⟩
  | cons name above ih =>
    obtain ⟨sameResult, alike⟩ := ih fun place passes =>
      same place (passes_front (by rw [List.reverse_cons]; exact List.prefix_append ..) passes)
    have lacks := lacks_congr same
    rcases ensureDirectoryFrom_cons directory anchor first name above with
      ⟨firstFull, firstOnce⟩ | ⟨firstLacks, firstAgain⟩
    · have secondOnce := (ensureDirectoryFrom_cons directory anchor second name above).resolve_right
        fun ⟨secondLacks, _⟩ => firstFull (lacks.mpr secondLacks)
      rw [firstOnce, secondOnce.2]
      exact attempt_congr same
    · have secondAgain := (ensureDirectoryFrom_cons directory anchor second name above).resolve_left
        fun ⟨secondFull, _⟩ => secondFull (lacks.mp firstLacks)
      rw [firstAgain, secondAgain.2, sameResult]
      rcases (ensureDirectoryFrom directory anchor second above).2 with error | _
      · exact ⟨rfl, alike⟩
      · obtain ⟨sameLast, lastAlike⟩ := attempt_congr fun place passes =>
          alike place (same place passes)
        exact ⟨sameLast, fun place equal => lastAlike place (alike place equal)⟩

theorem ensureDirectory_congr {path : Path}
    (same : ∀ place, Passes directory path place → first.lookup? place = second.lookup? place) :
    (first.ensureDirectory directory path).2 = (second.ensureDirectory directory path).2 ∧
      ∀ place, first.lookup? place = second.lookup? place →
        (first.ensureDirectory directory path).1.lookup? place =
          (second.ensureDirectory directory path).1.lookup? place := by
  have congruent := ensureDirectoryFrom_congr path.anchor path.components.reverse
    (by rw [List.reverse_reverse]; exact same)
  rw [ensureDirectory, ensureDirectory]
  cases checkPath path with
  | error error => exact ⟨rfl, fun _ equal => equal⟩
  | ok _ => exact congruent

end Agreement

end DebugLaunch.DirectoryGrowth
