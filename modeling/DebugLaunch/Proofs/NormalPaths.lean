import DebugLaunch.LaunchFile
import DebugLaunch.Settings.Basic
import Mathlib.Logic.Relation

/-! Paths that are made from the roots of a selection, as they are written. A root is read into an
anchor and its components before a name is put behind it, so nothing of how it was written is left
in the path: not its dots, nor its slashes but for how many it begins with. The components that go
up are left, since what they name is a matter of the files. -/
namespace DebugLaunch.NormalPaths
open LaunchFile

/-- A path is written in normal form: what is read from it is written the same, no component is a
dot, no slash stands at its end, and two slashes stand beside each other only at its beginning,
where no third one follows them. -/
structure Normal (text : Text) : Prop where
  again : (Path.ofText text).toText = text
  noDot : ['.'] ∉ Text.split '/' text
  noLastSlash : text.getLast? ≠ some '/'
  noDoubledSlash : ∀ front behind, text = front ++ '/' :: '/' :: behind →
    front = [] ∧ behind.head? ≠ some '/'

/-- A path leads from a root through some names. It is written in normal form, begins as the root
does, and has all the components of the root in front of the names, those that go up too. -/
structure LeadsFrom (root : Text) (names : List Text) (path : Path) : Prop where
  normal : Normal path.toText
  anchor : Path.anchorOf path.toText = Path.anchorOf root
  components : (Text.split '/' path.toText).filter Path.isComponent =
    (Text.split '/' root).filter Path.isComponent ++ names
  ups : (Text.split '/' path.toText).count ['.', '.'] = (Text.split '/' root).count ['.', '.']

/-- A root is written in another way: in normal form, with a dot behind a component, with a slash
behind the last component, or with a slash doubled that is none of those it begins with. -/
inductive Rewritten : Text → Text → Prop where
  | normal (root : Text) : Rewritten root (Path.ofText root).toText
  | dot {front behind : Text} (component : ∃ c ∈ front.getLast?, c ≠ '/')
      (complete : ∀ c ∈ behind.head?, c = '/') :
      Rewritten (front ++ behind) (front ++ "/.".toList ++ behind)
  | lastSlash {root : Text} (component : ∃ c ∈ root.getLast?, c ≠ '/') :
      Rewritten root (root ++ ['/'])
  | slash {front behind : Text} (later : ∃ c ∈ front, c ≠ '/') :
      Rewritten (front ++ '/' :: behind) (front ++ '/' :: '/' :: behind)

/-- Two texts are one root, however often it was rewritten. -/
abbrev SameRoot : Text → Text → Prop := Relation.EqvGen Rewritten

/-- The components of a path are those that a text can have. -/
def Whole (path : Path) : Prop := ∀ part ∈ path.components, Path.isComponent part ∧ '/' ∉ part

/-! ### Paths and their texts -/

section Texts
variable {path : Path} {name : Text} {names : List Text}

theorem split_rooted (text : Text) : Text.split '/' ('/' :: text) = [] :: Text.split '/' text :=
  Text.split_append_cons '/' [] text

theorem toText_of_below (below : path.components ≠ []) :
    path.toText = path.anchor.toText ++ Text.join ['/'] path.components := by
  simp [Path.toText, below]

/-- The leading slashes stand between empty parts, and behind them are the components. -/
theorem split_toText (whole : Whole path) (below : path.components ≠ []) :
    Text.split '/' path.toText =
      List.replicate path.anchor.toText.length [] ++ path.components := by
  have parts := Text.split_join below fun part inside => (whole part inside).2
  rw [toText_of_below below]
  cases path.anchor with
  | relative => exact parts
  | root => exact (split_rooted _).trans (congrArg _ parts)
  | doubleRoot =>
    exact (split_rooted _).trans (congrArg _ ((split_rooted _).trans (congrArg _ parts)))

theorem anchorOf_toText (whole : Whole path) : Path.anchorOf path.toText = path.anchor := by
  obtain ⟨anchor, components⟩ := path
  cases components with
  | nil => cases anchor <;> rfl
  | cons first rest =>
    obtain ⟨isPart, noSlash⟩ := whole first (List.mem_cons_self ..)
    rw [toText_of_below (by simp), Text.join_cons_eq]
    cases first with
    | nil => cases isPart
    | cons c first =>
      have other : c ≠ '/' := fun same => noSlash (by simp [same])
      cases anchor <;> simp [Anchor.toText, Path.anchorOf, other]

/-- A path is read from its text. -/
theorem ofText_toText (whole : Whole path) : Path.ofText path.toText = path := by
  by_cases below : path.components = []
  · obtain ⟨anchor, components⟩ := path
    subst below
    cases anchor <;> rfl
  · have kept : path.components.filter Path.isComponent = path.components :=
      List.filter_eq_self.mpr fun part inside => (whole part inside).1
    have dropped : (List.replicate path.anchor.toText.length []).filter Path.isComponent = [] := by
      simp [Path.isComponent]
    rw [Path.ofText, anchorOf_toText whole, split_toText whole below, List.filter_append, kept,
      dropped, List.nil_append]

theorem not_nil_mem (whole : Whole path) : [] ∉ path.components := fun inside => by
  cases (whole [] inside).1

/-- Only at its beginning the text of a path has empty parts between its slashes. -/
theorem noDoubledSlash_toText (whole : Whole path) (below : path.components ≠ [])
    {front behind : Text} (doubled : path.toText = front ++ '/' :: '/' :: behind) :
    front = [] ∧ behind.head? ≠ some '/' := by
  have full : ∀ {above rest}, path.components ≠ above ++ [] :: rest := fun same =>
    not_nil_mem whole (same ▸ by simp)
  have parts := split_toText whole below
  obtain ⟨first, more, frontParts⟩ := List.exists_cons_of_ne_nil (Text.split_ne_nil '/' front)
  rw [doubled, Text.split_append_cons, split_rooted, frontParts] at parts
  cases anchor : path.anchor with
  | relative =>
    rw [anchor] at parts
    exact absurd parts.symm full
  | root =>
    rw [anchor] at parts
    exact absurd (List.cons.inj parts).2.symm full
  | doubleRoot =>
    rw [anchor] at parts
    obtain ⟨empty, behindFirst⟩ := List.cons.inj parts
    cases more with
    | cons second more => exact absurd (List.cons.inj behindFirst).2.symm full
    | nil =>
      refine ⟨?_, fun third => ?_⟩
      · rw [← Text.join_split '/' front, frontParts, empty]
        rfl
      · obtain ⟨behind, rfl⟩ := List.head?_eq_some_iff.mp third
        rw [split_rooted] at behindFirst
        exact @full [] _ (List.cons.inj behindFirst).2.symm

theorem noLastSlash_toText (whole : Whole path) (below : path.components ≠ []) :
    path.toText.getLast? ≠ some '/' := by
  intro ends
  obtain ⟨front, shape⟩ := List.getLast?_eq_some_iff.mp ends
  have parts := split_toText whole below
  obtain ⟨above, name, named⟩ := (List.eq_nil_or_concat path.components).resolve_left below
  rw [shape, Text.split_append_cons, named, List.concat_eq_append, ← List.append_assoc] at parts
  have last : [] = name := (List.append_inj' parts rfl).2 |> List.singleton_inj.mp
  exact not_nil_mem whole (by simp [named, ← last])

theorem normal_toText (whole : Whole path) (below : path.components ≠ []) :
    Normal path.toText where
  again := by rw [ofText_toText whole]
  noDot := by
    rw [split_toText whole below, List.mem_append]
    rintro (leading | inside)
    · cases List.eq_of_mem_replicate leading
    · cases (whole _ inside).1
  noLastSlash := noLastSlash_toText whole below
  noDoubledSlash := fun _ _ => noDoubledSlash_toText whole below

end Texts

/-! ### Paths below a root -/

section Below
variable {root other : Text} {names : List Text}

theorem whole_ofText (root : Text) : Whole (Path.ofText root) := fun _ => Path.of_mem_components

theorem foldl_child (path : Path) (names : List Text) :
    names.foldl Path.child path = ⟨path.anchor, path.components ++ names⟩ := by
  induction names generalizing path with
  | nil => simp
  | cons name rest ih => simp [ih, Path.child]

/-- Names that are put behind a root make a path in normal form that leads from it. -/
theorem leadsFrom_foldl (root : Text) (nonempty : names ≠ [])
    (plain : ∀ name ∈ names, Path.isComponent name ∧ '/' ∉ name) (noUp : ['.', '.'] ∉ names) :
    LeadsFrom root names (names.foldl Path.child (Path.ofText root)) := by
  rw [foldl_child]
  have whole : Whole ⟨(Path.ofText root).anchor, (Path.ofText root).components ++ names⟩ :=
    fun part inside => (List.mem_append.mp inside).elim (whole_ofText root part) (plain part)
  have below : (Path.ofText root).components ++ names ≠ [] := by simp [nonempty]
  have kept := congrArg Path.components (ofText_toText whole)
  refine ⟨normal_toText whole below, anchorOf_toText whole, kept, ?_⟩
  rw [split_toText whole below, List.count_append, List.count_append, List.count_replicate,
    List.count_eq_zero.mpr noUp]
  simpa [Path.ofText] using List.count_filter (by decide)

/-- Behind something else than a slash, a text can go on in any way and begins as before. -/
theorem anchorOf_append {front : Text} (later : ∃ c ∈ front, c ≠ '/') (rest : Text) :
    Path.anchorOf (front ++ rest) = Path.anchorOf front := by
  have first : ∀ {behind : Text}, (∃ c ∈ behind, c ≠ '/') → (∀ more, behind ≠ '/' :: more) →
      ∃ c more, behind = c :: more ∧ c ≠ '/' := by
    rintro (_ | ⟨c, more⟩) ⟨_, inside, _⟩ noSlash
    · cases inside
    · exact ⟨c, more, rfl, fun same => noSlash more (by rw [same])⟩
  fun_cases Path.anchorOf front with
  | case1 => rfl
  | case2 behind noThird =>
    obtain ⟨c, more, rfl, other⟩ := first (by simpa using later) noThird
    simp [Path.anchorOf, other]
  | case3 behind _ noSecond =>
    obtain ⟨c, more, rfl, other⟩ := first (by simpa using later) noSecond
    simp [Path.anchorOf, other]
  | case4 _ _ _ noSlash =>
    obtain ⟨c, more, rfl, other⟩ := first later noSlash
    simp [Path.anchorOf, other]

/-- However a root is written, the same path is read from it. -/
theorem ofText_rewritten (rewritten : Rewritten root other) :
    Path.ofText other = Path.ofText root := by
  have same : ∀ {text other : Text}, Path.anchorOf other = Path.anchorOf text →
      (Path.ofText other).components = (Path.ofText text).components →
      Path.ofText other = Path.ofText text := by
    intro text other anchors components
    rw [Path.ofText, anchors]
    exact congrArg _ components
  have later : ∀ {front : Text}, (∃ c ∈ front.getLast?, c ≠ '/') → ∃ c ∈ front, c ≠ '/' := by
    intro front component
    obtain ⟨c, last, other⟩ := component
    exact ⟨c, List.mem_of_getLast? last, other⟩
  cases rewritten with
  | normal => exact ofText_toText (whole_ofText root)
  | @dot front behind component complete =>
    have inserted : (Path.ofText "/.".toList).components = [] := by decide
    refine same ?_ ?_
    · rw [List.append_assoc, anchorOf_append (later component), anchorOf_append (later component)]
    · rw [Path.components_append complete, Path.components_append (by simp), inserted,
        List.append_nil, Path.components_append complete]
  | lastSlash component =>
    have inserted : (Path.ofText "/".toList).components = [] := by decide
    refine same (anchorOf_append (later component) _) ?_
    rw [Path.components_append (by simp)]
    exact List.append_nil _
  | @slash front behind component =>
    refine same ?_ ?_
    · rw [anchorOf_append component, anchorOf_append component]
    · rw [Path.components_slash, Path.components_slash, Path.components_rooted]

theorem ofText_sameRoot (same : SameRoot root other) : Path.ofText other = Path.ofText root := by
  induction same with
  | rel root other rewritten => exact ofText_rewritten rewritten
  | refl root => rfl
  | symm root other _ ih => exact ih.symm
  | trans root middle other _ _ first second => exact second.trans first

end Below

/-- The paths of a launch are written in normal form and lead from their roots through the names of
the launch files and of the settings file, so that every component of a root that goes up is still
there. They are the same however the roots are written: normalised, with dots behind components,
with a slash at the end or with slashes doubled. -/
theorem launch_paths_normal (workspace project : Text) :
    (∃ special own shared, candidates workspace project = [special, own, shared] ∧
      LeadsFrom project [propertiesName, fileName] special ∧ LeadsFrom project [fileName] own ∧
      LeadsFrom workspace [fileName] shared) ∧
    LeadsFrom project [outputName, fileName] (outputPath project) ∧
    LeadsFrom workspace [Settings.fileName] (Settings.path workspace) ∧
    ∀ otherWorkspace otherProject, SameRoot workspace otherWorkspace →
      SameRoot project otherProject →
        candidates otherWorkspace otherProject = candidates workspace project ∧
          outputPath otherProject = outputPath project ∧
          Settings.path otherWorkspace = Settings.path workspace := by
  refine ⟨⟨_, _, _, rfl, ?_, ?_, ?_⟩, ?_, ?_, ?_⟩
  · exact leadsFrom_foldl project (by decide) (by decide) (by decide)
  · exact leadsFrom_foldl project (by decide) (by decide) (by decide)
  · exact leadsFrom_foldl workspace (by decide) (by decide) (by decide)
  · exact leadsFrom_foldl project (by decide) (by decide) (by decide)
  · exact leadsFrom_foldl workspace (by decide) (by decide) (by decide)
  · intro otherWorkspace otherProject sameWorkspace sameProject
    rw [candidates, candidates, outputPath, outputPath, Settings.path, Settings.path,
      ofText_sameRoot sameWorkspace, ofText_sameRoot sameProject]
    exact ⟨rfl, rfl, rfl⟩

/-- A root that begins with two slashes and goes up, written with a dot, a doubled slash and a slash
at its end, beside a root that is empty. -/
theorem launch_paths_normal_going_up :
    let workspace := "//w/../v".toList
    let other := "//w/.//../v/".toList
    SameRoot workspace other ∧ SameRoot [] ['.'] ∧
      (outputPath []).toText = "bin/launch.json".toList ∧
      (Settings.path other).toText = "//w/../v/.rdlauncher.yaml".toList ∧
      Settings.path other = Settings.path workspace ∧
      candidates other ['.'] = candidates workspace [] := by
  intro workspace other
  have dotted : Rewritten workspace "//w/./../v".toList :=
    @Rewritten.dot "//w".toList "/../v".toList ⟨'w', rfl, by decide⟩ (by rintro c ⟨⟩; rfl)
  have doubled : Rewritten "//w/./../v".toList "//w/.//../v".toList :=
    @Rewritten.slash "//w/.".toList "../v".toList ⟨'w', by decide, by decide⟩
  have ended : Rewritten "//w/.//../v".toList other :=
    .lastSlash ⟨'v', rfl, by decide⟩
  have same : SameRoot workspace other :=
    .trans _ _ _ (.rel _ _ dotted) (.trans _ _ _ (.rel _ _ doubled) (.rel _ _ ended))
  have empty : SameRoot [] ['.'] := .rel _ _ (.normal [])
  obtain ⟨_, _, _, alike⟩ := launch_paths_normal workspace []
  obtain ⟨sameCandidates, _, sameSettings⟩ := alike other ['.'] same empty
  exact ⟨same, empty, by decide, by decide, sameSettings, sameCandidates⟩

end DebugLaunch.NormalPaths
