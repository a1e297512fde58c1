import DebugLaunch.Text.Basic

/-! Paths in their normal form: how many slashes lead, and the components. Reading a path drops
empty components and `.`, keeps `..`, and tells exactly two leading slashes from one and from
three or more. Each path has one spelling, so equal paths have equal texts. -/
namespace DebugLaunch

/-- How a path begins: relative, at the root, or with exactly two slashes. -/
inductive Anchor where
  | relative
  | root
  | doubleRoot
  deriving DecidableEq, Repr, Inhabited

/-- The slashes of an anchor. -/
def Anchor.toText : Anchor → Text
  | .relative => []
  | .root => ['/']
  | .doubleRoot => ['/', '/']

/-- A path: its anchor and its components. -/
structure Path where
  anchor : Anchor
  components : List Text
  deriving DecidableEq, Repr, Inhabited

namespace Path

/-- The anchor that a text begins with. -/
def anchorOf : Text → Anchor
  | '/' :: '/' :: '/' :: _ => .root
  | '/' :: '/' :: _ => .doubleRoot
  | '/' :: _ => .root
  | _ => .relative

/-- A component that a path keeps: neither empty nor `.`. -/
def isComponent (part : Text) : Bool := part != [] && part != ['.']

/-- The path that a text spells. -/
def ofText (text : Text) : Path :=
  ⟨anchorOf text, (Text.split '/' text).filter isComponent⟩

/-- The normal spelling of a path; a relative path without components is `.`. -/
def toText (path : Path) : Text :=
  if path.anchor = .relative && path.components = [] then ['.']
  else path.anchor.toText ++ Text.join ['/'] path.components

/-- The path with one more component, which is taken as it is. -/
def child (path : Path) (name : Text) : Path := ⟨path.anchor, path.components ++ [name]⟩

/-- The last component, or nothing for a path without components. -/
def name (path : Path) : Text := path.components.getLastD []

/-- The path without its last component; a path without components is its own parent. -/
def parent (path : Path) : Path := ⟨path.anchor, path.components.dropLast⟩

/-- The components with each `..` removed together with the component before it. -/
def collapse (components : List Text) : List Text :=
  (components.foldl
    (fun above component => if component = ['.', '.'] then above.tail else component :: above)
    []).reverse

/-- The absolute path without `.` and `..` that `path` names in the directory with the given
components. -/
def resolve (directory : List Text) (path : Path) : Path :=
  match path.anchor with
  | .relative => ⟨.root, collapse (directory ++ path.components)⟩
  | _ => ⟨.root, collapse path.components⟩

theorem anchorOf_eq_relative_iff {text : Text} :
    anchorOf text = .relative ↔ text.head? ≠ some '/' := by
  unfold anchorOf
  split
  · simp
  · simp
  · simp
  · rename_i noSlash
    refine iff_of_true rfl fun slash => ?_
    obtain ⟨rest, rfl⟩ := List.head?_eq_some_iff.mp slash
    exact noSlash rest rfl

theorem components_slash (front rest : Text) :
    (ofText (front ++ '/' :: rest)).components =
      (ofText front).components ++ (ofText rest).components := by
  simp [ofText, Text.split_append_cons]

theorem components_rooted (rest : Text) :
    (ofText ('/' :: rest)).components = (ofText rest).components :=
  components_slash [] rest

/-- Behind a complete component, a text adds its own components. -/
theorem components_append {behind : Text} (complete : ∀ c ∈ behind.head?, c = '/') (front : Text) :
    (ofText (front ++ behind)).components =
      (ofText front).components ++ (ofText behind).components := by
  cases behind with
  | nil => rw [List.append_nil, show (ofText []).components = [] from rfl, List.append_nil]
  | cons c rest =>
    obtain rfl := complete c rfl
    rw [components_slash, components_rooted]

theorem components_of_not_mem {part : Text} (isPart : isComponent part) (free : '/' ∉ part) :
    (ofText part).components = [part] := by
  simp [ofText, Text.split_of_not_mem free, isPart]

/-- Components are those of the text that they are joined to. -/
theorem components_join {parts : List Text}
    (areParts : ∀ part ∈ parts, isComponent part ∧ '/' ∉ part) :
    (ofText (Text.join ['/'] parts)).components = parts := by
  by_cases empty : parts = []
  · subst empty
    rfl
  · rw [ofText, Text.split_join empty fun part inside => (areParts part inside).2]
    exact List.filter_eq_self.mpr fun part inside => (areParts part inside).1

/-- What a path keeps is neither empty nor a dot, and no slash is in it. -/
theorem of_mem_components {text part : Text} (inside : part ∈ (ofText text).components) :
    isComponent part ∧ '/' ∉ part := by
  obtain ⟨member, isPart⟩ := List.mem_filter.mp inside
  exact ⟨isPart, Text.not_mem_of_mem_split member⟩

theorem parent_child (path : Path) (name : Text) : (path.child name).parent = path := by
  simp [child, parent]

theorem toText_child (path : Path) (name : Text) :
    (path.child name).toText =
      path.anchor.toText ++ path.components.flatMap (· ++ ['/']) ++ name := by
  simp [child, toText, Text.join_concat]

end Path
end DebugLaunch
