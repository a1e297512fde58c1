import DebugLaunch.Environment
import DebugLaunch.Text.Word

/-! References to environment variables inside a text, in two notations. Between percent signs,
which text is a reference depends on which variables are set; behind a dollar sign it depends on
the text alone. In both, the values that are put in are not searched again, and a reference to a
variable that is not set stays as it is. -/
namespace DebugLaunch.Reference

/-- A part of a text: literal text, or a reference with its written form. -/
inductive Piece where
  | literal (text : Text)
  | reference (name source : Text)
  deriving DecidableEq, Repr

/-- The text that a piece stands in. -/
def Piece.source : Piece → Text
  | literal text => text
  | reference _ source => source

namespace Percent

/-- The variable that a name between percent signs refers to, if it is set. No variable has an
empty name here. -/
def value? (environment : Environment) (name : Text) : Option Text :=
  if name = [] then none else environment.getIgnoringCase? name

/-- The pieces of a text. The sign that ends a name no variable has may begin the next
reference; the sign that ends a reference may not. -/
def pieces (environment : Environment) (text : Text) : List Piece :=
  match _shape : Text.breakAt (· = '%') text with
  | (before, []) => [.literal before]
  | (before, sign :: behind) =>
    match _inner : Text.breakAt (· = '%') behind with
    | (_, []) => [.literal text]
    | (name, closing :: rest) =>
      match value? environment name with
      | none => .literal (before ++ sign :: name) :: pieces environment (closing :: rest)
      | some _ =>
        .literal before :: .reference name (sign :: name ++ [closing]) :: pieces environment rest
termination_by text.length
decreasing_by
  all_goals
    have whole := congrArg List.length (Text.breakAt_append (· = '%') text)
    have part := congrArg List.length (Text.breakAt_append (· = '%') behind)
    rw [_shape] at whole
    rw [_inner] at part
    simp at whole part ⊢
    omega

/-- The text with every reference to a set variable replaced by its value. -/
def expand (environment : Environment) (text : Text) : Text :=
  (pieces environment text).flatMap fun
    | .literal text => text
    | .reference name source => (value? environment name).getD source

end Percent

namespace Dollar

/-- The reference that begins behind a dollar sign, with the rest of the text: a name in braces up
to the first closing one, or else a longest run of word characters. -/
def reference? : Text → Option (Piece × Text)
  | '\x7b' :: behind =>
    match Text.breakAt (· = '\x7d') behind with
    | (name, closing :: rest) => some (.reference name ('$' :: '\x7b' :: name ++ [closing]), rest)
    | (_, []) => none
  | behind =>
    match Text.breakAt (fun c => !Text.isWord c) behind with
    | ([], _) => none
    | (name, rest) => some (.reference name ('$' :: name), rest)

theorem append_of_reference? {text rest : Text} {piece : Piece}
    (found : reference? text = some (piece, rest)) : piece.source ++ rest = '$' :: text := by
  unfold reference? at found
  split at found
  · rename_i behind
    split at found
    · rename_i name closing left shape
      have whole := Text.breakAt_append (· = '\x7d') behind
      rw [shape] at whole
      simp only [Option.some.injEq, Prod.mk.injEq] at found
      obtain ⟨rfl, rfl⟩ := found
      simp [Piece.source, ← whole]
    · simp at found
  · split at found
    · simp at found
    · rename_i name left _ shape
      have whole := Text.breakAt_append (fun c => !Text.isWord c) text
      rw [shape] at whole
      simp only [Option.some.injEq, Prod.mk.injEq] at found
      obtain ⟨rfl, rfl⟩ := found
      simp [Piece.source, ← whole]

theorem length_of_reference? {text rest : Text} {piece : Piece}
    (found : reference? text = some (piece, rest)) : rest.length ≤ text.length := by
  have whole := congrArg List.length (append_of_reference? found)
  have nonempty : piece.source ≠ [] := by
    intro empty
    unfold reference? at found
    split at found
    · split at found
      · simp only [Option.some.injEq, Prod.mk.injEq] at found
        obtain ⟨rfl, rfl⟩ := found
        simp [Piece.source] at empty
      · simp at found
    · split at found
      · simp at found
      · simp only [Option.some.injEq, Prod.mk.injEq] at found
        obtain ⟨rfl, rfl⟩ := found
        simp [Piece.source] at empty
  have := List.length_pos_iff.2 nonempty
  simp at whole
  omega

/-- The pieces of a text, which do not depend on any environment. A dollar sign that begins no
reference is literal. -/
def pieces : Text → List Piece
  | [] => []
  | c :: behind =>
    if c = '$' then
      match _found : reference? behind with
      | some (piece, rest) => piece :: pieces rest
      | none => .literal [c] :: pieces behind
    else .literal [c] :: pieces behind
termination_by text => text.length
decreasing_by
  · have := length_of_reference? _found
    simp only [List.length_cons]
    omega
  · simp
  · simp

theorem sources_pieces (text : Text) : (pieces text).flatMap Piece.source = text := by
  fun_induction pieces text with
  | case1 => rfl
  | case2 behind piece rest found ih =>
    simp only [List.flatMap_cons, ih]
    exact append_of_reference? found
  | case3 behind none ih => simp [Piece.source, ih]
  | case4 c behind other ih => simp [Piece.source, ih]

/-- The variable that a name refers to, if it is set. No variable has an empty name here. -/
def value? (environment : Environment) (name : Text) : Option Text :=
  if name = [] then none else environment.get? name

/-- The text with every reference to a set variable replaced by its value. -/
def expand (environment : Environment) (text : Text) : Text :=
  (pieces text).flatMap fun
    | .literal text => text
    | .reference name source => (value? environment name).getD source

end Dollar

/-- The sign that marks a reference to an environment variable. -/
inductive Sign where
  | percent
  | dollar
  deriving DecidableEq, Repr, Inhabited

/-- The text with every reference to a set variable replaced by its value. -/
def expand : Sign → Environment → Text → Text
  | .percent => Percent.expand
  | .dollar => Dollar.expand

end DebugLaunch.Reference
