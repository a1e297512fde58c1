import DebugLaunch.Text.Blank
import DebugLaunch.Text.Case

/-! Tokens: the placeholders `%alias%` of a launch template. Five classes of value have sixteen
aliases; an alias may be spelled in any case, and the closing sign makes sure that it is spelled
whole. `pieces` cuts a text into the tokens it holds and the characters between them, and
`sources_pieces` says that the pieces are the text. -/
namespace DebugLaunch

/-- What a token stands for. -/
inductive TokenClass where
  | workspaceRoot
  | projectRoot
  | projectName
  | workspaceRootPortable
  | projectRootPortable
  deriving DecidableEq, Repr, Inhabited

namespace TokenClass

/-- The name under which a class is listed. -/
def name : TokenClass → Text
  | workspaceRoot => "workspace_root".toList
  | projectRoot => "project_root".toList
  | projectName => "project_name".toList
  | workspaceRootPortable => "workspace_root_portable".toList
  | projectRootPortable => "project_root_portable".toList

/-- The aliases of a class, in the order in which they are listed. -/
def aliases : TokenClass → List Text
  | workspaceRoot =>
    ["workspaceRoot".toList, "SolutionRoot".toList, "root".toList, "rootDir".toList]
  | projectRoot => ["projectRoot".toList, "projectDirectory".toList, "projDir".toList]
  | projectName => ["projectName".toList, "projName".toList]
  | workspaceRootPortable =>
    ["workspaceRootForBash".toList, "SolutionRootForBash".toList, "rootForBash".toList,
      "rootDirForBash".toList]
  | projectRootPortable =>
    ["projectRootForBash".toList, "projectDirectoryForBash".toList, "projDirForBash".toList]

/-- All classes, in the order in which they are listed. -/
def all : List TokenClass :=
  [workspaceRoot, projectRoot, projectName, workspaceRootPortable, projectRootPortable]

end TokenClass

namespace Token

/-- Every alias with its class, in the order of the listing. -/
def table : List (TokenClass × Text) :=
  TokenClass.all.flatMap fun tokenClass => tokenClass.aliases.map (tokenClass, ·)

/-- The written form of an alias. -/
def written (name : Text) : Text := '%' :: name ++ ['%']

/-- Whether a character of a text spells a letter of an alias: the same letter in either case, or
one of the four further characters that have an ASCII letter as a case variant. -/
def spellsLetter (letter c : Char) : Bool :=
  let small := letter.toLower
  c.toLower = small || (small = 'i' && (c = '\u0130' || c = '\u0131')) ||
    (small = 's' && c = '\u017F') || (small = 'k' && c = '\u212A')

/-- Takes a spelling of `name` off the front of a text: the spelling, and what is behind it. -/
def takeAlias? : Text → Text → Option (Text × Text)
  | [], text => some ([], text)
  | _ :: _, [] => none
  | letter :: name, c :: text =>
    if spellsLetter letter c then (takeAlias? name text).map fun (taken, rest) => (c :: taken, rest)
    else none

/-- A token whose opening sign has just been read: its class, the spelling of its alias, and the
text behind its closing sign. -/
def closeToken? (text : Text) (entry : TokenClass × Text) : Option (TokenClass × Text × Text) :=
  match takeAlias? entry.2 text with
  | some (spelling, '%' :: rest) => some (entry.1, spelling, rest)
  | _ => none

/-- The first alias of the table that closes a token at the front of a text. -/
def token? (text : Text) : Option (TokenClass × Text × Text) := table.findSome? (closeToken? text)

theorem append_of_takeAlias? {name text taken rest : Text}
    (found : takeAlias? name text = some (taken, rest)) : taken ++ rest = text := by
  fun_induction takeAlias? name text generalizing taken rest with
  | case1 text => simp_all
  | case2 => simp at found
  | case3 letter name c text spelled ih =>
    obtain ⟨⟨restTaken, left⟩, foundRest, same⟩ := Option.map_eq_some_iff.1 found
    simp only [Prod.mk.injEq] at same
    obtain ⟨rfl, rfl⟩ := same
    simp [ih foundRest]
  | case4 => simp at found

theorem append_of_token? {text spelling rest : Text} {tokenClass : TokenClass}
    (found : token? text = some (tokenClass, spelling, rest)) :
    spelling ++ '%' :: rest = text := by
  obtain ⟨entry, _, closed⟩ := List.exists_of_findSome?_eq_some found
  unfold closeToken? at closed
  split at closed
  · rename_i taken left took
    simp only [Option.some.injEq, Prod.mk.injEq] at closed
    obtain ⟨rfl, rfl, rfl⟩ := closed
    exact append_of_takeAlias? took
  · simp at closed

/-- A part of a text: one character as it is, or a token with the spelling of its alias. -/
inductive Piece where
  | character (c : Char)
  | token (tokenClass : TokenClass) (spelling : Text)
  deriving DecidableEq, Repr

/-- The text that a piece stands in. -/
def Piece.source : Piece → Text
  | character c => [c]
  | token _ spelling => written spelling

/-- The pieces of a text from left to right. A sign that opens no token is a character, and may
be followed by one that does; the sign that closes a token opens no other. -/
def pieces : Text → List Piece
  | [] => []
  | c :: rest =>
    if c = '%' then
      match _found : token? rest with
      | some (tokenClass, spelling, behind) => .token tokenClass spelling :: pieces behind
      | none => .character c :: pieces rest
    else .character c :: pieces rest
termination_by text => text.length
decreasing_by
  · have := congrArg List.length (append_of_token? _found)
    simp at this ⊢
    omega
  · simp
  · simp

theorem sources_pieces (text : Text) : (pieces text).flatMap Piece.source = text := by
  fun_induction pieces text with
  | case1 => rfl
  | case2 rest tokenClass spelling behind found ih =>
    simp only [List.flatMap_cons, ih, Piece.source, written]
    have := append_of_token? found
    simp [← this]
  | case3 rest none ih => simp [Piece.source, ih]
  | case4 c rest other ih => simp [Piece.source, ih]

/-- A token found in a text: the offsets of its first character and of the one behind its last,
and what it is. -/
structure Occurrence where
  start : Nat
  stop : Nat
  tokenClass : TokenClass
  spelling : Text
  deriving DecidableEq, Repr

/-- The tokens among pieces whose first one stands at the given offset. -/
def occurrencesFrom (offset : Nat) : List Piece → List Occurrence
  | [] => []
  | piece :: rest =>
    let behind := offset + piece.source.length
    match piece with
    | .character _ => occurrencesFrom behind rest
    | .token tokenClass spelling =>
      ⟨offset, behind, tokenClass, spelling⟩ :: occurrencesFrom behind rest

/-- The tokens of a text from left to right. -/
def occurrences (text : Text) : List Occurrence := occurrencesFrom 0 (pieces text)

/-- The text with every token replaced by the value of its class. Values are not searched for
tokens. -/
def substitute (value : TokenClass → Text) (text : Text) : Text :=
  (pieces text).flatMap fun
    | .character c => [c]
    | .token tokenClass _ => value tokenClass

/-- The class of an alias, with or without signs around it, in any case. -/
def classOf? (name : Text) : Option TokenClass :=
  let wanted := Text.lower (Text.trim (· = '%') name)
  (table.find? fun entry => Text.lower entry.2 = wanted).map Prod.fst

end Token
end DebugLaunch
