import DebugLaunch.Text.Basic

/-! Patterns of the shell: `*` for any text, `?` for any character, and brackets for one of several
characters. A quoted character stands for itself. -/
namespace DebugLaunch.Program

/-- A character of a pattern, with whether it is quoted. -/
abbrev Pattern := List (Char × Bool)

namespace Pattern

/-- The pattern that stands for a text. -/
def ofText (text : Text) : Pattern := text.map fun c => (c, true)

/-- Whether a pattern stands for more than one text. -/
def isOpen (pattern : Pattern) : Bool :=
  pattern.any fun (c, quoted) => !quoted && "*?[".toList.contains c

/-- The text of a pattern. -/
def text (pattern : Pattern) : Text := pattern.map Prod.fst

/-- Whether a character is in a class with a name. -/
def isInClass (name : Text) (c : Char) : Bool :=
  let classes : List (Text × (Char → Bool)) := [
    ("alpha".toList, Char.isAlpha), ("digit".toList, Char.isDigit),
    ("alnum".toList, Char.isAlphanum), ("upper".toList, Char.isUpper),
    ("lower".toList, Char.isLower), ("space".toList, fun c => " \t\n\x0b\x0c\r".toList.contains c),
    ("blank".toList, fun c => c = ' ' || c = '\t'),
    ("punct".toList, fun c => 32 < c.toNat && c.toNat < 127 && !c.isAlphanum),
    ("xdigit".toList, fun c =>
      c.isDigit || ('a' ≤ c && c ≤ 'f') || ('A' ≤ c && c ≤ 'F'))]
  ((classes.lookup name).map (· c)).getD false

/-- Whether a character is among those of brackets, behind the opening one, and what follows the
brackets. Gives nothing if they are not closed. -/
def bracket? (c : Char) (found first : Bool) : Nat → Pattern → Option (Bool × Pattern)
  | 0, _ | _, [] => none
  | fuel + 1, (d, quoted) :: rest =>
    if d = ']' && !quoted && !first then some (found, rest)
    else
      let isClass := d = '[' && !quoted && (rest.head?.map Prod.fst) = some ':'
      let name := (rest.drop 1).takeWhile fun (e, _) => e != ':'
      let behind := rest.drop (name.length + 2)
      if isClass && (behind.head?.map Prod.fst) = some ']' then
        bracket? c (found || isInClass (Pattern.text name) c) false fuel (behind.drop 1)
      else match rest with
        | ('-', false) :: (e, false) :: behind =>
          if e = ']' then bracket? c (found || c = d) false fuel rest
          else bracket? c (found || (d ≤ c && c ≤ e)) false fuel behind
        | _ => bracket? c (found || c = d) false fuel rest

/-- Whether one character fits the front of a pattern, and what follows there. -/
def step? (c : Char) : Pattern → Option Pattern
  | [] => none
  | (d, true) :: rest => if c = d then some rest else none
  | ('?', false) :: rest => some rest
  | ('[', false) :: rest =>
    let (negated, inside) := match rest with
      | ('!', false) :: inside => (true, inside)
      | inside => (false, inside)
    match bracket? c false true (inside.length + 1) inside with
    | some (found, rest) => if found != negated then some rest else none
    | none => if c = '[' then some rest else none
  | (d, false) :: rest => if c = d then some rest else none

/-- A pattern and the rests of it that follow if the stars at its front stand for nothing. -/
def opened : Pattern → List Pattern
  | ('*', false) :: rest => (('*', false) :: rest) :: opened rest
  | pattern => [pattern]

/-- The rests of patterns behind one more character. -/
def advance (c : Char) (patterns : List Pattern) : List Pattern :=
  (patterns.flatMap fun pattern =>
    match pattern with
    | ('*', false) :: _ => opened pattern
    | pattern => (step? c pattern).toList.flatMap opened).eraseDups

/-- The lengths of the fronts of a text that one of the patterns fits, the shortest first, each
with `count` added. -/
def fronts (count : Nat) (patterns : List Pattern) (text : Text) : List Nat :=
  let here := if patterns.contains [] then [count] else []
  match text with
  | [] => here
  | c :: rest => here ++ fronts (count + 1) (advance c patterns) rest

/-- The lengths of the fronts of a text that a pattern fits, the shortest first. -/
def frontsOf (pattern : Pattern) (text : Text) : List Nat := fronts 0 (opened pattern) text

/-- Whether a pattern fits a text. -/
def fits (pattern : Pattern) (text : Text) : Bool :=
  (frontsOf pattern text).getLast? = some text.length

end Pattern
end DebugLaunch.Program
