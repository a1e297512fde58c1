import DebugLaunch.Environment
import DebugLaunch.Text.Digit

/-! Arithmetic of the shell: integers of 64 bits, variables, and the operators of C without those
that change a variable in place by one. Parts that do not count, such as those of a choice not
taken, are read but not worked out. -/
namespace DebugLaunch.Program.Arithmetic

/-- An expression that is being worked out: what is left of it, and the variables, which it may
change. -/
structure State where
  rest : Text
  bindings : Environment
  changed : List Text := []

/-- A step of working out an expression, which can fail with a complaint. -/
abbrev Step := StateT State (Except Text)

/-- An integer cut to 64 bits. -/
def wrap (value : Int) : Int := (value + Int.pow 2 63) % Int.pow 2 64 - Int.pow 2 63

/-- Whether a character can stand in the name of a variable. -/
def isNameChar (c : Char) : Bool := c.isAlphanum || c = '_'

/-- Goes on behind blanks. -/
def skipBlanks : Step Unit :=
  modify fun state => { state with rest := state.rest.dropWhile fun c => " \t\n".toList.contains c }

/-- The operators, longer ones before those that they begin with. -/
def operators : List Text := ["<<=", ">>=", "&&", "||", "==", "!=", "<=", ">=", "<<", ">>", "+=",
  "-=", "*=", "/=", "%=", "&=", "^=", "|=", "+", "-", "*", "/", "%", "<", ">", "&", "^", "|", "!",
  "~", "?", ":", "(", ")", "="].map String.toList

/-- The operator that comes next, if one does. -/
def peekOperator : Step (Option Text) := do
  skipBlanks
  let rest := (← get).rest
  return operators.find? fun operator => operator.isPrefixOf rest

/-- Goes on behind the operator that comes next if it is one of those given. -/
def accept (wanted : List Text) : Step (Option Text) := do
  match ← peekOperator with
  | some operator =>
    if wanted.contains operator then
      modify fun state => { state with rest := state.rest.drop operator.length }
      return some operator
    else return none
  | none => return none

/-- The integer that digits write: in base ten, or behind a zero in base eight, or behind `0x` in
base sixteen. -/
def number? (digits : Text) : Option Int :=
  let inBase (base : Nat) (digits : Text) : Option Int :=
    if digits = [] then none
    else (digits.foldlM (fun value c => do
      let digit ← Text.letterValue? c
      if digit < base then some (value * base + digit) else none) 0).map Int.ofNat
  match digits with
  | '0' :: x :: rest => if x = 'x' || x = 'X' then inBase 16 rest else inBase 8 (x :: rest)
  | digits => inBase 10 digits

/-- The integer that a text with a sign or none writes. -/
def integer? (text : Text) : Option Int :=
  let text := (text.dropWhile (· = ' ')).reverse.dropWhile (· = ' ') |>.reverse
  match text with
  | '-' :: digits => (number? digits).map (- ·)
  | '+' :: digits => number? digits
  | digits => number? digits

/-- The value of a variable; one that is not set or empty is zero. -/
def valueOf (name : Text) : Step Int := do
  match ((← get).bindings.get? name).getD [] with
  | [] => return 0
  | text =>
    match integer? text with
    | some value => return wrap value
    | none => throw ("Illegal number: ".toList ++ text)

/-- Gives a variable a value. -/
def assign (active : Bool) (name : Text) (value : Int) : Step Unit := do
  if active then
    modify fun state =>
      { state with
        bindings := state.bindings.set name (Text.ofInt value), changed := name :: state.changed }

/-- The binary operators by how strongly they bind, the weakest first. -/
def levels : List (List Text) := [["||"], ["&&"], ["|"], ["^"], ["&"], ["==", "!="],
  ["<", "<=", ">", ">="], ["<<", ">>"], ["+", "-"], ["*", "/", "%"]].map
    fun level => level.map String.toList

/-- The bits of an integer as a natural number. -/
def bits (value : Int) : Nat := (value % Int.pow 2 64).toNat

/-- The result of a binary operator. -/
def apply (operator : Text) (left right : Int) : Except Text Int :=
  let truth (condition : Bool) : Except Text Int := .ok (if condition then 1 else 0)
  match String.ofList operator with
  | "||" => truth (left != 0 || right != 0)
  | "&&" => truth (left != 0 && right != 0)
  | "|" => .ok (wrap (bits left ||| bits right : Nat))
  | "^" => .ok (wrap (bits left ^^^ bits right : Nat))
  | "&" => .ok (wrap (bits left &&& bits right : Nat))
  | "==" => truth (left = right)
  | "!=" => truth (left != right)
  | "<" => truth (left < right)
  | "<=" => truth (left ≤ right)
  | ">" => truth (right < left)
  | ">=" => truth (right ≤ left)
  | "<<" => .ok (wrap (left * Int.pow 2 (bits right % 64)))
  | ">>" => .ok (Int.fdiv left (Int.pow 2 (bits right % 64)))
  | "+" => .ok (wrap (left + right))
  | "-" => .ok (wrap (left - right))
  | "*" => .ok (wrap (left * right))
  | "/" => if right = 0 then .error "division by zero".toList else .ok (wrap (Int.tdiv left right))
  | "%" => if right = 0 then .error "division by zero".toList else .ok (Int.tmod left right)
  | _ => .ok right

/-- The operators that assign. -/
def assigning : List Text := ["=", "+=", "-=", "*=", "/=", "%=", "&=", "^=", "|=", "<<=", ">>="].map
  String.toList

mutual

/-- Works out an expression: an assignment, or a choice. -/
def expression : Nat → Bool → Step Int
  | 0, _ => throw "expecting primary".toList
  | fuel + 1, active => do
    skipBlanks
    let before := (← get).rest
    let name := before.takeWhile isNameChar
    let isName := (name.head?.map fun c => !c.isDigit).getD false
    if isName then modify fun state => { state with rest := state.rest.drop name.length }
    let assignment ← if isName then accept assigning else pure none
    match assignment with
    | some operator => do
      let value ← expression fuel active
      let operator := operator.dropLast
      let value ← if operator = [] then pure value
        else if active then do
          let left ← valueOf name
          apply operator left value
        else pure value
      assign active name value
      return value
    | none => do
      modify fun state => { state with rest := before }
      let condition ← binary fuel levels active
      match ← accept [['?']] with
      | none => return condition
      | some _ => do
        let yes ← expression fuel (active && condition != 0)
        match ← accept [[':']] with
        | none => throw "expecting ':'".toList
        | some _ => do
          let no ← expression fuel (active && condition = 0)
          return if condition != 0 then yes else no

/-- Works out binary operators that bind at least as strongly as the given ones. -/
def binary : Nat → List (List Text) → Bool → Step Int
  | 0, _, _ => throw "expecting primary".toList
  | fuel + 1, [], active => unary fuel active
  | fuel + 1, level :: stronger, active => do
    let left ← binary fuel stronger active
    more fuel level stronger active left

/-- Works out the operators of one strength that follow a value. -/
def more : Nat → List Text → List (List Text) → Bool → Int → Step Int
  | 0, _, _, _, left => return left
  | fuel + 1, level, stronger, active, left => do
    match ← accept level with
    | none => return left
    | some operator => do
      let counts := match operator with
        | ['|', '|'] => active && left = 0
        | ['&', '&'] => active && left != 0
        | _ => active
      let right ← binary fuel stronger counts
      let value ← if active then apply operator left (if counts then right else 0) else pure 0
      more fuel level stronger active value

/-- Works out signs and what stands behind them. -/
def unary : Nat → Bool → Step Int
  | 0, _ => throw "expecting primary".toList
  | fuel + 1, active => do
    match ← accept [['-'], ['+'], ['!'], ['~'], ['(']] with
    | some ['-'] => return wrap (-(← unary fuel active))
    | some ['+'] => unary fuel active
    | some ['!'] => return if (← unary fuel active) = 0 then 1 else 0
    | some ['~'] => return -(← unary fuel active) - 1
    | some _ => do
      let value ← expression fuel active
      match ← accept [[')']] with
      | some _ => return value
      | none => throw "expecting ')'".toList
    | none => do
      let word := (← get).rest.takeWhile isNameChar
      if word = [] then throw "expecting primary".toList
      modify fun state => { state with rest := state.rest.drop word.length }
      if (word.head?.map Char.isDigit).getD false then
        match number? word with
        | some value => return wrap value
        | none => throw "expecting EOF".toList
      else if active then valueOf word else return 0

end

/-- The value of an expression, and the variables afterwards with the names of those that were
changed; or a complaint. -/
def evaluate (bindings : Environment) (written : Text) :
    Except Text (Int × Environment × List Text) :=
  let work : Step Int := do
    let value ← expression (16 * written.length + 32) true
    skipBlanks
    if (← get).rest = [] then return value else throw "expecting EOF".toList
  match work.run { rest := written, bindings } with
  | .ok (value, state) => .ok (value, state.bindings, state.changed)
  | .error complaint =>
    if "Illegal".toList.isPrefixOf complaint then .error complaint
    else .error ("arithmetic expression: ".toList ++ complaint ++ ": \"".toList ++ written ++ ['"'])

end DebugLaunch.Program.Arithmetic
