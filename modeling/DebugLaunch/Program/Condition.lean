import DebugLaunch.Program.Process
import DebugLaunch.Text.Blank

/-! Conditions on files, texts and numbers, as a row of arguments. Operators bind as usual: negation
before `-a`, and that before `-o`; but what looks like an operator may be an operand where one has
to stand. -/
namespace DebugLaunch.Program.Condition

/-- What an argument is by its looks. -/
inductive Kind where
  | unary
  | binary
  | connective
  | bracket
  | negation
  deriving DecidableEq, Repr

/-- The operators. -/
def operators : List (Text × Kind) :=
  let all (kind : Kind) (names : List String) : List (Text × Kind) :=
    names.map fun name => (name.toList, kind)
  all .unary ["-b", "-c", "-d", "-e", "-f", "-g", "-h", "-k", "-n", "-p", "-r", "-s", "-t", "-u",
    "-w", "-x", "-z", "-G", "-L", "-O", "-S"] ++
  all .binary ["=", "!=", "<", ">", "-eq", "-ne", "-ge", "-gt", "-le", "-lt", "-nt", "-ot",
    "-ef"] ++
  all .connective ["-a", "-o"] ++ all .bracket ["(", ")"] ++ all .negation ["!"]

/-- What an argument is by its looks, if it looks like an operator. -/
def kind? (argument : Text) : Option Kind := operators.lookup argument

/-- What the first of the arguments is, seen where it stands. An operator without an operand, or in
front of another one, is an operand itself. -/
def kindHere? : List Text → Option Kind
  | [] => none
  | argument :: rest =>
    match kind? argument, rest with
    | some .unary, [] => none
    | some .unary, [_] => some .unary
    | some .unary, operator :: _ => if kind? operator = some .binary then none else some .unary
    | some .bracket, [] => if argument = ['('] then none else some .bracket
    | kind, _ => kind

/-- Whether an entry is there and satisfies a condition. -/
def isEntry (process : Process) (name : Text) (p : Entry → Bool) : Bool :=
  if name = [] then false
  else if name = "/dev/null".toList then p (.file [])
  else match process.files.find process.directory (Path.ofText name) with
    | .ok (_, .file content) => p (.file content) && name.getLast? != some '/'
    | .ok (_, .directory) => p .directory
    | .error _ => false

/-- Whether a condition on one operand holds. -/
def holdsUnary (process : Process) (operator operand : Text) : Bool :=
  match String.ofList operator with
  | "-z" => operand = []
  | "-n" => operand != []
  | "-e" | "-r" | "-w" | "-O" | "-G" => isEntry process operand fun _ => true
  | "-f" => isEntry process operand fun
    | .file _ => operand != "/dev/null".toList
    | .directory => false
  | "-d" | "-x" => isEntry process operand fun
    | .file _ => false
    | .directory => true
  | "-s" => isEntry process operand fun
    | .file content => content != []
    | .directory => true
  | "-c" => operand = "/dev/null".toList
  | _ => false

/-- The integer of an argument, or a complaint. -/
def integer (argument : Text) : Except Text Int :=
  let digits := Text.trim (fun c => " \t\n".toList.contains c) argument
  let natural (digits : Text) : Option Nat :=
    if digits != [] && digits.all Char.isDigit then
      some (digits.foldl (fun n c => 10 * n + (c.toNat - '0'.toNat)) 0)
    else none
  let value : Option Int := match digits with
    | '-' :: digits => (natural digits).map fun n => -(n : Int)
    | '+' :: digits => (natural digits).map Int.ofNat
    | digits => (natural digits).map Int.ofNat
  match value with
  | some value => .ok value
  | none => .error ("Illegal number: ".toList ++ argument)

/-- Whether a condition on two operands holds. -/
def holdsBinary (process : Process) (left operator right : Text) : Except Text Bool :=
  let compared (holds : Int → Int → Bool) : Except Text Bool := do
    .ok (holds (← integer left) (← integer right))
  let place? (name : Text) : Option Place :=
    match process.files.find process.directory (Path.ofText name) with
    | .ok (place, _) => some place
    | .error _ => none
  match String.ofList operator with
  | "=" => .ok (left = right)
  | "!=" => .ok (left != right)
  | "<" => .ok (decide (left < right))
  | ">" => .ok (decide (right < left))
  | "-eq" => compared (· = ·)
  | "-ne" => compared (· != ·)
  | "-ge" => compared (· ≥ ·)
  | "-gt" => compared (· > ·)
  | "-le" => compared (· ≤ ·)
  | "-lt" => compared (· < ·)
  | "-ef" => .ok ((place? left).isSome && place? left = place? right)
  | _ => .ok false

/-- A step of judging a condition: the arguments left begin with the last one used. -/
abbrev Step := StateT (List Text) (Except Text)

/-- What the argument at an offset from the last one used is. -/
def peekKind (offset : Nat) : Step (Option Kind) := do return kindHere? ((← get).drop offset)

/-- Whether the argument behind the last one used is the given connective. -/
def seesConnective (name : Text) : Step Bool := do
  let rest := (← get).drop 1
  return rest.head? = some name && kindHere? rest = some .connective

/-- Goes on by a number of arguments. -/
def skip (count : Nat) : Step Unit := modify fun arguments => arguments.drop count

mutual

/-- Judges conditions of which one has to hold. -/
def anyOf (process : Process) : Nat → Step Bool
  | 0 => return false
  | fuel + 1 => do
    let holds ← allOf process fuel
    if ← seesConnective "-o".toList then
      skip 2
      let others ← anyOf process fuel
      return holds || others
    else return holds

/-- Judges conditions of which all have to hold. -/
def allOf (process : Process) : Nat → Step Bool
  | 0 => return false
  | fuel + 1 => do
    let holds ← negated process fuel
    if ← seesConnective "-a".toList then
      skip 2
      let others ← allOf process fuel
      return holds && others
    else return holds

/-- Judges a condition that may be negated. -/
def negated (process : Process) : Nat → Step Bool
  | 0 => return false
  | fuel + 1 => do
    if (← peekKind 0) = some .negation then
      if (← get).length ≤ 1 then return true
      skip 1
      return !(← negated process fuel)
    else single process fuel

/-- Judges a single condition. -/
def single (process : Process) : Nat → Step Bool
  | 0 => return false
  | fuel + 1 => do
    let arguments ← get
    let argument := arguments.headD []
    if argument = ['('] && (← peekKind 0) = some .bracket then
      skip 1
      if (← get).head? = some [')'] then return false
      let holds ← anyOf process fuel
      skip 1
      if (← get).head? != some [')'] then throw "closing paren expected".toList
      return holds
    else if (← peekKind 0) = some .unary then
      skip 1
      match ← get with
      | [] => throw (argument ++ ": argument expected".toList)
      | operand :: _ => return holdsUnary process argument operand
    else if (← peekKind 1) = some .binary then
      skip 2
      let operator := (arguments.drop 1).headD []
      match ← get with
      | [] => throw (operator ++ ": argument expected".toList)
      | right :: _ =>
        match holdsBinary process argument operator right with
        | .ok holds => return holds
        | .error complaint => throw complaint
    else return argument != []

end

/-- Judges a condition with all its arguments. -/
def judgeAll (process : Process) (arguments : List Text) : Except Text Bool := do
  let (holds, rest) ← (anyOf process (4 * arguments.length + 8)).run arguments
  match rest with
  | last :: _ :: _ => .error (last ++ ": unexpected operator".toList)
  | _ => .ok holds

/-- Judges a condition. With up to four arguments their number says what they are. -/
def judge (process : Process) : List Text → Except Text Bool
  | [] => .ok false
  | [left, operator, right] =>
    if kind? operator = some .binary then holdsBinary process left operator right
    else if left = ['('] && right = [')'] then judgeAll process [operator]
    else if left = ['!'] then (judgeAll process [operator, right]).map (!·)
    else judgeAll process [left, operator, right]
  | ['!'] :: a :: b :: c :: [] =>
    if kind? b = some .binary then (holdsBinary process a b c).map (!·)
    else (judgeAll process [a, b, c]).map (!·)
  | arguments => judgeAll process arguments

end DebugLaunch.Program.Condition
