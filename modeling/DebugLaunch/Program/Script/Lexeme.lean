import DebugLaunch.Program.Script

/-! The tokens of a shell script: words, operators, line ends and redirections. Where a quote or a
bracket is not closed, a token says so, because a script is run line by line and may end before. -/
namespace DebugLaunch.Program.Script

/-- What a token is. -/
inductive Sign where
  | word (word : Word)
  | operator (text : Text)
  | newline
  | redirection (stream : Nat) (direction : Direction)
  | ending
  | fault (complaint : Text)
  deriving DecidableEq, Repr, Inhabited

/-- A token with its line. -/
structure Lexeme where
  sign : Sign
  line : Nat
  deriving DecidableEq, Repr, Inhabited

/-- Characters that end a word outside of quotes. -/
def endsWord (c : Char) : Bool := " \t\n;&|<>()".toList.contains c

/-- Characters of the names of variables. -/
def isNameChar (c : Char) : Bool := c.isAlphanum || c = '_'

/-- Whether a text is the name of a variable. -/
def isName (text : Text) : Bool :=
  text.all isNameChar && (text.head?.map fun c => !c.isDigit).getD false

/-- The text up to a closing bracket, and the rest behind it; `depth` counts the brackets that are
open inside. Brackets in quotes do not count; single quotes are none inside of double ones. -/
def balanced (opening : Text) (closing : Char) (inQuotes : Bool) :
    Nat → Nat → Text → Option (Text × Text)
  | 0, _, _ | _, _, [] => none
  | fuel + 1, depth, c :: rest =>
    let goOn (taken : Text) (depth : Nat) (rest : Text) : Option (Text × Text) :=
      (balanced opening closing inQuotes fuel depth rest).map fun (text, rest) =>
        (taken ++ text, rest)
    if c = '\\' then goOn (c :: rest.take 1) depth (rest.drop 1)
    else if c = closing then
      match depth with
      | 0 => some ([], rest)
      | depth + 1 => goOn [c] depth rest
    else if opening.isPrefixOf (c :: rest) then
      goOn opening (depth + 1) (rest.drop (opening.length - 1))
    else if c = '\'' && !inQuotes then
      let (text, behind) := Text.breakAt (· = '\'') rest
      goOn (c :: text ++ behind.take 1) depth (behind.drop 1)
    else if c = '"' then
      match balanced ['"'] '"' true fuel 0 rest with
      | some (text, behind) => goOn (c :: text ++ ['"']) depth behind
      | none => none
    else goOn [c] depth rest

/-- The script between backquotes, and the rest behind the closing one. A backslash protects
backquotes, dollar signs and itself. -/
def takeBackquoted (inQuotes : Bool) : Text → Option (Text × Text)
  | [] => none
  | '\x60' :: rest => some ([], rest)
  | '\\' :: c :: rest =>
    let protectedHere := "\x60$\\".toList.contains c || (inQuotes && c = '"')
    (takeBackquoted inQuotes rest).map fun (text, rest) =>
      ((if protectedHere then [c] else ['\\', c]) ++ text, rest)
  | c :: rest => (takeBackquoted inQuotes rest).map fun (text, rest) => (c :: text, rest)

/-- What the sign behind the name of a parameter asks for, and the operand. -/
def useOf : Text → ParameterUse × Text
  | [] => (.plain, [])
  | ':' :: '-' :: operand => (.otherwise true, operand)
  | '-' :: operand => (.otherwise false, operand)
  | ':' :: '=' :: operand => (.assigned true, operand)
  | '=' :: operand => (.assigned false, operand)
  | ':' :: '?' :: operand => (.demanded true, operand)
  | '?' :: operand => (.demanded false, operand)
  | ':' :: '+' :: operand => (.instead true, operand)
  | '+' :: operand => (.instead false, operand)
  | '#' :: '#' :: operand => (.withoutFront true, operand)
  | '#' :: operand => (.withoutFront false, operand)
  | '%' :: '%' :: operand => (.withoutBack true, operand)
  | '%' :: operand => (.withoutBack false, operand)
  | operand => (.malformed, operand)

/-- The name at the front of a text between braces, and what is behind it. -/
def takeName : Text → Text × Text
  | [] => ([], [])
  | c :: rest =>
    if c.isDigit then (c :: rest).span Char.isDigit
    else if isNameChar c then (c :: rest).span isNameChar
    else if "#?$!@*-".toList.contains c then ([c], rest)
    else ([], c :: rest)

/-- The reference that a text between braces writes. -/
def parameterOf (body : Text) : Parameter :=
  match body with
  | '#' :: c :: rest =>
    let (name, behind) := takeName (c :: rest)
    if name != [] && behind = [] then ⟨name, .length, []⟩
    else
      let (use, operand) := useOf (c :: rest)
      ⟨['#'], use, operand⟩
  | body =>
    let (name, behind) := takeName body
    if name = [] then ⟨[], .malformed, []⟩
    else
      let (use, operand) := useOf behind
      ⟨name, use, operand⟩

/-- What stands behind a dollar sign, if it is a reference, and the rest; or a complaint. -/
def takeReference (quoted : Bool) : Text → Except Text (Option (Segment × Text))
  | '\x7b' :: rest =>
    match balanced "$\x7b".toList '\x7d' quoted (rest.length + 1) 0 rest with
    | some (body, rest) => .ok (some (.parameter (parameterOf body) quoted, rest))
    | none =>
      .error (if quoted then "Unterminated quoted string".toList else "Missing '\x7d'".toList)
  | '(' :: '(' :: rest =>
    match balanced ['('] ')' false (rest.length + 1) 0 rest with
    | some (body, ')' :: rest) => .ok (some (.arithmetic body quoted, rest))
    | _ => .error "Missing '))'".toList
  | '(' :: rest =>
    match balanced ['('] ')' false (rest.length + 1) 0 rest with
    | some (body, rest) => .ok (some (.output body quoted, rest))
    | none => .error "end of file unexpected (expecting \")\")".toList
  | c :: rest =>
    let (name, behind) := takeName (if c.isDigit then [c] else c :: rest)
    if name = [] then .ok none
    else .ok (some (.parameter { name } quoted, if c.isDigit then rest else behind))
  | [] => .ok none

/-- How text is read: outside of quotes, in double quotes, as the operand of a reference in double
quotes, or as a text to be read by a command. -/
inductive Mode where
  | plain
  | double
  | inner
  | here
  deriving DecidableEq, Repr

/-- Reads a word up to a character that ends it; `word` is what was read so far, last part first. -/
def takeWord (stop : Char → Bool) : Nat → Mode → Word → Text → Except Text (Word × Text)
  | 0, _, word, text => .ok (word.reverse, text)
  | _ + 1, mode, word, [] =>
    if mode = .double then .error "Unterminated quoted string".toList else .ok (word.reverse, [])
  | fuel + 1, mode, word, c :: rest => do
    let quoted := mode != .plain
    let goOn := takeWord stop fuel
    if mode = .plain && stop c then return (word.reverse, c :: rest)
    if c = '"' && mode != .here then
      return ← goOn (if mode = .plain then .double else if mode = .double then .plain else mode)
        (Word.addLiteral [] true word) rest
    if c = '\'' && mode = .plain then
      match Text.breakAt (· = '\'') rest with
      | (text, _ :: rest) => return ← goOn mode (Word.addLiteral text true word) rest
      | (_, []) => throw "Unterminated quoted string".toList
    if c = '\\' then
      match rest with
      | '\n' :: rest => return ← goOn mode word rest
      | d :: rest =>
        let isProtected := mode = .plain || "$\x60\\".toList.contains d ||
          (d = '"' && mode != .here) || (d = '\x7d' && mode = .inner)
        return ← goOn mode (Word.addLiteral (if isProtected then [d] else [c, d]) true word) rest
      | [] => return ← goOn mode (Word.addLiteral [c] true word) rest
    if c = '\x60' then
      match takeBackquoted quoted rest with
      | some (script, rest) => return ← goOn mode (.output script quoted :: word) rest
      | none => throw "EOF in backquote substitution".toList
    if c = '$' then
      match ← takeReference quoted rest with
      | some (segment, rest) => return ← goOn mode (segment :: word) rest
      | none => return ← goOn mode (Word.addLiteral [c] quoted word) rest
    goOn mode (Word.addLiteral [c] quoted word) rest

/-- A whole text as a word. What cannot be read is left out. -/
def wordOf (mode : Mode) (text : Text) : Word :=
  match takeWord (fun _ => false) (text.length + 1) mode [] text with
  | .ok (word, _) => word
  | .error _ => []

/-- The name and the value of a word that gives a variable a value. -/
def assignment? : Word → Option (Text × Word)
  | .literal text false :: rest =>
    match Text.breakAt (· = '=') text with
    | (name, _ :: value) =>
      if isName name then some (name, if value = [] then rest else .literal value false :: rest)
      else none
    | (_, []) => none
  | _ => none

/-- The lines up to the one that ends a text for a command, each with its line end, and the lines
behind it. Nothing has to end the text. -/
def takeHere (ending : Text) (dropTabs : Bool) : List Text → Text × List Text
  | [] => ([], [])
  | line :: rest =>
    let line := if dropTabs then line.dropWhile (· = '\t') else line
    if line = ending then ([], rest)
    else
      let (body, behind) := takeHere ending dropTabs rest
      (line ++ (if rest = [] then [] else ['\n']) ++ body, behind)

/-- The operators, longer ones first. -/
def operators : List Text := ["&&", "||", ";;", ";", "&", "|", "(", ")"].map String.toList

/-- The signs of redirections, longer ones first. -/
def directions : List (Text × Direction) := [
  ("<<".toList, .here), ("<&".toList, .duplicate), ("<>".toList, .both), ("<".toList, .input),
  (">>".toList, .output true), (">&".toList, .duplicate), (">|".toList, .output false),
  (">".toList, .output false)]

/-- The number of line ends in a text. -/
def lineCount (text : Text) : Nat := text.count '\n'

/-- The tokens of a script from a line on. -/
def lexemesFrom : Nat → Nat → Text → List Lexeme
  | 0, line, _ => [⟨.ending, line⟩]
  | _ + 1, line, [] => [⟨.ending, line⟩]
  | fuel + 1, line, c :: rest =>
    let text := c :: rest
    let fault (complaint : Text) : List Lexeme :=
      [⟨.fault complaint, line + lineCount text⟩]
    let digits := text.takeWhile Char.isDigit
    let behind := text.drop digits.length
    if c = ' ' || c = '\t' then lexemesFrom fuel line rest
    else if c = '\\' && rest.head? = some '\n' then lexemesFrom fuel (line + 1) (rest.drop 1)
    else if c = '\n' then ⟨.newline, line⟩ :: lexemesFrom fuel (line + 1) rest
    else if c = '#' then lexemesFrom fuel line (rest.dropWhile (· != '\n'))
    else match directions.find? fun (sign, _) => sign.isPrefixOf behind with
      | some (sign, direction) =>
        let isInput := sign.head? = some '<'
        let stream := if digits = [] then (if isInput then 0 else 1)
          else digits.foldl (fun n c => 10 * n + (c.toNat - '0'.toNat)) 0
        let rest := behind.drop sign.length
        if direction = .here then
          let dropTabs := rest.head? = some '-'
          let rest := (rest.drop (if dropTabs then 1 else 0)).dropWhile fun c => c = ' ' || c = '\t'
          match takeWord endsWord (rest.length + 1) .plain [] rest with
          | .error complaint => fault complaint
          | .ok ([], rest) => ⟨.redirection stream .here, line⟩ :: lexemesFrom fuel line rest
          | .ok (word, rest) =>
            let ending := word.flatMap fun
              | .literal text _ => text
              | _ => []
            let isQuoted := word.any fun
              | .literal _ quoted => quoted
              | _ => false
            let (current, behind) := Text.breakAt (· = '\n') rest
            let (body, others) := takeHere ending dropTabs (Text.split '\n' (behind.drop 1))
            let word : Word := if isQuoted then [.literal body true] else wordOf .here body
            ⟨.redirection stream .here, line⟩ :: ⟨.word word, line⟩ ::
              lexemesFrom fuel line (current ++ '\n' :: Text.join ['\n'] others)
        else ⟨.redirection stream direction, line⟩ :: lexemesFrom fuel line rest
      | none =>
        match operators.find? fun operator => operator.isPrefixOf text with
        | some operator =>
          ⟨.operator operator, line⟩ :: lexemesFrom fuel line (text.drop operator.length)
        | none =>
          match takeWord endsWord (text.length + 1) .plain [] text with
          | .error complaint => fault complaint
          | .ok (word, rest) =>
            let read := text.take (text.length - rest.length)
            ⟨.word word, line⟩ :: lexemesFrom fuel (line + lineCount read) rest

/-- The tokens of a script. -/
def lexemes (script : Text) : List Lexeme := lexemesFrom (2 * script.length + 2) 1 script

end DebugLaunch.Program.Script
