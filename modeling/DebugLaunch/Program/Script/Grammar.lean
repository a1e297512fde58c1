import DebugLaunch.Program.Script.Lexeme

/-! How the tokens of a shell script make commands. A script is read one line at a time: a line is a
list of commands up to a line end that is not inside of one. -/
namespace DebugLaunch.Program.Script

/-- Why tokens make no command: a complaint, and the line of the token that does not fit. -/
structure Misfit where
  complaint : Text
  line : Nat
  deriving DecidableEq, Repr

/-- A step that takes tokens off the front of those that are left. -/
abbrev Taking := StateT (List Lexeme) (Except Misfit)

/-- The words that are no words where a command may begin. -/
def keywords : List Text := ["!", "case", "do", "done", "elif", "else", "esac", "fi", "for", "if",
  "in", "then", "until", "while", "\x7b", "\x7d"].map String.toList

/-- The keyword that a token is where a command may begin. -/
def Lexeme.keyword? (lexeme : Lexeme) : Option Text :=
  match lexeme.sign with
  | .word word => word.bare?.filter keywords.contains
  | _ => none

/-- Whether a list of commands ends in front of a token. -/
def Lexeme.endsList (lexeme : Lexeme) : Bool :=
  match lexeme.sign with
  | .operator text => text = [')'] || text = ";;".toList
  | .ending => true
  | _ =>
    lexeme.keyword?.any (["do", "done", "elif", "else", "esac", "fi", "then", "\x7d"].map
      String.toList).contains

/-- A sign in quotes, as complaints show it. -/
def inDoubleQuotes (text : Text) : Text := '"' :: text ++ ['"']

/-- The name of a token in complaints. -/
def Lexeme.name (lexeme : Lexeme) (asKeyword : Bool) : Text :=
  match lexeme.sign with
  | .word _ => ((lexeme.keyword?.filter fun _ => asKeyword).map inDoubleQuotes).getD "word".toList
  | .operator text => inDoubleQuotes text
  | .newline => "newline".toList
  | .redirection .. => "redirection".toList
  | .ending | .fault _ => "end of file".toList

/-- The next token, which stays. -/
def peek : Taking Lexeme := do return (← get).headD ⟨.ending, 1⟩

/-- Takes the next token. -/
def advance : Taking Unit := modify List.tail

/-- Refuses the next token, where perhaps another one is expected. Of a line end the line behind it
counts. -/
def refuse {α : Type} (asKeyword : Bool) (expected : Option Text) : Taking α := do
  let lexeme ← peek
  match lexeme.sign with
  | .fault complaint => throw ⟨complaint, lexeme.line⟩
  | sign =>
    let expectation := match expected with
      | none => []
      | some text => " (expecting ".toList ++ text ++ [')']
    throw ⟨lexeme.name asKeyword ++ " unexpected".toList ++ expectation,
      if sign = .newline then lexeme.line + 1 else lexeme.line⟩

/-- Takes line ends. -/
def skipNewlines : Taking Unit := modify fun lexemes =>
  lexemes.dropWhile fun lexeme => lexeme.sign = .newline

/-- Takes an operator if it comes next; tells whether it does. -/
def acceptOperator (text : String) : Taking Bool := do
  let found := (← peek).sign = .operator text.toList
  if found then advance
  return found

/-- Takes a keyword if it comes next; tells whether it does. -/
def acceptKeyword (text : String) : Taking Bool := do
  let found := (← peek).keyword? = some text.toList
  if found then advance
  return found

/-- Takes an operator, which has to come next. -/
def expectOperator (text : String) : Taking Unit := do
  unless ← acceptOperator text do refuse true (some (inDoubleQuotes text.toList))

/-- Takes a keyword, which has to come next. -/
def expectKeyword (text : String) : Taking Unit := do
  unless ← acceptKeyword text do refuse true (some (inDoubleQuotes text.toList))

/-- Takes a word, which has to come next. -/
def takeNextWord (expected : Option Text) : Taking Word := do
  match (← peek).sign with
  | .word word => do
    advance
    return word
  | _ => refuse false expected

/-- Whether a word can say which stream is to be doubled, as far as it is known. -/
def isStreamWord (word : Word) : Bool :=
  match word.bare? with
  | some text => text = ['-'] || (text.length = 1 && text.all Char.isDigit)
  | none => word.any fun
    | .literal .. => false
    | _ => true

/-- Takes redirections. -/
def redirections : Nat → Taking (List Redirection)
  | 0 => return []
  | fuel + 1 => do
    match (← peek).sign with
    | .redirection stream direction => do
      advance
      let line := (← peek).line
      let word ← takeNextWord none
      if direction = .duplicate && !isStreamWord word then
        throw ⟨"Bad fd number".toList,
          if (← peek).sign = .newline then line + 1 else line⟩
      return ⟨stream, direction, word⟩ :: (← redirections fuel)
    | _ => return []

/-- Takes the words and redirections of a simple command. -/
def simpleParts : Nat → Taking (List Word × List Redirection)
  | 0 => return ([], [])
  | fuel + 1 => do
    match (← peek).sign with
    | .word word => do
      advance
      let (words, targets) ← simpleParts fuel
      return (word :: words, targets)
    | .redirection .. => do
      let first ← redirections 1
      let (words, targets) ← simpleParts fuel
      return (words, first ++ targets)
    | _ => return ([], [])

/-- Takes words. -/
def takeWords : Nat → Taking (List Word)
  | 0 => return []
  | fuel + 1 => do
    match (← peek).sign with
    | .word word => do
      advance
      return word :: (← takeWords fuel)
    | _ => return []

/-- Takes the patterns of a case, with vertical bars between them. -/
def patterns : Nat → Taking (List Word)
  | 0 => return []
  | fuel + 1 => do
    let word ← takeNextWord none
    if ← acceptOperator "|" then return word :: (← patterns fuel)
    else return [word]

/-- The number of tokens left. -/
def remaining : Taking Nat := do return (← get).length

/-- A simple command. -/
def simple : Taking Command := do
  let line := (← peek).line
  let (words, targets) ← simpleParts ((← remaining) + 1)
  return .simple line words targets

/-- A command with the redirections behind it. -/
def withRedirections (command : Command) : Taking Command := do
  let targets ← redirections ((← remaining) + 1)
  return if targets = [] then command else .redirected command targets

mutual

/-- Takes a list of commands inside of a command. -/
def list : Nat → Taking Command
  | 0 => refuse true none
  | fuel + 1 => do
    skipNewlines
    if (← peek).sign = .ending then return .nothing
    listFrom fuel (← andOr fuel)

/-- Takes the commands that follow the first ones of a list. -/
def listFrom : Nat → Command → Taking Command
  | 0, _ => refuse true none
  | fuel + 1, before => do
    let parallel ← acceptOperator "&"
    let separated ← if parallel then pure true else acceptOperator ";"
    if !separated && (← peek).sign != .newline then return before
    let before := if parallel then .background before else before
    skipNewlines
    if (← peek).endsList then return before
    listFrom fuel (.sequence before (← andOr fuel))

/-- Takes pipelines that are run only if the one before succeeds, or only if it fails. -/
def andOr : Nat → Taking Command
  | 0 => refuse true none
  | fuel + 1 => do andOrFrom fuel (← pipeline fuel)

/-- Takes the pipelines behind the first ones. -/
def andOrFrom : Nat → Command → Taking Command
  | 0, before => return before
  | fuel + 1, before => do
    if ← acceptOperator "&&" then
      skipNewlines
      andOrFrom fuel (.both before (← pipeline fuel))
    else if ← acceptOperator "||" then
      skipNewlines
      andOrFrom fuel (.either before (← pipeline fuel))
    else return before

/-- Takes commands with vertical bars between them. -/
def pipeline : Nat → Taking Command
  | 0 => refuse true none
  | fuel + 1 => do
    let negated ← acceptKeyword "!"
    let command := match ← stages fuel with
      | [command] => command
      | commands => .pipeline commands
    return if negated then .negated command else command

/-- Takes the commands of a pipeline. -/
def stages : Nat → Taking (List Command)
  | 0 => refuse true none
  | fuel + 1 => do
    let first ← command fuel
    if ← acceptOperator "|" then
      skipNewlines
      return first :: (← stages fuel)
    else return [first]

/-- Takes a command. -/
def command : Nat → Taking Command
  | 0 => refuse true none
  | fuel + 1 => do
    let lexeme ← peek
    if ← acceptKeyword "if" then withRedirections (← branch fuel)
    else if ← acceptKeyword "while" then withRedirections (← loop fuel false)
    else if ← acceptKeyword "until" then withRedirections (← loop fuel true)
    else if ← acceptKeyword "for" then withRedirections (← each fuel)
    else if ← acceptKeyword "case" then
      let word ← takeNextWord (some "word".toList)
      skipNewlines
      expectKeyword "in"
      skipNewlines
      withRedirections (.choice word (← cases fuel))
    else if ← acceptKeyword "\x7b" then
      let body ← list fuel
      expectKeyword "\x7d"
      withRedirections body
    else if ← acceptOperator "(" then
      let body ← list fuel
      expectOperator ")"
      withRedirections (.subshell body)
    else if lexeme.keyword?.isSome then refuse true none
    else match lexeme.sign with
      | .word word => do
        let before ← get
        advance
        if (assignment? word).isNone && (← acceptOperator "(") then
          expectOperator ")"
          let name := word.bare?.getD []
          if !isName name then throw ⟨"Bad function name".toList, lexeme.line⟩
          skipNewlines
          return .define name (← command fuel)
        else do
          set before
          simple
      | .redirection .. => simple
      | _ => refuse true none

/-- Takes a condition and what depends on it. -/
def branch : Nat → Taking Command
  | 0 => refuse true none
  | fuel + 1 => do
    let condition ← list fuel
    expectKeyword "then"
    let yes ← list fuel
    if ← acceptKeyword "elif" then return .branch condition yes (← branch fuel)
    let no ← if ← acceptKeyword "else" then list fuel else pure .nothing
    expectKeyword "fi"
    return .branch condition yes no

/-- Takes the condition and the body of a loop. -/
def loop : Nat → Bool → Taking Command
  | 0, _ => refuse true none
  | fuel + 1, goal => do
    let condition ← list fuel
    return .loop goal condition (← body fuel)

/-- Takes the body of a loop. -/
def body : Nat → Taking Command
  | 0 => refuse true none
  | fuel + 1 => do
    expectKeyword "do"
    let body ← list fuel
    expectKeyword "done"
    return body

/-- Takes a loop over words. -/
def each : Nat → Taking Command
  | 0 => refuse true none
  | fuel + 1 => do
    let lexeme ← peek
    let name := match lexeme.sign with
      | .word word => word.bare?.getD []
      | _ => []
    if !isName name then throw ⟨"Bad for loop variable".toList, lexeme.line⟩
    advance
    skipNewlines
    let words ←
      if ← acceptKeyword "in" then do
        let words ← takeWords ((← remaining) + 1)
        if !(← acceptOperator ";") && (← peek).sign != .newline then refuse false none
        pure (some words)
      else do
        let _ ← acceptOperator ";"
        pure none
    skipNewlines
    return .each name words (← body fuel)

/-- Takes the cases of a choice, up to its end. -/
def cases : Nat → Taking (List (List Word × Command))
  | 0 => refuse true none
  | fuel + 1 => do
    if ← acceptKeyword "esac" then return []
    if (← peek).sign = .ending then refuse false (some (inDoubleQuotes [')']))
    let _ ← acceptOperator "("
    let words ← patterns ((← remaining) + 1)
    expectOperator ")"
    skipNewlines
    let body ← if (← peek).endsList then pure .nothing else list fuel
    if ← acceptKeyword "esac" then return [(words, body)]
    expectOperator ";;"
    skipNewlines
    return (words, body) :: (← cases fuel)

end

/-- Takes the rest of a line of commands. -/
def lineFrom (fuel : Nat) : Nat → Command → Taking Command
  | 0, _ => refuse true none
  | count + 1, before => do
    let parallel ← acceptOperator "&"
    let before := if parallel then .background before else before
    let separated ← if parallel then pure true else acceptOperator ";"
    match (← peek).sign with
    | .newline => do
      advance
      return before
    | .ending => return before
    | _ => do
      if !separated then refuse true none
      lineFrom fuel count (.sequence before (← andOr fuel))

/-- Takes a line of commands. Of the last one nothing is left. -/
def line : Taking Command := do
  skipNewlines
  if (← peek).sign = .ending then
    set ([] : List Lexeme)
    return .nothing
  let fuel := 12 * (← remaining) + 12
  lineFrom fuel ((← remaining) + 1) (← andOr fuel)

end DebugLaunch.Program.Script
