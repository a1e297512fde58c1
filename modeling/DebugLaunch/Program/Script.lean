import DebugLaunch.Text.Basic

/-! Shell scripts. Commands are joined to pipelines and lists, and put together by conditions and
loops. A simple command is made of words and redirections; a word is made of literal text and of
references that are replaced when the command is run, each in quotes or not. -/
namespace DebugLaunch.Program

/-- What a reference to a parameter stands for: its value, the length of it, a text that takes its
place where it has no value or where it has one, or its value without a part that a pattern fits.
An empty value can count as none. -/
inductive ParameterUse where
  | plain
  | length
  | otherwise (emptyCounts : Bool)
  | assigned (emptyCounts : Bool)
  | demanded (emptyCounts : Bool)
  | instead (emptyCounts : Bool)
  | withoutFront (longest : Bool)
  | withoutBack (longest : Bool)
  | malformed
  deriving DecidableEq, Repr, Inhabited

/-- A reference to a parameter. -/
structure Parameter where
  name : Text
  use : ParameterUse := .plain
  operand : Text := []
  deriving DecidableEq, Repr, Inhabited

/-- A part of a word: literal text, a reference, the output of a script, or the value of an
expression. -/
inductive Segment where
  | literal (text : Text) (quoted : Bool)
  | parameter (parameter : Parameter) (quoted : Bool)
  | output (script : Text) (quoted : Bool)
  | arithmetic (expression : Text) (quoted : Bool)
  deriving DecidableEq, Repr, Inhabited

/-- A word. -/
abbrev Word := List Segment

namespace Word

/-- Adds literal text to a word whose parts are given last one first. -/
def addLiteral (text : Text) (quoted : Bool) : Word → Word
  | .literal before q :: rest =>
    if q = quoted then .literal (before ++ text) q :: rest
    else .literal text quoted :: .literal before q :: rest
  | word => .literal text quoted :: word

/-- The text of a word that is written without quotes and references. -/
def bare? : Word → Option Text
  | [.literal text false] => some text
  | _ => none

end Word

/-- What a redirection does with a stream. -/
inductive Direction where
  | input
  | output (append : Bool)
  | both
  | duplicate
  | here
  deriving DecidableEq, Repr, Inhabited

/-- A redirection of a stream: the word names a file or a stream, or is the text to be read. -/
structure Redirection where
  stream : Nat
  direction : Direction
  word : Word
  deriving DecidableEq, Repr, Inhabited

/-- A command. Simple commands know the line on which they begin. A loop goes on until its condition
succeeds if that is its goal, or else as long as it succeeds. -/
inductive Command where
  | nothing
  | simple (line : Nat) (words : List Word) (redirections : List Redirection)
  | pipeline (commands : List Command)
  | negated (command : Command)
  | both (first second : Command)
  | either (first second : Command)
  | sequence (first second : Command)
  | background (command : Command)
  | subshell (body : Command)
  | redirected (command : Command) (redirections : List Redirection)
  | branch (condition yes no : Command)
  | loop (goal : Bool) (condition body : Command)
  | each (name : Text) (words : Option (List Word)) (body : Command)
  | choice (word : Word) (cases : List (List Word × Command))
  | define (name : Text) (body : Command)
  deriving Repr, Inhabited

end DebugLaunch.Program
