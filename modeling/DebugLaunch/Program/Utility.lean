import DebugLaunch.Program.Condition
import DebugLaunch.Program.FileName
import DebugLaunch.Program.Printf

/-! The small programs that take arguments only: writing them, waiting, counting, and judging
conditions and paths. Each gives the process afterwards and its code. -/
namespace DebugLaunch.Program

open Utf8 (Bytes)

/-- What a program does with its arguments: the process afterwards, and its code. -/
abbrev Tool := Process → List Text → Process × Nat

/-- A name in a message of a program, between quotes if that is needed. -/
def Process.shownName (process : Process) (name : Text) : Text :=
  FileName.shown (FileName.showsUnicode process.environment) name

/-- A name in a message of a program, between quotes. -/
def Process.quotedName (process : Process) (name : Text) : Text :=
  FileName.quoted (FileName.showsUnicode process.environment) name

namespace Utility

/-- Whether an argument is an option of `echo`. -/
def isEchoOption : Text → Bool
  | '-' :: letters => letters != [] && letters.all fun c => c = 'n' || c = 'e' || c = 'E'
  | _ => false

/-- Writes the arguments in one line; options may leave out the line end or ask for escapes. -/
def echo : Tool := fun process arguments =>
  let options := arguments.takeWhile isEchoOption
  let words := arguments.drop options.length
  let escapes := (options.flatten.filter fun c => c = 'e' || c = 'E').getLast? = some 'e'
  let line := Text.join [' '] words
  let lineEnd : Bytes := if options.any fun option => option.contains 'n' then [] else [10]
  if escapes then
    let (bytes, goesOn) := unescape .program (line.length + 1) line
    (process.write (bytes ++ if goesOn then lineEnd else []), 0)
  else (process.write (Utf8.encode line ++ lineEnd), 0)

/-- The milliseconds of a time such as `2`, `0.5` or `1m`. -/
def milliseconds? (text : Text) : Option Nat :=
  let (digits, unit) := Text.breakAt (fun c => !(c.isDigit || c = '.')) text
  let factor := match unit with
    | [] | ['s'] => some 1000
    | ['m'] => some 60000
    | ['h'] => some 3600000
    | ['d'] => some 86400000
    | _ => none
  let (whole, fraction) := Text.breakAt (· = '.') digits
  let places := fraction.drop 1
  let value (digits : Text) : Nat := digits.foldl (fun n c => 10 * n + (c.toNat - '0'.toNat)) 0
  match factor with
  | none => none
  | some factor =>
    if whole ++ places = [] || places.contains '.' then none
    else some (value (whole ++ places) * factor / Nat.pow 10 places.length)

/-- Waits for the sum of the given times. -/
def sleep : Tool := fun process arguments =>
  let wrong := arguments.filter fun argument => (milliseconds? argument).isNone
  if arguments = [] then (process.complainOfUse "missing operand".toList, 1)
  else if wrong != [] then
    let complain (process : Process) (argument : Text) : Process :=
      process.report ("invalid time interval ".toList ++ process.quotedName argument)
    ((wrong.foldl complain process).adviseHelp, 1)
  else
    let asked := (arguments.filterMap milliseconds?).foldl (· + ·) 0
    ({ process with elapsed := process.elapsed + asked }, 0)

/-- Judges a condition. -/
def test : Tool := fun process arguments =>
  match Condition.judge process arguments with
  | .ok true => (process, 0)
  | .ok false => (process, 1)
  | .error complaint => (process.report complaint, 2)

/-- Judges a condition that a bracket has to end. -/
def bracket : Tool := fun process arguments =>
  if arguments.getLast? = some [']'] then test process arguments.dropLast
  else (process.report "missing ']'".toList, 2)

/-- Writes the working directory. -/
def workingDirectory : Tool := fun process _ => (process.writeLine process.workingPath.toText, 0)

/-- The last component of a path, and what is in front of it. -/
def splitPath (path : Text) : Text × Text :=
  let trimmed := (path.reverse.dropWhile (· = '/')).reverse
  let (last, front) := Text.breakAt (· = '/') trimmed.reverse
  let front := (front.dropWhile (· = '/')).reverse
  if path != [] && trimmed = [] then (['/'], ['/'])
  else (last.reverse, if front != [] then front else if path.head? = some '/' then ['/'] else ['.'])

/-- Writes the last component of a path, without a suffix if one is given. -/
def baseName : Tool := fun process arguments =>
  match arguments with
  | [] => (process.complainOfUse "missing operand".toList, 1)
  | [path] => (process.writeLine (splitPath path).1, 0)
  | [path, suffix] =>
    let last := (splitPath path).1
    let cut := suffix.isSuffixOf last && suffix != last
    (process.writeLine (if cut then last.take (last.length - suffix.length) else last), 0)
  | _ :: _ :: extra :: _ =>
    (process.complainOfUse ("extra operand ".toList ++ process.quotedName extra), 1)

/-- Writes what is in front of the last component of each path. -/
def directoryName : Tool := fun process arguments =>
  if arguments = [] then (process.complainOfUse "missing operand".toList, 1)
  else (arguments.foldl (fun process path => process.writeLine (splitPath path).2) process, 0)

/-- Writes the integers from one on up to another. -/
def sequence : Tool := fun process arguments =>
  let wrong := arguments.find? fun argument =>
    match Condition.integer argument with
    | .ok _ => false
    | .error _ => true
  let numbers := arguments.filterMap fun argument =>
    match Condition.integer argument with
    | .ok value => some value
    | .error _ => none
  let write (first step last : Int) : Process × Nat :=
    let count := if 0 < step then (last - first) / step + 1 else (first - last) / (-step) + 1
    ((List.range count.toNat).foldl (fun process (index : Nat) =>
      process.writeLine (Text.ofInt (first + step * index))) process, 0)
  match wrong with
  | some argument =>
    let complaint := "invalid floating point argument: ".toList ++ process.quotedName argument
    (process.complainOfUse complaint, 1)
  | none =>
    match numbers with
    | [last] => write 1 1 last
    | [first, last] => write first 1 last
    | [first, step, last] =>
      if step = 0 then
        let complaint := "invalid Zero increment value: ".toList ++
          process.quotedName (arguments.getD 1 [])
        (process.complainOfUse complaint, 1)
      else write first step last
    | [] => (process.complainOfUse "missing operand".toList, 1)
    | _ =>
      let extra := process.quotedName (arguments.getD 3 [])
      (process.complainOfUse ("extra operand ".toList ++ extra), 1)

/-- Writes the values of variables, or the whole environment. -/
def printEnvironment : Tool := fun process arguments =>
  if arguments = [] then
    (process.environment.foldl (fun process (name, value) =>
      process.writeLine (name ++ '=' :: value)) process, 0)
  else
    arguments.foldl (fun (process, code) name =>
      match process.environment.get? name with
      | some value => (process.writeLine value, code)
      | none => (process, 1)) (process, 0)

end Utility
end DebugLaunch.Program
