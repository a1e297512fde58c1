import DebugLaunch.Program.Utility

/-! The small programs that read files, or their input if no file is named, and write what they
make of it. -/
namespace DebugLaunch.Program

open Utf8 (Bytes)

/-- The content of a file that a program names. -/
def Process.read (process : Process) (name : Text) : Except FileFault Bytes :=
  if name = "/dev/null".toList then .ok []
  else if name = [] then .error .missing
  else match process.files.read process.directory (Path.ofText name) with
    | .ok content => if name.getLast? = some '/' then .error .notADirectory else .ok content
    | .error (.refused fault _) => .error fault
    | .error .nullCharacter => .error .missing

namespace Filter

/-- What a program says of a file that it cannot read. -/
abbrev Complaint := Process → Text → FileFault → Text

/-- The contents of files by their names, with a complaint for each that cannot be read. A minus
sign names the input. -/
def gather (complaint : Complaint) (process : Process) :
    List Text → Process × List (Text × Bytes) × Nat
  | [] => (process, [], 0)
  | name :: rest =>
    if name = ['-'] then
      let (after, others, code) := gather complaint { process with input := [] } rest
      (after, (name, process.input) :: others, code)
    else match process.read name with
      | .ok content =>
        let (after, others, code) := gather complaint process rest
        (after, (name, content) :: others, code)
      | .error fault =>
        let (after, others, _) :=
          gather complaint (process.report (complaint process name fault)) rest
        (after, others, 1)

/-- The complaint of most programs. -/
def plainComplaint : Complaint := fun process name fault =>
  process.shownName name ++ ": ".toList ++ fault.description

/-- The complaint of programs that open files for reading. -/
def openingComplaint : Complaint := fun process name fault =>
  if fault = .isADirectory then
    "error reading ".toList ++ process.quotedName name ++ ": ".toList ++ fault.description
  else
    "cannot open ".toList ++ process.quotedName name ++ " for reading: ".toList ++
      fault.description

/-- The lines of a content, each with its line end if it has one. -/
def lines : Bytes → List Bytes
  | [] => []
  | b :: rest =>
    match lines rest with
    | [] => [[b]]
    | line :: others => if b = 10 then [10] :: line :: others else (b :: line) :: others

/-- The refusal of an option that a program does not know. -/
def refuseOption (process : Process) (argument : Text) (code : Nat) : Process × Nat :=
  let complaint :=
    if "--".toList.isPrefixOf argument then "unrecognized option '".toList ++ argument ++ ['\'']
    else "invalid option -- '".toList ++ (argument.drop 1).take 1 ++ ['\'']
  (process.complainOfUse complaint, code)

/-- Whether an argument is an option. -/
def isOption (argument : Text) : Bool := argument.head? = some '-' && 1 < argument.length

/-- Options of single letters at the front of the arguments, and the arguments behind them. -/
def takeFlags : List Text → List Text × List Text
  | argument :: rest =>
    if argument = "--".toList then ([], rest)
    else if isOption argument then
      let (flags, operands) := takeFlags rest
      (argument :: flags, operands)
    else
      let (flags, operands) := takeFlags rest
      (flags, argument :: operands)
  | [] => ([], [])

/-- The first option of which a letter is none of those known. -/
def unknownFlag (known : String) (flags : List Text) : Option Text :=
  flags.findSome? fun flag =>
    if "--".toList.isPrefixOf flag then some flag
    else ((flag.drop 1).find? fun c => !known.toList.contains c).map fun c => ['-', c]

/-- Whether a letter is among the options. -/
def hasFlag (flags : List Text) (letter : Char) : Bool :=
  flags.any fun flag => (flag.drop 1).contains letter

/-- The operands, or the input if there are none. -/
def orInput (operands : List Text) : List Text := if operands = [] then [['-']] else operands

/-- A number in a column. -/
def column (width : Nat) (n : Nat) : Text :=
  let digits := Text.ofNat n
  List.replicate (width - digits.length) ' ' ++ digits

/-- Numbers lines: all of them, or those that are not empty. -/
def numbered (skipEmpty : Bool) (number : Nat) : List Bytes → List Bytes
  | [] => []
  | line :: rest =>
    if skipEmpty && line = [10] then line :: numbered skipEmpty number rest
    else (Utf8.encode (column 6 number ++ ['\t']) ++ line) :: numbered skipEmpty (number + 1) rest

/-- Copies files to the output, perhaps with numbers of lines or signs at their ends. -/
def cat : Tool := fun process arguments =>
  let (flags, operands) := takeFlags arguments
  match unknownFlag "nbEu" flags with
  | some flag => refuseOption process flag 1
  | none =>
    if flags = [] then
      (orInput operands).foldl (fun (process, code) name =>
        let (process, contents, failed) := gather plainComplaint process [name]
        (process.write (contents.flatMap Prod.snd), max code failed)) (process, 0)
    else
      let (process, contents, code) := gather plainComplaint process (orInput operands)
      let all := lines (contents.flatMap Prod.snd)
      let all := if hasFlag flags 'E' then all.map fun line =>
          if line.getLast? = some 10 then line.dropLast ++ [36, 10] else line
        else all
      let all := if hasFlag flags 'b' then numbered true 1 all
        else if hasFlag flags 'n' then numbered false 1 all else all
      (process.write all.flatten, code)

/-- How much of a content is wanted: of its lines or of its bytes a number from the front or the
back, or all but that number. -/
structure Portion where
  bytes : Bool := false
  count : Nat := 10
  signed : Bool := false
  deriving Inhabited

/-- The portion that options ask for, and the operands; or an option that is not known. -/
def portion (portionSign : Char) : Portion → List Text → Except Text (Portion × List Text)
  | portion, [] => .ok (portion, [])
  | given, argument :: rest =>
    let counted (bytes : Bool) (text : Text) : Option Portion :=
      let signed := text.head? = some portionSign
      let digits := if text.head?.any "+-".toList.contains then text.drop 1 else text
      if digits != [] && digits.all Char.isDigit then
        some ⟨bytes, digits.foldl (fun n c => 10 * n + (c.toNat - '0'.toNat)) 0, signed⟩
      else none
    let keep (result : Except Text (Portion × List Text)) : Except Text (Portion × List Text) :=
      result.map fun (portion, operands) => (portion, argument :: operands)
    match argument with
    | ['-', letter] =>
      if letter = 'n' || letter = 'c' then
        match rest with
        | text :: rest =>
          match counted (letter = 'c') text with
          | some portion => Filter.portion portionSign portion rest
          | none => .error argument
        | [] => .error argument
      else if letter.isDigit then
        match counted false [letter] with
        | some portion => Filter.portion portionSign portion rest
        | none => .error argument
      else .error argument
    | '-' :: letter :: text =>
      if letter = 'n' || letter = 'c' then
        match counted (letter = 'c') text with
        | some portion => Filter.portion portionSign portion rest
        | none => .error argument
      else if letter.isDigit then
        match counted false (letter :: text) with
        | some portion => Filter.portion portionSign portion rest
        | none => .error argument
      else .error argument
    | _ => keep (Filter.portion portionSign given rest)

/-- Writes portions of files, with their names if there are several. -/
def writePortions (sign : Char) (cut : Portion → List Bytes → List Bytes) : Tool :=
  fun process arguments =>
    match portion sign {} arguments with
    | .error argument => refuseOption process argument 1
    | .ok (portion, operands) =>
      let (process, contents, code) := gather openingComplaint process (orInput operands)
      let several := 1 < operands.length
      let parts (content : Bytes) : List Bytes :=
        if portion.bytes then content.map fun byte => [byte] else lines content
      let texts := contents.map fun (name, content) =>
        let shown := if name = ['-'] then "standard input".toList else name
        let title := if several then "==> ".toList ++ shown ++ " <==\n".toList else []
        Utf8.encode title ++ (cut portion (parts content)).flatten
      (process.write (if several then join texts else texts.flatten), code)
where
  /-- Texts with an empty line between any two. -/
  join : List Bytes → Bytes
    | [] => []
    | [text] => text
    | text :: rest => text ++ 10 :: join rest

/-- Writes the first lines or bytes of files. -/
def head : Tool := writePortions '-' fun portion parts =>
  parts.take (if portion.signed then parts.length - portion.count else portion.count)

/-- Writes the last lines or bytes of files. -/
def tail : Tool := writePortions '+' fun portion parts =>
  parts.drop (if portion.signed then portion.count - 1 else parts.length - portion.count)

/-- The number of words of a content. -/
def wordCount (content : Bytes) : Nat :=
  let isBlank (b : UInt8) : Bool := b = 32 || (9 ≤ b && b ≤ 13)
  (content.foldl (fun (count, inWord) b =>
    if isBlank b then (count, false) else (if inWord then count else count + 1, true))
    (0, false)).1

/-- Counts the lines, words and bytes of files. -/
def count : Tool := fun process arguments =>
  let (flags, operands) := takeFlags arguments
  match unknownFlag "lwcm" flags with
  | some flag => refuseOption process flag 1
  | none =>
    let (process, contents, code) := gather plainComplaint process (orInput operands)
    let counts (content : Bytes) : List Nat :=
      let all := [('l', content.count 10), ('w', wordCount content), ('c', content.length)]
      (all.filter fun (letter, _) => flags = [] || hasFlag flags letter ||
        (letter = 'c' && hasFlag flags 'm')).map Prod.snd
    let sum := (contents.map fun (_, content) => content.length).foldl (· + ·) 0
    let single := contents.length ≤ 1 && (counts []).length = 1
    let width := if single then 1
      else if operands = [] || operands.contains ['-'] then 7 else (Text.ofNat sum).length
    let row (numbers : List Nat) (name : Text) : Text :=
      Text.join [' '] (numbers.map (column width)) ++ if name = [] then [] else ' ' :: name
    let rows := contents.map fun (name, content) =>
      row (counts content) (if operands = [] then [] else name)
    let total := if operands.length ≤ 1 then []
      else
        let numbers := contents.map fun (_, content) => counts content
        [row ((List.range (counts []).length).map fun index =>
          (numbers.map fun row => row.getD index 0).foldl (· + ·) 0) "total".toList]
    ((rows ++ total).foldl Process.writeLine process, code)

/-- Writes the lines of files in order. -/
def sort : Tool := fun process arguments =>
  let (flags, operands) := takeFlags arguments
  match unknownFlag "runf" flags with
  | some flag => refuseOption process flag 2
  | none =>
    let complaint : Complaint := fun process name fault =>
      (if fault = .isADirectory then "read failed: " else "cannot read: ").toList ++
        process.shownName name ++ ": ".toList ++ fault.description
    let (process, contents, code) := gather complaint process (orInput operands)
    if code != 0 then (process, 2)
    else
      let all := contents.flatMap fun (_, content) =>
        (lines content).map fun line => if line.getLast? = some 10 then line.dropLast else line
      let number (line : Bytes) : Int :=
        let text := (Utf8.decodeLenient line).dropWhile fun c => c = ' ' || c = '\t'
        let (sign, digits) : Int × Text := match text with
          | '-' :: digits => (-1, digits)
          | digits => (1, digits)
        sign * ((digits.takeWhile Char.isDigit).foldl
          (fun n c => 10 * n + (c.toNat - '0'.toNat)) 0 : Nat)
      let below (a b : Bytes) : Bool :=
        if hasFlag flags 'n' && number a != number b then number a < number b
        else !decide (b < a)
      let sorted := all.mergeSort below
      let sorted := if hasFlag flags 'r' then sorted.reverse else sorted
      let sorted := if hasFlag flags 'u' then sorted.eraseDups else sorted
      (process.write (sorted.flatMap (· ++ [10])), 0)

/-- Writes each of several equal lines in a row once, perhaps behind their number, or only those
that are alone or those that are not. -/
def unique : Tool := fun process arguments =>
  let (flags, operands) := takeFlags arguments
  match unknownFlag "cdu" flags with
  | some flag => refuseOption process flag 1
  | none =>
    let (process, contents, code) := gather plainComplaint process (orInput (operands.take 1))
    let all := (contents.flatMap fun (_, content) => lines content).map fun line =>
      if line.getLast? = some 10 then line else line ++ [10]
    let runs := all.foldr (fun line runs =>
      match runs with
      | (other, count) :: rest =>
        if other = line then (other, count + 1) :: rest else (line, 1) :: runs
      | [] => [(line, 1)]) ([] : List (Bytes × Nat))
    let kept := runs.filter fun (_, count) =>
      !(hasFlag flags 'd' && count = 1) && !(hasFlag flags 'u' && 1 < count)
    let shown := kept.map fun (line, count) =>
      if hasFlag flags 'c' then Utf8.encode (column 7 count ++ [' ']) ++ line else line
    (process.write shown.flatten, code)

/-- Copies the input to the output and to files. -/
def tee : Tool := fun process arguments =>
  let (flags, operands) := takeFlags arguments
  match unknownFlag "a" flags with
  | some flag => refuseOption process flag 1
  | none =>
    let input := process.input
    let process := { process.write input with input := [] }
    operands.foldl (fun (process, code) name =>
      let before := match hasFlag flags 'a', process.read name with
        | true, .ok content => content
        | _, _ => []
      match process.files.write process.directory (Path.ofText name) (before ++ input) with
      | .ok files => ({ process with files }, code)
      | .error (.refused fault _) =>
        (process.report (plainComplaint process name fault), 1)
      | .error .nullCharacter => (process, 1)) (process, 0)

/-- The characters of a set: ranges have a minus sign, and some classes have names. -/
def characters : Text → List Char
  | '[' :: ':' :: 'u' :: 'p' :: 'p' :: 'e' :: 'r' :: ':' :: ']' :: rest =>
    (List.range 26).map (fun n => Char.ofNat ('A'.toNat + n)) ++ characters rest
  | '[' :: ':' :: 'l' :: 'o' :: 'w' :: 'e' :: 'r' :: ':' :: ']' :: rest =>
    (List.range 26).map (fun n => Char.ofNat ('a'.toNat + n)) ++ characters rest
  | '\\' :: 'n' :: rest => '\n' :: characters rest
  | '\\' :: 't' :: rest => '\t' :: characters rest
  | '\\' :: 'r' :: rest => '\r' :: characters rest
  | '\\' :: '\\' :: rest => '\\' :: characters rest
  | a :: '-' :: b :: rest =>
    (List.range (b.toNat + 1 - a.toNat)).map (fun n => Char.ofNat (a.toNat + n)) ++ characters rest
  | c :: rest => c :: characters rest
  | [] => []

/-- Bytes with each row of equal ones that are wanted cut to one. -/
def squeeze (wanted : UInt8 → Bool) : Bytes → Bytes
  | a :: b :: rest =>
    if a = b && wanted a then squeeze wanted (b :: rest) else a :: squeeze wanted (b :: rest)
  | bytes => bytes

/-- Replaces or removes characters of the input, or cuts rows of equal ones. -/
def substitute : Tool := fun process arguments =>
  let (flags, operands) := takeFlags arguments
  let (removes, squeezes) := (hasFlag flags 'd', hasFlag flags 's')
  let input := process.input
  let process := { process with input := [] }
  let isIn (set : Text) (byte : UInt8) : Bool :=
    (characters set).any fun c => c.toNat = byte.toNat
  let isMeant (set : Text) (byte : UInt8) : Bool :=
    isIn set byte != (hasFlag flags 'c' || hasFlag flags 'C')
  match unknownFlag "cCds" flags, operands with
  | some flag, _ => refuseOption process flag 1
  | none, [] => (process.complainOfUse "missing operand".toList, 1)
  | none, [set] =>
    if removes && !squeezes then
      (process.write (input.filter fun byte => !isMeant set byte), 0)
    else if squeezes && !removes then (process.write (squeeze (isMeant set) input), 0)
    else
      let advice := if removes
        then "Two strings must be given when both deleting and squeezing repeats."
        else "Two strings must be given when translating."
      let process := process.report ("missing operand after ".toList ++ process.quotedName set)
      ((process.complain advice.toList).adviseHelp, 1)
  | none, [old, new] =>
    if removes && !squeezes then
      let process := process.report ("extra operand ".toList ++ process.quotedName new)
      ((process.complain
        "Only one string may be given when deleting without squeezing repeats.".toList).adviseHelp,
        1)
    else if removes then
      (process.write (squeeze (isIn new) (input.filter fun byte => !isMeant old byte)), 0)
    else
      let (source, target) := (characters old, characters new)
      let replace (byte : UInt8) : UInt8 :=
        let position :=
          if hasFlag flags 'c' || hasFlag flags 'C' then
            if isIn old byte then none else some target.length
          else source.findIdx? fun c => c.toNat = byte.toNat
        match position with
        | none => byte
        | some index =>
          match (target[index]?).or target.getLast? with
          | some c => c.toNat.toUInt8
          | none => byte
      let replaced := input.map replace
      (process.write (if squeezes then squeeze (isIn new) replaced else replaced), 0)
  | none, _ :: _ :: extra :: _ =>
    (process.complainOfUse ("extra operand ".toList ++ process.quotedName extra), 1)

end Filter
end DebugLaunch.Program
