import DebugLaunch.Number.Places
import DebugLaunch.Program.FileName
import DebugLaunch.Program.Process
import DebugLaunch.Text.Digit
import DebugLaunch.Text.Blank

/-! Formatted output: escapes for single bytes, and conversions that take the arguments one after
the other. The format is used again as long as arguments are left. The shell has a command of its
own for it, which knows fewer escapes and complains in other words. -/
namespace DebugLaunch.Program

open Utf8 (Bytes)

/-- The control character that a letter behind a backslash stands for. -/
def escapeByte? : Char → Option UInt8
  | 'a' => some 7
  | 'b' => some 8
  | 'e' => some 27
  | 'f' => some 12
  | 'n' => some 10
  | 'r' => some 13
  | 't' => some 9
  | 'v' => some 11
  | '\\' => some 92
  | '"' => some 34
  | _ => none

/-- Up to `count` digits of a base at the front of a text: their value, how many there are, and
the rest. -/
def takeNumber (base : Nat) : Nat → Nat → Nat → Text → Nat × Nat × Text
  | 0, value, taken, text => (value, taken, text)
  | _ + 1, value, taken, [] => (value, taken, [])
  | count + 1, value, taken, c :: rest =>
    match Text.letterValue? c with
    | some digit =>
      if digit < base then takeNumber base count (value * base + digit) (taken + 1) rest
      else (value, taken, c :: rest)
    | none => (value, taken, c :: rest)

/-- Who formats: the program, or a shell, whose complaints begin with a heading. -/
inductive Formatter where
  | program
  | shell (heading : Text)
  deriving DecidableEq, Repr

/-- What stands behind a backslash, written out, and the rest of the text; nothing more is written
behind `c`. In arguments an octal number begins with a zero. -/
def takeEscape (formatter : Formatter) (inArgument : Bool) : Text → Bytes × Option Text
  | [] => ([92], some [])
  | c :: rest =>
    match escapeByte? c with
    | some byte => ([byte], some rest)
    | none =>
      if c = 'c' && (inArgument || formatter = .program) then ([], none)
      else if c = 'x' && formatter = .program then
        let (value, taken, behind) := takeNumber 16 2 0 0 rest
        if taken = 0 then (92 :: Utf8.encode [c], some rest) else ([value.toUInt8], some behind)
      else if inArgument && c = '0' then
        let (value, _, behind) := takeNumber 8 3 0 0 rest
        ([value.toUInt8], some behind)
      else
        let (value, taken, behind) := takeNumber 8 3 0 0 (c :: rest)
        if taken = 0 then (92 :: Utf8.encode [c], some rest) else ([value.toUInt8], some behind)

/-- A text with its escapes written out, and whether more may be written behind it. -/
def unescape (formatter : Formatter) : Nat → Text → Bytes × Bool
  | 0, _ => ([], true)
  | _ + 1, [] => ([], true)
  | fuel + 1, c :: rest =>
    if c = '\\' then
      match takeEscape formatter true rest with
      | (bytes, none) => (bytes, false)
      | (bytes, some rest) =>
        let (more, goesOn) := unescape formatter fuel rest
        (bytes ++ more, goesOn)
    else
      let (more, goesOn) := unescape formatter fuel rest
      (Utf8.encode [c] ++ more, goesOn)

/-- How a conversion is laid out: at the left of its field or filled with zeros, with a sign or a
blank in front of positive numbers, in the other form of its kind, and with a width and a precision.
-/
structure Layout where
  left : Bool := false
  zeros : Bool := false
  plus : Bool := false
  blank : Bool := false
  other : Bool := false
  width : Nat := 0
  precision : Option Nat := none
  deriving DecidableEq, Repr

/-- Why an argument is no number: it does not begin with one, or does not end with it, or the number
is too large. -/
inductive Misreading where
  | notANumber
  | incomplete
  | tooLarge
  deriving DecidableEq, Repr

/-- What is said of an argument that is no number. -/
def Misreading.message (formatter : Formatter) : Misreading → Text
  | notANumber =>
    match formatter with
    | .program => "expected a numeric value".toList
    | .shell _ => "expected numeric value".toList
  | incomplete =>
    match formatter with
    | .program => "value not completely converted".toList
    | .shell _ => "not completely converted".toList
  | tooLarge => "Numerical result out of range".toList

/-- The state of a formatted output: what is written, the arguments left, complaints about arguments
and the fault of a conversion that is none, whether more may be written, and whether the format
takes arguments. -/
structure Printing where
  written : Bytes := []
  arguments : List Text
  misread : List (Text × Misreading) := []
  fault : Option Text := none
  goesOn : Bool := true
  takes : Bool := false

namespace Printing

/-- The output with more bytes. -/
def emit (printing : Printing) (bytes : Bytes) : Printing :=
  { printing with written := printing.written ++ bytes }

/-- The next argument; a missing one is empty. -/
def next (printing : Printing) : Text × Printing :=
  (printing.arguments.headD [],
    { printing with arguments := printing.arguments.tail, takes := true })

/-- The output with what is said of an argument. -/
def note (printing : Printing) (argument : Text) (misreading : Option Misreading) : Printing :=
  { printing with
    misread := printing.misread ++ (misreading.map fun why => (argument, why)).toList }

end Printing

/-- The sign of a number and the text behind it and blanks. -/
def takeSign (text : Text) : Bool × Text :=
  match Text.trimLeft Text.isBlank text with
  | '-' :: rest => (true, rest)
  | '+' :: rest => (false, rest)
  | rest => (false, rest)

/-- The natural number at the front of a text in base ten, eight or sixteen, the number of its
characters, and the rest. -/
def takeNatural (text : Text) : Nat × Nat × Text :=
  match text with
  | '0' :: x :: rest =>
    let (value, taken, behind) := takeNumber 16 rest.length 0 0 rest
    if (x = 'x' || x = 'X') && taken != 0 then (value, taken + 2, behind)
    else takeNumber 8 text.length 0 0 text
  | text => takeNumber 10 text.length 0 0 text

/-- The integer that an argument begins with, and whether it is all of it. What lies outside of the
limits is cut to them. A quote stands in front of a character that counts by its number. -/
def readInteger (low high : Int) (argument : Text) : Int × Option Misreading :=
  match argument with
  | [] => (0, none)
  | '\'' :: c :: _ | '"' :: c :: _ => (c.toNat, none)
  | argument =>
    let (negative, digits) := takeSign argument
    let (value, taken, behind) := takeNatural digits
    let value : Int := if negative then -(value : Int) else value
    if taken = 0 then (0, some .notANumber)
    else if value < low || high < value then (if value < low then low else high, some .tooLarge)
    else (value, if behind = [] then none else some .incomplete)

/-- The number with a fraction that an argument begins with, and whether it is all of it. -/
def readFraction (argument : Text) : Binary64 × Option Misreading :=
  match argument with
  | [] => (.finite false 0 0, none)
  | '\'' :: c :: _ | '"' :: c :: _ => (Binary64.ofInt c.toNat, none)
  | argument =>
    let (negative, text) := takeSign argument
    let lower := text.map Char.toLower
    let named : Option (Binary64 × Text) :=
      if "infinity".toList.isPrefixOf lower then some (.infinite negative, text.drop 8)
      else if "inf".toList.isPrefixOf lower then some (.infinite negative, text.drop 3)
      else if "nan".toList.isPrefixOf lower then some (.nan, text.drop 3)
      else none
    match named with
    | some (value, behind) => (value, if behind = [] then none else some .incomplete)
    | none =>
      let (whole, behind) := text.span Char.isDigit
      let (places, behind) := match behind with
        | '.' :: rest => rest.span Char.isDigit
        | rest => ([], rest)
      let behind := if whole ++ places = [] then text else behind
      let (exponent, behind) : Int × Text := match behind with
        | e :: rest =>
          let (minus, digits) := takeSign rest
          let (value, taken, others) := takeNumber 10 4 0 0 digits
          if (e = 'e' || e = 'E') && taken != 0 then
            (if minus then -(value : Int) else value, others)
          else (0, e :: rest)
        | [] => (0, [])
      let digits := (whole ++ places).foldl (fun n c => 10 * n + (c.toNat - '0'.toNat)) 0
      if whole ++ places = [] then (.finite false 0 0, some .notANumber)
      else (Binary64.ofDecimal negative digits (exponent - places.length),
        if behind = [] then none else some .incomplete)

/-- A sign and what stands behind it, in a field. Zeros may fill the field between them. -/
def Layout.place (layout : Layout) (zeros : Bool) (sign body : Bytes) : Bytes :=
  let space := layout.width - (sign.length + body.length)
  if layout.left then sign ++ body ++ List.replicate space 32
  else if zeros then sign ++ List.replicate space 48 ++ body
  else List.replicate space 32 ++ sign ++ body

/-- The sign of a number. -/
def Layout.sign (layout : Layout) (negative : Bool) : Bytes :=
  if negative then [45] else if layout.plus then [43] else if layout.blank then [32] else []

/-- The field of an integer with its mark in front. -/
def Layout.integer (layout : Layout) (sign : Bytes) (digits : Text) : Bytes :=
  let digits := match layout.precision with
    | some least =>
      if digits = ['0'] && least = 0 then []
      else List.replicate (least - digits.length) '0' ++ digits
    | none => digits
  layout.place (layout.zeros && layout.precision.isNone) sign (Utf8.encode digits)

/-- The field of a number with a fraction, as a letter says. -/
def Layout.fraction (layout : Layout) (letter : Char) (value : Binary64) : Bytes :=
  let digits := layout.precision.getD 6
  let text (dividend divisor : Nat) : Text :=
    match letter.toLower with
    | 'f' => Binary64.fixedText digits dividend divisor
    | 'e' => Binary64.scientificText digits dividend divisor
    | _ => Binary64.generalText layout.other digits dividend divisor
  let cased (text : Text) : Bytes :=
    Utf8.encode (if letter.isUpper then text.map Char.toUpper else text)
  match value with
  | .finite negative mantissa exponent =>
    let (dividend, divisor) := Binary64.scaled mantissa exponent
    layout.place layout.zeros (layout.sign negative) (cased (text dividend divisor))
  | .infinite negative => layout.place false (layout.sign negative) (cased "inf".toList)
  | .nan => layout.place false (layout.sign false) (cased "nan".toList)

/-- Writes the conversion of an argument that a letter stands for, if it stands for one. -/
def convert? (formatter : Formatter) (layout : Layout) (letter : Char) (printing : Printing) :
    Option Printing :=
  let (argument, printing) := printing.next
  let natural (base : Nat) (mark : Bytes) (form : Text → Text) : Option Printing :=
    let (value, why) := readInteger (-(Int.pow 2 64 - 1)) (Int.pow 2 64 - 1) argument
    let value := (value % Int.pow 2 64).toNat
    let mark := if layout.other && value != 0 then mark else []
    some ((printing.emit (layout.integer mark (form (Nat.toDigits base value)))).note argument why)
  match letter with
  | 's' =>
    let bytes := Utf8.encode argument
    some (printing.emit
      (layout.place false [] (bytes.take (layout.precision.getD bytes.length))))
  | 'c' =>
    let bytes := Utf8.encode argument
    some (printing.emit (layout.place false [] (if bytes = [] then [0] else bytes.take 1)))
  | 'b' =>
    let (bytes, goesOn) := unescape formatter (argument.length + 1) argument
    some { printing.emit (layout.place false [] bytes) with goesOn }
  | 'q' =>
    if formatter = .program then
      some (printing.emit (layout.place false [] (Utf8.encode (FileName.shown true argument))))
    else none
  | 'd' | 'i' =>
    let (value, why) := readInteger (-(Int.pow 2 63)) (Int.pow 2 63 - 1) argument
    let bytes := layout.integer (layout.sign (value < 0)) (Text.ofNat value.natAbs)
    some ((printing.emit bytes).note argument why)
  | 'u' => natural 10 [] id
  | 'x' => natural 16 [48, 120] id
  | 'X' => natural 16 [48, 88] (·.map Char.toUpper)
  | 'o' => natural 8 [48] id
  | 'e' | 'E' | 'f' | 'F' | 'g' | 'G' =>
    let (value, why) := readFraction argument
    some ((printing.emit (layout.fraction letter value)).note argument why)
  | _ => none

/-- A width or precision at the front of a text: its digits, or the next argument for a star. -/
def takeSize (printing : Printing) (text : Text) : Option Int × Text × Printing :=
  match text with
  | '*' :: rest =>
    let (argument, printing) := printing.next
    let (value, why) := readInteger (-(Int.pow 2 31)) (Int.pow 2 31 - 1) argument
    (some value, rest, printing.note argument why)
  | text =>
    let (value, taken, rest) := takeNumber 10 text.length 0 0 text
    (if taken = 0 then none else some value, rest, printing)

/-- Writes the conversion behind a percent sign, and gives the rest of the format. -/
def takeConversion (formatter : Formatter) (text : Text) (printing : Printing) :
    Printing × Text :=
  let (flags, behind) := text.span fun c => "-0+ #".toList.contains c
  let (width, behind, printing) := takeSize printing behind
  let (precision, behind, printing) := match behind with
    | '.' :: rest =>
      let (precision, rest, printing) := takeSize printing rest
      (some (precision.getD 0), rest, printing)
    | rest => (none, rest, printing)
  let behind := if formatter = .program then behind.dropWhile fun c => "hlLjzt".toList.contains c
    else behind
  let layout : Layout := {
    left := flags.contains '-' || width.any (· < 0), zeros := flags.contains '0'
    plus := flags.contains '+', blank := flags.contains ' ', other := flags.contains '#'
    width := (width.getD 0).natAbs
    precision := (precision.filter (0 ≤ ·)).map Int.toNat }
  let refuse (taken : Text) (what : String) : Printing :=
    { printing with fault := some (taken ++ what.toList), goesOn := false }
  let directive (count : Nat) : Text := '%' :: text.take (text.length - behind.length + count)
  match behind with
  | [] =>
    (match formatter with
      | .program => refuse (directive 0) ": invalid conversion specification"
      | .shell _ => refuse [] "missing format character", [])
  | letter :: rest =>
    match convert? formatter layout letter printing with
    | some printing => (printing, rest)
    | none =>
      (match formatter with
        | .program => refuse (directive 1) ": invalid conversion specification"
        | .shell _ => refuse (directive 1) ": invalid directive", rest)

/-- Goes through the format once. -/
def printOnce (formatter : Formatter) : Nat → Text → Printing → Printing
  | 0, _, printing => printing
  | _ + 1, [], printing => printing
  | fuel + 1, c :: rest, printing =>
    if c = '\\' then
      match takeEscape formatter false rest with
      | (bytes, none) => { printing.emit bytes with goesOn := false }
      | (bytes, some rest) => printOnce formatter fuel rest (printing.emit bytes)
    else if c = '%' then
      match rest with
      | '%' :: rest => printOnce formatter fuel rest (printing.emit [37])
      | rest =>
        let (printing, rest) := takeConversion formatter rest printing
        if printing.goesOn then printOnce formatter fuel rest printing else printing
    else printOnce formatter fuel rest (printing.emit (Utf8.encode [c]))

/-- Uses the format until no arguments are left. -/
def printAll (formatter : Formatter) (format : Text) : Nat → Printing → Printing
  | 0, printing => printing
  | fuel + 1, printing =>
    let printing := printOnce formatter (format.length + 1) format { printing with takes := false }
    if printing.goesOn && printing.takes && printing.arguments != [] then
      printAll formatter format fuel printing
    else printing

/-- Writes a complaint of whoever formats. -/
def Formatter.report (formatter : Formatter) (process : Process) (complaint : Text) : Process :=
  match formatter with
  | .program => process.report complaint
  | .shell heading => process.complain (heading ++ "printf: ".toList ++ complaint)

/-- Formats arguments: the state afterwards, and the code. -/
def printf (formatter : Formatter) (process : Process) (words : List Text) : Process × Nat :=
  let words := if words.head? = some "--".toList then words.drop 1 else words
  match words, formatter with
  | [], .program => (process.complainOfUse "missing operand".toList, 1)
  | [], .shell heading =>
    (process.complain (heading ++ "printf: usage: printf format [arg ...]".toList), 2)
  | ('-' :: letter :: _) :: _, .shell _ =>
    (formatter.report process ("Illegal option -".toList ++ [letter]), 2)
  | format :: arguments, formatter =>
    let printing := printAll formatter format (arguments.length + 1) { arguments }
    let shown (argument : Text) : Text :=
      match formatter with
      | .program => FileName.quoted (FileName.showsUnicode process.environment) argument
      | .shell _ => argument
    let process := printing.misread.foldl
      (fun process (argument, why) =>
        formatter.report process (shown argument ++ ": ".toList ++ why.message formatter))
      (process.write printing.written)
    match printing.fault with
    | some fault => (formatter.report process fault, if formatter = .program then 1 else 2)
    | none => (process, if printing.misread = [] then 0 else 1)

end DebugLaunch.Program
