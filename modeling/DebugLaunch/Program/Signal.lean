import DebugLaunch.Text.Basic

/-! Signals: their numbers and names, and what each does to a program that has not asked for
anything else. -/
namespace DebugLaunch.Program

/-- A signal by its number. -/
abbrev Signal := Nat

namespace Signal

/-- The signals up to number 31 with their names and descriptions, from number one on. -/
def table : List (Text × Text) := [
  ("HUP".toList, "Hangup".toList), ("INT".toList, "Interrupt".toList),
  ("QUIT".toList, "Quit".toList), ("ILL".toList, "Illegal instruction".toList),
  ("TRAP".toList, "Trace/breakpoint trap".toList), ("ABRT".toList, "Aborted".toList),
  ("BUS".toList, "Bus error".toList), ("FPE".toList, "Floating point exception".toList),
  ("KILL".toList, "Killed".toList), ("USR1".toList, "User defined signal 1".toList),
  ("SEGV".toList, "Segmentation fault".toList), ("USR2".toList, "User defined signal 2".toList),
  ("PIPE".toList, "Broken pipe".toList), ("ALRM".toList, "Alarm clock".toList),
  ("TERM".toList, "Terminated".toList), ("16".toList, "Stack fault".toList),
  ("CHLD".toList, "Child exited".toList), ("CONT".toList, "Continued".toList),
  ("STOP".toList, "Stopped (signal)".toList), ("TSTP".toList, "Stopped".toList),
  ("TTIN".toList, "Stopped (tty input)".toList), ("TTOU".toList, "Stopped (tty output)".toList),
  ("URG".toList, "Urgent I/O condition".toList), ("XCPU".toList, "CPU time limit exceeded".toList),
  ("XFSZ".toList, "File size limit exceeded".toList),
  ("VTALRM".toList, "Virtual timer expired".toList),
  ("PROF".toList, "Profiling timer expired".toList), ("WINCH".toList, "Window changed".toList),
  (['I', 'O'], "I/O possible".toList), ("PWR".toList, "Power failure".toList),
  ("SYS".toList, "Bad system call".toList)]

/-- The first and the last of the signals that programs can use for what they like. -/
def freeRange : Nat × Nat := (34, 64)

/-- The highest number of a signal. -/
def highest : Nat := 64

/-- The name of a signal. Of those that are free to use, the ones in the lower half are named from
the first one on, and the others from the last one on. -/
def name (signal : Signal) : Text :=
  let (first, last) := freeRange
  let numbered (name : String) (sign : Char) (distance : Nat) : Text :=
    name.toList ++ if distance = 0 then [] else sign :: Text.ofNat distance
  if signal < first then
    ((if signal = 0 then none else table[signal - 1]?).map Prod.fst).getD (Text.ofNat signal)
  else if signal - first ≤ last - signal then numbered "RTMIN" '+' (signal - first)
  else numbered "RTMAX" '-' (last - signal)

/-- What is said of a program that a signal has ended. -/
def description (signal : Signal) : Text :=
  match if signal = 0 then none else table[signal - 1]? with
  | some (_, description) => description
  | none =>
    if freeRange.1 ≤ signal then "Real-time signal ".toList ++ Text.ofNat (signal - freeRange.1)
    else "Unknown signal ".toList ++ Text.ofNat signal

/-- The signal with a number or a name, in either case of its letters. -/
def ofName? (written : Text) : Option Signal :=
  if written != [] && written.all Char.isDigit then
    let number := written.foldl (fun n c => 10 * n + (c.toNat - '0'.toNat)) 0
    if number ≤ highest then some number else none
  else
    (List.range (highest + 1)).find? fun signal =>
      signal != 0 && name signal = written.map Char.toUpper

/-- The signal that asks a program to end. -/
def terminate : Signal := 15

/-- Whether a program goes on that gets a signal without having asked for it. -/
def isHarmless (signal : Signal) : Bool :=
  signal = 0 || ["CHLD", "CONT", "URG", "WINCH"].any fun name => signal.name = name.toList

/-- Whether a signal stops a program until it is told to go on. -/
def isStop (signal : Signal) : Bool :=
  ["STOP", "TSTP", "TTIN", "TTOU"].any fun name => signal.name = name.toList

end Signal
end DebugLaunch.Program
