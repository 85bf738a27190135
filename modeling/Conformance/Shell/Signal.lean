import Conformance.Shell.Machine

/-!
# Signals

The names and numbers of signals, how the end of a program by a signal is told, and what becomes of a
shell that a signal is sent to.
-/

namespace Conformance.Shell

namespace Signal

/-- How many signals there are, counting the end of the shell as one. -/
def count : Nat := 65

/-- The names of the signals in the order of their numbers, up to the ones that have no use of their
    own. -/
def baseNames : List String :=
  ["EXIT", "HUP", "INT", "QUIT", "ILL", "TRAP", "ABRT", "BUS", "FPE", "KILL", "USR1", "SEGV",
    "USR2", "PIPE", "ALRM", "TERM", "16", "CHLD", "CONT", "STOP", "TSTP", "TTIN", "TTOU", "URG",
    "XCPU", "XFSZ", "VTALRM", "PROF", "WINCH", "IO", "PWR", "SYS", "32", "33"]

/-- The name of a signal. -/
def name (n : Nat) : String :=
  match baseNames[n]? with
  | some s => s
  | none =>
    if n = 34 then "RTMIN"
    else if n < 50 then "RTMIN+" ++ toString (n - 34)
    else if n < 64 then "RTMAX-" ++ toString (64 - n)
    else "RTMAX"

/-- The number of a signal that is given by its number or by its name. -/
def number? (given : Bytes) : Option Nat :=
  match natural? given with
  | some n => if n < count then some n else none
  | none =>
    let wanted := given.map upperByte
    (List.range count).find? fun n => octets (name n) = wanted

/-- What is told when a program was ended by a signal; nothing for the signals of users and readers. -/
def told : Nat → String
  | 1 => "Hangup"
  | 3 => "Quit"
  | 4 => "Illegal instruction"
  | 5 => "Trace/breakpoint trap"
  | 6 => "Aborted"
  | 7 => "Bus error"
  | 8 => "Floating point exception"
  | 9 => "Killed"
  | 10 => "User defined signal 1"
  | 11 => "Segmentation fault"
  | 12 => "User defined signal 2"
  | 14 => "Alarm clock"
  | 15 => "Terminated"
  | 16 => "Stack fault"
  | 24 => "CPU time limit exceeded"
  | 25 => "File size limit exceeded"
  | 26 => "Virtual timer expired"
  | 27 => "Profiling timer expired"
  | 29 => "I/O possible"
  | 30 => "Power failure"
  | 31 => "Bad system call"
  | n => if 34 ≤ n then "Real-time signal " ++ toString (n - 34) else ""

/-- Whether a signal is dropped if nobody waits for it. -/
def isDropped (n : Nat) : Bool := n = 0 || n = 17 || n = 18 || n = 23 || n = 28

/-- Whether a signal stops a program. -/
def stops (n : Nat) : Bool := 19 ≤ n && n ≤ 22

/-- Whether a signal cannot be caught. -/
def isFinal (n : Nat) : Bool := n = 9 || n = 19

end Signal

/-- What is done at a signal. -/
inductive Reaction where
  | nothing
  | action (script : Bytes)
  | flow (f : Flow)

/-- What a shell with traps does at a signal. -/
def reactionTo (traps : List (Nat × Bytes)) (signal : Nat) : Reaction :=
  if Signal.isFinal signal then .flow (if signal = 9 then .killed 9 else .stuck)
  else
    match traps.find? (·.1 = signal) with
    | some (_, action) => if action.isEmpty then .nothing else .action action
    | none =>
      if Signal.isDropped signal then .nothing
      else if Signal.stops signal then .flow .stuck
      else .flow (.killed signal)

/-- The machine after a program ended by a signal, and how it goes on. -/
def afterSignal (m : Machine) (signal : Nat) : Machine :=
  let told := Signal.told signal
  (if told.isEmpty then m else m.warn told).withStatus (128 + signal)

end Conformance.Shell
