import KernelForge.Text.Numeral

/-!
Signals: their numbers, their names, and what the shell says of a program that one has ended.
-/
namespace KernelForge.Shell.Signal

def names : List String :=
  ["HUP", "INT", "QUIT", "ILL", "TRAP", "ABRT", "BUS", "FPE", "KILL", "USR1", "SEGV", "USR2", "PIPE", "ALRM",
   "TERM", "16", "CHLD", "CONT", "STOP", "TSTP", "TTIN", "TTOU", "URG", "XCPU", "XFSZ", "VTALRM", "PROF",
   "WINCH", "IO", "PWR", "SYS"]

def name (n : Nat) : String :=
  if n = 0 then "EXIT" else if n = 34 then "RTMIN" else if n = 64 then "RTMAX"
  else if 34 < n && n < 50 then "RTMIN+" ++ Text.Numeral.text (n - 34)
  else if 49 < n && n < 64 then "RTMAX-" ++ Text.Numeral.text (64 - n)
  else (names[n - 1]?).getD (Text.Numeral.text n)

/-- The number of a signal that is given by number. Numbers are those of a word of 64 bits, of which the
lower half counts. -/
def numbered? (s : String) : Option Nat :=
  (Text.Numeral.digits? 10 s.toList).bind fun n =>
    let low := min n (2 ^ 63 - 1) % 2 ^ 32
    if low ≤ 64 then some low else none

def number? (s : String) : Option Nat :=
  if (Text.Numeral.digits? 10 s.toList).isSome then numbered? s
  else (List.range 65).find? fun n => name n = s.map Char.toUpper

def isQuiet (n : Nat) : Bool := n = 0 || n = 17 || n = 18 || n = 23 || n = 28

def isCaught (n : Nat) : Bool := n ≠ 9 && n ≠ 19

def text (n : Nat) : String :=
  match n with
  | 1 => "Hangup"
  | 2 => "Interrupt"
  | 3 => "Quit"
  | 4 => "Illegal instruction"
  | 5 => "Trace/breakpoint trap"
  | 6 => "Aborted"
  | 7 => "Bus error"
  | 8 => "Floating point exception"
  | 9 => "Killed"
  | 10 => "User defined signal 1"
  | 11 => "Segmentation fault"
  | 12 => "User defined signal 2"
  | 13 => "Broken pipe"
  | 14 => "Alarm clock"
  | 15 => "Terminated"
  | 16 => "Stack fault"
  | 17 => "Child exited"
  | 18 => "Continued"
  | 19 => "Stopped (signal)"
  | 20 => "Stopped"
  | 21 => "Stopped (tty input)"
  | 22 => "Stopped (tty output)"
  | 23 => "Urgent I/O condition"
  | 24 => "CPU time limit exceeded"
  | 25 => "File size limit exceeded"
  | 26 => "Virtual timer expired"
  | 27 => "Profiling timer expired"
  | 28 => "Window changed"
  | 29 => "I/O possible"
  | 30 => "Power failure"
  | 31 => "Bad system call"
  | n => if n < 34 then "Unknown signal " ++ Text.Numeral.text n
    else "Real-time signal " ++ Text.Numeral.text (n - 34)

def description (n : Nat) : String := if n = 2 || n = 13 then "" else text n

end KernelForge.Shell.Signal
