/-!
# How a process ended
-/

namespace SweepPlot

/-- How a process ended. -/
inductive ExitStatus
  /-- It ended by itself with a code; zero means success. -/
  | code (n : Nat)
  /-- A signal ended it. -/
  | signal (number : Nat)
  deriving DecidableEq, Repr, Inhabited

namespace ExitStatus

/-- Whether the process reported success. -/
def success (s : ExitStatus) : Bool := s == .code 0

/-- The names of the signals, from number 1 on. -/
def signalNames : List String :=
  ["SIGHUP", "SIGINT", "SIGQUIT", "SIGILL", "SIGTRAP", "SIGABRT", "SIGBUS", "SIGFPE", "SIGKILL",
   "SIGUSR1", "SIGSEGV", "SIGUSR2", "SIGPIPE", "SIGALRM", "SIGTERM", "SIGSTKFLT", "SIGCHLD",
   "SIGCONT", "SIGSTOP", "SIGTSTP", "SIGTTIN", "SIGTTOU", "SIGURG", "SIGXCPU", "SIGXFSZ",
   "SIGVTALRM", "SIGPROF", "SIGWINCH", "SIGIO", "SIGPWR", "SIGSYS"]

/-- The status as it is shown in messages. -/
def display : ExitStatus → String
  | .code n => "exit status: " ++ toString n
  | .signal number =>
    let name := match number with
      | 0 => none
      | n + 1 => signalNames[n]?
    "signal: " ++ toString number ++ match name with
      | some s => " (" ++ s ++ ")"
      | none => ""

end ExitStatus

end SweepPlot
