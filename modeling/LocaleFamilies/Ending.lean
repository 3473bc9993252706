/-! The ends that programs come to. -/
namespace LocaleFamilies

inductive Ending
  | exited (status : Nat)
  | signalled (number : Nat)
  deriving DecidableEq, Repr

namespace Ending

def signalNames : List (Nat × String) :=
  [(1, "SIGHUP"), (2, "SIGINT"), (3, "SIGQUIT"), (4, "SIGILL"), (6, "SIGABRT"), (8, "SIGFPE"),
    (9, "SIGKILL"), (10, "SIGUSR1"), (11, "SIGSEGV"), (12, "SIGUSR2"), (13, "SIGPIPE"),
    (14, "SIGALRM"), (15, "SIGTERM")]

def description : Ending → String
  | exited status => "exit status: " ++ toString status
  | signalled number =>
    let name := ((signalNames.find? fun entry => entry.1 == number).map (·.2)).getD ""
    "signal: " ++ toString number ++ " (" ++ name ++ ")"

def status : Ending → Nat
  | exited status => status
  | signalled number => 128 + number

end Ending

end LocaleFamilies
