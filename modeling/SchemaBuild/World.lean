import SchemaBuild.FileSystem

/-!
# What programs act on

A program changes files, prints on two channels, and ends with a status.
-/

namespace SchemaBuild

structure Console where
  out : Bytes := []
  err : Bytes := []
  deriving DecidableEq, Repr

namespace Console

def append (first second : Console) : Console :=
  ⟨first.out ++ second.out, first.err ++ second.err⟩

/-- Print on the channel of a number: the first is that of output, the second that of diagnostics.
What goes to another one is not seen. -/
def write (console : Console) (channel : Nat) (text : Bytes) : Console :=
  match channel with
  | 1 => { console with out := console.out ++ text }
  | 2 => { console with err := console.err ++ text }
  | _ => console

def printOut (console : Console) (line : String) : Console :=
  { console with out := console.out ++ Bytes.ofString (line ++ "\n") }

def printErr (console : Console) (line : String) : Console :=
  { console with err := console.err ++ Bytes.ofString (line ++ "\n") }

end Console

structure World where
  files : FileSystem := {}
  console : Console := {}
  /-- Whether nobody sees what is printed. The channels for it then lead to nothing. -/
  isSilent : Bool := false
  deriving DecidableEq

inductive ExitStatus where
  | code (code : Nat)
  | signal (number : Nat)
  deriving DecidableEq, Repr

namespace ExitStatus

def isSuccess : ExitStatus → Bool
  | .code number => number = 0
  | .signal _ => false

def signalNames : List String := [
  "SIGHUP", "SIGINT", "SIGQUIT", "SIGILL", "SIGTRAP", "SIGABRT", "SIGBUS", "SIGFPE", "SIGKILL",
  "SIGUSR1", "SIGSEGV", "SIGUSR2", "SIGPIPE", "SIGALRM", "SIGTERM", "SIGSTKFLT", "SIGCHLD",
  "SIGCONT", "SIGSTOP", "SIGTSTP", "SIGTTIN", "SIGTTOU", "SIGURG", "SIGXCPU", "SIGXFSZ",
  "SIGVTALRM", "SIGPROF", "SIGWINCH", "SIGIO", "SIGPWR", "SIGSYS"]

def message : ExitStatus → String
  | .code number => "exit status: " ++ toString number
  | .signal number =>
      "signal: " ++ toString number ++
        match number, signalNames[number - 1]? with
        | 0, _ => ""
        | _, none => ""
        | _, some name => " (" ++ name ++ ")"

end ExitStatus

/-- What became of running a program: the files, what it printed, and its status or the reason
for which it could not be started. -/
structure ProgramRun where
  files : FileSystem
  console : Console := {}
  outcome : Except FileError ExitStatus

/-- The programs that there are: what running a command in a world comes to. The first word of the
command is the name of a program, the others are its arguments. -/
abbrev Programs := List String → World → ProgramRun

end SchemaBuild
