import SchemaBuild.Shell.State

/-!
# Signals

Signals are known by their numbers and their names. A shell may have something to do about one, may
ignore it, or may be ended by it.
-/

namespace SchemaBuild.Shell.Signal

def last : Nat := 64

def names : List String := [
  "EXIT", "HUP", "INT", "QUIT", "ILL", "TRAP", "ABRT", "BUS", "FPE", "KILL", "USR1", "SEGV", "USR2",
  "PIPE", "ALRM", "TERM", "16", "CHLD", "CONT", "STOP", "TSTP", "TTIN", "TTOU", "URG", "XCPU",
  "XFSZ", "VTALRM", "PROF", "WINCH", "IO", "PWR", "SYS", "32", "33"]

def name (number : Nat) : String :=
  match names[number]? with
  | some name => name
  | none =>
      if number = 34 then "RTMIN"
      else if number ≤ 49 then "RTMIN+" ++ toString (number - 34)
      else if number < 64 then "RTMAX-" ++ toString (64 - number)
      else "RTMAX"

def number? (text : Script) : Option Nat :=
  if !text.isEmpty && text.all Char.isDigit then
    let number := ofDigits 10 text
    if number ≤ last then some number else none
  else
    let upper := String.ofList (text.map Char.toUpper)
    (List.range (last + 1)).find? fun number => name number = upper && !(name number).isNat

/-- The signals that do nothing to a program which does not ask for them. Those that stop a program
are among them, since nobody would let it go on. -/
def harmless : List Nat := [0, 17, 18, 19, 20, 21, 22, 23, 28]

def brokenArithmetic : Nat := 8

def brokenMemory : Nat := 11

def description (number : Nat) : String :=
  match number with
  | 1 => "Hangup"
  | 2 => "Interrupt"
  | 3 => "Quit"
  | 4 => "Illegal instruction"
  | 5 => "Trace/breakpoint trap"
  | 6 => "Aborted"
  | 7 => "Bus error"
  | 8 => "Floating point exception"
  | 9 => "Killed"
  | 10 => "User defined signal 1"
  | 11 => "Segmentation fault"
  | 12 => "User defined signal 2"
  | 13 => "Broken pipe"
  | 14 => "Alarm clock"
  | 15 => "Terminated"
  | 16 => "Stack fault"
  | 24 => "CPU time limit exceeded"
  | 25 => "File size limit exceeded"
  | 26 => "Virtual timer expired"
  | 27 => "Profiling timer expired"
  | 29 => "I/O possible"
  | 30 => "Power failure"
  | 31 => "Bad system call"
  | number =>
      if 34 ≤ number then "Real-time signal " ++ toString (number - 34)
      else "Unknown signal " ++ toString number

def isTold (number : Nat) : Bool :=
  number ≠ 2 && number ≠ 13

def trap? (environment : Environment) (number : Nat) : Option Script :=
  (environment.traps.find? fun entry => entry.1 = number).map (·.2)

def putTrap (number : Nat) (action : Option Script) (traps : List (Nat × Script)) :
    List (Nat × Script) :=
  let others := traps.filter fun entry => entry.1 ≠ number
  match action with
  | none => others
  | some action =>
      (others.takeWhile fun entry => entry.1 < number) ++ (number, action) ::
        others.dropWhile fun entry => entry.1 < number

/-- Notice a signal that was sent to the current shell. It is kept for later if there is something
to do about it, and ends the shell if there is not. -/
def receive (number : Nat) : Running Unit := do
  let environment ← environment
  -- Two signals cannot be caught.
  let trap := if number = 9 || number = 19 then none else trap? environment number
  match trap with
  | some action =>
      unless action.isEmpty do
        modify fun state =>
          { state with signals := state.signals ++ [(environment.process, number)] }
  | none => unless harmless.contains number do throw (.exit (.signal number))

def send (process number : Nat) : Running Bool := do
  let state ← get
  let environment := state.environment
  if process = environment.process then
    receive number
    return true
  else if process = environment.shell || process = environment.parent then
    unless number = 0 do
      modify fun state => { state with signals := state.signals ++ [(process, number)] }
    return true
  else if state.jobs.any fun job => job.number = process && job.status.isNone then
    unless harmless.contains number do
      modify fun state => { state with jobs := state.jobs.map fun job =>
        if job.number = process then { job with status := some (128 + number) } else job }
    return true
  else return false

def pending : Running (List Nat) := do
  let state ← get
  let process := state.environment.process
  if state.signals.isEmpty then return []
  set { state with signals := state.signals.filter fun entry => entry.1 ≠ process }
  return (state.signals.filter fun entry => entry.1 = process).map (·.2)

end SchemaBuild.Shell.Signal
