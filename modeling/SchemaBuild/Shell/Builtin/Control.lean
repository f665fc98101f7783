import SchemaBuild.Shell.Builtin

/-!
# Control

Builtins that end the shell, a function or a loop, and those for signals.
-/

namespace SchemaBuild.Shell.Builtin

/-! ## Ends -/

def exit : Builtin := fun given => do
  match given with
  | [] => throw (.exit (.code ((← environment).status % 256)))
  | text :: _ => throw (.exit (.code ((← number text) % 256)))

def leave (interrupt : Nat → Interrupt) : Builtin := fun given => do
  let levels ← match given with
    | [] => pure 1
    | text :: _ => number text
  if levels = 0 then abort ("Illegal number: ".toList ++ given.headD [])
  let loops := (← environment).loops
  if loops = 0 then
    if (← environment).dialect = .extended then
      complainHere "only meaningful in a \x60for', \x60while', or \x60until' loop".toList
    return 0
  setStatus 0
  throw (interrupt (min levels loops))

def leaveFunction : Builtin := fun given => do
  let environment ← environment
  if environment.dialect = .extended && environment.returnable = 0 then
    complainHere "can only \x60return' from a function or sourced script".toList
    return misuse
  match given with
  | [] => pure ()
  | text :: _ => setStatus (← number text)
  throw .leaveFunction

def shift : Builtin := fun given => do
  let count ← match given with
    | [] => pure 1
    | text :: _ => number text
  if (← environment).arguments.length < count then
    if (← environment).dialect = .extended then return 1
    abort "can't shift that many".toList
  modifyEnvironment fun environment =>
    { environment with arguments := environment.arguments.drop count }
  return 0

/-! ## Signals -/

def printTraps : Running Unit := do
  for (number, action) in (← environment).traps do
    let isLong := (← environment).dialect = .extended && number ≠ 0
    printLine ("trap -- ".toList ++ quoted action ++ ' ' ::
      (if isLong then "SIG" ++ Signal.name number else Signal.name number).toList)

def setTraps (action : Option Script) : List Script → Running Nat
  | [] => return 0
  | text :: rest => do
      let environment ← environment
      let name := if environment.dialect = .extended && "SIG".toList.isPrefixOf text then
        text.drop 3 else text
      match Signal.number? name with
      | none =>
          complain ("trap: ".toList ++ text ++ ": bad trap".toList)
          return 1
      | some number =>
          modifyEnvironment fun environment =>
            { environment with traps := Signal.putTrap number action environment.traps }
          setTraps action rest

def trap : Builtin := fun given => do
  let (_, operands) ← options (if (← environment).dialect = .extended then "lp" else "") "" given
  match operands with
  | [] =>
      printTraps
      return 0
  | [one] => setTraps none [one]
  | action :: conditions =>
      let isNumber := !action.isEmpty && action.all Char.isDigit
      if action = ['-'] then setTraps none conditions
      else if isNumber then setTraps none operands
      else setTraps (some action) conditions

def killUsage : Script :=
  ("Usage: kill [-s sigspec | -signum | -sigspec] [pid | job]... or\nkill -l [exitstatus]").toList

def sendAll (signal : Nat) (targets : List Script) : Running Nat := do
  if targets.isEmpty then abort killUsage
  let environment ← environment
  targets.foldlM (fun status target => do
    let process ← match target with
      | '%' :: _ =>
          match environment.lastJob with
          | some process => pure process
          | none => abort ("No such job: ".toList ++ target)
      | target => number target
    let process := if process = 0 then environment.process else process
    if ← Signal.send process signal then return status
    else
      complainHere "No such process\n".toList
      return 1) 0

def listSignals (given : List Script) : Running Nat := do
  match given with
  | [] =>
      print ['0', '\n']
      print (((List.range Signal.last).map fun index =>
        (Signal.name (index + 1)).toList ++ ['\n']).flatten)
      return 0
  | text :: _ =>
      let value ← number text
      let signal := if 128 < value then value - 128 else value
      if Signal.last < signal then abort ("invalid signal number or exit status: ".toList ++ text)
      printLine (Signal.name signal).toList
      return 0

def kill : Builtin := fun given => do
  let isExtended := (← environment).dialect = .extended
  let signalOf := fun (text : Script) =>
    Signal.number? (if isExtended && "SIG".toList.isPrefixOf text then text.drop 3 else text)
  match given with
  | ('-' :: first :: rest) :: targets =>
      match if first :: rest = ['-'] then none else signalOf (first :: rest) with
      | some signal =>
          sendAll signal (if targets.head? = some ['-', '-'] then targets.drop 1 else targets)
      | none =>
          let (taken, operands) ← options "l" "s" given
          if taken.any (·.1 = 'l') then listSignals operands
          else
            match taken.find? (·.1 = 's') with
            | none => sendAll 15 operands
            | some (_, name) =>
                match signalOf name with
                | some signal => sendAll signal operands
                | none => abort ("invalid signal number or name: ".toList ++ name)
  | targets => sendAll 15 targets

def times : Builtin := fun _ => do
  print "0m0.000000s 0m0.000000s\n0m0.000000s 0m0.000000s\n".toList
  return 0

end SchemaBuild.Shell.Builtin
