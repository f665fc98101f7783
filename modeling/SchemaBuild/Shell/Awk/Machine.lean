import SchemaBuild.Shell.Awk.Parser
import SchemaBuild.Shell.Awk.Value
import SchemaBuild.Shell.Builtin
import SchemaBuild.Shell.Utility

/-!
# Running programs for records

The state of a program for records: its variables, the record with its fields, and the files and
commands that it reads from and writes to.
-/

namespace SchemaBuild.Shell.Awk

/-! ## State -/

inductive Binding where
  | scalar (value : Value)
  | array (number : Nat)
  | open (number : Nat)

inductive Sink where
  | channel (number : Nat)
  | opened (index : Nat)

inductive Stream where
  | file (place : Sink) (chunks : List Script)
  | command (chunks : List Script)
  | input (rest : Script)
  | commandInput (rest : Script) (status : Nat)

inductive Purpose where
  | file
  | command
  | input
  | commandInput
  deriving DecidableEq

def Stream.purpose : Stream → Purpose
  | .file _ _ => .file
  | .command _ => .command
  | .input _ => .input
  | .commandInput _ _ => .commandInput

def Stream.written : Stream → Stream
  | .file place _ => .file place []
  | stream => stream

def outputName : Script := "/dev/stdout".toList

def errorName : Script := "/dev/stderr".toList

structure Machine where
  functions : List Function := []
  globals : List (Script × Binding) := []
  locals : List (Script × Binding) := []
  arrays : Array Elements := #[]
  record : Script := []
  fields : Array Value := #[]
  rest : Script := []
  operand : Nat := 1
  isStarted : Bool := false
  isEnded : Bool := false
  streams : List (Script × Stream) :=
    [(errorName, .file (.channel 2) []), (outputName, .file (.channel 1) [])]
  active : List Nat := []
  seed : Float := 0
  random : Nat := 1

inductive Jump where
  | next
  | nextFile
  | finish (status : Option Nat)
  | leave (value : Value)
  | leaveLoop
  | nextRound
  | fault (reason : Script)
  | failure (reason : Script)

abbrev Awking := ExceptT Jump (StateT Machine Running)

def outside {α : Type} (action : Running α) : Awking α :=
  ExceptT.lift (StateT.lift action)

/-! ## Variables -/

def putEntry {α : Type} (name : Script) (value : α) (entries : List (Script × α)) :
    List (Script × α) :=
  if entries.any fun entry => entry.1 = name then
    entries.map fun entry => if entry.1 = name then (name, value) else entry
  else (name, value) :: entries

def binding (name : Script) : Awking (Option Binding) := do
  let machine ← get
  match machine.locals.lookup name with
  | some binding => return some binding
  | none => return machine.globals.lookup name

def bind (name : Script) (binding : Binding) : Awking Unit :=
  modify fun machine =>
    if machine.locals.any fun entry => entry.1 = name then
      { machine with locals := putEntry name binding machine.locals }
    else { machine with globals := putEntry name binding machine.globals }

def Machine.global (machine : Machine) (name : String) : Value :=
  match machine.globals.lookup name.toList with
  | some (.scalar value) => value
  | _ => .unset

def globalText (name : String) : Awking Script := do
  return ((← get).global name).toText "%.6g".toList

def convertFormat : Awking Script := globalText "CONVFMT"

def textOf (value : Value) : Awking Script := do
  return value.toText (← convertFormat)

def setGlobal (name : String) (value : Value) : Awking Unit :=
  modify fun machine =>
    { machine with globals := putEntry name.toList (.scalar value) machine.globals }

/-! ## Records -/

def cutAt (regex : Regex) : Nat → Script → List Script
  | 0, text => [text]
  | steps + 1, text =>
      match regex.findFrom? { text := text.toArray } 0 with
      | some found =>
          if found.stop = found.start then [text]
          else text.take found.start :: cutAt regex steps (text.drop found.stop)
      | none => [text]

def fieldsOf (separator : Script) (text : Script) : Except Script (List Script) :=
  if text.isEmpty then .ok []
  else
    match separator with
    | [' '] => .ok ((text.splitOnP isSpace).filter fun field => !field.isEmpty)
    | [] => .ok (text.map fun character => [character])
    | [mark] => .ok (text.splitOn mark)
    | separator =>
        match Regex.parse regexStyle separator with
        | .ok regex => .ok (cutAt regex (text.length + 1) text)
        | .error reason => .error reason.toList

def setRecord (text : Script) : Awking Unit := do
  let separator ← globalText "FS"
  match fieldsOf separator text with
  | .ok fields =>
      modify fun machine =>
        { machine with record := text, fields := (fields.map Value.input).toArray }
  | .error reason => throw (.fault reason)

def rebuild : Awking Unit := do
  let divider ← globalText "OFS"
  let format ← convertFormat
  modify fun machine =>
    { machine with
      record := divider.intercalate (machine.fields.toList.map (Value.toText format)) }

def fieldLimit : Nat := 32767

def fieldNumber (value : Value) : Awking Nat := do
  let number := Fraction.toInt value.toNumber
  if number < 0 then
    throw (.fault ("negative field index $".toList ++ (toString number).toList))
  if (fieldLimit : Int) < number then throw (.fault "field index too large".toList)
  return number.toNat

def fieldAt (number : Nat) : Awking Value := do
  let machine ← get
  match number with
  | 0 => return .input machine.record
  | index + 1 => return machine.fields.getD index .unset

def setFieldCount (count : Nat) : Awking Unit := do
  modify fun machine =>
    { machine with
      fields := machine.fields.extract 0 count ++
        (Array.replicate (count - machine.fields.size) (.text [])) }
  rebuild

def setField (number : Nat) (value : Value) : Awking Unit := do
  match number with
  | 0 => setRecord (← textOf value)
  | index + 1 =>
      if (← get).fields.size ≤ index then setFieldCount number
      modify fun machine => { machine with fields := machine.fields.set! index value }
      rebuild

def valueOf (name : Script) : Awking Value := do
  if name = "NF".toList then return .ofNat (← get).fields.size
  match ← binding name with
  | some (.scalar value) => return value
  | some (.array _) => throw (.fault ("type error in ".toList ++ name))
  | _ => return .unset

def setValue (name : Script) (value : Value) : Awking Unit := do
  if name = "NF".toList then setFieldCount (← fieldNumber value)
  else
    match ← binding name with
    | some (.array _) => throw (.fault ("type error in ".toList ++ name))
    | _ => bind name (.scalar value)

/-! ## Arrays -/

def arrayNumber (name : Script) : Awking Nat := do
  match ← binding name with
  | some (.array number) => return number
  | some (.open number) =>
      bind name (.array number)
      return number
  | some (.scalar .unset) => makeArray
  | some (.scalar _) => throw (.fault ("type error in ".toList ++ name))
  | none => makeArray
where
  makeArray : Awking Nat := do
    let number := (← get).arrays.size
    modify fun machine => { machine with arrays := machine.arrays.push [] }
    bind name (.array number)
    return number

def elementsOf (name : Script) : Awking Elements := do
  let number ← arrayNumber name
  return (← get).arrays.getD number []

def setElement (name subscript : Script) (value : Value) : Awking Unit := do
  let number ← arrayNumber name
  modify fun machine =>
    { machine with arrays := machine.arrays.modify number (putEntry subscript value) }

def elementValue (name subscript : Script) : Awking Value := do
  match (← elementsOf name).lookup subscript with
  | some value => return value
  | none =>
      setElement name subscript .unset
      return .unset

def setElements (name : Script) (elements : Elements) : Awking Unit := do
  let number ← arrayNumber name
  modify fun machine => { machine with arrays := machine.arrays.set! number elements }

/-! ## Commands and output -/

def Sink.write (place : Sink) (text : Script) : Running (Except FileError Unit) := do
  let written ← match place with
    | .channel number => Shell.write number text
    | .opened index => do
        match (← getThe State).opened[index]? with
        | some file => writeTo index file text
        | none => pure (.error .badChannel)
  match written with
  | .error .brokenPipe => throw (.outputFailed .brokenPipe)
  | written => return written

def because (deed : Script) (error : FileError) : Script :=
  deed ++ " (".toList ++ error.words.toList ++ [')']

def flush : Awking Unit := do
  let machine : Machine ← get
  set { machine with
    streams := machine.streams.map fun (entry : Script × Stream) => (entry.1, entry.2.written) }
  for (_, stream) in machine.streams do
    match stream with
    | .file place chunks =>
        unless chunks.isEmpty do
          match ← outside (place.write chunks.reverse.flatten) with
          | .ok () => pure ()
          | .error error =>
              outside (complain ("awk: ".toList ++ because "unexpected write error".toList error))
    | _ => pure ()

def statusOf : ExitStatus → Nat
  | .code code => code
  | .signal number => 256 + number

def runCommand (start : Start) (shell : String) (command : Script) : Running Nat := do
  match ← start [shell.toList, "-c".toList, command] with
  | .ok status => return statusOf status
  | .error _ => return 127

def feed (start : Start) (command text : Script) : Running Nat := do
  let pipe ← addPipe text
  let index ← addOpen { endpoint := .pipe pipe, reads := true }
  Utility.withChannel 0 index (runCommand start "/bin/sh" command)

def outputOf (start : Start) (command : Script) : Running (Script × Nat) := do
  let pipe ← addPipe []
  modify fun state => { state with pipes := state.pipes.set! pipe { room := none } }
  let index ← addOpen { endpoint := .pipe pipe, writes := true }
  let status ← Utility.withChannel 1 index (runCommand start "/bin/sh" command)
  return (((← get).pipes.getD pipe {}).text, status)

def endStream (start : Start) (name : Script) : Stream → Running (Except FileError Nat)
  | .file place chunks => do
      if chunks.isEmpty then return .ok 0
      return (← place.write chunks.reverse.flatten).map fun () => 0
  | .command chunks => return .ok (← feed start name chunks.reverse.flatten)
  | .input _ => return .ok 0
  | .commandInput _ status => return .ok status

def unclosed (name : Script) (error : FileError) : Script :=
  because ("close failed on file \"".toList ++ name ++ ['"']) error

def close (start : Start) (name : Script) : Awking Int := do
  let machine ← get
  let (closed, others) := machine.streams.partition fun entry => entry.1 = name
  set { machine with streams := others }
  let mut status : Int := -1
  for (name, stream) in closed do
    let ended ← outside (endStream start name stream)
    match stream with
    | .file (.channel number) _ => outside (disconnect number)
    | _ => pure ()
    match ended with
    | .ok ended => status := ended
    | .error error => throw (.failure (unclosed name error))
  return status

def closeAll (start : Start) (machine : Machine) : Running (List Script) := do
  let mut reasons := []
  for (name, stream) in machine.streams do
    match ← endStream start name stream with
    | .ok _ => pure ()
    | .error error => reasons := reasons ++ [unclosed name error]
  return reasons

def Machine.stream? (machine : Machine) (name : Script) (purpose : Purpose) : Option Stream :=
  (machine.streams.find? fun entry => entry.1 = name && entry.2.purpose = purpose).map (·.2)

def putStream (name : Script) (stream : Stream) : Awking Unit :=
  modify fun machine => { machine with
    streams := (name, stream) :: machine.streams.filter fun entry =>
      !(entry.1 = name && entry.2.purpose = stream.purpose) }

/-- Write what is printed so far to the files and commands of a name. Gives whether there are any:
zero if so. No name stands for all of them. -/
def flushOf (name : Script) : Awking Int := do
  let machine : Machine ← get
  if name.isEmpty then
    flush
    return 0
  let isOutput := fun (entry : Script × Stream) =>
    entry.1 = name && (entry.2.purpose = .file || entry.2.purpose = .command)
  if machine.streams.any isOutput then
    set { machine with
      streams := machine.streams.map fun (entry : Script × Stream) =>
        if entry.1 = name then (entry.1, entry.2.written) else entry }
    for (found, stream) in machine.streams do
      match stream with
      | .file place chunks =>
          if found = name && !chunks.isEmpty then
            match ← outside (place.write chunks.reverse.flatten) with
            | .ok () => pure ()
            | .error error => throw (.failure (because "write failure".toList error))
      | _ => pure ()
    return 0
  return -1

def emitPlainly (text : Script) : Awking Unit := do
  let machine : Machine ← get
  match machine.stream? outputName .file with
  | none => throw (.failure (because "write failure".toList .badChannel))
  | some _ =>
      set { machine with
        streams := machine.streams.map fun (entry : Script × Stream) =>
          match entry with
          | (name, .file place chunks) =>
              (name, .file place (if name = outputName then text :: chunks else chunks))
          | entry => entry }

def pour (name text : Script) : Stream → Awking Unit
  | .file (.channel 2) chunks => do
      putStream name (.file (.channel 2) chunks)
      match ← outside (Sink.write (.channel 2) text) with
      | .ok () => pure ()
      | .error error => throw (.failure (because "write failure".toList error))
  | .file place chunks => putStream name (.file place (text :: chunks))
  | .command chunks => putStream name (.command (text :: chunks))
  | _ => pure ()

/-- Print text, or write it to a file or a command. What was printed before a command is started
is written first. -/
def emit (target : Option (Direction × Script)) (text : Script) : Awking Unit := do
  match target with
  | none => emitPlainly text
  | some (.command, name) =>
      match (← get).stream? name .command with
      | some stream => pour name text stream
      | none =>
          flush
          pour name text (.command [])
  | some (direction, name) =>
      match (← get).stream? name .file with
      | some stream => pour name text stream
      | none =>
          let mode := if direction = .fileEnd then OpenMode.append else .write
          match ← outside (openAt name mode) with
          | .ok index => pour name text (.file (.opened index) [])
          | .error error =>
              throw (.failure (because ("cannot open \"".toList ++ name ++
                "\" for output".toList) error))

/-! ## Input -/

def takeRecord? (separator text : Script) : Except Script (Option (Script × Script)) :=
  match separator with
  | [] =>
      let start := text.dropWhile (· = '\n')
      if start.isEmpty then .ok none
      else
        let rec paragraph : Nat → Script → Script
          | 0, _ => []
          | _ + 1, [] => []
          | _ + 1, '\n' :: '\n' :: _ => []
          | _ + 1, ['\n'] => []
          | steps + 1, character :: rest => character :: paragraph steps rest
        let record := paragraph (start.length + 1) start
        .ok (some (record, (start.drop record.length).dropWhile (· = '\n')))
  | [mark] =>
      if text.isEmpty then .ok none
      else
        let record := text.takeWhile (· ≠ mark)
        .ok (some (record, text.drop (record.length + 1)))
  | separator =>
      if text.isEmpty then .ok none
      else
        match Regex.parse regexStyle separator with
        | .error reason => .error reason.toList
        | .ok regex =>
            match regex.findFrom? { text := text.toArray } 0 with
            | some found =>
                if found.start = found.stop then .ok (some (text, []))
                else .ok (some (text.take found.start, text.drop found.stop))
            | none => .ok (some (text, []))

def recordFrom (text : Script) : Awking (Option (Script × Script)) := do
  match takeRecord? (← globalText "RS") text with
  | .ok found => return found
  | .error reason => throw (.fault reason)

def operandSetting? (operand : Script) : Option (Script × Script) :=
  let name := operand.takeWhile isNameRest
  match operand.drop name.length with
  | '=' :: value => if isName name then some (name, unescaped (value.length + 1) value) else none
  | _ => none

def openText (name : Script) : Awking (Except FileError Script) := do
  match ← outside (Utility.textOf (if name = "/dev/stdin".toList then ['-'] else name)) with
  | .ok text => return .ok text
  | .error error =>
      if error = .isDirectory || error = .badChannel then
        throw (.failure (because "read error".toList error))
      return .error error

def openMain (name : Script) : Awking Unit := do
  match ← openText name with
  | .ok text =>
      modify fun machine => { machine with rest := text }
      setGlobal "FILENAME" (.text name)
      setGlobal "FNR" (.number 0)
  | .error error =>
      throw (.failure (because ("cannot open \"".toList ++ name ++ ['"']) error))

/-- Go to the next file that the operands name, which may change while the program runs. Without
one at the start, it is the input. -/
def nextInput (isFirst : Bool) : Nat → Awking Unit
  | 0 => modify fun machine => { machine with isEnded := true }
  | steps + 1 => do
      let machine ← get
      let count := Fraction.toInt (machine.global "ARGC").toNumber
      if (machine.operand : Int) < count then
        set { machine with operand := machine.operand + 1 }
        let operand := ((machine.arrays.getD 0 []).lookup (toString machine.operand).toList).map
          (Value.toText (← convertFormat))
        match operand with
        | none => nextInput isFirst steps
        | some [] => nextInput isFirst steps
        | some operand =>
            match operandSetting? operand with
            | some (name, value) =>
                setValue name (.input value)
                nextInput isFirst steps
            | none => openMain operand
      else if isFirst then openMain ['-']
      else modify fun machine => { machine with isEnded := true }

def countRecord : Awking Unit := do
  let machine ← get
  setGlobal "NR" (.number ((machine.global "NR").toNumber + 1))
  setGlobal "FNR" (.number ((machine.global "FNR").toNumber + 1))

def fileLimit : Nat := 100000

def nextRecord : Nat → Awking (Option Script)
  | 0 => return none
  | steps + 1 => do
      let machine ← get
      unless machine.isStarted do
        set { machine with isStarted := true }
        nextInput true fileLimit
      match ← recordFrom (← get).rest with
      | some (record, rest) =>
          modify fun machine => { machine with rest := rest }
          countRecord
          return some record
      | none =>
          if (← get).isEnded then return none
          nextInput false fileLimit
          nextRecord steps

def recordOf (start : Start) (isCommand : Bool) (name : Script) :
    Awking (Except Int Script) := do
  let stream ← match (← get).stream? name (if isCommand then .commandInput else .input) with
    | some stream => pure (some stream)
    | none => do
        if isCommand then
          flush
          let (text, status) ← outside (outputOf start name)
          pure (some (.commandInput text status))
        else
          match ← openText name with
          | .ok text => pure (some (.input text))
          | .error _ => pure none
  let takeFrom := fun (text : Script) (left : Script → Stream) => do
    match ← recordFrom text with
    | none =>
        putStream name (left [])
        return .error 0
    | some (record, rest) =>
        putStream name (left rest)
        return .ok record
  match stream with
  | some (.input text) => takeFrom text .input
  | some (.commandInput text status) => takeFrom text (.commandInput · status)
  | _ => return .error (-1)

end SchemaBuild.Shell.Awk
