import SchemaBuild.Shell.Parser
import SchemaBuild.World

/-!
# The state of a shell

A shell works on files. Its numbered channels are connected to open files and pipes, which it may
share with other shells, and it has an environment, of which a subshell gets a copy of its own.
-/

namespace SchemaBuild.Shell

/-! ## Open files -/

inductive Endpoint where
  | file (id : FileId)
  | directory (location : Location)
  | device (device : Device)
  | pipe (index : Nat)
  deriving DecidableEq

structure OpenFile where
  endpoint : Endpoint
  offset : Nat := 0
  reads : Bool := false
  writes : Bool := false
  appends : Bool := false

structure Pipe where
  chunks : List Script := []
  room : Option Nat := some 2097152

namespace Pipe

def text (pipe : Pipe) : Script :=
  match pipe.chunks with
  | [] => []
  | [text] => text
  | chunks => chunks.reverse.flatten

def push (pipe : Pipe) (text : Script) : Option Pipe :=
  match pipe.room with
  | none => some { pipe with chunks := text :: pipe.chunks }
  | some room =>
      if room = 0 then none
      else some { chunks := text :: pipe.chunks, room := some (room - text.length) }

end Pipe

/-! ## Environments -/

structure Variable where
  value : Option Script := none
  elements : Option (List (Script × Script)) := none
  isMap : Bool := false
  exported : Bool := false
  fixed : Bool := false
  isNumber : Bool := false
  deriving DecidableEq, Repr

structure Options where
  letters : List Char := []
  pipefail : Bool := false
  named : List Script := []
  deriving DecidableEq, Repr

namespace Options

def has (options : Options) (letter : Char) : Bool :=
  options.letters.contains letter

def put (options : Options) (letter : Char) (on : Bool) : Options :=
  let others := options.letters.filter (· ≠ letter)
  { options with letters := if on then others ++ [letter] else others }

end Options

structure BackgroundJob (Environment : Type) where
  number : Nat
  command : Command
  environment : Environment
  working : Location
  isStarted : Bool := false
  status : Option Nat := none

structure Environment where
  dialect : Dialect := .plain
  scriptName : Script := "sh".toList
  arguments : List Script := []
  bindings : List (Script × Variable) := []
  functions : List (Script × Command) := []
  aliases : List (Script × Script) := []
  channels : List (Nat × Nat) := [(0, 0), (1, 1), (2, 2)]
  options : Options := {}
  /-- What is done about signals, by their numbers; nothing, if the text is empty. The end of the
  shell counts as the signal of number zero. -/
  traps : List (Nat × Script) := []
  status : Nat := 0
  substituted : Option Nat := none
  stageStatuses : List Nat := [0]
  locals : List (Script × Option Variable) := []
  calls : List Script := []
  returnable : Nat := 0
  tested : Bool := false
  loops : Nat := 0
  line : Nat := 0
  commandName : Option Script := none
  calledName : Script := []
  process : Nat := 1
  shell : Nat := 1
  parent : Nat := 0
  lastJob : Option Nat := none
  optionOffset : Nat := 0
  mask : Nat := 0o022
  isFinal : Bool := false

structure State where
  files : FileSystem
  opened : Array OpenFile := #[]
  pipes : Array Pipe := #[]
  environment : Environment := {}
  nextProcess : Nat := 2
  signals : List (Nat × Nat) := []
  jobs : List (BackgroundJob Environment) := []

inductive Interrupt where
  | exit (status : ExitStatus)
  | failure (status : Nat)
  | leaveLoop (levels : Nat)
  | nextRound (levels : Nat)
  | leaveFunction
  | outputFailed (error : FileError)
  | exhausted
  deriving DecidableEq, Repr

abbrev Running := ExceptT Interrupt (StateM State)

def misuse : Nat := 2

def environment : Running Environment :=
  return (← get).environment

def modifyEnvironment (change : Environment → Environment) : Running Unit :=
  modify fun state => { state with environment := change state.environment }

def setStatus (status : Nat) : Running Unit :=
  modifyEnvironment fun environment => { environment with status := status }

def within {α : Type} (change : Environment → Environment)
    (merge : Environment → Environment → Environment) (action : Running α) : Running α := do
  let before ← environment
  modifyEnvironment change
  let result ← observing action
  modifyEnvironment (merge before)
  ofExcept result

def isolated {α : Type} (change : Environment → Environment) (action : Running α) :
    Running α := do
  let before ← get
  modifyEnvironment change
  let result ← observing action
  modify fun state => { state with
    environment := before.environment
    files := { state.files with working := before.files.working } }
  ofExcept result

/-! ## Variables -/

def valueOf? {α : Type} (name : Script) (entries : List (Script × α)) : Option α :=
  (entries.find? fun entry => entry.1 = name).map (·.2)

namespace Environment

def binding? (environment : Environment) (name : Script) : Option Variable :=
  valueOf? name environment.bindings

def value? (environment : Environment) (name : Script) : Option Script :=
  (environment.binding? name).bind fun found =>
    match found.elements with
    | some elements => valueOf? ['0'] elements
    | none => found.value

def valueOrEmpty (environment : Environment) (name : String) : Script :=
  (environment.value? name.toList).getD []

def bind (environment : Environment) (name : Script) (binding : Variable) : Environment :=
  if environment.bindings.any fun entry => entry.1 = name then
    { environment with bindings := environment.bindings.map fun entry =>
        if entry.1 = name then (name, binding) else entry }
  else { environment with bindings := environment.bindings ++ [(name, binding)] }

def unbind (environment : Environment) (name : Script) : Environment :=
  { environment with bindings := environment.bindings.filter fun entry => entry.1 ≠ name }

def set (environment : Environment) (name value : Script) : Environment :=
  let old := (environment.binding? name).getD {}
  let exported := old.exported || environment.options.has 'a'
  environment.bind name
    (match old.elements with
    | some elements =>
        let others := elements.filter fun entry => entry.1 ≠ ['0']
        { old with elements := some ((['0'], value) :: others), exported := exported }
    | none => { old with value := some value, exported := exported })

def exports (environment : Environment) : List (Script × Script) :=
  environment.bindings.filterMap fun (name, binding) =>
    if binding.exported then binding.value.map fun value => (name, value) else none

def special? (environment : Environment) (name : Char) : Option Script :=
  let number := fun (value : Nat) => some (toString value).toList
  match name with
  | '#' => number environment.arguments.length
  | '?' => number environment.status
  | '$' => number environment.shell
  | '!' => environment.lastJob.bind number
  | '-' => some (environment.options.letters.filter (· ≠ 'c'))
  | '0' => some environment.scriptName
  | _ => none

end Environment

/-! ## Messages -/

def Environment.origin (environment : Environment) : Script :=
  let line := (toString environment.line).toList
  match environment.dialect with
  | .plain =>
      environment.scriptName ++ ": ".toList ++ line ++ ": ".toList ++
        (environment.commandName.map fun name => name ++ ": ".toList).getD []
  | .extended =>
      environment.scriptName ++ ": line ".toList ++ line ++ ": ".toList ++
        (environment.commandName.map fun name => name ++ ": ".toList).getD []

/-! ## Channels -/

def State.openFile? (state : State) (channel : Nat) : Option (Nat × OpenFile) := do
  let (_, index) ← state.environment.channels.find? fun entry => entry.1 = channel
  let file ← state.opened[index]?
  some (index, file)

def connect (channel index : Nat) : Running Unit :=
  modifyEnvironment fun environment =>
    { environment with
      channels := (channel, index) :: environment.channels.filter fun entry => entry.1 ≠ channel }

def disconnect (channel : Nat) : Running Unit :=
  modifyEnvironment fun environment =>
    { environment with channels := environment.channels.filter fun entry => entry.1 ≠ channel }

def addOpen (file : OpenFile) : Running Nat := do
  let state ← get
  set { state with opened := state.opened.push file }
  return state.opened.size

def addPipe (text : Script) : Running Nat := do
  let state ← get
  set { state with pipes := state.pipes.push { chunks := [text] } }
  return state.pipes.size

def overwrite (old : Bytes) (offset : Nat) (new : Bytes) : Bytes :=
  if offset = old.length then old ++ new
  else
    old.take offset ++ List.replicate (offset - old.length) 0 ++ new ++
      old.drop (offset + new.length)

def writeTo (index : Nat) (file : OpenFile) (text : Script) : Running (Except FileError Unit) := do
  if !file.writes then return .error .badChannel
  match file.endpoint with
  | .pipe pipe =>
      match ((← get).pipes.getD pipe {}).push text with
      | none => return .error .brokenPipe
      | some filled =>
          modify fun state => { state with pipes := state.pipes.set! pipe filled }
          return .ok ()
  | .file id =>
      modify fun state =>
        let old := (state.files.storedAt id).content.toBytes
        let offset := if file.appends then old.length else file.offset
        let new := Bytes.ofLatin text
        { state with
          files := if text.isEmpty then state.files
            else state.files.setContent id (.bytes (overwrite old offset new))
          opened := state.opened.modify index fun file =>
            { file with offset := offset + new.length } }
      return .ok ()
  | .device .full => return if text.isEmpty then .ok () else .error .noSpace
  | .device _ => return .ok ()
  | .directory _ => return .error .isDirectory

def write (channel : Nat) (text : Script) : Running (Except FileError Unit) := do
  match (← get).openFile? channel with
  | none => return .error .badChannel
  | some (index, file) => writeTo index file text

def print (text : Script) : Running Unit := do
  unless text.isEmpty do
    match ← write 1 text with
    | .ok () => pure ()
    | .error error => throw (.outputFailed error)

def printLine (text : Script) : Running Unit :=
  print (text ++ ['\n'])

def complain (text : Script) : Running Unit :=
  discard (write 2 (text ++ ['\n']))

def complainHere (text : Script) : Running Unit := do
  complain ((← environment).origin ++ text)

def abort {α : Type} (text : Script) : Running α := do
  complainHere text
  throw (.failure misuse)

def zeroCount : Nat := 65536

def State.unread (state : State) (file : OpenFile) : Except FileError Script :=
  if !file.reads then .error .badChannel
  else
    match file.endpoint with
    | .pipe pipe => .ok (state.pipes.getD pipe {}).text
    | .file id =>
        .ok (Bytes.toLatin (((state.files.storedAt id).content.toBytes).drop file.offset))
    | .device .zero => .ok (List.replicate zeroCount (Char.ofNat 0))
    | .device _ => .ok []
    | .directory _ => .error .isDirectory

def takeFrom (channel : Nat) (taken : Script → Nat) : Running (Except FileError Script) := do
  let state ← get
  match state.openFile? channel with
  | none => return .error .badChannel
  | some (index, file) =>
      match state.unread file with
      | .error error => return .error error
      | .ok text =>
          let count := taken text
          match file.endpoint with
          | .pipe pipe =>
              let room := (state.pipes.getD pipe {}).room
              set { state with pipes := state.pipes.set! pipe ⟨[text.drop count], room⟩ }
          | _ =>
              set { state with opened := state.opened.modify index fun file =>
                { file with offset := file.offset + count } }
          return .ok (text.take count)

def takeAllInput : Running (Except FileError Script) :=
  takeFrom 0 List.length

/-! ## Files -/

def onFiles {α : Type} (operation : FileOperation α) : Running (Except FileError α) := do
  let state ← get
  let (result, files) := operation.run.run state.files
  set { state with files := files }
  return result

def changeFiles (operation : FileSystem → Except FileError FileSystem) :
    Running (Except FileError Unit) :=
  onFiles (FileOperation.change operation)

def pathOf (location : Location) : Script :=
  if location.isEmpty then ['/'] else location.flatMap fun name => '/' :: Bytes.toLatin name

def nodeAt? (follow : Bool) (path : Script) : Running (Except FileError Node) := do
  match (← get).files.locate follow (Bytes.ofLatin path) with
  | .ok (.node _ node) => return .ok node
  | .ok (.vacant _ _) => return .error .notFound
  | .error error => return .error error

def isDirectoryAt (path : Script) : Running Bool :=
  return (← get).files.isDirectory (Bytes.ofLatin path)

/-- Open what is at a path, and tell the number of the open file. A channel is opened as what it is
connected with. -/
def openAt (path : Script) (mode : OpenMode) : Running (Except FileError Nat) := do
  let state ← get
  let place := Bytes.ofLatin path
  let permissions := 0o666 &&& (0o777 - state.environment.mask)
  let opened := match mode with
    | .read => (state.files.openAt place).map fun opened => (opened, state.files)
    | _ => state.files.openToWrite place permissions
  match opened with
  | .error error => return .error error
  | .ok (opened, files) =>
      set { state with files := files }
      let reads := mode = .read || mode = .readWrite
      let writes := mode ≠ .read
      let truncates := mode = .write || mode = .overwrite
      match opened with
      | .directory location =>
          return .ok (← addOpen { endpoint := .directory location, reads := true })
      | .device (.channel number) =>
          match state.openFile? number with
          | none => return .error .notFound
          | some (index, file) =>
              match file.endpoint with
              | .file id =>
                  if truncates then
                    modify fun state =>
                      { state with files := state.files.setContent id (.bytes []) }
                  return .ok (← addOpen
                    { endpoint := .file id, reads, writes, appends := mode = .append })
              | _ => return .ok index
      | .device device =>
          return .ok (← addOpen { endpoint := .device device, reads, writes })
      | .file id =>
          if truncates then
            modify fun state => { state with files := state.files.setContent id (.bytes []) }
          return .ok (← addOpen
            { endpoint := .file id, reads, writes, appends := mode = .append })

def readFile (path : Script) : Running (Except FileError Script) := do
  match ← openAt path .read with
  | .error error => return .error error
  | .ok index =>
      let state ← get
      match state.opened[index]? with
      | none => return .error .badChannel
      | some file =>
          let result := state.unread file
          -- What is read from a channel is gone.
          match file.endpoint, result with
          | .pipe pipe, .ok _ =>
              set { state with
                pipes := state.pipes.modify pipe fun pipe => { pipe with chunks := [] } }
          | _, _ => pure ()
          return result

def replaceFile (path text : Script) : Running (Except FileError Unit) := do
  match ← openAt path .write with
  | .error error => return .error error
  | .ok index =>
      match (← get).opened[index]? with
      | none => return .error .badChannel
      | some file => writeTo index file text

end SchemaBuild.Shell
