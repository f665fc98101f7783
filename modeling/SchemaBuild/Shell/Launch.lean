import SchemaBuild.Shell.Builtin.Control
import SchemaBuild.Shell.Builtin.Input
import SchemaBuild.Shell.Program
import SchemaBuild.Shell.Redirection
import SchemaBuild.Shell.Utilities

/-!
# Shells and programs

Commands are run by a runner, which is an argument of everything that runs parts of a command. A
shell runs its commands up to its end; a program runs in a process of its own.
-/

namespace SchemaBuild.Shell

abbrev Runner := Command → Running Unit

/-! ## Texts -/

def runAs (runner : Runner) (isFinal : Bool) (command : Command) : Running Unit := do
  modifyEnvironment fun environment => { environment with isFinal := isFinal }
  runner command

def runLines (runner : Runner) (finishes : Bool) : Nat → Cursor → Running Unit
  | 0, _ => pure ()
  | rounds + 1, cursor => do
      let environment ← environment
      match Parser.nextLine.run { cursor with aliases := environment.aliases } with
      | .error error =>
          modifyEnvironment fun environment => { environment with line := error.line }
          abort ("Syntax error: ".toList ++ error.message)
      | .ok (none, _) => pure ()
      | .ok (some command, next) =>
          if environment.options.has 'v' then
            discard (write 2 (cursor.rest.take (cursor.rest.length - next.rest.length)))
          unless environment.options.has 'n' do
            let isFinal := finishes && next.pushed matches some .finish
            match environment.dialect with
            | .plain => runAs runner isFinal command
            | .extended =>
                -- An error only ends the line.
                match ← observing (runAs runner isFinal command) with
                | .error (.failure status) => setStatus status
                | result => ofExcept result
          runLines runner finishes rounds next

def runText (runner : Runner) (finishes : Bool) (text : Script) : Running Unit := do
  let dialect := (← environment).dialect
  runLines runner finishes (text.length + 2) { rest := text, dialect := dialect }

def runTraps (runner : Runner) : Running Unit := do
  for number in ← Signal.pending do
    match Signal.trap? (← environment) number with
    | none => unless Signal.harmless.contains number do throw (.exit (.signal number))
    | some action =>
        let status := (← environment).status
        runText runner false action
        setStatus status

/-! ## Shells in shells -/

def newProcess : Running Nat := do
  let state ← get
  set { state with nextProcess := state.nextProcess + 1 }
  return state.nextProcess

def runToEnd (runner : Runner) (action : Running Unit) : Running ExitStatus := do
  let status ← match ← observing (do action; runTraps runner) with
    | .ok () => pure (.code ((← environment).status % 256))
    | .error (.exit status) => pure status
    | .error (.failure status) => pure (.code status)
    | .error .exhausted => throw .exhausted
    | .error (.outputFailed _) => pure (.code 1)
    | .error _ => pure (.code ((← environment).status % 256))
  match status, Signal.trap? (← environment) 0 with
  | .code code, some action =>
      modifyEnvironment fun environment =>
        { environment with
          traps := Signal.putTrap 0 none environment.traps
          status := code
          commandName := none }
      match ← observing (runText runner false action) with
      | .error (.exit status) => return status
      | .error .exhausted => throw .exhausted
      | _ => return .code code
  | status, _ => return status

def inheritedTraps (environment : Environment) : List (Nat × Script) :=
  environment.traps.filter fun entry => entry.2.isEmpty

def inSubshell (runner : Runner) (change : Environment → Environment) (action : Running Unit) :
    Running ExitStatus := do
  let number ← newProcess
  isolated (fun before =>
    { change before with
      process := number
      loops := 0
      traps := inheritedTraps before
      isFinal := true }) (runToEnd runner action)

def settle (status : ExitStatus) : Running Unit := do
  match status with
  | .signal number =>
      if Signal.isTold number then complain (Signal.description number).toList
  | .code _ => pure ()
  setStatus (Builtin.statusOf status)

def capture (runner : Runner) (command : Command) : Running (Script × ExitStatus) := do
  let pipe ← addPipe []
  modify fun state => { state with pipes := state.pipes.set! pipe { room := none } }
  let index ← addOpen { endpoint := .pipe pipe, writes := true }
  let status ← inSubshell runner
    (fun environment => { environment with
      channels := (1, index) :: environment.channels.filter fun entry => entry.1 ≠ 1
      tested := false })
    (runner command)
  let text := ((← get).pipes.getD pipe {}).text
  modify fun state => { state with pipes := state.pipes.set! pipe {} }
  return (text, status)

/-- The expansion of words by means of a runner. Ends of lines at the end of a command's output do
not count, and zeros are dropped. -/
def expanderOf (runner : Runner) : Expander where
  substitute := fun command => do
    let status := (← environment).status
    let (text, ended) ← capture runner command
    settle ended
    modifyEnvironment fun environment =>
      { environment with substituted := some environment.status, status := status }
    let text := text.filter (· ≠ fieldMark)
    return (text.reverse.dropWhile (· = '\n')).reverse
  process := fun _ command => do
    let (text, _) ← capture runner command
    let pipe ← addPipe text
    let index ← addOpen { endpoint := .pipe pipe, reads := true }
    let used := (← environment).channels.map (·.1)
    let channel := ((List.range 64).reverse.find? fun channel => !used.contains channel).getD 63
    connect channel index
    return "/dev/fd/".toList ++ (toString channel).toList

/-! ## Programs -/

def programEnvironment (process : Nat) (name : Script) (before : Environment) : Environment where
  bindings := before.bindings.filterMap fun (name, binding) =>
    if binding.exported then
      binding.value.map fun value => (name, { value := some value, exported := true })
    else none
  channels := before.channels
  traps := inheritedTraps before
  mask := before.mask
  process := process
  shell := process
  parent := before.process
  calledName := name

def shellOptions : Nat → List Script → Running (Bool × List Script)
  | 0, given => return (false, given)
  | _ + 1, [] => return (false, [])
  | _ + 1, ['-', '-'] :: rest => return (false, rest)
  | _ + 1, ['-'] :: rest => return (false, rest)
  | steps + 1, ('-' :: '-' :: _) :: rest => do
      if (← environment).dialect = .extended then shellOptions steps rest
      else abort "Illegal option --".toList
  | steps + 1, ('-' :: letter :: letters) :: rest => do
      let isCommand := (letter :: letters).contains 'c'
      let plain := (letter :: letters).filter fun letter => letter ≠ 'c' && letter ≠ 'l'
      let (others, rest) ← shellOptions steps (← Builtin.setCluster true plain rest)
      return (isCommand || others, rest)
  | steps + 1, ('+' :: letter :: letters) :: rest => do
      shellOptions steps (← Builtin.setCluster false (letter :: letters) rest)
  | _ + 1, given => return (false, given)

def startVariables : Running Unit := do
  let put := fun (name : String) (value : Script) (exported : Bool) =>
    modifyEnvironment fun environment =>
      let old := (environment.binding? name.toList).getD {}
      environment.bind name.toList
        { old with value := some value, exported := old.exported || exported }
  let parent := (← environment).parent
  put "IFS" [' ', '\t', '\n'] false
  put "OPTIND" ['1'] false
  put "PPID" (toString parent).toList false
  put "PS1" ['#', ' '] false
  put "PS2" ['>', ' '] false
  put "PS4" ['+', ' '] false
  put "PWD" (← Builtin.currentPath) true
  if ((← environment).binding? "PATH".toList).isNone then put "PATH" defaultSearch false

def readScript (path : Script) : Running Script := do
  match ← readFile path with
  | .ok text => return text
  | .error .isDirectory => return []
  | .error error =>
      match (← environment).dialect with
      | .plain => abort ("cannot open ".toList ++ path ++ ": ".toList ++ openingWords false error)
      | .extended =>
          complain ("bash: ".toList ++ path ++ ": ".toList ++ error.words.toList)
          throw (.exit (.code 127))

def runShell (runner : Runner) (dialect : Dialect) (words : List Script) : Running ExitStatus := do
  let name := words.headD "sh".toList
  modifyEnvironment fun environment =>
    { environment with dialect := dialect, scriptName := name }
  startVariables
  let start := fun (name : Script) (arguments : List Script) =>
    modifyEnvironment fun environment =>
      { environment with scriptName := name, arguments := arguments }
  runToEnd runner do
    let (isCommand, rest) ← shellOptions (words.length + 1) (words.drop 1)
    match isCommand, rest with
    | true, text :: rest =>
        start (rest.headD name) rest.tail
        runText runner true text
    | true, [] => abort "-c requires an argument".toList
    | false, path :: arguments =>
        if (← environment).options.has 's' then
          start name rest
          runText runner false ((← takeAllInput).toOption.getD [])
        else
          let text ← readScript path
          start path arguments
          runText runner false text
    | false, [] =>
        start name []
        modifyEnvironment fun environment =>
          { environment with options := environment.options.put 's' true }
        runText runner false ((← takeAllInput).toOption.getD [])

def outputFailure (name : String) (error : FileError) : List Script × Nat :=
  let reason := error.words.toList
  let usual := ["write error: ".toList ++ reason]
  match name with
  | "awk" | "mawk" => (["close failed on file \"/dev/stdout\" (".toList ++ reason ++ [')']], 2)
  | "cksum" | "md5sum" | "sha1sum" | "sha224sum" | "sha256sum" | "sha384sum" | "sha512sum" | "sum"
  | "wc" => (["write error".toList], 1)
  | "cmp" | "diff" => (["standard output: ".toList ++ reason], 2)
  | "dd" => (["error writing 'standard output': ".toList ++ reason], 1)
  | "env" => (usual, 125)
  | "expr" | "tty" => (usual, 3)
  | "find" => (["'standard output': ".toList ++ reason, "write error".toList], 1)
  | "egrep" | "fgrep" | "grep" | "ls" | "printenv" => (usual, 2)
  | "sed" => (["couldn't flush stdout: ".toList ++ reason], 4)
  | "sort" =>
      (["fflush failed: 'standard output': ".toList ++ reason, "write error".toList], 2)
  | "tee" => (["'standard output': ".toList ++ reason], 1)
  | "yes" => (["standard output: ".toList ++ reason], 1)
  | _ => (usual, 1)

def runUtility (name : String) (utility : Utility) (given : List Script) : Running ExitStatus := do
  match ← observing (utility given) with
  | .ok status => return .code status
  | .error (.exit status) => return status
  | .error (.failure status) => return .code status
  | .error (.outputFailed error) =>
      if error = .brokenPipe && (← environment).traps.lookup 13 ≠ some [] then return .signal 13
      let (messages, status) := outputFailure name error
      for message in messages do discard (Utility.fail name message)
      return .code status
  | .error interrupt => throw interrupt

def runJob (runner : Runner) (job : BackgroundJob Environment) : Running Unit := do
  let working := (← get).files.working
  modify fun state => { state with
    files := { state.files with working := job.working }
    jobs := state.jobs.map fun other =>
      if other.number = job.number then { other with isStarted := true } else other }
  let status ← observing (isolated (fun _ => job.environment)
    (runToEnd runner (runner job.command)))
  modify fun state => { state with files := { state.files with working := working } }
  let status ← ofExcept status
  modify fun state => { state with jobs := state.jobs.map fun other =>
    if other.number = job.number then { other with status := some (Builtin.statusOf status) }
    else other }

def runJobs (runner : Runner) : Nat → Running Unit
  | 0 => pure ()
  | rounds + 1 => do
      match (← get).jobs.find? fun job => !job.isStarted && job.status.isNone with
      | none => pure ()
      | some job =>
          runJob runner job
          runJobs runner rounds

def jobLimit : Nat := 1000

mutual

def launch (runner : Runner) : Nat → Image → Running ExitStatus
  | 0, _ => throw .exhausted
  | steps + 1, image => do
      let number ← newProcess
      if image.program = "sleep" then runJobs runner jobLimit
      isolated (programEnvironment number (image.words.headD [])) do
        match image.program with
        | "sh" => runShell runner .plain image.words
        | "dash" => runShell runner .plain image.words
        | "bash" => runShell runner .extended image.words
        | name =>
            match utility? (startWith runner .ofUtility steps) name with
            | some utility => runUtility name utility (image.words.drop 1)
            | none => return .code 127

def startWith (runner : Runner) (rules : StartRules) : Nat → Start
  | 0, _ => throw .exhausted
  | steps + 1, words => do
      let state ← get
      match rules.image state.files state.environment.searched words with
      | .error error => return .error error
      | .ok image => return .ok (← launch runner steps image)

end

def handOnLimit : Nat := 200

def start (runner : Runner) : Start :=
  startWith runner .ofShell handOnLimit

end SchemaBuild.Shell
