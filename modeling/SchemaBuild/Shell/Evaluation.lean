import SchemaBuild.Shell.Simple

/-!
# Running commands

A command runs within a number of steps. What runs parts of it takes the runner of those parts as
an argument, so that the recursion is on that number alone.
-/

namespace SchemaBuild.Shell

def runAll (runner : Runner) (isFinal : Bool) : List Command → Running Unit
  | [] => setStatus 0
  | [last] => runAs runner isFinal last
  | first :: others => do
      runAs runner false first
      runAll runner isFinal others

def holds (runner : Runner) (condition : Command) : Running Bool := do
  within (fun before => { before with tested := true })
    (fun before after => { after with tested := before.tested }) (runAs runner false condition)
  return (← environment).status = 0

/-! ## Pipelines -/

def connected (channel index : Nat) (environment : Environment) : Environment :=
  { environment with
    channels := (channel, index) :: environment.channels.filter fun entry => entry.1 ≠ channel }

def runStages (runner : Runner) : List Command → Running (List ExitStatus)
  | [] => return []
  | [last] => return [← inSubshell runner id (runner last)]
  | first :: others => do
      let pipe ← addPipe []
      let input ← addOpen { endpoint := .pipe pipe, reads := true }
      let output ← addOpen { endpoint := .pipe pipe, writes := true }
      let status ← inSubshell runner (connected 1 output) (runner first)
      let statuses ← within (connected 0 input)
        (fun before after => { after with channels := before.channels }) (runStages runner others)
      return status :: statuses

def runPipeline (runner : Runner) (stages : List Command) : Running Unit := do
  let statuses ← runStages runner stages
  for status in statuses do settle status
  let numbers := statuses.map Builtin.statusOf
  let status := numbers.getLastD 0
  let failed := (numbers.reverse.find? (· ≠ 0)).getD 0
  modifyEnvironment fun environment =>
    { environment with
      stageStatuses := numbers
      status := if environment.options.pipefail then failed else status }

def runInBackground (command : Command) : Running Unit := do
  let number ← newProcess
  let input ← addOpen { endpoint := .device .null, reads := true }
  let state ← get
  let environment := connected 0 input state.environment
  let job : BackgroundJob Environment :=
    { number := number
      command := command
      environment := { environment with
        process := number
        loops := 0
        tested := false
        traps := inheritedTraps environment
        isFinal := true }
      working := state.files.working }
  set { state with
    jobs := state.jobs ++ [job]
    environment := { state.environment with lastJob := some number, status := 0 } }

/-! ## Loops -/

def runRound (round : Running Bool) : Running Bool :=
  within (fun before => { before with loops := before.loops + 1 })
    (fun before after => { after with loops := before.loops }) do
      match ← observing round with
      | .ok goesOn => return goesOn
      | .error (.leaveLoop levels) =>
          if levels ≤ 1 then return false else throw (.leaveLoop (levels - 1))
      | .error (.nextRound levels) =>
          if levels ≤ 1 then return true else throw (.nextRound (levels - 1))
      | .error interrupt => throw interrupt

/-- Run a body as long as the condition has the wanted outcome, for a number of rounds at most. The
status is that of the last round. -/
def runLoop (runner : Runner) (wanted : Bool) (condition body : Command) :
    Nat → Nat → Running Unit
  | 0, _ => throw .exhausted
  | rounds + 1, last => do
      let goesOn ← runRound do
        if (← holds runner condition) = wanted then
          runAs runner false body
          return true
        else
          setStatus last
          return false
      if goesOn then runLoop runner wanted condition body rounds (← environment).status

def runRounds (runner : Runner) (name : Script) (body : Command) : List Script → Running Unit
  | [] => pure ()
  | value :: values => do
      assign name value
      let goesOn ← runRound do
        runAs runner false body
        return true
      if goesOn then runRounds runner name body values

def runCount (runner : Runner) (test step : Running Bool) (body : Command) : Nat → Running Unit
  | 0 => throw .exhausted
  | rounds + 1 => do
      if ← test then
        let goesOn ← runRound do
          runAs runner false body
          return true
        if goesOn then
          discard step
          runCount runner test step body rounds

/-! ## Choices -/

def anyAccepts (expander : Expander) (text : Script) : List Word → Running Bool
  | [] => return false
  | word :: words => do
      if (← expander.pattern word).accepts text then return true
      else anyAccepts expander text words

def runArms (runner : Runner) (expander : Expander) (isFinal : Bool) (text : Script) :
    Bool → List (List Word × Command × String) → Running Unit
  | _, [] => setStatus 0
  | falls, (words, body, ending) :: arms => do
      if ← if falls then pure true else anyAccepts expander text words then
        match ending with
        | ";&" =>
            runAs runner false body
            runArms runner expander isFinal text true arms
        | ";;&" =>
            runAs runner false body
            let status := (← environment).status
            let mut isMatched := false
            for (words, _, _) in arms do
              if ← anyAccepts expander text words then isMatched := true
            if isMatched then runArms runner expander isFinal text false arms
            else setStatus status
        | _ => runAs runner isFinal body
      else runArms runner expander isFinal text false arms

/-! ## All commands -/

def atLine (line : Nat) : Running Unit :=
  unless line = 0 do
    modifyEnvironment fun environment => { environment with line := line }

def isNotZero (expander : Expander) (expression : Word) : Running Bool := do
  let text ← expander.hereText expression
  if text.all isBlank then return true
  return (← evaluateArithmetic text) ≠ 0

def run : Nat → Runner
  | 0, _ => throw .exhausted
  | steps + 1, command => do
      if (← environment).options.has 'n' then return
      let runner := run steps
      let expander := expanderOf runner
      let isFinal := (← environment).isFinal
      match command with
      | .simple line assignments words redirects =>
          runSimple runner line assignments words redirects
      | .sequence commands => unless commands.isEmpty do runAll runner isFinal commands
      | .pipeline stages =>
          runPipeline runner stages
          checkFailure
      | .negate body => setStatus (if ← holds runner body then 1 else 0)
      | .andThen first second => if ← holds runner first then runAs runner isFinal second
      | .orElse first second => unless ← holds runner first do runAs runner isFinal second
      | .background body => runInBackground body
      | .subshell line body redirects =>
          atLine line
          let connections ← redirects.mapM (connectionOf expander)
          let status ← inSubshell runner id do
            if ← makeConnections connections then runAs runner true body
            else throw (.failure misuse)
          settle status
          checkFailure
      | .branch condition yes no =>
          if ← holds runner condition then runAs runner isFinal yes
          else
            match no with
            | .sequence [] => setStatus 0
            | no => runAs runner isFinal no
      | .loop wanted condition body => runLoop runner wanted condition body steps 0
      | .forEach line name words body =>
          atLine line
          let values ← match words with
            | some words => do pure (← words.mapM expander.fields).flatten
            | none => do pure (← environment).arguments
          setStatus 0
          runRounds runner name body values
      | .forCount start test step body =>
          discard (isNotZero expander start)
          setStatus 0
          runCount runner (isNotZero expander test) (isNotZero expander step) body steps
      | .choose line word arms =>
          atLine line
          runArms runner expander isFinal (← expander.text word) false arms
      | .define name body =>
          modifyEnvironment fun environment =>
            { environment with
              functions := (name, body) :: environment.functions.filter fun entry =>
                entry.1 ≠ name
              status := 0 }
      | .redirected line body redirects =>
          atLine line
          withConnections (← redirects.mapM (connectionOf expander)) false
            (runAs runner false body)
      | .condition line condition =>
          atLine line
          setStatus (← decideCondition expander condition)
          checkFailure
      | .arithmetic line expression =>
          atLine line
          setStatus (if ← isNotZero expander expression then 0 else 1)
          checkFailure
      unless (← get).signals.isEmpty do runTraps runner

end SchemaBuild.Shell
