import SchemaBuild.Shell.Extended
import SchemaBuild.Shell.Launch

/-!
# Simple commands

A simple command is a list of words with settings and redirections. Its first word is the name of a
builtin, a function or a program.
-/

namespace SchemaBuild.Shell

/-! ## Names of commands -/

inductive Meaning where
  | special
  | function (body : Command)
  | builtin
  | program

def regularBuiltins (dialect : Dialect) : List String :=
  ["[", "alias", "bg", "cd", "chdir", "command", "echo", "false", "fg", "getopts", "hash", "jobs",
    "kill", "printf", "pwd", "read", "test", "true", "type", "ulimit", "umask", "unalias",
    "wait"] ++
    if dialect = .extended then
      ["builtin", "declare", "let", "local", "mapfile", "readarray", "shopt", "source", "typeset",
        "disown", "enable", "pushd", "popd", "dirs", "caller", "compgen"]
    else []

def meaningOf (environment : Environment) (withFunctions : Bool) (name : Script) : Meaning :=
  if (specialBuiltins environment.dialect).contains (String.ofList name) then .special
  else
    match if withFunctions then valueOf? name environment.functions else none with
    | some body => .function body
    | none =>
        if (regularBuiltins environment.dialect).contains (String.ofList name) then .builtin
        else .program

def takesSettings (environment : Environment) (name : Script) : Bool :=
  let names := ["alias", "export", "local", "readonly"] ++
    if environment.dialect = .extended then ["declare", "typeset"] else []
  names.contains (String.ofList name) && (valueOf? name environment.functions).isNone

def isSettingWord (word : Word) : Bool :=
  match word with
  | .text false text :: _ =>
      isName (text.takeWhile isNameRest) && (text.dropWhile isNameRest).head? = some '='
  | _ => false

def dropLookup : List Script → List Script
  | name :: rest =>
      if name = "command".toList then
        match rest with
        | ['-', '-'] :: next :: rest => dropLookup (next :: rest)
        | ['-', 'p'] :: next :: rest => dropLookup (next :: rest)
        | ('-' :: letter :: letters) :: rest => name :: ('-' :: letter :: letters) :: rest
        | next :: rest => dropLookup (next :: rest)
        | [] => [name]
      else name :: rest
  | [] => []

/-- The fields of the words of a command. After a command that makes settings, words that have the
form of settings are not split. -/
def expandWords (expander : Expander) : List Script → List Word → Running (List Script)
  | done, [] => return done
  | done, word :: words => do
      let environment ← environment
      let isSetting := match (dropLookup done).head? with
        | some name => takesSettings environment name && isSettingWord word
        | none => false
      let fields ← if isSetting then do pure [← expander.setting word] else expander.fields word
      expandWords expander (done ++ fields) words

def describe (verbose : Bool) (name : Script) : Running Nat := do
  let state ← get
  let environment := state.environment
  let tell := fun (brief long : Script) => do
    printLine (if verbose then name ++ long else brief)
    return 0
  if (reservedWords environment.dialect).contains (String.ofList name) then
    tell name " is a shell keyword".toList
  else
    match valueOf? name environment.aliases with
    | some value =>
        tell ("alias ".toList ++ name ++ '=' :: Builtin.quoted value)
          (" is an alias for ".toList ++ value)
    | none =>
        match meaningOf environment true name with
        | .special => tell name " is a special shell builtin".toList
        | .function _ => tell name " is a shell function".toList
        | .builtin => tell name " is a shell builtin".toList
        | .program =>
            let isThere := !name.contains '/' || (programAt state.files name).2
            match if isThere then findProgram state.files environment.searched name
              else .error .notFound with
            | .ok path => tell path (" is ".toList ++ path)
            | .error _ =>
                if verbose then
                  match environment.dialect with
                  | .plain => printLine (name ++ ": not found".toList)
                  | .extended => complainHere (name ++ ": not found".toList)
                return 127

def findAll (given : List Script) : Running Nat := do
  let (_, names) ← Builtin.options "rv" "" given
  names.foldlM (fun status name => do
    let state ← get
    match meaningOf state.environment true name with
    | .program =>
        match findProgram state.files state.environment.searched name with
        | .ok _ => return status
        | .error error =>
            let reason := if error = .notFound then "not found" else error.words
            complainHere (name ++ ": ".toList ++ reason.toList)
            return 1
    | _ => return status) 0

def tellKind (names : List Script) : Running Nat :=
  names.foldlM (fun status name => do
    let state ← get
    let tell := fun (word : String) => do
      printLine word.toList
      return status
    if (reservedWords state.environment.dialect).contains (String.ofList name) then tell "keyword"
    else if (valueOf? name state.environment.aliases).isSome then tell "alias"
    else
      match meaningOf state.environment true name with
      | .function _ => tell "function"
      | .program =>
          match findProgram state.files state.environment.searched name with
          | .ok _ => tell "file"
          | .error _ => return 1
      | _ => tell "builtin") 0

def leaveLocals (environment : Environment) : Environment :=
  environment.locals.foldl (fun environment (name, binding) =>
    match binding with
    | some binding => environment.bind name binding
    | none => environment.unbind name) environment

def callLimit : Nat := 1000

def callFunction (runner : Runner) (name : Script) (body : Command) (given : List Script) :
    Running Unit := do
  if callLimit ≤ (← environment).calls.length then
    match (← environment).dialect with
    | .plain =>
        abort (s!"Maximum function recursion depth ({callLimit}) reached").toList
    | .extended => throw (.exit (.signal Signal.brokenMemory))
  within
    (fun before => { before with
      arguments := given
      loops := 0
      locals := []
      returnable := before.returnable + 1
      calls := name :: before.calls })
    (fun before after => { leaveLocals after with
      returnable := before.returnable
      arguments := before.arguments
      loops := before.loops
      locals := before.locals
      calls := before.calls }) do
      match ← observing (runAs runner false body) with
      | .ok () => pure ()
      | .error .leaveFunction => pure ()
      | .error interrupt => throw interrupt

def runExternal (runner : Runner) (isFinal : Bool) (words : List Script) : Running Unit := do
  let hasPath := ((← environment).value? "PATH".toList).isSome
  match ← if hasPath || (words.headD []).contains '/' then start runner words
    else pure (.error .notFound) with
  | .ok status =>
      if isFinal && (← environment).traps.isEmpty then throw (.exit status)
      settle status
  | .error error =>
      let isMissing := [.notFound, .notDirectory, .nameTooLong, .linkLoop].contains error
      let name := words.headD []
      let isDirectory ← isDirectoryAt name
      let reason := match (← environment).dialect, error with
        | .plain, .notFound => if name.isEmpty then "Permission denied" else "not found"
        | .plain, .notDirectory => "not found"
        | .extended, .notFound =>
            if name.contains '/' then "No such file or directory" else "command not found"
        | .extended, .permission => if isDirectory then "Is a directory" else error.words
        | _, error => error.words
      complainHere (name ++ ": ".toList ++ reason.toList)
      let isSearched := (← environment).dialect = .plain && !name.contains '/'
      setStatus (if isMissing || isSearched then 127 else 126)

def waitFor (runner : Runner) (given : List Script) : Running Nat := do
  runJobs runner jobLimit
  runTraps runner
  let last := (← environment).lastJob
  given.foldlM (fun _ text => do
    let number ← match text with
      | '%' :: _ => pure (last.getD 0)
      | text => Builtin.number text
    match (← get).jobs.find? fun job => job.number = number with
    | some job => return job.status.getD 0
    | none => return 127) 0

def runFile (runner : Runner) (given : List Script) : Running Nat := do
  let state ← get
  let path := given.headD []
  if given.isEmpty then return 0
  let isText := fun (path : Script) => (programAt state.files path).1
  let found := if path.contains '/' then some path
    else
      match (searchPaths state.environment.searched path).find? isText with
      | some path => some path
      | none =>
          if state.environment.dialect = .extended && isText path then some path else none
  let isExtended := state.environment.dialect = .extended
  let isMissing := isExtended && (found.all fun path => !isText path)
  if isMissing then
    complain (state.environment.scriptName ++ ": line ".toList ++
      (toString state.environment.line).toList ++ ": ".toList ++ path ++
      ": No such file or directory".toList)
    return 1
  match found with
  | none => abort (path ++ ": not found".toList)
  | some found =>
      let text ← readScript found
      setStatus 0
      let given := given.drop 1
      let replaces := state.environment.dialect = .extended && !given.isEmpty
      within
        (fun before => { before with
          commandName := some found
          returnable := before.returnable + 1
          arguments := if replaces then given else before.arguments })
        (fun before after => { after with
          commandName := before.commandName
          returnable := before.returnable
          arguments := if replaces then before.arguments else after.arguments }) do
          match ← observing (runText runner false text) with
          | .ok () => pure ()
          | .error .leaveFunction => pure ()
          | .error interrupt => throw interrupt
      return (← environment).status

def runInstead (runner : Runner) (words : List Script) : Running Nat := do
  modifyEnvironment fun environment =>
    { environment with traps := Signal.putTrap 0 none environment.traps }
  match ← start runner words with
  | .ok status => throw (.exit status)
  | .error error =>
      let isMissing := error = .notFound || error = .notDirectory
      complainHere (words.headD [] ++ ": ".toList ++
        (if isMissing then "not found" else error.words).toList)
      throw (.exit (.code (if isMissing then 127 else 126)))

def runBuiltin (runner : Runner) (name : String) (given : List Script) : Running Nat := do
  let dialect := (← environment).dialect
  match name with
  | "eval" =>
      if given.isEmpty then return 0
      setStatus 0
      runText runner false ([' '].intercalate given)
      return (← environment).status
  | "." => runFile runner given
  | "source" => runFile runner given
  | "exec" =>
      let (_, words) ← Builtin.options "" "a" given
      if words.isEmpty then return 0 else runInstead runner words
  | ":" => return 0
  | "true" => return 0
  | "false" => return 1
  | "break" => Builtin.leave .leaveLoop given
  | "continue" => Builtin.leave .nextRound given
  | "exit" => Builtin.exit given
  | "export" => Builtin.exportNames given
  | "readonly" => Builtin.fixNames given
  | "return" => Builtin.leaveFunction given
  | "set" => Builtin.setOptions given
  | "shift" => Builtin.shift given
  | "times" => Builtin.times given
  | "trap" => Builtin.trap given
  | "unset" => Builtin.unset given
  | "[" => Decision.builtin "[" given
  | "test" => Decision.builtin "test" given
  | "alias" => Builtin.setAliases given
  | "unalias" => Builtin.removeAliases given
  | "cd" => Builtin.cd given
  | "chdir" => Builtin.cd given
  | "pwd" => Builtin.pwd given
  | "command" =>
      let (taken, names) ← Builtin.options "pvV" "" given
      if names.isEmpty then return 0
      describe (taken.any (·.1 = 'V')) (names.headD [])
  | "type" =>
      if dialect = .extended && given.head? = some ['-', 't'] then
        return ← tellKind (given.drop 1)
      given.foldlM (fun status name => do return max status (← describe true name)) 0
  | "echo" =>
      print (match dialect with
        | .plain => Format.echo given
        | .extended => Format.echoWithOptions true false given)
      return 0
  | "printf" =>
      match dialect, given with
      | .extended, ['-', 'v'] :: name :: format :: values =>
          assign name (Format.printf Format.extendedStyle format values).text
          return 0
      | .extended, given =>
          Utility.printFormat Format.extendedStyle complainHere
            (if given.head? = some ['-', '-'] then given.drop 1 else given)
      | .plain, given =>
          let (_, given) ← Builtin.options "" "" given
          Utility.printFormat Format.plainStyle complainHere given
  | "getopts" => Builtin.getopts given
  | "kill" => Builtin.kill given
  | "hash" => findAll given
  | "bg" => abort "No current job".toList
  | "fg" => abort "No current job".toList
  | "local" =>
      if dialect = .extended && given.any (fun word => word.head? = some '-') &&
          !(← environment).calls.isEmpty then
        Builtin.declareNames given
      else Builtin.declareLocal given
  | "read" => Builtin.read given
  | "umask" => Builtin.umask given
  | "ulimit" =>
      printLine "unlimited".toList
      return 0
  | "wait" => waitFor runner given
  | "declare" => Builtin.declareNames given
  | "typeset" => Builtin.declareNames given
  | "let" => Builtin.evaluateAll given
  | "shopt" => Builtin.setShellOptions given
  | "mapfile" => Builtin.readLines given
  | "readarray" => Builtin.readLines given
  | _ => return 0

def runBuiltinAs (runner : Runner) (isSpecial : Bool) (name : Script) (given : List Script) :
    Running Unit :=
  within (fun before => { before with commandName := some name })
    (fun before after => { after with commandName := before.commandName }) do
      match ← observing (runBuiltin runner (String.ofList name) given) with
      | .ok status => setStatus status
      | .error (.failure status) =>
          if isSpecial then throw (.failure status) else setStatus status
      | .error (.outputFailed .brokenPipe) => throw (.exit (.signal 13))
      | .error (.outputFailed _) =>
          complainHere (name ++ ": I/O error".toList)
          setStatus 1
      | .error interrupt => throw interrupt

def checkFailure : Running Unit := do
  let environment ← environment
  if environment.options.has 'e' && !environment.tested && environment.status ≠ 0 then
    throw (.exit (.code (environment.status % 256)))

def settingOf (expander : Expander) : Assignment → Running (List (Script × Option Script × Script))
  | .one name subscript appends value => do
      let subscript ← subscriptText expander name subscript
      let value ← expander.setting value
      let environment ← environment
      let old := if appends then (environment.parameter? false true name subscript).getD []
        else []
      return [(name, subscript, old ++ value)]
  | .many name appends values => do
      let environment ← environment
      let isMap := (environment.binding? name).any (·.isMap)
      let old := if appends then environment.elementsOf name else []
      modifyEnvironment fun environment => environment.bind name
        { ((environment.binding? name).getD {}) with elements := some old, value := none }
      let mut next := (old.getLast?.map fun entry => ofDigits 10 entry.1 + 1).getD 0
      let mut settings := []
      for (subscript, word) in values do
        match subscript with
        | some subscript =>
            let text := piecesText (← wordPieces expander {} true subscript)
            let index ← if isMap then pure text
              else do pure (toString (← evaluateArithmetic text)).toList
            settings := settings ++ [(name, some index, ← expander.setting word)]
            next := ofDigits 10 index + 1
        | none =>
            for field in ← expander.fields word do
              settings := settings ++ [(name, some (toString next).toList, field)]
              next := next + 1
      return settings

def makeSetting (setting : Script × Option Script × Script) : Running Unit := do
  match setting with
  | (name, none, value) =>
      if ((← environment).binding? name).any (·.isNumber) then
        assign name (toString (← evaluateArithmetic value)).toList
      else assign name value
  | (name, some subscript, value) => assignElement name subscript value

def traceCommand (expander : Expander) (channel : Option (Nat × OpenFile))
    (settings : List (Script × Option Script × Script)) (words : List Script) : Running Unit := do
  let environment ← environment
  if environment.options.has 'x' then
    let mark := environment.valueOrEmpty "PS4"
    let mark ← match Parser.quotedText.run { rest := mark, dialect := environment.dialect } with
      | .ok (word, _) => expander.hereText word
      | .error _ => pure mark
    let shown := fun (text : Script) =>
      let isPlain := text.all fun character =>
        character.isAlphanum || "_-./:@%+=,~^".toList.contains character
      if environment.dialect = .plain || (isPlain && !text.isEmpty) then text
      else Builtin.quoted text
    let all := (settings.map fun (name, _, value) => name ++ '=' :: shown value) ++ words.map shown
    let text := mark ++ [' '].intercalate all ++ ['\n']
    match channel with
    | some (index, file) => discard (writeTo index file text)
    | none => pure ()

def withConnections (connections : List Connection) (isSpecial : Bool) (action : Running Unit) :
    Running Unit :=
  if connections.isEmpty then action
  else
    within id (fun before after => { after with channels := before.channels }) do
      if ← makeConnections connections then action
      else
        let status := if (← environment).dialect = .extended then 1 else misuse
        if isSpecial && status = misuse then throw (.failure misuse)
        else setStatus status

def settingName : Assignment → Script
  | .one name _ _ _ => name
  | .many name _ _ => name

def makeSettings (expander : Expander) (exported : Bool) (assignments : List Assignment) :
    Running (List (Script × Option Script × Script)) := do
  let settings ← assignments.mapM fun assignment => do
    let settings ← settingOf expander assignment
    for setting in settings do
      makeSetting setting
      if exported then
        modifyEnvironment fun environment =>
          environment.bind setting.1
            { ((environment.binding? setting.1).getD {}) with exported := true }
    return settings
  return settings.flatten

def restoring (names : List Script) (action : Running Unit) : Running Unit :=
  if names.isEmpty then action
  else
    within id
      (fun before after => names.foldl (fun after name =>
        match before.binding? name with
        | some binding => after.bind name binding
        | none => after.unbind name) after)
      action

def runWords (runner : Runner) (isFinal viaLookup : Bool) (words : List Script) :
    Running Unit := do
  match words with
  | [] => pure ()
  | name :: given =>
      match meaningOf (← environment) (!viaLookup) name with
      | .special => runBuiltinAs runner (!viaLookup) name given
      | .builtin => runBuiltinAs runner false name given
      | .function body => callFunction runner name body given
      | .program => runExternal runner isFinal words

def runSimple (runner : Runner) (line : Nat) (assignments : List Assignment)
    (words : List Word) (redirects : List Redirect) : Running Unit := do
  let expander := expanderOf runner
  let isFinal := (← environment).isFinal
  modifyEnvironment fun environment =>
    { environment with line := if line = 0 then environment.line else line, substituted := none }
  let allWords ← expandWords expander [] words
  let words := dropLookup allWords
  let viaLookup := words.length < allWords.length
  let connections ← redirects.mapM (connectionOf expander)
  let environment ← environment
  let isSpecial := !viaLookup && match words with
    | [] => false
    | name :: _ => meaningOf environment true name matches .special
  let traced := (← get).openFile? 2
  -- The values of an array that is declared are set after it.
  let declares := !words.isEmpty && environment.dialect = .extended
  let (later, assignments) := assignments.partition fun assignment =>
    declares && assignment matches .many _ _ _
  -- Settings of a special command last, those of any other command only as long as it does.
  let lasts := words.isEmpty || isSpecial && environment.dialect = .plain
  let body : Running Unit := do
    let settings ← makeSettings expander (!lasts) assignments
    traceCommand expander traced settings allWords
    if words.isEmpty then setStatus ((← Shell.environment).substituted.getD 0)
    else runWords runner isFinal viaLookup words
    unless later.isEmpty do discard (makeSettings expander false later)
  let body := if lasts then body else restoring (assignments.map settingName) body
  if words = ["exec".toList] then
    unless ← makeConnections connections do throw (.failure misuse)
    body
  else withConnections connections isSpecial body
  checkFailure

end SchemaBuild.Shell
