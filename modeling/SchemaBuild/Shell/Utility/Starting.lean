import SchemaBuild.Shell.Builtin.Settings
import SchemaBuild.Shell.Program
import SchemaBuild.Shell.Utility.Printing

/-!
# Starting programs

Utilities that start other programs, with another environment or with arguments that they read.
-/

namespace SchemaBuild.Shell.Utility

/-! ## Environments -/

structure Surroundings where
  isEmpty : Bool := false
  removed : List Script := []
  directory : Option Script := none
  ending : Char := '\n'

def surroundings : Nat → Surroundings → List Script →
    Except Grammar.Fault (Surroundings × List Script)
  | 0, settings, words => .ok (settings, words)
  | steps + 1, settings, words =>
      match words with
      | ['-', '-'] :: rest => .ok (settings, rest)
      | ['-'] :: rest => surroundings steps { settings with isEmpty := true } rest
      | ('-' :: '-' :: option) :: rest =>
          let name := String.ofList (option.takeWhile (· ≠ '='))
          let value := (option.dropWhile (· ≠ '=')).drop 1
          match name with
          | "ignore-environment" => surroundings steps { settings with isEmpty := true } rest
          | "null" => surroundings steps { settings with ending := Char.ofNat 0 } rest
          | "unset" =>
              surroundings steps { settings with removed := settings.removed ++ [value] } rest
          | "chdir" => surroundings steps { settings with directory := some value } rest
          | "split-string" => surroundings steps settings (splitWords value ++ rest)
          | _ => .error (.unknownOption ('-' :: '-' :: option))
      | ('-' :: letter :: letters) :: rest =>
          let onward := if letters.isEmpty then rest else ('-' :: letters) :: rest
          match letter with
          | 'i' => surroundings steps { settings with isEmpty := true } onward
          | '0' => surroundings steps { settings with ending := Char.ofNat 0 } onward
          | 'v' => surroundings steps settings onward
          | letter =>
              let valued := if letters.isEmpty then rest.head?.map fun value => (value, rest.tail)
                else some (letters, rest)
              if !(['u', 'C', 'S'].contains letter) then .error (.unknownLetter letter)
              else
                match letter, valued with
                | _, none => .error (.missingLetterValue letter)
                | 'u', some (value, rest) =>
                    surroundings steps { settings with removed := settings.removed ++ [value] } rest
                | 'C', some (value, rest) =>
                    surroundings steps { settings with directory := some value } rest
                | _, some (value, rest) => surroundings steps settings (splitWords value ++ rest)
      | words => .ok (settings, words)
where
  splitWords (text : Script) : List Script :=
    (text.splitOnP isBlank).filter fun word => !word.isEmpty

def settingOf? (word : Script) : Option (Script × Script) :=
  if word.contains '=' then some (word.takeWhile (· ≠ '='), (word.dropWhile (· ≠ '=')).drop 1)
  else none

def become (name : String) (start : Start) (words : List Script) : Running Nat := do
  match ← start words with
  | .ok status => throw (.exit status)
  | .error error =>
      discard (fail name (quote (words.headD []) ++ ": ".toList ++ error.words.toList))
      return if error = .notFound then 127 else 126

def env (start : Start) : Utility := fun given => do
  match surroundings (2 * given.length + given.flatten.length + 1) {} given with
  | .error fault =>
      discard (failUsage "env" fault.words)
      return 125
  | .ok (settings, words) =>
      if settings.isEmpty then
        modifyEnvironment fun environment => { environment with bindings := [] }
      modifyEnvironment fun environment => settings.removed.foldl Environment.unbind environment
      let changes := words.takeWhile fun word => word.contains '='
      modifyEnvironment fun environment =>
        (changes.filterMap settingOf?).foldl (fun environment (name, value) =>
          environment.bind name { value := some value, exported := true }) environment
      let command := words.drop changes.length
      let isMoved ← match settings.directory with
        | none => pure true
        | some directory =>
            let state ← get
            match state.files.locate true (Bytes.ofLatin directory) with
            | .ok (.node location (.directory _)) =>
                set { state with files := { state.files with working := location } }
                pure true
            | result =>
                let error := match result with
                  | .error error => error
                  | .ok (.node _ _) => .notDirectory
                  | .ok (.vacant _ _) => .notFound
                discard (failAt "env" "cannot change directory to " directory error)
                pure false
      if !isMoved then return 125
      if command.isEmpty then
        for (name, value) in (← environment).exports do
          print (name ++ '=' :: value ++ [settings.ending])
        return 0
      become "env" start command

def printenv : Utility := fun given => do
  let environment ← environment
  if given.isEmpty then
    for (name, value) in environment.exports do printLine (name ++ '=' :: value)
    return 0
  given.foldlM (fun status name => do
    match valueOf? name environment.exports with
    | some value =>
        printLine value
        return status
    | none => return 1) 0

/-! ## Arguments from the input -/

structure Splitting where
  words : List Script := []
  lines : List (List Script) := []
  current : Option Script := none

def Splitting.endWord (splitting : Splitting) : Splitting :=
  match splitting.current with
  | some word => { splitting with words := word.reverse :: splitting.words, current := none }
  | none => splitting

def Splitting.endLine (splitting : Splitting) : Splitting :=
  let ended := splitting.endWord
  { ended with lines := ended.words.reverse :: ended.lines, words := [] }

def Splitting.add (splitting : Splitting) (text : Script) : Splitting :=
  { splitting with current := some (text.reverse ++ splitting.current.getD []) }

def splitQuoted (keepsBlanks : Bool) : Nat → Splitting → Script →
    Except Script (List (List Script))
  | 0, splitting, _ => .ok (splitting.endLine.lines.reverse)
  | _ + 1, splitting, [] => .ok (splitting.endLine.lines.reverse)
  | steps + 1, splitting, character :: rest =>
      if character = '\n' then splitQuoted keepsBlanks steps splitting.endLine rest
      else if isBlank character then
        if !keepsBlanks then splitQuoted keepsBlanks steps splitting.endWord rest
        else if splitting.current.isNone then splitQuoted keepsBlanks steps splitting rest
        else splitQuoted keepsBlanks steps (splitting.add [character]) rest
      else if character = '\'' || character = '"' then
        let inside := rest.takeWhile fun other => other ≠ character && other ≠ '\n'
        match rest.drop inside.length with
        | closing :: after =>
            if closing = character then
              splitQuoted keepsBlanks steps (splitting.add inside) after
            else .error (unmatched character)
        | [] => .error (unmatched character)
      else if character = '\\' then
        match rest with
        | next :: after => splitQuoted keepsBlanks steps (splitting.add [next]) after
        | [] => splitQuoted keepsBlanks steps splitting []
      else splitQuoted keepsBlanks steps (splitting.add [character]) rest
where
  unmatched (character : Char) : Script :=
    ("unmatched " ++ (if character = '"' then "double" else "single") ++
      " quote; by default quotes are special to xargs unless you use the -0 option").toList

def groupsOf {α : Type} (size : Nat) : Nat → List α → List (List α)
  | 0, _ => []
  | _ + 1, [] => []
  | steps + 1, items => items.take size :: groupsOf size steps (items.drop size)

def replaceMark (mark value : Script) : Nat → Script → Script
  | 0, word => word
  | _ + 1, [] => []
  | steps + 1, character :: rest =>
      if !mark.isEmpty && mark.isPrefixOf (character :: rest) then
        value ++ replaceMark mark value steps ((character :: rest).drop mark.length)
      else character :: replaceMark mark value steps rest

def dividerOf (text : Script) : Char :=
  match text with
  | ['\\', 'n'] => '\n'
  | ['\\', 't'] => '\t'
  | ['\\', '0'] => Char.ofNat 0
  | character :: _ => character
  | [] => Char.ofNat 0

def shownWords (words : List Script) : Script :=
  [' '].intercalate (words.map fun word =>
    let isPlain := word.all fun character =>
      character.isAlphanum || "_-./:@%+=,".toList.contains character
    if isPlain && !word.isEmpty then word else quote word)

def runCommands (start : Start) (shows : Bool) : Nat → List (List Script) → Running Nat
  | status, [] => return status
  | status, words :: others => do
      if shows then complain (shownWords words)
      let name := words.headD []
      let refuse := fun (text : String) (status : Nat) => do
        discard (fail "xargs" (name ++ ": ".toList ++ text.toList))
        return status
      match ← start words with
      | .ok (.code 0) => runCommands start shows status others
      | .ok (.code 255) => refuse "exited with status 255; aborting" 124
      | .ok (.code _) => runCommands start shows 123 others
      | .ok (.signal number) => refuse ("terminated by signal " ++ toString number) 125
      | .error error => refuse error.words (if error = .notFound then 127 else 126)

def xargs (start : Start) : Utility := fun given =>
  Grammar.run
    { name := "xargs", flags := "0rtxpo", valued := "nILldEsPa", inOrder := true
      long := [("null", '0'), ("no-run-if-empty", 'r'), ("verbose", 't'), ("max-args", 'n'),
        ("replace", 'I'), ("max-lines", 'L'), ("delimiter", 'd'), ("max-procs", 'P'),
        ("arg-file", 'a'), ("max-chars", 's'), ("exit", 'x')] } given fun arguments => do
      let source ← match arguments.value? 'a' with
        | some path => readFile path
        | none => takeAllInput
      match source with
      | .error error =>
          discard (fail "xargs" ("Cannot open input file ".toList ++
            quote ((arguments.value? 'a').getD []) ++ ": ".toList ++ error.words.toList))
          return 1
      | .ok text =>
          let input ← addOpen { endpoint := .device .null, reads := true }
          connect 0 input
          let command := if arguments.operands.isEmpty then ["echo".toList] else arguments.operands
          let divider := if arguments.has '0' then some (Char.ofNat 0)
            else (arguments.value? 'd').map dividerOf
          let replaced := arguments.value? 'I'
          let lines : Except Script (List (List Script)) := match divider with
            | some divider =>
                let items := text.splitOn divider
                let items := if items.getLast? = some [] then items.dropLast else items
                .ok (items.map fun item => [item])
            | none => splitQuoted replaced.isSome (text.length + 1) {} text
          match lines with
          | .error reason =>
              discard (fail "xargs" reason)
              return 1
          | .ok lines =>
              let lines := lines.filter fun line => !line.isEmpty
              let lines := match arguments.value? 'E' with
                | some mark =>
                    let items := lines.flatten.takeWhile (· ≠ mark)
                    items.map fun item => [item]
                | none => lines
              let shows := arguments.has 't'
              match replaced with
              | some mark =>
                  runCommands start shows 0 (lines.flatten.map fun item =>
                    command.map fun word => replaceMark mark item (word.length + 1) word)
              | none =>
                  let items := lines.flatten
                  if items.isEmpty && arguments.has 'r' then return 0
                  let countOf := fun (letter : Char) => (arguments.value? letter).bind number?
                  match countOf 'n', (countOf 'L').or (countOf 'l') with
                  | some 0, _ =>
                      failUsage "xargs" "value 0 for -n option should be >= 1".toList
                  | some count, _ =>
                      let groups := groupsOf count (items.length + 1) items
                      let groups := if groups.isEmpty then [[]] else groups
                      runCommands start shows 0 (groups.map (command ++ ·))
                  | none, some count =>
                      let groups := (groupsOf (max 1 count) (lines.length + 1) lines).map
                        List.flatten
                      runCommands start shows 0 (groups.map (command ++ ·))
                  | none, none => runCommands start shows 0 [command ++ items]

/-! ## Other ways of starting -/

def dropOptions (valued : List Char) : List Script → List Script
  | ['-', '-'] :: rest => rest
  | ('-' :: '-' :: _) :: rest => dropOptions valued rest
  | ['-', letter] :: value :: rest =>
      if valued.contains letter then dropOptions valued rest
      else dropOptions valued (value :: rest)
  | ('-' :: _ :: _) :: rest => dropOptions valued rest
  | words => words

def startingAs (name : String) (valued : List Char) (failure : Script → Script) (start : Start) :
    Utility := fun given => do
  let words := dropOptions valued given
  if words.isEmpty then
    discard (failUsage name "missing operand".toList)
    return 125
  match ← start words with
  | .ok status => throw (.exit status)
  | .error error =>
      discard (fail name (failure (words.headD []) ++ ": ".toList ++ error.words.toList))
      return if error = .notFound then 127 else 126

def nice (start : Start) : Utility := fun given => do
  if given.isEmpty then
    printLine ['0']
    return 0
  startingAs "nice" ['n'] quote start given

def notRun (name : Script) : Script :=
  "failed to run command ".toList ++ quote name

def nohup (start : Start) : Utility := startingAs "nohup" [] notRun start

def setsid (start : Start) : Utility :=
  startingAs "setsid" [] ("failed to execute ".toList ++ ·) start

def stdbuf (start : Start) : Utility := fun given => do
  if given.headD [] |>.head? |> (· ≠ some '-') then
    discard (failUsage "stdbuf" (if given.isEmpty then "missing operand".toList
      else "you must specify a buffering mode option".toList))
    return 125
  startingAs "stdbuf" ['o', 'i', 'e'] notRun start given

def isTooLong (time : Script) (command : List Script) : Bool :=
  let seconds := fun (text : Script) => ofDigits 10 (text.takeWhile Char.isDigit)
  match command with
  | [name, length] => name = "sleep".toList && 0 < seconds length && seconds time < seconds length
  | _ => false

def timeout (start : Start) : Utility := fun given => do
  match dropOptions ['s', 'k'] given with
  | [] =>
      pointToHelp "timeout"
      return 125
  | [_] =>
      pointToHelp "timeout"
      return 125
  | time :: command =>
      if !isDuration time then
        discard (failUsage "timeout" ("invalid time interval ".toList ++ quote time))
        return 125
      if isTooLong time command then return 124
      match ← start command with
      | .ok status => throw (.exit status)
      | .error error =>
          discard (fail "timeout" (notRun (command.headD []) ++ ": ".toList ++
            error.words.toList))
          return if error = .notFound then 127 else 126

/-! ## Finding programs -/

def which : Utility := fun given => do
  let state ← get
  let names := given.filter fun word => word.head? ≠ some '-'
  let all := given.contains ['-', 'a']
  names.foldlM (fun status name => do
    let paths := if name.contains '/' then [name]
      else searchPaths state.environment.searched name
    let found := paths.filter fun path => (programAt state.files path).2
    let found := if all then found else found.take 1
    for path in found do printLine path
    return if found.isEmpty then 1 else status) 0

end SchemaBuild.Shell.Utility
