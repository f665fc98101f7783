import SchemaBuild.Shell.Builtin.Settings

/-!
# Input and places

The builtins that read a line of input and that change the working directory.
-/

namespace SchemaBuild.Shell.Builtin

/-! ## Lines of input -/

/-- The characters of the next line, each with whether a backslash took its meaning away, how many
characters of the input it takes, and whether it has an end. In raw input backslashes mean
themselves. -/
def nextLine (raw : Bool) (ending : Char) : Script → List (Char × Bool) × Nat × Bool
  | [] => ([], 0, false)
  | '\\' :: '\n' :: rest =>
      if raw then
        if ending = '\n' then ([('\\', false)], 2, true)
        else
          let (line, count, ended) := nextLine raw ending ('\n' :: rest)
          (('\\', false) :: line, count + 1, ended)
      else
        let (line, count, ended) := nextLine raw ending rest
        (line, count + 2, ended)
  | '\\' :: character :: rest =>
      if raw then
        let (line, count, ended) := nextLine raw ending (character :: rest)
        (('\\', false) :: line, count + 1, ended)
      else
        let (line, count, ended) := nextLine raw ending rest
        ((character, true) :: line, count + 2, ended)
  | character :: rest =>
      if character = ending then ([], 1, true)
      else
        let (line, count, ended) := nextLine raw ending rest
        (if character = Char.ofNat 0 then line else (character, false) :: line, count + 1, ended)

def isSeparator (separators : Script) (character : Char × Bool) : Bool :=
  !character.2 && separators.contains character.1

def isBlankSeparator (separators : Script) (character : Char × Bool) : Bool :=
  isSeparator separators character && [' ', '\t', '\n'].contains character.1

/-- How long a line is without what is cut off at its end. What may be cut off starts at `cut`, as
soon as a separator was met; `afterBlank` tells whether the last characters were blanks that
separate, which belong to the separator behind them. Characters behind a backslash are passed
over. -/
def keptLength (separators : Script) (isMet afterBlank : Bool) (cut : Option Nat) (length : Nat) :
    List (Char × Bool) → Nat
  | [] => cut.getD length
  | character :: rest =>
      let isBlank := isBlankSeparator separators character
      let isSeparator := isSeparator separators character
      if character.2 then keptLength separators isMet false cut (length + 1) rest
      else if !isMet then
        keptLength separators isSeparator isBlank (if isSeparator then some length else none)
          (length + 1) rest
      else if isBlank then
        keptLength separators true afterBlank (cut.orElse fun _ => some length) (length + 1) rest
      else
        keptLength separators true false (if isSeparator && afterBlank then cut else none)
          (length + 1) rest

def lastField (separators : Script) (line : List (Char × Bool)) : List (Char × Bool) :=
  let line := line.dropWhile (isBlankSeparator separators)
  line.take (keptLength separators false false none 0 line)

def splitLine (separators : Script) : Nat → List (Char × Bool) → List Script
  | 0, _ => []
  | 1, line => [(lastField separators line).map (·.1)]
  | count + 2, line =>
      let line := line.dropWhile (isBlankSeparator separators)
      let field := line.takeWhile fun character => !isSeparator separators character
      let rest := (line.drop field.length).dropWhile (isBlankSeparator separators)
      let rest := match rest with
        | character :: after => if isSeparator separators character then after else rest
        | [] => []
      field.map (·.1) :: splitLine separators (count + 1) rest

def read : Builtin := fun given => do
  let isExtended := (← environment).dialect = .extended
  let (taken, names) ← if isExtended then options "rse" "pdnNtua" given else options "r" "p" given
  let raw := taken.any (·.1 = 'r')
  let value? := fun (letter : Char) => (taken.find? (·.1 = letter)).map (·.2)
  if names.isEmpty && !isExtended then abort "arg count".toList
  let ending := match value? 'd' with
    | some (character :: _) => character
    | some [] => Char.ofNat 0
    | none => '\n'
  let channel := ((value? 'u').map (ofDigits 10)).getD 0
  let limit := (value? 'n').map (ofDigits 10)
  let lineOf := fun (text : Script) =>
    match limit with
    | some limit =>
        let (line, count, ended) := nextLine raw ending (text.take limit)
        (line, count, ended || count = limit)
    | none => nextLine raw ending text
  let (line, ended) ← match ← takeFrom channel fun text => (lineOf text).2.1 with
    | .ok text =>
        let (line, _, ended) := lineOf text
        pure (line, ended)
    | .error _ => pure ([], false)
  let separators := (← environment).separators
  match value? 'a' with
  | some array =>
      let fields := splitFields separators
        (line.map fun character => .character character.1 character.2 true)
      modifyEnvironment fun environment => environment.bind array
        { elements := some (((List.range fields.length).zip fields).map fun (index, field) =>
            ((toString index).toList, field.map (·.1))) }
  | none =>
      if names.isEmpty then assign "REPLY".toList (line.map (·.1))
      else
        let values := splitLine separators names.length line
        for (name, value) in names.zip values do
          requireName name
          assign name value
  return if ended then 0 else 1

/-! ## Places -/

def currentPath : Running Script := do
  let state ← get
  let known := state.environment.valueOrEmpty "PWD"
  match known.head?, state.files.locate true (Bytes.ofLatin known) with
  | some '/', .ok (.node location (.directory _)) =>
      return if location = state.files.working then known else pathOf state.files.working
  | _, _ => return pathOf state.files.working

def normalPath (path : Script) : Script :=
  let names := (path.splitOn '/').foldl (fun names name =>
    if name.isEmpty || name = ['.'] then names
    else if name = ['.', '.'] then names.drop 1
    else name :: names) []
  if names.isEmpty then ['/'] else names.reverse.flatMap ('/' :: ·)

def enter (physical : Bool) (path : Script) : Running Bool := do
  let old ← currentPath
  let logical := normalPath (if path.head? = some '/' then path else old ++ '/' :: path)
  let target := if physical || path.isEmpty then path else logical
  let target := if target.isEmpty then ['.'] else target
  match (← get).files.locate true (Bytes.ofLatin target) with
  | .ok (.node location (.directory _)) =>
      modify fun state => { state with files := { state.files with working := location } }
      let put := fun (name : String) (value : Script) => modifyEnvironment fun environment =>
        let old := (environment.binding? name.toList).getD {}
        environment.bind name.toList { old with value := some value, exported := true }
      put "OLDPWD" old
      put "PWD" (if physical then pathOf location else logical)
      return true
  | _ => return false

def cdCandidates (environment : Environment) (path : Script) : List (Script × Bool) :=
  let isFixed := path.head? = some '/' || path = ['.'] || path = ['.', '.'] ||
    "./".toList.isPrefixOf path || "../".toList.isPrefixOf path
  let searched := environment.valueOrEmpty "CDPATH"
  if isFixed || searched.isEmpty then [(path, false)]
  else
    (searched.splitOn ':').map (fun directory =>
      if directory.isEmpty then (path, false) else (directory ++ '/' :: path, true)) ++
      [(path, false)]

def cd : Builtin := fun given => do
  let (taken, operands) ← options "LP" "" given
  let physical := (taken.getLast?.map (·.1)) = some 'P'
  let environment ← environment
  let (path, isShown) := match operands with
    | [] => (environment.valueOrEmpty "HOME", false)
    | ['-'] :: _ => (environment.valueOrEmpty "OLDPWD", true)
    | path :: _ => (path, false)
  for (candidate, isFound) in cdCandidates environment path do
    if ← enter physical candidate then
      if isShown || isFound then printLine (← currentPath)
      return 0
  match environment.dialect with
  | .plain => abort ("can't cd to ".toList ++ path)
  | .extended =>
      complainHere (path ++ ": No such file or directory".toList)
      return 1

def pwd : Builtin := fun given => do
  let (taken, _) ← options "LP" "" given
  if (taken.getLast?.map (·.1)) = some 'P' then printLine (pathOf (← get).files.working)
  else printLine (← currentPath)
  return 0

end SchemaBuild.Shell.Builtin
