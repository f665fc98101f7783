import SchemaBuild.Shell.Builtin

/-!
# Settings

Builtins for variables, options and aliases.
-/

namespace SchemaBuild.Shell.Builtin

/-! ## Variables -/

def requireName (name : Script) : Running Unit := do
  unless isName name do
    match (← environment).dialect with
    | .plain => abort (name ++ ": bad variable name".toList)
    | .extended =>
        complainHere ('\x60' :: name ++ "': not a valid identifier".toList)
        throw (.failure 1)

def sortedBindings (environment : Environment) : List (Script × Variable) :=
  environment.bindings.mergeSort fun left right => !decide (right.1 < left.1)

def printSettings (command : String) (isShown : Variable → Bool) : Running Unit := do
  for (name, binding) in sortedBindings (← environment) do
    if isShown binding then
      let value := match binding.value with
        | some value => '=' :: quoted value
        | none => []
      printLine (command.toList ++ name ++ value)

def declareAs (command : String) (isShown : Variable → Bool) (change : Variable → Variable) :
    Builtin := fun given => do
  let (taken, words) ← options "p" "" given
  if words.isEmpty || taken.any (·.1 = 'p') then
    printSettings (command ++ " ") isShown
    return 0
  for word in words do
    let (name, value) := assignmentOf word
    requireName name
    match value with
    | some value => assign name value
    | none => pure ()
    modifyEnvironment fun environment =>
      environment.bind name (change ((environment.binding? name).getD {}))
  return 0

def exportNames : Builtin :=
  declareAs "export" (·.exported) fun binding => { binding with exported := true }

def fixNames : Builtin :=
  declareAs "readonly" (·.fixed) fun binding => { binding with fixed := true }

/-- Set variables until the current function ends. In the plain dialect a variable keeps its value
until it is set. -/
def declareLocal : Builtin := fun given => do
  let isExtended := (← environment).dialect = .extended
  if (← environment).calls.isEmpty then
    if isExtended then
      complainHere "can only be used in a function".toList
      return 1
    abort "not in a function".toList
  for word in given do
    let (name, value) := assignmentOf word
    if name ≠ ['-'] then
      requireName name
      modifyEnvironment fun environment =>
        if environment.locals.any fun entry => entry.1 = name then environment
        else
          let outside := environment.binding? name
          let environment := { environment with locals := (name, outside) :: environment.locals }
          match environment.dialect with
          | .plain => environment
          | .extended => environment.bind name { exported := outside.any (·.exported) }
      match value with
      | some value => assign name value
      | none => pure ()
  return 0

def unset : Builtin := fun given => do
  let (taken, names) ← options "fv" "" given
  let isExtended := (← environment).dialect = .extended
  for name in names do
    let isFunction := taken.any (·.1 = 'f') ||
      isExtended && taken.isEmpty && ((← environment).binding? name).isNone
    if isFunction then
      modifyEnvironment fun environment =>
        { environment with
          functions := environment.functions.filter fun entry => entry.1 ≠ name }
    else
      if !isExtended then requireName name
      if ((← environment).binding? name).any (·.fixed) then
        abort (name ++ ": is read only".toList)
      match name.dropWhile (· ≠ '[') with
      | '[' :: rest =>
          -- One element of an array.
          let array := name.takeWhile (· ≠ '[')
          let subscript := rest.takeWhile (· ≠ ']')
          modifyEnvironment fun environment =>
            match environment.binding? array with
            | none => environment
            | some binding => environment.bind array
                { binding with elements := binding.elements.map fun elements =>
                    elements.filter fun entry => entry.1 ≠ subscript }
      | _ => modifyEnvironment fun environment => environment.unbind name
  return 0

/-! ## Options -/

def optionNames : List (String × Option Char) := [
  ("errexit", some 'e'), ("noglob", some 'f'), ("ignoreeof", some 'I'), ("interactive", some 'i'),
  ("monitor", some 'm'), ("noexec", some 'n'), ("stdin", some 's'), ("xtrace", some 'x'),
  ("verbose", some 'v'), ("vi", some 'V'), ("emacs", some 'E'), ("noclobber", some 'C'),
  ("allexport", some 'a'), ("notify", some 'b'), ("nounset", some 'u'), ("privileged", some 'p'),
  ("nolog", none), ("debug", none)]

def setOption (on : Bool) (letter : Char) : Running Unit := do
  let isKnown := optionNames.any fun entry => entry.2 = some letter
  let isExtended := (← environment).dialect = .extended
  if isKnown || isExtended && ['h', 'B', 'H', 'T', 'P', 'k', 't'].contains letter then
    modifyEnvironment fun environment =>
      { environment with options := environment.options.put letter on }
  else abort ("Illegal option -".toList ++ [letter])

def setNamedOption (on : Bool) (name : Script) : Running Unit := do
  if name = "pipefail".toList && (← environment).dialect = .extended then
    modifyEnvironment fun environment =>
      { environment with options := { environment.options with pipefail := on } }
  else
    match optionNames.find? fun entry => entry.1.toList = name with
    | some (_, some letter) => setOption on letter
    | some (_, none) => pure ()
    | none =>
        if (← environment).dialect = .extended &&
            ["posix", "braceexpand", "errtrace", "functrace", "hashall", "histexpand", "history",
              "keyword", "onecmd", "physical"].contains (String.ofList name) then pure ()
        else abort ("Illegal option -o ".toList ++ name)

def printOptions (asCommands : Bool) : Running Unit := do
  let environment ← environment
  unless asCommands do printLine "Current option settings".toList
  for (name, letter) in optionNames do
    let on := letter.any environment.options.has
    if asCommands then
      printLine ("set ".toList ++ (if on then "-o " else "+o ").toList ++ name.toList)
    else
      printLine (name.toList ++ List.replicate (16 - name.length) ' ' ++
        (if on then "on" else "off").toList)

def setCluster (on : Bool) : List Char → List Script → Running (List Script)
  | [], rest => return rest
  | 'o' :: letters, rest => do
      match rest with
      | [] =>
          printOptions (!on)
          setCluster on letters rest
      | name :: rest =>
          setNamedOption on name
          setCluster on letters rest
  | letter :: letters, rest => do
      setOption on letter
      setCluster on letters rest

/-- Take options from the front of arguments, within a number of steps. Gives the rest, and whether
it replaces the arguments of the script even if there is none. -/
def takeOptions : Nat → List Script → Running (List Script × Bool)
  | 0, given => return (given, false)
  | _ + 1, [] => return ([], false)
  | _ + 1, ['-', '-'] :: rest => return (rest, true)
  | _ + 1, ['-'] :: rest => do
      setOption false 'x'
      setOption false 'v'
      return (rest, false)
  | steps + 1, ('-' :: letters) :: rest => do takeOptions steps (← setCluster true letters rest)
  | steps + 1, ('+' :: letter :: letters) :: rest => do
      takeOptions steps (← setCluster false (letter :: letters) rest)
  | _ + 1, given => return (given, false)

def setOptions : Builtin := fun given => do
  if given.isEmpty then
    printSettings "" fun binding => binding.value.isSome
    return 0
  let (rest, replaces) ← takeOptions (given.length + 1) given
  if replaces || !rest.isEmpty then
    modifyEnvironment fun environment => { environment with arguments := rest }
  return 0

/-! ## Aliases -/

def aliasPlace (name : Script) : Nat :=
  let first := (name.head?.map Char.toNat).getD 0
  (name.foldl (fun sum letter => sum + letter.toNat) (first * 16)) % 39

def setAliases : Builtin := fun given => do
  if given.isEmpty then
    let ordered := (← environment).aliases.mergeSort fun left right =>
      aliasPlace left.1 ≤ aliasPlace right.1
    for (name, value) in ordered do
      printLine (name ++ '=' :: quoted value)
    return 0
  given.foldlM (fun status word => do
    match assignmentOf word with
    | (name, some value) =>
        modifyEnvironment fun environment =>
          { environment with
            aliases := (environment.aliases.filter fun entry => entry.1 ≠ name) ++
              [(name, value)] }
        return status
    | (name, none) =>
        match valueOf? name (← environment).aliases with
        | some value =>
            printLine (name ++ '=' :: quoted value)
            return status
        | none =>
            complain ("alias: ".toList ++ name ++ " not found".toList)
            return 1) 0

def removeAliases : Builtin := fun given => do
  let (taken, names) ← options "a" "" given
  if taken.any (·.1 = 'a') then
    modifyEnvironment fun environment => { environment with aliases := [] }
    return 0
  names.foldlM (fun status name => do
    if (valueOf? name (← environment).aliases).isSome then
      modifyEnvironment fun environment =>
        { environment with aliases := environment.aliases.filter fun entry => entry.1 ≠ name }
      return status
    else
      complain ("unalias: ".toList ++ name ++ " not found".toList)
      return 1) 0

/-! ## Permissions of new files -/

def permissionLetters (digit : Nat) : Script :=
  (if digit &&& 4 ≠ 0 then ['r'] else []) ++ (if digit &&& 2 ≠ 0 then ['w'] else []) ++
    (if digit &&& 1 ≠ 0 then ['x'] else [])

def permissionBits (letters : Script) : Nat :=
  letters.foldl (fun bits letter =>
    bits ||| match letter with
      | 'r' => 0o444
      | 'w' => 0o222
      | 'x' => 0o111
      | 's' => 0o6000
      | 't' => 0o1000
      | _ => 0) 0

def changePermissions? (mode : Script) (permissions : Nat) : Option Nat :=
  (mode.splitOn ',').foldl (fun permissions? clause => do
    let permissions ← permissions?
    let users := clause.takeWhile fun letter => ['u', 'g', 'o', 'a'].contains letter
    let mask := if users.isEmpty || users.contains 'a' then 0o7777
      else
        (if users.contains 'u' then 0o4700 else 0) |||
          (if users.contains 'g' then 0o2070 else 0) ||| (if users.contains 'o' then 0o1007 else 0)
    apply mask permissions (clause.drop users.length) (clause.length + 1)) (some permissions)
where
  apply (mask permissions : Nat) : Script → Nat → Option Nat
    | [], _ => none
    | _, 0 => none
    | operator :: rest, steps + 1 =>
        let letters := rest.takeWhile fun letter => ['r', 'w', 'x', 'X', 's', 't'].contains letter
        let copied := rest.takeWhile fun letter => ['u', 'g', 'o'].contains letter
        let spread := fun (digit : Nat) => digit * 0o111
        let bits := if letters.isEmpty && !copied.isEmpty then
            spread (match copied.headD 'u' with
              | 'u' => permissions / 64 % 8
              | 'g' => permissions / 8 % 8
              | _ => permissions % 8)
          else
            let known := letters.map fun letter => if letter = 'X' then 'x' else letter
            let isRun := permissions &&& 0o111 ≠ 0
            permissionBits (if isRun then known else letters)
        let after := rest.drop (max letters.length copied.length)
        let changed := match operator with
          | '+' => some (permissions ||| (bits &&& mask))
          | '-' => some (permissions &&& (0o7777 - (bits &&& mask)))
          | '=' => some ((permissions &&& (0o7777 - mask)) ||| (bits &&& mask))
          | _ => none
        match changed, after with
        | none, _ => none
        | some permissions, [] => some permissions
        | some permissions, after => apply mask permissions after steps

def umask : Builtin := fun given => do
  let (taken, operands) ← options "S" "" given
  let mask := (← environment).mask
  let put := fun (mask : Nat) => modifyEnvironment fun environment =>
    { environment with mask := mask % 512 }
  match operands with
  | [] =>
      if taken.any (·.1 = 'S') then
        let part := fun (user : Char) (divisor : Nat) =>
          user :: '=' :: permissionLetters (7 - mask / divisor % 8)
        printLine (part 'u' 64 ++ ',' :: part 'g' 8 ++ ',' :: part 'o' 1)
      else
        let digits := Nat.toDigits 8 mask
        printLine (List.replicate (4 - digits.length) '0' ++ digits)
      return 0
  | text :: _ =>
      if (text.head?).any Char.isDigit then
        if text.all isOctalDigit then
          put (ofDigits 8 text)
          return 0
        else abort ("Illegal number: ".toList ++ text)
      else
        match changePermissions? text (0o777 - mask) with
        | some permissions =>
            put (0o777 - permissions % 512)
            return 0
        | none => abort ("Illegal mode: ".toList ++ text)

/-! ## Options of scripts -/

structure OptionRead where
  letter : Char
  value : Option Script := none
  next : Nat
  offset : Nat := 0
  message : Option Script := none

def readOption (wanted : Script) (arguments : List Script) (next offset : Nat) :
    Option OptionRead := do
  let isSilent := wanted.head? = some ':'
  let argument ← arguments[next - 1]?
  let start := if offset = 0 then 1 else offset
  if offset = 0 && (argument.head? ≠ some '-' || argument.length < 2) then none
  else if offset = 0 && argument = ['-', '-'] then none
  else
    let letter ← argument[start]?
    let rest := argument.drop (start + 1)
    let after : Nat × Nat := if rest.isEmpty then (next + 1, 0) else (next, start + 1)
    let known := wanted.dropWhile (· ≠ letter)
    if letter = ':' || known.isEmpty then
      some ⟨'?', if isSilent then some [letter] else none, after.1, after.2,
        if isSilent then none else some ("Illegal option -".toList ++ [letter])⟩
    else if known[1]? ≠ some ':' then some ⟨letter, none, after.1, after.2, none⟩
    else if !rest.isEmpty then some ⟨letter, some rest, next + 1, 0, none⟩
    else
      match arguments[next]? with
      | some value => some ⟨letter, some value, next + 2, 0, none⟩
      | none =>
          some ⟨if isSilent then ':' else '?', if isSilent then some [letter] else none,
            next + 1, 0,
            if isSilent then none
            else some ("No arg for -".toList ++ letter :: " option".toList)⟩

def getopts : Builtin := fun given => do
  match given with
  | wanted :: name :: rest =>
      let environment ← environment
      let arguments := if rest.isEmpty then environment.arguments else rest
      let index := ofDigits 10 (environment.valueOrEmpty "OPTIND")
      let next := max index 1
      requireName name
      match readOption wanted arguments next environment.optionOffset with
      | some read =>
          match read.message with
          | some message =>
              complain (if environment.dialect = .plain then message
                else environment.scriptName ++ ": ".toList ++ message)
          | none => pure ()
          assign name [read.letter]
          match read.value with
          | some value => assign "OPTARG".toList value
          | none => modifyEnvironment fun environment => environment.unbind "OPTARG".toList
          assign "OPTIND".toList (toString read.next).toList
          modifyEnvironment fun environment => { environment with optionOffset := read.offset }
          return 0
      | none =>
          let isDivider := arguments[next - 1]? = some ['-', '-']
          assign name ['?']
          modifyEnvironment fun environment => environment.unbind "OPTARG".toList
          assign "OPTIND".toList (toString (if isDivider then next + 1 else next)).toList
          return 1
  | _ => abort "Usage: getopts optstring var [arg]".toList

end SchemaBuild.Shell.Builtin
