import SchemaBuild.Shell.Decision
import SchemaBuild.Shell.Redirection
import SchemaBuild.Shell.Regex.Matching

/-!
# What only the extended shell has

Conditions between double brackets, and builtins that the plain shell does not know.
-/

namespace SchemaBuild.Shell

/-! ## Conditions -/

def regexText (characters : List (Char × Bool)) : Script :=
  characters.flatMap fun (character, quoted) =>
    if quoted && "\\.[]()*+?\x7b\x7d|^$".toList.contains character then ['\\', character]
    else [character]

def setArray (name : Script) (values : List Script) : Running Unit :=
  let subscripts := (List.range values.length).map fun index => (toString index).toList
  modifyEnvironment fun environment => environment.bind name
    { ((environment.binding? name).getD {}) with
      value := none, elements := some (subscripts.zip values) }

def matchRegex (text : Script) (characters : List (Char × Bool)) : Running Nat := do
  match Regex.parse
      { extended := true, loneOperators := .refused, looseParentheses := true }
      (regexText characters) with
  | .error _ => return misuse
  | .ok regex =>
      let subject : Regex.Subject := { text := text.toArray }
      let name := "BASH_REMATCH".toList
      match regex.findFrom? subject 0 with
      | none =>
          setArray name []
          return 1
      | some found =>
          setArray name ((List.range (regex.groupCount + 1)).map (found.group subject))
          return 0

def isSet (text : Script) : Running Bool := do
  let name := text.takeWhile isNameRest
  let subscript := match text.drop name.length with
    | '[' :: rest => some rest.dropLast
    | _ => none
  return ((← environment).parameter? false true name subscript).isSome

def statusFor (outcome : Bool) : Nat :=
  if outcome then 0 else 1

def decideUnary (operator operand : Script) : Running Nat := do
  match operator with
  | ['-', 'v'] => return statusFor (← isSet operand)
  | ['-', 'o'] => return statusFor ((← environment).options.named.contains operand)
  | ['-', 'a'] => return statusFor (← Decision.factsAt true operand).isSome
  | operator =>
      match Decision.unary? operator with
      | some kind => return statusFor (← Decision.decideUnary kind operand)
      | none =>
          complainHere (operator ++ ": conditional binary operator expected".toList)
          return misuse

def decideCondition (expander : Expander) : Condition → Running Nat
  | .word word => do return statusFor !(← expander.text word).isEmpty
  | .unary operator word => do decideUnary operator (← expander.text word)
  | .negation condition => do
      match ← decideCondition expander condition with
      | 0 => return 1
      | 1 => return 0
      | status => return status
  | .both first second => do
      match ← decideCondition expander first with
      | 0 => decideCondition expander second
      | status => return status
  | .either first second => do
      match ← decideCondition expander first with
      | 0 => return 0
      | _ => decideCondition expander second
  | .binary operator left right => do
      let text ← expander.text left
      match String.ofList operator with
      | "=" => return statusFor ((← expander.pattern right).accepts text)
      | "==" => return statusFor ((← expander.pattern right).accepts text)
      | "!=" => return statusFor !((← expander.pattern right).accepts text)
      | "=~" =>
          matchRegex text (pieceCharacters (← wordPieces expander {} true right))
      | "<" =>
          let other ← expander.text right
          return statusFor (text < other)
      | ">" =>
          let other ← expander.text right
          return statusFor (other < text)
      | "-nt" => return statusFor (← Decision.compareFiles operator text (← expander.text right))
      | "-ot" => return statusFor (← Decision.compareFiles operator text (← expander.text right))
      | "-ef" => return statusFor (← Decision.compareFiles operator text (← expander.text right))
      | _ =>
          let first ← evaluateArithmetic text
          let second ← evaluateArithmetic (← expander.text right)
          return statusFor (Decision.compareNumbers operator first second)

/-! ## Builtins -/

namespace Builtin

def declaration (name : Script) (binding : Variable) : Script :=
  let letters := (if binding.elements.isSome then [if binding.isMap then 'A' else 'a'] else []) ++
    (if binding.isNumber then ['i'] else []) ++ (if binding.fixed then ['r'] else []) ++
    (if binding.exported then ['x'] else [])
  let marked := fun (text : Script) => '"' :: text ++ ['"']
  let value := match binding.elements, binding.value with
    | some elements, _ =>
        let shown := elements.map fun (subscript, value) =>
          '[' :: subscript ++ "]=".toList ++ marked value
        let inside := [' '].intercalate shown
        "=(".toList ++ inside ++ (if binding.isMap && !elements.isEmpty then [' '] else []) ++ [')']
    | none, some value => '=' :: marked value
    | none, none => []
  "declare -".toList ++ (if letters.isEmpty then ['-'] else letters) ++ ' ' :: name ++ value

def declareNames (given : List Script) : Running Nat := do
  let isOption := fun (word : Script) =>
    (word.head? = some '-' || word.head? = some '+') && 1 < word.length
  let letters := ((given.takeWhile isOption).filter fun word => word.head? = some '-').flatMap
    (·.drop 1)
  let names := given.dropWhile isOption
  let environment ← environment
  if letters.contains 'p' || names.isEmpty then
    let wanted := if names.isEmpty then environment.bindings.map (·.1) else names
    wanted.foldlM (fun status name => do
      match environment.binding? name with
      | some binding =>
          printLine (declaration name binding)
          return status
      | none =>
          complainHere (name ++ ": not found".toList)
          return 1) 0
  else
    for word in names do
      let (name, value) := assignmentOf word
      let isLocal := !environment.calls.isEmpty && !letters.contains 'g'
      if isLocal && !(environment.locals.any fun entry => entry.1 = name) then
        modifyEnvironment fun environment =>
          { environment.unbind name with
            locals := (name, environment.binding? name) :: environment.locals }
      let value ← match value with
        | some value => do
            if letters.contains 'i' then
              pure (some (toString (← evaluateArithmetic value)).toList)
            else if letters.contains 'u' then pure (some (value.map Char.toUpper))
            else if letters.contains 'l' then pure (some (value.map Char.toLower))
            else pure (some value)
        | none => pure none
      modifyEnvironment fun environment =>
        let old := (environment.binding? name).getD {}
        let isArray := letters.contains 'a' || letters.contains 'A'
        environment.bind name
          { old with
            value := if isArray then none else value.or old.value
            elements := if isArray then some (old.elements.getD []) else old.elements
            isMap := old.isMap || letters.contains 'A'
            isNumber := old.isNumber || letters.contains 'i'
            exported := old.exported || letters.contains 'x'
            fixed := old.fixed || letters.contains 'r' }
    return 0

def evaluateAll (given : List Script) : Running Nat := do
  let last ← given.foldlM (fun _ text => evaluateArithmetic text) 0
  return statusFor (last ≠ 0)

def setShellOptions (given : List Script) : Running Nat := do
  let names := given.filter fun word => word.head? ≠ some '-'
  let isOn := given.contains ['-', 's']
  let isOff := given.contains ['-', 'u']
  let on := (← environment).options.named
  if isOn || isOff then
    modifyEnvironment fun environment =>
      { environment with options := { environment.options with
          named := environment.options.named.filter (!names.contains ·) ++
            if isOn then names else [] } }
    return 0
  else
    unless given.contains ['-', 'q'] do
      for name in names do
        printLine (name ++ '\t' :: (if on.contains name then "on" else "off").toList)
    return statusFor (names.all on.contains)

def readLines (given : List Script) : Running Nat := do
  let (taken, names) ← options "t" "ndOsuC" given
  let name := names.headD "MAPFILE".toList
  match ← takeAllInput with
  | .error _ => return 1
  | .ok text =>
      let parts := text.splitOn '\n'
      let last := parts.getLastD []
      let ending := if taken.any (·.1 = 't') then [] else ['\n']
      let lines := (parts.dropLast.map (· ++ ending)) ++ (if last.isEmpty then [] else [last])
      setArray name lines
      return 0

end Builtin

end SchemaBuild.Shell
