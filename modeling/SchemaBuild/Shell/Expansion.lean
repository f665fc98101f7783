import SchemaBuild.Shell.Arithmetic
import SchemaBuild.Shell.Braces
import SchemaBuild.Shell.Pattern
import SchemaBuild.Shell.Signal

/-!
# Expansions

What the words of a command become before it runs: parameters, the output of commands and
arithmetic take their places, what was not quoted is split into fields, and patterns become the
names of the files that they match.
-/

namespace SchemaBuild.Shell

/-! ## Setting variables -/

def assign (name value : Script) : Running Unit := do
  let environment ← environment
  if (environment.binding? name).any (·.fixed) then
    match environment.dialect with
    | .plain => abort (name ++ ": is read only".toList)
    | .extended =>
        complainHere (name ++ ": readonly variable".toList)
        throw (.failure 1)
  modifyEnvironment fun environment =>
    let environment := environment.set name value
    if name = "OPTIND".toList then { environment with optionOffset := 0 } else environment

def assignElement (name subscript value : Script) : Running Unit :=
  modifyEnvironment fun environment =>
    let old := (environment.binding? name).getD {}
    let elements := match old.elements, old.value with
      | some elements, _ => elements
      | none, some first => [(['0'], first)]
      | none, none => []
    let others := elements.filter fun entry => entry.1 ≠ subscript
    let before := fun (left right : Script) =>
      !old.isMap && ofDigits 10 left ≤ ofDigits 10 right
    let elements := if elements.any fun entry => entry.1 = subscript then
        elements.map fun entry => if entry.1 = subscript then (subscript, value) else entry
      else
        others.takeWhile (fun entry => old.isMap || before entry.1 subscript) ++
          (subscript, value) :: others.dropWhile fun entry =>
            old.isMap || before entry.1 subscript
    environment.bind name { old with elements := some elements, value := none }

/-! ## Parameters -/

def fieldMark : Char := Char.ofNat 0

namespace Environment

def separators (environment : Environment) : Script :=
  (environment.value? "IFS".toList).getD [' ', '\t', '\n']

def joiner (environment : Environment) : Script :=
  environment.separators.take 1

def joined (environment : Environment) (full quoted : Bool) (sign : Char) (values : List Script) :
    Option Script :=
  if values.isEmpty then none
  else if full && (!quoted || sign = '@') then some ([fieldMark].intercalate values)
  else if environment.dialect = .extended && sign = '@' then some ([' '].intercalate values)
  else some (environment.joiner.intercalate values)

def kept? (environment : Environment) (name : Script) : Option Script :=
  if environment.dialect = .plain then none
  else
    match String.ofList name with
    | "FUNCNAME" => environment.calls.head?
    | "LINENO" => some (toString environment.line).toList
    | "BASH_SOURCE" => some environment.scriptName
    | "BASH_VERSION" => some "5.2.15(1)-release".toList
    | "BASH" => some "/usr/bin/bash".toList
    | "PIPESTATUS" => (environment.stageStatuses.head?).map fun status =>
        (toString status).toList
    | "SECONDS" => some ['0']
    | "UID" => some ['0']
    | "EUID" => some ['0']
    | "HOSTTYPE" => some "x86_64".toList
    | "OSTYPE" => some "linux-gnu".toList
    | _ => none

def elementsOf (environment : Environment) (name : Script) : List (Script × Script) :=
  if environment.dialect = .extended && name = "PIPESTATUS".toList then
    (List.range environment.stageStatuses.length).zip environment.stageStatuses |>.map
      fun (index, status) => ((toString index).toList, (toString status).toList)
  else if environment.dialect = .extended && name = "FUNCNAME".toList then
    (List.range environment.calls.length).zip environment.calls |>.map
      fun (index, call) => ((toString index).toList, call)
  else
    match environment.binding? name with
    | some { elements := some elements, .. } => elements
    | some { value := some value, .. } => [(['0'], value)]
    | _ => []

def parameter? (environment : Environment) (full quoted : Bool) (name : Script)
    (subscript : Option Script) : Option Script :=
  match name with
  | ['@'] => environment.joined full quoted '@' environment.arguments
  | ['*'] => environment.joined full quoted '*' environment.arguments
  | first :: _ =>
      if first.isDigit then
        match ofDigits 10 name with
        | 0 => some environment.scriptName
        | index + 1 => environment.arguments[index]?
      else if isSpecialName first then environment.special? first
      else
        match subscript with
        | some ['@'] =>
            environment.joined full quoted '@' ((environment.elementsOf name).map (·.2))
        | some ['*'] =>
            environment.joined full quoted '*' ((environment.elementsOf name).map (·.2))
        | some subscript => valueOf? subscript (environment.elementsOf name)
        | none =>
            match environment.kept? name with
            | some value => some value
            | none => environment.value? name
  | [] => none

end Environment

/-! ## Arithmetic -/

/-- The value of a text as a number. In the extended dialect the value of a variable may be an
expression again, up to some depth. -/
def numberOf (environment : Environment) : Nat → Script → Except Arithmetic.Fault Int
  | 0, text => .error (.reason ("expression recursion level exceeded: " ++ String.ofList text))
  | depth + 1, text =>
      match Arithmetic.number? text, environment.dialect with
      | some number, _ => .ok number
      | none, .plain => .error (.illegalNumber text)
      | none, .extended =>
          (Arithmetic.evaluateText .extended (fun name subscript =>
            numberOf environment depth
              ((environment.parameter? false true name
                (subscript.map fun index => (toString index).toList)).getD [])) text).map (·.1)

def evaluateArithmetic (text : Script) : Running Int := do
  let environment ← environment
  let values := fun (name : Script) (subscript : Option Int) =>
    numberOf environment 20 ((environment.parameter? false true name
      (subscript.map fun index => (toString index).toList)).getD [])
  match Arithmetic.evaluateText environment.dialect values text with
  | .ok (value, settings) =>
      for (name, subscript, value) in settings do
        match subscript with
        | none => assign name (toString value).toList
        | some index => assignElement name (toString index).toList (toString value).toList
      return value
  | .error (.illegalNumber text) => abort ("Illegal number: ".toList ++ text)
  | .error .overflow => throw (.exit (.signal Signal.brokenArithmetic))
  | .error (.reason words) =>
      match environment.dialect with
      | .plain =>
          abort ("arithmetic expression: ".toList ++ words.toList ++ ": \"".toList ++ text ++ ['"'])
      | .extended =>
          complainHere (text ++ ": ".toList ++ words.toList)
          throw (.failure 1)

/-! ## Pieces -/

inductive Piece where
  | character (character : Char) (quoted splits : Bool)
  | boundary (strict : Bool)
  | mark
  deriving DecidableEq, Repr

structure Expander where
  substitute : Command → Running Script
  process : Bool → Command → Running Script

inductive Tildes where
  | nowhere
  | atStart
  | afterColons
  deriving DecidableEq, Repr

structure Expanding where
  full : Bool := false
  splitsText : Bool := false
  tildes : Tildes := .nowhere

def valuePieces (mode : Expanding) (quoted : Bool) (text : Script) : List Piece :=
  let pieces := text.map fun character =>
    if character = fieldMark then .boundary quoted
    else .character character quoted (mode.full && !quoted)
  if quoted && text.contains fieldMark then
    -- Each of several values is a field, however empty.
    .mark :: pieces.flatMap fun
      | .boundary strict => [.boundary strict, .mark]
      | piece => [piece]
  else pieces

def textPieces (mode : Expanding) (quoted : Bool) (text : Script) : List Piece :=
  let pieces := text.map fun character =>
    Piece.character character quoted (mode.splitsText && !quoted)
  if quoted then .mark :: pieces else pieces

def piecesText (pieces : List Piece) : Script :=
  pieces.filterMap fun
    | .character character _ _ => some character
    | .boundary _ => some ' '
    | .mark => none

def pieceCharacters (pieces : List Piece) : List (Char × Bool) :=
  pieces.filterMap fun
    | .character character quoted _ => some (character, quoted)
    | _ => none

/-! ## Home directories -/

def homeOf? (environment : Environment) (name : Script) : Option Script :=
  if name.isEmpty then environment.value? "HOME".toList
  else if name = "root".toList then some "/root".toList
  else if environment.dialect = .extended && name = ['+'] then environment.value? "PWD".toList
  else if environment.dialect = .extended && name = ['-'] then environment.value? "OLDPWD".toList
  else none

/-- The pieces of text with its tildes replaced. A part of the text that is `open` goes on with what
follows in the word, so that it is no name. -/
def tildePieces (environment : Environment) (mode : Expanding) (isStart isLast : Bool)
    (text : Script) : List Piece :=
  let sections := if mode.tildes = .afterColons then text.splitOn ':' else [text]
  let last := sections.length - 1
  let pieces := ((List.range sections.length).zip sections).map fun (index, part) =>
    let name := (part.drop 1).takeWhile (· ≠ '/')
    let isOpen := index = last && !isLast && !part.contains '/'
    let home := if part.head? = some '~' && (isStart || 0 < index) && !isOpen then
        homeOf? environment name
      else none
    match home with
    | some home =>
        (home.map fun character => Piece.character character true false) ++
          textPieces mode false (part.drop (name.length + 1))
    | none => textPieces mode false part
  (textPieces mode false [':']).intercalate pieces

/-! ## Expanding -/

def mapValues (environment : Environment) (change : Script → Script) (value : Script) : Script :=
  match environment.dialect with
  | .plain => change value
  | .extended => [fieldMark].intercalate ((value.splitOn fieldMark).map change)

def changedCase (upper every : Bool) (text : Script) : Script :=
  let change := fun (character : Char) =>
    if upper then character.toUpper else character.toLower
  match text with
  | [] => []
  | first :: rest => change first :: if every then rest.map change else rest

/-- A part of a text, or of several values, by an offset and a length. An offset below zero counts
from the end, and a length below zero leaves something out there. -/
def sliceOf {α : Type} (offset : Int) (length : Option Int) (items : List α) : List α :=
  let total : Int := items.length
  let start := if offset < 0 then total + offset else offset
  if start < 0 || total < start then []
  else
    let stop := match length with
      | none => total
      | some length => if length < 0 then total + length else min total (start + length)
    (items.take stop.toNat).drop start.toNat

def requireSet (colon : Bool) (name message : Script) : Running (List Piece) := do
  let words := if message.isEmpty then
      "parameter not set".toList ++ if colon then " or null".toList else []
    else message
  match (← environment).dialect with
  | .plain => abort (name ++ ": ".toList ++ words)
  | .extended =>
      complainHere (name ++ ": ".toList ++
        if message.isEmpty then "parameter null or not set".toList else message)
      throw (.exit (.code 1))

def isMissing (colon : Bool) (value : Option Script) : Bool :=
  match value with
  | none => true
  | some value => colon && value.isEmpty

def currentValue (mode : Expanding) (quoted : Bool) (name : Script) (subscript : Option Script) :
    Running (Option Script) :=
  return (← environment).parameter? mode.full quoted name subscript

def refuseUnset (name : Script) (subscript : Option Script) : Running Unit := do
  let environment ← environment
  let isList := name = ['@'] || name = ['*'] || subscript = some ['@'] || subscript = some ['*']
  if environment.options.has 'u' && !isList then
    match environment.dialect with
    | .plain => abort (name ++ ": parameter not set".toList)
    | .extended =>
        complainHere (name ++ ": unbound variable".toList)
        throw (.exit (.code 1))

def parameterPieces (mode : Expanding) (quoted : Bool) (name : Script)
    (subscript : Option Script) : Running (List Piece) := do
  match ← currentValue mode quoted name subscript with
  | some value =>
      let pieces := valuePieces mode quoted value
      return if quoted then .mark :: pieces else pieces
  | none =>
      refuseUnset name subscript
      return valuePieces mode quoted []

def innerMode (mode : Expanding) (quoted : Bool) : Expanding where
  full := mode.full
  splitsText := mode.full && !quoted
  tildes := if quoted then .nowhere else .atStart

mutual

def partPieces (expander : Expander) (mode : Expanding) : Part → Running (List Piece)
  | .text quoted text => return textPieces mode quoted text
  | .command quoted body => return valuePieces mode quoted (← expander.substitute body)
  | .process writes body => return textPieces mode true (← expander.process writes body)
  | .arithmetic quoted expression => do
      let text := piecesText (← wordPieces expander {} true expression)
      let value ← evaluateArithmetic text
      return valuePieces mode quoted (toString value).toList
  | .parameter quoted name subscript use => do
      let subscript ← subscriptText expander name subscript
      usePieces expander mode quoted name subscript use

def wordPieces (expander : Expander) (mode : Expanding) (isStart : Bool) :
    List Part → Running (List Piece)
  | [] => return []
  | part :: parts => do
      let first ← match mode.tildes, part with
        | .nowhere, part => partPieces expander mode part
        | _, .text false text =>
            pure (tildePieces (← environment) mode isStart parts.isEmpty text)
        | _, part => partPieces expander mode part
      return first ++ (← wordPieces expander mode false parts)

def subscriptText (expander : Expander) (name : Script) :
    Option (List Part) → Running (Option Script)
  | none => return none
  | some word => do
      let text := piecesText (← wordPieces expander {} true word)
      let isMap := ((← environment).binding? name).any (·.isMap)
      if isMap || text = ['@'] || text = ['*'] then return some text
      else
        let index ← evaluateArithmetic text
        let size : Int := (((← environment).elementsOf name).getLast?.map fun entry =>
          (ofDigits 10 entry.1 : Int) + 1).getD 0
        return some (toString (if index < 0 then size + index else index)).toList

def usePieces (expander : Expander) (mode : Expanding) (quoted : Bool) (name : Script)
    (subscript : Option Script) : ParameterUse → Running (List Piece)
  | .value => parameterPieces mode quoted name subscript
  | .length => do
      let environment ← environment
      let isCount := environment.dialect = .extended &&
        (name = ['@'] || name = ['*'] || subscript = some ['@'] || subscript = some ['*'])
      let count := if isCount then
          if subscript.isSome then (environment.elementsOf name).length
          else environment.arguments.length
        else ((environment.parameter? false true name subscript).getD []).length
      if !isCount && (← currentValue mode quoted name subscript).isNone then
        refuseUnset name subscript
      return valuePieces mode quoted (toString count).toList
  | .orElse colon word => do
      if isMissing colon (← currentValue mode quoted name subscript) then
        wordPieces expander (innerMode mode quoted) true word
      else parameterPieces mode quoted name subscript
  | .ifSet colon word => do
      if isMissing colon (← currentValue mode quoted name subscript) then
        return valuePieces mode quoted []
      else wordPieces expander (innerMode mode quoted) true word
  | .orAssign colon word => do
      if isMissing colon (← currentValue mode quoted name subscript) then
        if !isName name then abort (name ++ ": bad variable name".toList)
        let text := piecesText (← wordPieces expander (innerMode {} quoted) true word)
        match subscript with
        | none => assign name text
        | some subscript => assignElement name subscript text
        return valuePieces mode quoted text
      else parameterPieces mode quoted name subscript
  | .orFail colon word => do
      if isMissing colon (← currentValue mode quoted name subscript) then
        let text := piecesText (← wordPieces expander (innerMode {} quoted) true word)
        requireSet colon name text
      else parameterPieces mode quoted name subscript
  | .trim atEnd longest word => do
      let carets := (← environment).dialect = .extended
      if (← currentValue mode quoted name subscript).isNone then
        refuseUnset name subscript
      let pieces ← wordPieces expander { tildes := .atStart } true word
      let pattern := Pattern.ofCharacters carets (pieceCharacters pieces)
      let environment ← environment
      return valuePieces mode quoted
        (mapValues environment (pattern.trim atEnd longest)
          ((← currentValue mode quoted name subscript).getD []))
  | .replace scope word replacement => do
      let pattern := Pattern.ofCharacters true
        (pieceCharacters (← wordPieces expander {} true word))
      let text := piecesText (← wordPieces expander {} true replacement)
      let change := fun (value : Script) =>
        match scope with
        | .first => pattern.replaceIn false text (value.length + 1) value
        | .every => pattern.replaceIn true text (value.length + 1) value
        | .atStart =>
            match pattern.longestStart? value with
            | some length => text ++ value.drop length
            | none => value
        | .atEnd =>
            let trimmed := pattern.trim true true value
            if trimmed.length < value.length then trimmed ++ text else value
      return valuePieces mode quoted
        (mapValues (← environment) change ((← currentValue mode quoted name subscript).getD []))
  | .slice offset length => do
      let start ← evaluateArithmetic (piecesText (← wordPieces expander {} true offset))
      let count ← lengthOf expander length
      let value := (← currentValue mode quoted name subscript).getD []
      let isMany := name = ['@'] || name = ['*'] || subscript = some ['@'] || subscript = some ['*']
      if isMany then
        let environment ← environment
        let values := if subscript.isSome then (environment.elementsOf name).map (·.2)
          else environment.scriptName :: environment.arguments
        let start := if subscript.isNone && start = 0 && count.isNone then 1 else start
        let sign := if name = ['*'] || subscript = some ['*'] then '*' else '@'
        return valuePieces mode quoted
          ((environment.joined mode.full quoted sign (sliceOf start count values)).getD [])
      else return valuePieces mode quoted (sliceOf start count value)
  | .changeCase upper every => do
      return valuePieces mode quoted
        (mapValues (← environment) (changedCase upper every)
          ((← currentValue mode quoted name subscript).getD []))
  | .indirect => do
      let environment ← environment
      match subscript with
      | some sign =>
          -- The subscripts of an array.
          let subscripts := (environment.elementsOf name).map (·.1)
          let sign := if sign = ['*'] then '*' else '@'
          return valuePieces mode quoted
            ((environment.joined mode.full quoted sign subscripts).getD [])
      | none =>
          let target := (environment.parameter? false true name none).getD []
          return valuePieces mode quoted
            ((environment.parameter? mode.full quoted target none).getD [])
  | .invalid => do
      match (← environment).dialect with
      | .plain => abort "Bad substitution".toList
      | .extended =>
          complainHere "bad substitution".toList
          throw (.failure 1)
def lengthOf (expander : Expander) : Option (List Part) → Running (Option Int)
  | none => return none
  | some word => do
      let text := piecesText (← wordPieces expander {} true word)
      return some (← evaluateArithmetic text)

end

/-! ## Fields -/

structure Splitting where
  fields : List (List (Char × Bool)) := []
  current : List (Char × Bool) := []
  begun : Bool := false
  after : Option Bool := none

namespace Splitting

def finishField (splitting : Splitting) (after : Option Bool) : Splitting :=
  { fields := splitting.current.reverse :: splitting.fields, after := after }

def blank (splitting : Splitting) : Splitting :=
  if splitting.after.isSome || !splitting.begun then splitting
  else splitting.finishField (some true)

def separator (splitting : Splitting) : Splitting :=
  if splitting.after = some true then { splitting with after := some false }
  else splitting.finishField (some false)

def step (separators : Script) (splitting : Splitting) : Piece → Splitting
  | .mark => { splitting with begun := true, after := none }
  | .boundary strict => if strict then splitting.finishField none else splitting.blank
  | .character character quoted splits =>
      if !splits || !separators.contains character then
        { splitting with
          current := (character, quoted) :: splitting.current
          begun := true
          after := none }
      else if character = ' ' || character = '\t' || character = '\n' then splitting.blank
      else splitting.separator

end Splitting

def splitFields (separators : Script) (pieces : List Piece) : List (List (Char × Bool)) :=
  let splitting := pieces.foldl (Splitting.step separators) {}
  (if splitting.begun then splitting.current.reverse :: splitting.fields
  else splitting.fields).reverse

/-! ## Names of files -/

def namesMatching (files : FileSystem) (withDots : Bool) (directory : Bytes) (pattern : Pattern) :
    List Script :=
  match files.list directory with
  | .error _ => []
  | .ok entries =>
      let names := entries.toList.map fun entry => Bytes.toLatin entry.1
      let dots := if withDots then [['.'], ['.', '.']] else []
      (dots ++ names).filter fun name =>
        (name.head? ≠ some '.' || pattern.head? = some (.exactly '.')) && pattern.accepts name

def pathsMatching (files : FileSystem) (dialect : Dialect) :
    List (List (Char × Bool)) → List Script → List Script
  | [], paths => paths
  | segment :: segments, paths =>
      let pattern := Pattern.ofCharacters (dialect = .extended) segment
      let slash := if segments.isEmpty then [] else ['/']
      pathsMatching files dialect segments
        (if pattern.isActive then
          paths.flatMap fun path =>
            let directory := Bytes.ofLatin (if path.isEmpty then ['.'] else path)
            (namesMatching files (dialect = .plain) directory pattern).map fun name =>
              path ++ name ++ slash
        else
          let text := pattern.filterMap fun
            | .exactly character => some character
            | _ => none
          paths.map fun path => path ++ text ++ slash)

def filesMatching (field : List (Char × Bool)) : Running (List Script) := do
  let state ← get
  let dialect := state.environment.dialect
  let isPattern := field.any fun character =>
    !character.2 && (character.1 = '*' || character.1 = '?' || character.1 = '[')
  if !isPattern || state.environment.options.has 'f' ||
      !(Pattern.ofCharacters (dialect = .extended) field).isActive then
    return [field.map (·.1)]
  let paths := pathsMatching state.files dialect
    (field.splitOnP fun character => character.1 = '/') [[]]
  let found := paths.filter fun path =>
    match state.files.locate false (Bytes.ofLatin path) with
    | .ok (.node _ _) => true
    | _ => false
  if !found.isEmpty then return found.mergeSort fun left right => !decide (right < left)
  else if state.environment.options.named.contains "nullglob".toList then return []
  else return [field.map (·.1)]

namespace Expander

def fields (expander : Expander) (word : Word) : Running (List Script) := do
  let words := if (← environment).dialect = .extended then Braces.expand word else [word]
  let fields ← words.mapM fun word => do
    let pieces ← wordPieces expander { full := true, tildes := .atStart } true word
    let fields := splitFields (← environment).separators pieces
    return (← fields.mapM filesMatching).flatten
  return fields.flatten

def text (expander : Expander) (word : Word) : Running Script := do
  return piecesText (← wordPieces expander { tildes := .atStart } true word)

def setting (expander : Expander) (word : Word) : Running Script := do
  return piecesText (← wordPieces expander { tildes := .afterColons } true word)

def hereText (expander : Expander) (word : Word) : Running Script := do
  return piecesText (← wordPieces expander {} true word)

def pattern (expander : Expander) (word : Word) : Running Pattern := do
  let carets := (← environment).dialect = .extended
  return Pattern.ofCharacters carets
    (pieceCharacters (← wordPieces expander { tildes := .atStart } true word))

end Expander

end SchemaBuild.Shell
