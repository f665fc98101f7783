import SchemaBuild.Shell.Awk.Machine

/-!
# Evaluating programs for records

Expressions and statements are run within a number of steps, which bounds how deep they can be and
how often loops go round.
-/

namespace SchemaBuild.Shell.Awk

/-! ## Operations -/

def remainder (left right : Float) : Float :=
  let first := Fraction.toInt left
  let second := Fraction.toInt right
  if Fraction.ofInt first == left && Fraction.ofInt second == right && second ≠ 0 then
    Fraction.ofInt (first.tmod second)
  else
    let quotient := left / right
    left - right * (if quotient < 0 then quotient.ceil else quotient.floor)

def calculate (operator : String) (left right : Float) : Float :=
  match operator with
  | "+" => left + right
  | "-" => left - right
  | "*" => left * right
  | "/" => left / right
  | "%" => remainder left right
  | _ => left.pow right

def isOrdered (operator : String) (order : Ordering) : Bool :=
  match operator with
  | "<" => order = .lt
  | "<=" => order ≠ .gt
  | "==" => order = .eq
  | "!=" => order ≠ .eq
  | ">=" => order ≠ .lt
  | _ => order = .gt

/-- What replaces a match: an ampersand stands for it, unless an odd number of backslashes stands
before. Of the backslashes before an ampersand, half are left. -/
def replacement (found : Script) : Nat → Script → Script
  | backslashes, '\\' :: rest => replacement found (backslashes + 1) rest
  | backslashes, '&' :: rest =>
      List.replicate (backslashes / 2) '\\' ++
        (if backslashes % 2 = 1 then ['&'] else found) ++ replacement found 0 rest
  | backslashes, character :: rest =>
      List.replicate backslashes '\\' ++ character :: replacement found 0 rest
  | backslashes, [] => List.replicate backslashes '\\'

def part (text : Script) (start : Int) (length : Option Int) : Script :=
  let length := length.map fun length => if start ≤ 0 then length - start else length
  let rest := text.drop (start - 1).toNat
  match length with
  | some length => rest.take length.toNat
  | none => rest

def placeOf (wanted : Script) : Nat → Script → Nat
  | place, text =>
      if wanted.isPrefixOf text then place
      else
        match text with
        | [] => 0
        | _ :: rest => placeOf wanted (place + 1) rest

def numeric? (name : String) : Option (Float → Float) :=
  match name with
  | "sin" => some Float.sin
  | "cos" => some Float.cos
  | "exp" => some Float.exp
  | "log" => some Float.log
  | "sqrt" => some Float.sqrt
  | "int" => some fun value =>
      if value.isFinite then Fraction.ofInt (Fraction.toInt value) else value
  | _ => none

def matchIn (regex : Regex) (text : Script) : Bool :=
  regex.matchesIn { text := text.toArray }

def dynamicRegex (text : Script) : Awking Regex := do
  match Regex.parse regexStyle text with
  | .ok regex => return regex
  | .error reason =>
      throw (.fault ("regular expression compile failed (".toList ++ reason.toList ++ [')']))

def bareName? : Expression → Option Script
  | .named name => some name
  | .group inner => bareName? inner
  | _ => none

/-! ## Evaluating -/

def apply (start : Start) (name : String) (arguments : List Value) : Awking Value := do
  let text := fun (index : Nat) => textOf (arguments.getD index .unset)
  let number := fun (index : Nat) => (arguments.getD index .unset).toNumber
  match name with
  | "substr" =>
      let whole ← text 0
      let length := if arguments.length < 3 then none else some (Fraction.toInt (number 2))
      return .text (part whole (Fraction.toInt (number 1)) length)
  | "index" => return .ofNat (placeOf (← text 1) 1 (← text 0))
  | "sprintf" =>
      let format ← text 0
      match formatted (← convertFormat) (format.length + 1) 0 (arguments.drop 1) format with
      | (_, some fault) => throw (.fault (fault.words "sprintf" format))
      | (printed, none) => return .text printed
  | "tolower" => return .text ((← text 0).map Char.toLower)
  | "toupper" => return .text ((← text 0).map Char.toUpper)
  | "system" =>
      flush
      let command ← text 0
      return .ofNat (← outside (runCommand start "sh" command))
  | "close" => return .number (Fraction.ofInt (← close start (← text 0)))
  | "fflush" =>
      let name ← if arguments.isEmpty then pure outputName else text 0
      return .number (Fraction.ofInt (← flushOf name))
  | "atan2" => return .number (Float.atan2 (number 0) (number 1))
  | "srand" =>
      let before := (← get).seed
      modify fun machine =>
        { machine with seed := if arguments.isEmpty then 0 else number 0 }
      return .number before
  | "rand" =>
      let state := ((← get).random * 1103515245 + 12345) % 2147483648
      modify fun machine => { machine with random := state }
      return .number (Float.ofNat state / 2147483648)
  | name =>
      match numeric? name with
      | some function => return .number (function (number 0))
      | none => return .unset

mutual

def evaluate (start : Start) : Nat → Expression → Awking Value
  | 0, _ => throw (.fault "evaluation too deep".toList)
  | steps + 1, expression => do
      match expression with
      | .number value => return .number value
      | .text text => return .text text
      | .group inner => evaluate start steps inner
      | .regex regex => return .ofBool (matchIn regex (← get).record)
      | .named name => valueOf name
      | .element name subscripts =>
          elementValue name (← subscriptText start steps subscripts)
      | .field index => fieldAt (← fieldNumber (← evaluate start steps index))
      | .assign operator target value =>
          let value ← evaluate start steps value
          let value ← match operator with
            | none => pure value
            | some operator => do
                let old ← evaluate start steps target
                pure (.number (calculate operator old.toNumber value.toNumber))
          store start steps target value
          return value
      | .conditional condition yes no =>
          if (← evaluate start steps condition).isTrue then evaluate start steps yes
          else evaluate start steps no
      | .binary operator left right => binary start steps operator left right
      | .unary operator operand =>
          let value ← evaluate start steps operand
          match operator with
          | '!' => return .ofBool (!value.isTrue)
          | '-' => return .number (if value.toNumber == 0 then 0 else -value.toNumber)
          | _ => return .number value.toNumber
      | .step isBefore amount target =>
          let old := (← evaluate start steps target).toNumber
          store start steps target (.number (old + amount))
          return .number (if isBefore then old + amount else old)
      | .member subscripts name =>
          let subscript ← subscriptText start steps subscripts
          return .ofBool ((← elementsOf name).lookup subscript).isSome
      | .call name arguments => call start steps name arguments
      | .builtin name arguments => builtin start steps name arguments
      | .take target source => take start steps target source

def subscriptText (start : Start) : Nat → List Expression → Awking Script
  | 0, _ => throw (.fault "evaluation too deep".toList)
  | steps + 1, subscripts => do
      let texts ← texts start steps subscripts
      return (← globalText "SUBSEP").intercalate texts

def texts (start : Start) : Nat → List Expression → Awking (List Script)
  | 0, _ => throw (.fault "evaluation too deep".toList)
  | _ + 1, [] => return []
  | steps + 1, expression :: others => do
      let first ← textOf (← evaluate start steps expression)
      return first :: (← texts start steps others)

def evaluateAll (start : Start) : Nat → List Expression → Awking (List Value)
  | 0, _ => throw (.fault "evaluation too deep".toList)
  | _ + 1, [] => return []
  | steps + 1, expression :: others => do
      let first ← evaluate start steps expression
      return first :: (← evaluateAll start steps others)

def store (start : Start) : Nat → Expression → Value → Awking Unit
  | 0, _, _ => throw (.fault "evaluation too deep".toList)
  | steps + 1, target, value => do
      match target with
      | .named name => setValue name value
      | .element name subscripts =>
          setElement name (← subscriptText start steps subscripts) value
      | .field index => setField (← fieldNumber (← evaluate start steps index)) value
      | .group inner => store start steps inner value
      | _ => pure ()

def binary (start : Start) : Nat → String → Expression → Expression → Awking Value
  | 0, _, _, _ => throw (.fault "evaluation too deep".toList)
  | steps + 1, operator, left, right => do
      match operator with
      | "&&" =>
          if (← evaluate start steps left).isTrue then
            return .ofBool (← evaluate start steps right).isTrue
          return .ofBool false
      | "||" =>
          if (← evaluate start steps left).isTrue then return .ofBool true
          return .ofBool (← evaluate start steps right).isTrue
      | "~" =>
          let text ← textOf (← evaluate start steps left)
          return .ofBool (matchIn (← regexOperand start steps right) text)
      | "!~" =>
          let text ← textOf (← evaluate start steps left)
          return .ofBool !(matchIn (← regexOperand start steps right) text)
      | " " =>
          let first ← textOf (← evaluate start steps left)
          let second ← textOf (← evaluate start steps right)
          return .text (first ++ second)
      | operator =>
          let first ← evaluate start steps left
          let second ← evaluate start steps right
          if ["+", "-", "*", "/", "%", "^"].contains operator then
            return .number (calculate operator first.toNumber second.toNumber)
          return .ofBool (isOrdered operator (compareValues (← convertFormat) first second))

def regexOperand (start : Start) : Nat → Expression → Awking Regex
  | 0, _ => throw (.fault "evaluation too deep".toList)
  | steps + 1, operand => do
      match operand with
      | .regex regex => return regex
      | .group inner => regexOperand start steps inner
      | operand => dynamicRegex (← textOf (← evaluate start steps operand))

def call (start : Start) : Nat → Script → List Expression → Awking Value
  | 0, _, _ => throw (.fault "evaluation too deep".toList)
  | steps + 1, name, arguments => do
      match (← get).functions.find? fun function => function.name = name with
      | none => throw (.fault ("function ".toList ++ name ++ " never defined".toList))
      | some function =>
          let bindings ← arguments.mapM fun argument => do
            match bareName? argument with
            | none => return Binding.scalar (← evaluate start steps argument)
            | some name =>
                match ← binding name with
                | some (.scalar value) => return .scalar value
                | some (.array number) => return .array number
                | some (.open number) => return .open number
                | none =>
                    if name = "NF".toList then return .scalar (← valueOf name)
                    let number := (← get).arrays.size
                    modify fun machine => { machine with arrays := machine.arrays.push [] }
                    Awk.bind name (.open number)
                    return .open number
          let own := function.parameters.drop arguments.length
          let fresh ← own.mapM fun name => do
            let number := (← get).arrays.size
            modify fun machine => { machine with arrays := machine.arrays.push [] }
            return (name, Binding.open number)
          let before := (← get).locals
          modify fun machine =>
            { machine with locals := function.parameters.zip bindings ++ fresh }
          let result ← (do
            match ← observing (execute start steps function.body) with
            | .ok () => return Except.ok Value.unset
            | .error (.leave value) => return .ok value
            | .error jump => return .error jump : Awking (Except Jump Value))
          modify fun machine => { machine with locals := before }
          ofExcept result

def builtin (start : Start) : Nat → String → List Expression → Awking Value
  | 0, _, _ => throw (.fault "evaluation too deep".toList)
  | steps + 1, name, arguments => do
      match name, arguments with
      | "length", [] => return .ofNat (← get).record.length
      | "length", argument :: _ =>
          match bareName? argument with
          | some name =>
              match ← binding name with
              | some (.array number) => return .ofNat ((← get).arrays.getD number []).length
              | _ => return .ofNat (← textOf (← valueOf name)).length
          | none => return .ofNat (← textOf (← evaluate start steps argument)).length
      | "split", text :: target :: others =>
          let text ← textOf (← evaluate start steps text)
          let parts ← match others with
            | .regex regex :: _ =>
                pure (.ok (if text.isEmpty then [] else cutAt regex (text.length + 1) text))
            | separator :: _ => do
                pure (fieldsOf (← textOf (← evaluate start steps separator)) text)
            | [] => do pure (fieldsOf (← globalText "FS") text)
          match parts, bareName? target with
          | .ok parts, some name =>
              let numbers :=
                (List.range parts.length).map fun index => (toString (index + 1)).toList
              setElements name ((numbers.zip (parts.map Value.input)).reverse)
              return .ofNat parts.length
          | .error reason, _ => throw (.fault reason)
          | _, none => throw (.fault "split needs an array".toList)
      | "sub", pattern :: new :: target => replaceIn start steps false pattern new target.head?
      | "gsub", pattern :: new :: target => replaceIn start steps true pattern new target.head?
      | "match", text :: pattern :: _ =>
          let text ← textOf (← evaluate start steps text)
          let regex ← regexOperand start steps pattern
          match regex.findFrom? { text := text.toArray } 0 with
          | some found =>
              setGlobal "RSTART" (.ofNat (found.start + 1))
              setGlobal "RLENGTH" (.ofNat (found.stop - found.start))
              return .ofNat (found.start + 1)
          | none =>
              setGlobal "RSTART" (.number 0)
              setGlobal "RLENGTH" (.number (-1))
              return .number 0
      | name, arguments =>
          let values ← evaluateAll start steps arguments
          apply start name values

def replaceIn (start : Start) :
    Nat → Bool → Expression → Expression → Option Expression → Awking Value
  | 0, _, _, _, _ => throw (.fault "evaluation too deep".toList)
  | steps + 1, every, pattern, new, target => do
      let regex ← regexOperand start steps pattern
      let new ← textOf (← evaluate start steps new)
      let target := target.getD (.field (.number 0))
      let subject : Regex.Subject :=
        { text := (← textOf (← evaluate start steps target)).toArray }
      let (text, count) := regex.replace subject 1 every fun found =>
        replacement (subject.slice found.start found.stop) 0 new
      if 0 < count then store start steps target (.text text)
      return .ofNat count

def take (start : Start) : Nat → Option Expression → Option (Bool × Expression) → Awking Value
  | 0, _, _ => throw (.fault "evaluation too deep".toList)
  | steps + 1, target, source => do
      let keep := fun (record : Script) => do
        match target with
        | some target => store start steps target (.input record)
        | none => setRecord record
      match source with
      | none =>
          match ← nextRecord fileLimit with
          | some record =>
              keep record
              return .number 1
          | none => return .number 0
      | some (isCommand, source) =>
          let name ← textOf (← evaluate start steps source)
          match ← recordOf start isCommand name with
          | .error status => return .number (Fraction.ofInt status)
          | .ok record =>
              keep record
              return .number 1

def execute (start : Start) : Nat → Statement → Awking Unit
  | 0, _ => throw (.fault "evaluation too deep".toList)
  | steps + 1, statement => do
      match statement with
      | .expression expression => discard (evaluate start steps expression)
      | .print items target =>
          let format ← globalText "OFMT"
          let shown ← if items.isEmpty then pure [(← get).record] else do
            pure ((← evaluateAll start steps items).map (Value.toText format))
          let text := (← globalText "OFS").intercalate shown ++ (← globalText "ORS")
          emit (← direction start steps target) text
      | .format items target =>
          match ← evaluateAll start steps items with
          | [] => throw (.fault "printf without a format".toList)
          | format :: arguments =>
              let format ← textOf format
              let target ← direction start steps target
              let (printed, fault) := formatted (← convertFormat) (format.length + 1) 0 arguments
                format
              emit target printed
              match fault with
              | some fault => throw (.fault (fault.words "printf" format))
              | none => pure ()
      | .choose condition yes no =>
          if (← evaluate start steps condition).isTrue then execute start steps yes
          else
            match no with
            | some no => execute start steps no
            | none => pure ()
      | .loop condition body => loop start steps (some condition) none body
      | .loopAfter body condition =>
          if ← round start steps body then loop start steps (some condition) none body
      | .count first condition step body =>
          match first with
          | some first => execute start steps first
          | none => pure ()
          loop start steps condition step body
      | .each name array body =>
          let keys := subscripts (← elementsOf array)
          each start steps name body keys
      | .block statements => sequence start steps statements
      | .delete name [] => setElements name []
      | .delete name subscripts =>
          let subscript ← subscriptText start steps subscripts
          let elements ← elementsOf name
          setElements name (elements.filter fun entry => entry.1 ≠ subscript)
      | .next => throw .next
      | .nextFile => throw .nextFile
      | .leave none => throw (.leave .unset)
      | .leave (some value) => throw (.leave (← evaluate start steps value))
      | .finish none => throw (.finish none)
      | .finish (some status) =>
          let status := Fraction.toInt (← evaluate start steps status).toNumber
          throw (.finish (some (status % 256).toNat))
      | .leaveLoop => throw .leaveLoop
      | .nextRound => throw .nextRound

def direction (start : Start) :
    Nat → Option (Direction × Expression) → Awking (Option (Direction × Script))
  | 0, _ => return none
  | _ + 1, none => return none
  | steps + 1, some (direction, target) => do
      return some (direction, ← textOf (← evaluate start steps target))

def sequence (start : Start) : Nat → List Statement → Awking Unit
  | 0, _ => throw (.fault "evaluation too deep".toList)
  | _ + 1, [] => pure ()
  | steps + 1, statement :: others => do
      execute start steps statement
      sequence start steps others

def round (start : Start) : Nat → Statement → Awking Bool
  | 0, _ => throw (.fault "evaluation too deep".toList)
  | steps + 1, body => do
      match ← observing (execute start steps body) with
      | .ok () => return true
      | .error .nextRound => return true
      | .error .leaveLoop => return false
      | .error jump => throw jump

def loop (start : Start) :
    Nat → Option Expression → Option Statement → Statement → Awking Unit
  | 0, _, _, _ => throw (.fault "loop too long".toList)
  | steps + 1, condition, step, body => do
      let holds ← match condition with
        | some condition => do pure (← evaluate start steps condition).isTrue
        | none => pure true
      if holds then
        if ← round start steps body then
          match step with
          | some step => execute start steps step
          | none => pure ()
          loop start steps condition step body

def each (start : Start) : Nat → Script → Statement → List Script → Awking Unit
  | 0, _, _, _ => throw (.fault "loop too long".toList)
  | _ + 1, _, _, [] => pure ()
  | steps + 1, name, body, key :: keys => do
      setValue name (.text key)
      if ← round start steps body then each start steps name body keys

end

/-! ## Programs -/

def stepLimit : Nat := 1000000

def act (start : Start) (rule : Rule) : Awking Unit := do
  match rule.action with
  | some action => execute start stepLimit action
  | none => execute start stepLimit (.print [] none)

def holds (start : Start) (condition : Expression) : Awking Bool := do
  return (← evaluate start stepLimit condition).isTrue

def applyRule (start : Start) (index : Nat) (rule : Rule) : Awking Unit := do
  match rule.pattern with
  | .always => act start rule
  | .holds condition => if ← holds start condition then act start rule
  | .range first last =>
      let isActive := (← get).active.contains index
      let isActive ← if isActive then pure true else holds start first
      if isActive then
        let isLast ← holds start last
        modify fun machine =>
          let others := machine.active.filter (· ≠ index)
          { machine with active := if isLast then others else index :: others }
        act start rule
  | _ => pure ()

def applyRules (start : Start) (rules : List (Nat × Rule)) : Awking Unit := do
  let applied ← observing (rules.forM fun (index, rule) => applyRule start index rule)
  match applied with
  | .ok () => pure ()
  | .error .next => pure ()
  | .error .nextFile => modify fun machine => { machine with rest := [] }
  | .error jump => throw jump

def recordLimit : Nat := 10000000

def applyToAll (start : Start) (rules : List (Nat × Rule)) : Nat → Awking Unit
  | 0 => pure ()
  | steps + 1 => do
      match ← nextRecord fileLimit with
      | none => pure ()
      | some record =>
          setRecord record
          applyRules start rules
          applyToAll start rules steps

def actAll (start : Start) (rules : List Rule) : Awking Unit :=
  rules.forM (act start)

def run (start : Start) (program : Program) : Awking Nat := do
  let rules := (List.range program.rules.length).zip program.rules
  let isFirst := fun (rule : Rule) => rule.pattern matches .first
  let isLast := fun (rule : Rule) => rule.pattern matches .last
  let inner := rules.filter fun (_, rule) => !isFirst rule && !isLast rule
  let lasts := program.rules.filter isLast
  let main : Awking Unit := do
    actAll start (program.rules.filter isFirst)
    unless inner.isEmpty && lasts.isEmpty do applyToAll start inner recordLimit
  -- A part that is left by way of the status may set it.
  let statusAfter := fun (part : Awking Unit) (before : Nat) => do
    match ← observing part with
    | .ok () => return before
    | .error (.finish status) => return status.getD before
    | .error jump => throw jump
  let status ← statusAfter main 0
  statusAfter (actAll start lasts) status

end SchemaBuild.Shell.Awk
