import SchemaBuild.Shell.Awk.Syntax
import SchemaBuild.Shell.Format

/-!
# Reading programs for records

Tokens become trees. Newlines end statements, but may stand after some signs.
-/

namespace SchemaBuild.Shell.Awk

/-! ## Complaints -/

inductive Reason where
  | unexpected
  | rule (text : Script)
  | final (text : Script)

structure Complaint where
  left : Nat
  reason : Reason

inductive NameKind where
  | scalar
  | array
  deriving DecidableEq

structure NameUse where
  owner : Option Script
  name : Script
  kind : NameKind
  left : Nat

structure CallUse where
  name : Script
  arguments : List (Option (Option Script × Script))
  left : Nat

inductive Surroundings where
  | rule
  | edge
  | function (name : Script) (parameters : List Script)

structure Findings where
  complaints : List Complaint := []
  uses : List NameUse := []
  calls : List CallUse := []
  functions : List Script := []
  surroundings : Surroundings := .rule
  loops : Nat := 0

abbrev Reading := StateT (List Token) (ExceptT Complaint (StateM Findings))

def isFieldName (name : Script) : Bool :=
  ["NF", "FS", "RS", "CONVFMT", "OFMT"].any fun other => other.toList = name

def Token.shown : Token → Script
  | .number _ shown => shown
  | .text inside => inside
  | .regex inside => '/' :: inside ++ ['/']
  | .name shown => if isFieldName shown then ['$'] else shown
  | .sign ">>" => ['>']
  | .call shown => shown
  | .word shown => shown.toList
  | .sign shown => shown.toList
  | .newline => "end of line".toList
  | .strayEnd => "end of line".toList
  | .broken reason => reason

def refuse {α : Type} : Reading α := do
  throw ⟨(← get).length, .unexpected⟩

def complainOf (text : Script) : Reading Unit := do
  let left := (← get).length
  modifyThe Findings fun findings =>
    { findings with complaints := ⟨left, .rule text⟩ :: findings.complaints }

def Findings.owner? (findings : Findings) (name : Script) : Option Script :=
  match findings.surroundings with
  | .function function parameters => if parameters.contains name then some function else none
  | _ => none

def noteUse (name : Script) (kind : NameKind) : Reading Unit := do
  let left := (← get).length
  modifyThe Findings fun findings =>
    { findings with uses := ⟨findings.owner? name, name, kind, left⟩ :: findings.uses }

def noteFunction (name : Script) : Reading Unit :=
  modifyThe Findings fun findings => { findings with functions := name :: findings.functions }

/-- Whether a name stands for a function. One that comes right before a parenthesis does unless it
was used in another way before. -/
def namesFunction (name : Script) (isCalled : Bool) : Reading Bool := do
  let findings ← getThe Findings
  if (findings.owner? name).isSome then return false
  if findings.functions.contains name then return true
  return isCalled && !findings.uses.any fun use => use.owner.isNone && use.name = name

def inLoop {α : Type} (reading : Reading α) : Reading α := do
  modifyThe Findings fun findings => { findings with loops := findings.loops + 1 }
  let result ← reading
  modifyThe Findings fun findings => { findings with loops := findings.loops - 1 }
  return result

def sees (sign : String) : Reading Bool := do
  match ← get with
  | .sign other :: _ => return other = sign
  | _ => return false

def takes (sign : String) : Reading Bool := do
  if ← sees sign then
    modify (·.drop 1)
    return true
  return false

def expect (sign : String) : Reading Unit := do
  unless ← takes sign do refuse

def takesWord (word : String) : Reading Bool := do
  match ← get with
  | .word other :: rest =>
      if other = word then
        set rest
        return true
      return false
  | _ => return false

def skipNewlines : Reading Unit :=
  modify fun tokens => tokens.dropWhile fun
    | .newline => true
    | _ => false

def skipEnds : Reading Unit :=
  modify fun tokens => tokens.dropWhile fun
    | .newline => true
    | .sign ";" => true
    | _ => false

structure Place where
  isOutput : Bool := false
  isLoop : Bool := false

def isTarget : Expression → Bool
  | .named _ => true
  | .element _ _ => true
  | .field _ => true
  | _ => false

def startsOperand : Token → Bool
  | .number _ _ => true
  | .text _ => true
  | .regex _ => true
  | .name _ => true
  | .call _ => true
  | .word word => builtins.contains word
  | .sign sign => ["$", "!", "(", "-", "+", "++", "--"].contains sign
  | _ => false

def assignments : List (String × Option String) :=
  [("=", none), ("+=", some "+"), ("-=", some "-"), ("*=", some "*"), ("/=", some "/"),
    ("%=", some "%"), ("^=", some "^")]

def regexStyle : Regex.Style :=
  { extended := true, letters := true, setEscapes := true, looseBraces := true
    looseParentheses := true, looseHyphens := true }

def regexOf (text : Script) : Reading Regex :=
  match Regex.parse regexStyle text with
  | .ok regex => return regex
  | .error reason => do
      throw ⟨(← get).length, .final ("regular expression compile failed (".toList ++
        reason.toList ++ ")\n".toList ++ text)⟩

def argumentCounts : List (String × Nat × Nat) :=
  [("length", 0, 1), ("index", 2, 2), ("substr", 2, 3), ("sprintf", 1, 255), ("sin", 1, 1),
    ("cos", 1, 1), ("atan2", 2, 2), ("exp", 1, 1), ("log", 1, 1), ("int", 1, 1), ("sqrt", 1, 1),
    ("rand", 0, 0), ("srand", 0, 1), ("close", 1, 1), ("system", 1, 1), ("toupper", 1, 1),
    ("tolower", 1, 1), ("fflush", 0, 1)]

mutual

def expression (place : Place) : Nat → Reading Expression
  | 0 => refuse
  | steps + 1 => do
      let left ← conditional place steps
      if isTarget left then
        match ← get with
        | .sign sign :: rest =>
            match assignments.lookup sign with
            | some operator =>
                set rest
                return .assign operator left (← expression place steps)
            | none => return left
        | _ => return left
      return left

def conditional (place : Place) : Nat → Reading Expression
  | 0 => refuse
  | steps + 1 => do
      let condition ← either place steps
      if ← takes "?" then
        let yes ← expression place steps
        expect ":"
        return .conditional condition yes (← expression place steps)
      return condition

def either (place : Place) : Nat → Reading Expression
  | 0 => refuse
  | steps + 1 => do
      let left ← both place steps
      eitherMore place steps left

def eitherMore (place : Place) : Nat → Expression → Reading Expression
  | 0, _ => refuse
  | steps + 1, left => do
      if ← takes "||" then
        skipNewlines
        let right ← both place steps
        eitherMore place steps (.binary "||" left (← assigned place steps right))
      else return left

def both (place : Place) : Nat → Reading Expression
  | 0 => refuse
  | steps + 1 => do
      let left ← membership place steps
      bothMore place steps left

def bothMore (place : Place) : Nat → Expression → Reading Expression
  | 0, _ => refuse
  | steps + 1, left => do
      if ← takes "&&" then
        skipNewlines
        let right ← membership place steps
        bothMore place steps (.binary "&&" left (← assigned place steps right))
      else return left

def assigned (place : Place) : Nat → Expression → Reading Expression
  | 0, _ => refuse
  | steps + 1, left => do
      if isTarget left && (← sees "=") then
        modify (·.drop 1)
        return .assign none left (← expression place steps)
      return left

def membership (place : Place) : Nat → Reading Expression
  | 0 => refuse
  | steps + 1 => do
      let left ← matching place steps
      membershipMore place steps left

def membershipMore (place : Place) : Nat → Expression → Reading Expression
  | 0, _ => refuse
  | steps + 1, left => do
      match place.isLoop, ← get with
      | false, .word "in" :: .name name :: rest =>
          set rest
          noteUse name .array
          membershipMore place steps (.member [left] name)
      | _, _ => return left

def matching (place : Place) : Nat → Reading Expression
  | 0 => refuse
  | steps + 1 => do
      let left ← comparison place steps
      matchingMore place steps left

def matchingMore (place : Place) : Nat → Expression → Reading Expression
  | 0, _ => refuse
  | steps + 1, left => do
      if ← takes "~" then
        let right ← comparison place steps
        matchingMore place steps (.binary "~" left (← assigned place steps right))
      else if ← takes "!~" then
        let right ← comparison place steps
        matchingMore place steps (.binary "!~" left (← assigned place steps right))
      else return left

def comparison (place : Place) : Nat → Reading Expression
  | 0 => refuse
  | steps + 1 => do
      let left ← joining place steps
      comparisonMore place steps left

def comparisonMore (place : Place) : Nat → Expression → Reading Expression
  | 0, _ => refuse
  | steps + 1, left => do
      match ← get with
      | .sign sign :: rest =>
          let isOperator := ["<", "<=", "==", "!=", ">="].contains sign ||
            sign = ">" && !place.isOutput
          if isOperator then
            set rest
            let right ← joining place steps
            comparisonMore place steps (.binary sign left (← assigned place steps right))
          else return left
      | _ => return left

def joining (place : Place) : Nat → Reading Expression
  | 0 => refuse
  | steps + 1 => do
      let left ← sum place steps
      joiningMore place steps left

def joiningMore (place : Place) : Nat → Expression → Reading Expression
  | 0, _ => refuse
  | steps + 1, left => do
      match ← get with
      | token :: _ =>
          if startsOperand token then
            let right ← sum place steps
            joiningMore place steps (.binary " " left right)
          else return left
      | [] => return left

def sum (place : Place) : Nat → Reading Expression
  | 0 => refuse
  | steps + 1 => do
      let left ← product place steps
      sumMore place steps left

def sumMore (place : Place) : Nat → Expression → Reading Expression
  | 0, _ => refuse
  | steps + 1, left => do
      match ← get with
      | .sign sign :: rest =>
          if sign = "+" || sign = "-" then
            set rest
            let right ← product place steps
            sumMore place steps (.binary sign left right)
          else return left
      | _ => return left

def product (place : Place) : Nat → Reading Expression
  | 0 => refuse
  | steps + 1 => do
      let left ← signed place steps
      productMore place steps left

def productMore (place : Place) : Nat → Expression → Reading Expression
  | 0, _ => refuse
  | steps + 1, left => do
      match ← get with
      | .sign sign :: rest =>
          if sign = "*" || sign = "/" || sign = "%" then
            set rest
            let right ← signed place steps
            productMore place steps (.binary sign left right)
          else return left
      | _ => return left

def signed (place : Place) : Nat → Reading Expression
  | 0 => refuse
  | steps + 1 => do
      if ← takes "!" then return .unary '!' (← signed place steps)
      if ← takes "-" then return .unary '-' (← signed place steps)
      if ← takes "+" then return .unary '+' (← signed place steps)
      let source ← power place steps
      taking place steps source

def taking (place : Place) : Nat → Expression → Reading Expression
  | 0, _ => refuse
  | steps + 1, source => do
      match place.isOutput, ← get with
      | false, .sign "|" :: rest =>
          set rest
          unless ← takesWord "getline" do refuse
          let target ← optionalTarget steps
          taking place steps (.take target (some (true, source)))
      | _, _ => return source

def power (place : Place) : Nat → Reading Expression
  | 0 => refuse
  | steps + 1 => do
      let base ← stepped place steps
      if ← takes "^" then
        if ← takes "-" then return .binary "^" base (.unary '-' (← power place steps))
        return .binary "^" base (← power place steps)
      return base

def stepped (place : Place) : Nat → Reading Expression
  | 0 => refuse
  | steps + 1 => do
      if ← takes "++" then return .step true 1 (← primary place steps)
      if ← takes "--" then return .step true (-1) (← primary place steps)
      let target ← primary place steps
      if isTarget target then
        if ← takes "++" then return .step false 1 target
        if ← takes "--" then return .step false (-1) target
      return target

def optionalTarget : Nat → Reading (Option Expression)
  | 0 => return none
  | steps + 1 => do
      match ← get with
      | .name _ :: _ => return some (← primary {} steps)
      | .sign "$" :: _ => return some (← primary {} steps)
      | _ => return none

def listUpTo (closing : String) : Nat → Reading (List Expression)
  | 0 => refuse
  | steps + 1 => do
      let first ← expression {} steps
      if ← takes "," then
        skipNewlines
        return first :: (← listUpTo closing steps)
      expect closing
      return [first]

def arguments : Nat → Reading (List Expression)
  | 0 => refuse
  | steps + 1 => do
      if ← takes ")" then return []
      listUpTo ")" steps

def callArguments : Nat → Reading (List Expression)
  | 0 => refuse
  | steps + 1 => do
      if ← takes ")" then return []
      let first ← expression {} steps
      match first with
      | .named name =>
          unless isFieldName name do
            modifyThe Findings fun findings => { findings with uses := findings.uses.drop 1 }
      | _ => pure ()
      if ← takes "," then
        skipNewlines
        if ← sees ")" then refuse
        return first :: (← callArguments steps)
      expect ")"
      return [first]

def fixedArguments (least most : Nat) : Nat → Reading (List Expression)
  | 0 => refuse
  | steps + 1 => do
      let first ← expression {} steps
      if 1 < least then
        expect ","
        skipNewlines
        return first :: (← fixedArguments (least - 1) (most - 1) steps)
      if 1 < most then
        if ← takes "," then
          skipNewlines
          return first :: (← fixedArguments 1 (most - 1) steps)
      expect ")"
      return [first]

def splitArguments : Nat → Reading (List Expression)
  | 0 => refuse
  | steps + 1 => do
      let first ← expression {} steps
      expect ","
      skipNewlines
      match ← get with
      | .name name :: rest =>
          set rest
          noteUse name .array
          if ← takes "," then
            skipNewlines
            let separator ← expression {} steps
            expect ")"
            return [first, .named name, separator]
          expect ")"
          return [first, .named name]
      | _ => refuse

def primary (place : Place) : Nat → Reading Expression
  | 0 => refuse
  | steps + 1 => do
      match ← get with
      | .number value _ :: rest =>
          set rest
          return .number value
      | .text text :: rest =>
          set rest
          return .text text
      | .regex text :: rest =>
          set rest
          return .regex (← regexOf text)
      | .sign "$" :: rest =>
          set rest
          match rest with
          | .name name :: .sign sign :: rest =>
              if isFieldName name && (sign = "++" || sign = "--") then
                set rest
                return .field (.step false (if sign = "++" then 1 else -1) (.named name))
          | _ => pure ()
          if ← takes "++" then return .field (.step true 1 (← primary place steps))
          if ← takes "--" then return .field (.step true (-1) (← primary place steps))
          if ← takes "-" then return .field (.unary '-' (← primary place steps))
          return .field (← primary place steps)
      | .sign "(" :: rest =>
          set rest
          let inner ← listUpTo ")" steps
          match inner, ← get with
          | [inner], _ => return .group inner
          | first :: others, .word "in" :: .name name :: rest =>
              set rest
              noteUse name .array
              return .member (first :: others) name
          | _, _ => refuse
      | .call name :: rest =>
          set rest
          named name true steps
      | .name name :: rest =>
          set rest
          named name false steps
      | .word "getline" :: rest =>
          set rest
          let target ← optionalTarget steps
          if ← takes "<" then
            let source ← power place steps
            return .take target (some (false, source))
          return .take target none
      | .word word :: rest =>
          if !builtins.contains word then refuse
          set rest
          if ← takes "(" then
            match word with
            | "split" => return .builtin word (← splitArguments steps)
            | "match" => return .builtin word (← fixedArguments 2 2 steps)
            | "sub" => return .builtin word (← fixedArguments 2 3 steps)
            | "gsub" => return .builtin word (← fixedArguments 2 3 steps)
            | word =>
                let arguments ← if word = "length" then callArguments steps else arguments steps
                match argumentCounts.lookup word with
                | some (least, most) =>
                    unless least ≤ arguments.length && arguments.length ≤ most do
                      complainOf ("wrong number of arguments in call to ".toList ++ word.toList)
                | none => pure ()
                return .builtin word arguments
          if word = "length" then return .builtin word []
          refuse
      | .sign "-" :: rest =>
          set rest
          return .unary '-' (← primary place steps)
      | .sign "!" :: rest =>
          set rest
          return .unary '!' (← primary place steps)
      | _ => refuse

def named (name : Script) (isCalled : Bool) : Nat → Reading Expression
  | 0 => refuse
  | steps + 1 => do
      if isFieldName name then return .named name
      if ← namesFunction name isCalled then
        noteFunction name
        expect "("
        let arguments ← callArguments steps
        let left := (← get).length
        modifyThe Findings fun findings =>
          let given := arguments.map fun argument => match argument with
            | .named name => some (findings.owner? name, name)
            | _ => none
          { findings with calls := ⟨name, given, left⟩ :: findings.calls }
        return .call name arguments
      if ← takes "[" then
        noteUse name .array
        return .element name (← listUpTo "]" steps)
      noteUse name .scalar
      return .named name

end

/-! ## Statements -/

def afterClosing : Nat → List Token → List Token
  | _, [] => []
  | depth, .sign "(" :: rest => afterClosing (depth + 1) rest
  | depth, .sign ")" :: rest => if depth ≤ 1 then rest else afterClosing (depth - 1) rest
  | depth, _ :: rest => afterClosing depth rest

def endsValues : List Token → Bool
  | [] => true
  | .newline :: _ => true
  | .sign sign :: _ => [";", "\x7d", ">", ">>", "|"].contains sign
  | _ => false

def values (place : Place) : Nat → Reading (List Expression)
  | 0 => refuse
  | steps + 1 => do
      let first ← expression place (8 * (← get).length + 40)
      if ← takes "," then
        skipNewlines
        return first :: (← values place steps)
      return [first]

def bound : Reading Nat :=
  return 20 * (← get).length + 60

def printed : Reading (List Expression × Option (Direction × Expression)) := do
  let tokens ← get
  let items ← match tokens with
    | .sign "(" :: rest =>
        if endsValues (afterClosing 1 rest) then do
          set rest
          arguments (← bound)
        else values { isOutput := true } (← bound)
    | tokens => if endsValues tokens then pure [] else values { isOutput := true } (← bound)
  let toward := fun (direction : Direction) => do
    let target ← expression {} (← bound)
    return (items, some (direction, target))
  if ← takes ">" then toward .file
  else if ← takes ">>" then toward .fileEnd
  else if ← takes "|" then toward .command
  else return (items, none)

def statementEnd : Reading Unit := do
  match ← get with
  | [] => pure ()
  | .newline :: _ => skipEnds
  | .sign ";" :: _ => skipEnds
  | .sign "\x7d" :: _ => pure ()
  | _ => refuse

def optionalExpression : Reading (Option Expression) := do
  if endsValues (← get) then return none
  return some (← expression {} (← bound))

def takeName : Reading Script := do
  match ← get with
  | .name name :: rest =>
      if isFieldName name || (← namesFunction name false) then refuse
      set rest
      return name
  | _ => refuse

def simpleStatement : Reading Statement := do
  match ← get with
  | .word "print" :: rest =>
      set rest
      let (items, target) ← printed
      return .print items target
  | .word "printf" :: rest =>
      set rest
      let (items, target) ← printed
      if items.isEmpty then complainOf "no arguments in call to printf".toList
      return .format items target
  | .word "delete" :: rest =>
      set rest
      let name ← takeName
      noteUse name .array
      if ← takes "[" then return .delete name (← listUpTo "]" (← bound))
      return .delete name []
  | .word "next" :: rest =>
      set rest
      unless (← getThe Findings).surroundings matches .rule do
        complainOf "improper use of next".toList
      return .next
  | .word "nextfile" :: rest =>
      set rest
      unless (← getThe Findings).surroundings matches .rule do
        complainOf "improper use of nextfile".toList
      return .nextFile
  | .word "break" :: rest =>
      set rest
      if (← getThe Findings).loops = 0 then
        complainOf "break statement outside of loop".toList
      return .leaveLoop
  | .word "continue" :: rest =>
      set rest
      if (← getThe Findings).loops = 0 then
        complainOf "continue statement outside of loop".toList
      return .nextRound
  | .word "exit" :: rest =>
      set rest
      return .finish (← optionalExpression)
  | .word "return" :: rest =>
      set rest
      unless (← getThe Findings).surroundings matches .function _ _ do
        complainOf "return outside function body".toList
      return .leave (← optionalExpression)
  | _ => return .expression (← expression {} (← bound))

def afterStatement : List Token → List Token
  | [] => []
  | .newline :: rest => rest
  | .strayEnd :: rest => rest
  | .sign ";" :: rest => rest
  | .sign "\x7d" :: rest => .sign "\x7d" :: rest
  | _ :: rest => afterStatement rest

def Complaint.isLast (complaint : Complaint) (tokens : List Token) : Bool :=
  match complaint.reason, tokens with
  | .final _, _ => true
  | _, [] => true
  | _, .broken _ :: _ => true
  | _, _ => false

def recovering (body : Reading Statement) : Reading Statement := do
  let before ← get
  let loops := (← getThe Findings).loops
  tryCatch body fun complaint => do
    let found := before.drop (before.length - complaint.left)
    if complaint.isLast found then throw complaint
    modifyThe Findings fun findings =>
      { findings with complaints := complaint :: findings.complaints, loops }
    set (afterStatement found)
    return .block []

mutual

def statement : Nat → Reading Statement
  | 0 => refuse
  | steps + 1 => recovering (statementBody steps)

def statementBody : Nat → Reading Statement
  | 0 => refuse
  | steps + 1 => do
      match ← get with
      | .sign "\x7b" :: rest =>
          set rest
          let body ← statements steps
          skipEnds
          return .block body
      -- The end of a block is also the end of an empty statement.
      | .sign "\x7d" :: _ => return .block []
      | .sign ";" :: rest =>
          set rest
          skipNewlines
          return .block []
      | .word "if" :: rest =>
          set rest
          expect "("
          let condition ← expression {} (← bound)
          expect ")"
          skipNewlines
          let yes ← statement steps
          let before ← get
          skipEnds
          if ← takesWord "else" then
            skipNewlines
            return .choose condition yes (some (← statement steps))
          set before
          return .choose condition yes none
      | .word "while" :: rest =>
          set rest
          expect "("
          let condition ← expression {} (← bound)
          expect ")"
          if ← takes ";" then
            skipEnds
            return .loop condition (.block [])
          skipNewlines
          return .loop condition (← inLoop (statement steps))
      | .word "do" :: rest =>
          set rest
          skipNewlines
          let body ← inLoop (statement steps)
          skipEnds
          unless ← takesWord "while" do refuse
          expect "("
          let condition ← expression {} (← bound)
          expect ")"
          statementEnd
          return .loopAfter body condition
      | .word "for" :: rest =>
          set rest
          expect "("
          match ← get with
          | .name name :: .word "in" :: .name array :: .sign ")" :: rest =>
              set rest
              noteUse name .scalar
              noteUse array .array
              skipNewlines
              return .each name array (← inLoop (statement steps))
          | .name _ :: .word "in" :: .sign sign :: rest =>
              set (Token.sign sign :: rest)
              refuse
          | _ =>
              let start ← if ← sees ";" then pure none else some <$> simpleStatement
              expect ";"
              skipNewlines
              let condition ← if ← sees ";" then pure none
                else some <$> expression {} (← bound)
              expect ";"
              skipNewlines
              let step ← if ← sees ")" then pure none else some <$> simpleStatement
              expect ")"
              if ← takes ";" then
                skipEnds
                return .count start condition step (.block [])
              skipNewlines
              return .count start condition step (← inLoop (statement steps))
      | _ =>
          let statement ← simpleStatement
          statementEnd
          return statement

def statements : Nat → Reading (List Statement)
  | 0 => refuse
  | steps + 1 => do
      skipEnds
      if ← takes "\x7d" then return []
      if (← get).isEmpty then refuse
      let first ← statement steps
      return first :: (← statements steps)

end

def action? : Reading (Option Statement) := do
  if ← takes "\x7b" then
    let body ← statements (← bound)
    discard (takes ";")
    return some (.block body)
  return none

def parameters : Nat → Reading (List Script)
  | 0 => refuse
  | steps + 1 => do
      let first ← takeName
      if ← takes "," then
        skipNewlines
        return first :: (← parameters steps)
      expect ")"
      return [first]

def entering (surroundings : Surroundings) : Reading Unit :=
  modifyThe Findings fun findings => { findings with surroundings, loops := 0 }

def functionItem : Reading Function := do
  let name ← match ← get with
    | .call name :: rest =>
        set rest
        pure name
    | .name name :: rest =>
        set rest
        pure name
    | _ => refuse
  expect "("
  entering .rule
  noteFunction name
  match ← get with
  | .name parameter :: _ =>
      if parameter = name then complainOf "function parameter cannot be the function".toList
  | _ => pure ()
  let parameters ← if ← takes ")" then pure [] else parameters (← bound)
  for (index, parameter) in (List.range parameters.length).zip parameters do
    if (parameters.take index).contains parameter then
      complainOf (parameter ++ " is duplicated in argument list".toList)
  skipNewlines
  let findings ← getThe Findings
  match findings.uses.find? fun use => use.owner.isNone && use.name = name with
  | some use =>
      complainOf ("illegal reference to ".toList ++
        (if use.kind = .array then "array " else "variable ").toList ++ name)
  | none => pure ()
  entering (.function name parameters)
  match ← action? with
  | some body => return ⟨name, parameters, body⟩
  | none => refuse

def ruleItem : Reading Rule := do
  let edge := fun (pattern : Pattern) => do
    modify (·.drop 1)
    entering .edge
    match ← action? with
    | some action => return Rule.mk pattern (some action)
    | none => refuse
  match ← get with
  | .word "BEGIN" :: _ => edge .first
  | .word "END" :: _ => edge .last
  | .sign "\x7b" :: _ =>
      entering .rule
      return ⟨.always, ← action?⟩
  | _ =>
      entering .rule
      let start ← expression {} (← bound)
      let pattern ← if ← takes "," then do
          skipNewlines
          pure (Pattern.range start (← expression {} (← bound)))
        else pure (Pattern.holds start)
      let action ← action?
      if action.isNone then
        match ← get with
        | [] => pure ()
        | .newline :: rest => set rest
        | .sign ";" :: rest => set rest
        | _ => refuse
      return ⟨pattern, action⟩

def item (program : Program) : Reading Program := do
  if ← takesWord "function" then
    let function ← functionItem
    if program.functions.any fun other => other.name = function.name then
      complainOf ("redefinition of ".toList ++ function.name)
    return { program with functions := function :: program.functions }
  return { program with rules := (← ruleItem) :: program.rules }

def fromBrace : List Token → List Token
  | [] => []
  | .sign "\x7b" :: rest => .sign "\x7b" :: rest
  | _ :: rest => fromBrace rest

def items : Nat → Program → Reading Program
  | 0, _ => refuse
  | steps + 1, program => do
      skipNewlines
      let before ← get
      if before.isEmpty then
        return { rules := program.rules.reverse, functions := program.functions }
      let next ← tryCatch (item program) fun complaint => do
        let found := before.drop (before.length - complaint.left)
        if complaint.isLast found then throw complaint
        modifyThe Findings fun findings =>
          { findings with complaints := complaint :: findings.complaints }
        set (fromBrace found)
        return program
      items steps next

/-! ## Programs -/

def useComplaints (uses : List NameUse) : List Complaint :=
  let reserved : List (Option Script × Script × NameKind) :=
    ["ENVIRON", "ARGV"].map (fun name => (none, name.toList, .array)) ++
      ["NR", "FNR", "FS", "OFS", "ORS", "RS", "SUBSEP", "CONVFMT", "OFMT", "FILENAME", "RSTART",
        "RLENGTH", "ARGC"].map fun name => (none, name.toList, .scalar)
  (uses.foldl (fun (known, complaints) use =>
    match known.find? fun entry => entry.1 = use.owner && entry.2.1 = use.name with
    | none => ((use.owner, use.name, use.kind) :: known, complaints)
    | some (_, _, kind) =>
        if kind = use.kind then (known, complaints)
        else
          let thing := (if use.owner.isSome then "local " else "") ++
            if kind = .array then "array " else "variable "
          let text := "illegal reference to ".toList ++ thing.toList ++ use.name
          (known, complaints ++ [⟨use.left, .rule text⟩]))
    (reserved, ([] : List Complaint))).2

def NameKind.words : NameKind → String
  | .scalar => "local variable"
  | .array => "local array"

def callComplaints (functions : List Function) (uses : List NameUse) (calls : List CallUse) :
    List Complaint :=
  let kindOf := fun (owner : Option Script) (name : Script) =>
    (uses.find? fun use => use.owner = owner && use.name = name).map (·.kind)
  calls.flatMap fun call =>
    match functions.find? fun function => function.name = call.name with
    | none => [⟨0, .rule ("function ".toList ++ call.name ++ " never defined".toList)⟩]
    | some function =>
        if function.parameters.length < call.arguments.length then
          [⟨call.left, .rule ("too many arguments in call to ".toList ++ call.name)⟩]
        else
          let pairs := (List.range call.arguments.length).zip
            (call.arguments.zip function.parameters)
          pairs.filterMap fun (index, argument, parameter) =>
            let actual := match argument with
              | none => some NameKind.scalar
              | some (owner, name) => if isFieldName name then some .scalar else kindOf owner name
            match actual, kindOf (some function.name) parameter with
            | some actual, some wanted =>
                if actual = wanted then none
                else some ⟨call.left, .rule (("type error in arg(" ++ toString (index + 1) ++
                  ") in call to ").toList ++ call.name ++ (" (actual " ++ actual.words ++ " vs " ++
                  wanted.words ++ ")").toList)⟩
            | _, _ => none

def Complaint.words (source : Script) (tokens : List Located) (complaint : Complaint) : Script :=
  let total := tokens.length
  let place := total - complaint.left
  let last := ((tokens.getLast?).map (·.line)).getD 1
  let line := ((tokens[place]?).map (·.line)).getD (last + 1)
  let isOpen := match tokens.getLast? with
    | some located =>
        match located.token with
        | .sign "\x7b" => true
        | .sign "\x7d" => decide (1 < located.braces)
        | _ => decide (0 < located.braces)
    | none => false
  let onLine := fun (line : Nat) (text : Script) =>
    source ++ ("line " ++ toString line ++ ": ").toList ++ text
  match complaint.reason, tokens[place]? with
  | .final text, _ => onLine ((tokens[place - 1]?).elim line (·.line)) text
  | .rule text, _ =>
      -- A rule is found out after the tokens that break it, unless only the end is left.
      onLine (if complaint.left = 0 then line else ((tokens[place - 1]?).elim line (·.line))) text
  | .unexpected, none =>
      onLine line ((if isOpen then "missing \x7d near" else "syntax error at or near") ++
        " end of file").toList
  | .unexpected, some located =>
      match located.token with
      | .broken reason =>
          if "unexpected".toList.isPrefixOf reason then
            (toString located.line ++ ": ").toList ++ reason
          else onLine located.line reason
      | token =>
          let endsStatement := match token with
            | .newline => true
            | .sign ";" => true
            | .sign "\x7d" => true
            | _ => false
          let startsRule := match token with
            | .word word => word = "BEGIN" || word = "END"
            | _ => false
          if endsStatement && 0 < located.depth then
            onLine located.line ("missing ) near ".toList ++ token.shown)
          else if startsRule && 0 < located.braces then
            onLine located.line ("missing \x7d near ".toList ++ token.shown)
          else onLine located.line ("syntax error at or near ".toList ++ token.shown)

def complaintLimit : Nat := 5

def parse (source text : Script) : Except (List Script) Program :=
  let text := text ++ ['\n']
  let (tokens, extras) := scan (text.length + 1) {} text
  let (result, findings) := ((items (tokens.length + 2) {}).run (tokens.map (·.token))).run.run {}
  let stopped := match result with
    | .ok _ => []
    | .error complaint => [complaint]
  let found := findings.complaints.reverse ++ stopped ++ useComplaints findings.uses.reverse
  let calls := match result with
    | .ok (program, _) =>
        if found.isEmpty then callComplaints program.functions findings.uses findings.calls.reverse
        else []
    | .error _ => []
  let signs := extras.map fun extra =>
    (2 * extra.place, source ++ ("line " ++ toString extra.line ++ ": extra '").toList ++
      [extra.sign, '\''])
  let complaints := (found ++ calls).map fun complaint =>
    (2 * (tokens.length - complaint.left) + 1, complaint.words source tokens)
  let all := (signs ++ complaints).mergeSort fun left right => left.1 ≤ right.1
  match result, all with
  | .ok (program, _), [] => .ok program
  | _, all => .error ((all.map (·.2)).take complaintLimit)

end SchemaBuild.Shell.Awk
