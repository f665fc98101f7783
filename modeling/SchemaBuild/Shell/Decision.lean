import SchemaBuild.Shell.Builtin

/-!
# Decisions

What `test` decides: conditions on files, texts and numbers.
-/

namespace SchemaBuild.Shell.Decision

/-! ## Files -/

structure FileFacts where
  node : Node
  location : Location
  stored : StoredFile

def factsAt (followLast : Bool) (path : Script) : Running (Option FileFacts) := do
  let state ← get
  match state.files.locate followLast (Bytes.ofLatin path) with
  | .ok (.node location node) =>
      let file := fun (id : FileId) =>
        some (FileFacts.mk (.file id) location (state.files.storedAt id))
      match node with
      | .file id => return file id
      | .device (.channel channel) =>
          match state.openFile? channel with
          | none => return none
          | some (_, opened) =>
              match opened.endpoint with
              | .file id => return file id
              | _ => return some ⟨node, location, {}⟩
      | node => return some ⟨node, location, {}⟩
  | _ => return none

inductive Unary where
  | file (letter : Char)
  | isLink
  | isTerminal
  | isEmpty
  | isNotEmpty
  deriving DecidableEq

def unary? (text : Script) : Option Unary :=
  match text with
  | ['-', letter] =>
      if letter = 'n' then some .isNotEmpty
      else if letter = 'z' then some .isEmpty
      else if letter = 't' then some .isTerminal
      else if letter = 'h' || letter = 'L' then some .isLink
      else if ['r', 'w', 'x', 'e', 'f', 'd', 'c', 'b', 'p', 'u', 'g', 'k', 's', 'O', 'G', 'S'].contains
          letter then
        some (.file letter)
      else none
  | _ => none

/-- Whether a file is what a letter asks for. Whoever asks may do everything, but only a file with a
mark for it can be run. -/
def isFile (letter : Char) (facts : FileFacts) : Bool :=
  match letter, facts.node with
  | 'f', .file _ => true
  | 'f', _ => false
  | 'd', .directory _ => true
  | 'd', _ => false
  | 'c', .device _ => true
  | 'c', _ => false
  | 'x', .file _ => facts.stored.executable
  | 'x', .device _ => false
  | 's', .file _ => !facts.stored.content.toBytes.isEmpty
  | 's', .device _ => false
  | 'b', _ => false
  | 'p', _ => false
  | 'u', _ => false
  | 'g', _ => false
  | 'k', _ => false
  | 'S', _ => false
  | _, _ => true

def decideUnary (operator : Unary) (operand : Script) : Running Bool := do
  match operator with
  | .isEmpty => return operand.isEmpty
  | .isNotEmpty => return !operand.isEmpty
  | .isTerminal => return false
  | .isLink =>
      match ← factsAt false operand with
      | some ⟨.link _, _, _⟩ => return true
      | _ => return false
  | .file letter => return (← factsAt true operand).any (isFile letter)

/-! ## Comparisons -/

def binaryOperators : List String :=
  ["=", "!=", "<", ">", "-eq", "-ne", "-ge", "-gt", "-le", "-lt", "-nt", "-ot", "-ef"]

def isBinary (dialect : Dialect) (text : Script) : Bool :=
  binaryOperators.contains (String.ofList text) ||
    dialect = .extended && (text = "==".toList)

def number? (text : Script) : Option Int :=
  let isBlank := fun (character : Char) =>
    [' ', '\t', '\n', '\r', '\x0b', '\x0c'].contains character
  let start := text.dropWhile isBlank
  let (negative, digits) := match start with
    | '-' :: rest => (true, rest)
    | '+' :: rest => (false, rest)
    | rest => (false, rest)
  let number := digits.takeWhile Char.isDigit
  let rest := (digits.drop number.length).dropWhile isBlank
  let value : Int := ofDigits 10 number
  let value := if negative then -value else value
  if number.isEmpty || !rest.isEmpty || value < -9223372036854775808 ||
      9223372036854775807 < value then none
  else some value

abbrev Verdict := ExceptT Script Running

def compareNumbers (operator : Script) (left right : Int) : Bool :=
  match String.ofList operator with
  | "-eq" => left = right
  | "-ne" => left ≠ right
  | "-ge" => left ≥ right
  | "-gt" => left > right
  | "-le" => left ≤ right
  | _ => left < right

def compareFiles (operator left right : Script) : Running Bool := do
  match ← factsAt true left, ← factsAt true right with
  | some first, some second =>
      match String.ofList operator with
      | "-nt" => return second.stored.time < first.stored.time
      | "-ot" => return first.stored.time < second.stored.time
      | _ =>
          return match first.node, second.node with
            | .file id, .file other => id = other
            | _, _ => first.location = second.location
  | _, _ => return false

def decideBinary (operator left right : Script) : Verdict Bool := do
  match String.ofList operator with
  | "=" => return left = right
  | "==" => return left = right
  | "!=" => return left ≠ right
  | "<" => return left < right
  | ">" => return right < left
  | "-nt" => ExceptT.lift (compareFiles operator left right)
  | "-ot" => ExceptT.lift (compareFiles operator left right)
  | "-ef" => ExceptT.lift (compareFiles operator left right)
  | _ =>
      match number? left, number? right with
      | none, _ => throw ("Illegal number: ".toList ++ left)
      | _, none => throw ("Illegal number: ".toList ++ right)
      | some left, some right => return compareNumbers operator left right

/-! ## Words -/

inductive Token where
  | finish
  | operand
  | unary (operator : Unary)
  | binary
  | negation
  | conjunction
  | disjunction
  | opening
  | closing
  deriving DecidableEq

def tokenOf (dialect : Dialect) : List Script → Token
  | [] => .finish
  | word :: rest =>
      match unary? word with
      | some operator =>
          match rest with
          | [] => .operand
          | [_] => .unary operator
          | next :: _ => if isBinary dialect next then .operand else .unary operator
      | none =>
          if isBinary dialect word then .binary
          else
            match String.ofList word with
            | "!" => .negation
            | "-a" => .conjunction
            | "-o" => .disjunction
            | "(" => if rest.isEmpty then .operand else .opening
            | ")" => .closing
            | _ => .operand

mutual

/-- Conditions of which one has to hold, from the current word on. Gives the words from the last one
that was used. -/
def anyOf (dialect : Dialect) : Nat → Token → List Script → Verdict (Bool × List Script)
  | 0, _, _ => throw "too complex".toList
  | steps + 1, token, words => do
      let (first, words) ← allOf dialect steps token words
      if tokenOf dialect (words.drop 1) = .disjunction then
        let rest := words.drop 2
        let (second, rest) ← anyOf dialect steps (tokenOf dialect rest) rest
        return (first || second, rest)
      else return (first, words)

def allOf (dialect : Dialect) : Nat → Token → List Script → Verdict (Bool × List Script)
  | 0, _, _ => throw "too complex".toList
  | steps + 1, token, words => do
      let (first, words) ← oneOf dialect steps token words
      if tokenOf dialect (words.drop 1) = .conjunction then
        let rest := words.drop 2
        let (second, rest) ← allOf dialect steps (tokenOf dialect rest) rest
        return (first && second, rest)
      else return (first, words)

def oneOf (dialect : Dialect) : Nat → Token → List Script → Verdict (Bool × List Script)
  | 0, _, _ => throw "too complex".toList
  | steps + 1, token, words => do
      if token = .negation then
        let next := tokenOf dialect (words.drop 1)
        let rest := if next = .finish then words else words.drop 1
        let (value, rest) ← oneOf dialect steps next rest
        return (!value, rest)
      else primary dialect steps token words

def primary (dialect : Dialect) : Nat → Token → List Script → Verdict (Bool × List Script)
  | 0, _, _ => throw "too complex".toList
  | steps + 1, token, words => do
      match token with
      | .finish => return (false, words)
      | .opening =>
          let inner := words.drop 1
          let next := tokenOf dialect inner
          if next = .closing then return (false, inner)
          else
            let (value, rest) ← anyOf dialect steps next inner
            let rest := rest.drop 1
            unless tokenOf dialect rest = .closing do throw "closing paren expected".toList
            return (value, rest)
      | .unary operator =>
          match words.drop 1 with
          | [] => throw (words.headD [] ++ ": argument expected".toList)
          | operand :: rest =>
              if operator = .isTerminal && (number? operand).isNone then
                throw ("Illegal number: ".toList ++ operand)
              return (← ExceptT.lift (decideUnary operator operand), operand :: rest)
      | _ =>
          if tokenOf dialect (words.drop 1) = .binary then
            let operator := (words.drop 1).headD []
            match words.drop 2 with
            | [] => throw (operator ++ ": argument expected".toList)
            | right :: rest =>
                return (← decideBinary operator (words.headD []) right, right :: rest)
          else return (!(words.headD []).isEmpty, words)

end

def general (dialect : Dialect) (token : Token) (words : List Script) : Verdict Bool := do
  let (value, rest) ← anyOf dialect (8 * words.length + 8) token words
  match rest with
  | word :: _ :: _ => throw (word ++ ": unexpected operator".toList)
  | _ => return value

/-- The value of a condition, which may be negated. Few words are told apart by their number. A mark
before them negates the condition, and in the plain dialect another one after it counts for
nothing. -/
def ofWords (dialect : Dialect) (negates : Bool) : List Script → Verdict Bool
  | [] => return negates
  | words@(first :: rest) => do
      let isThree := words.length = 3
      let settled := fun (value : Bool) => value ≠ negates
      if isThree && isBinary dialect (rest.headD []) then
        return settled (← general dialect .operand words)
      else if isThree || words.length = 4 then
        if first = ['('] && words.getLast? = some [')'] then
          let inner := rest.dropLast
          return settled (← general dialect (tokenOf dialect inner) inner)
        else if first = ['!'] then ofWords dialect (dialect = .plain || !negates) rest
        else return settled (← general dialect (tokenOf dialect words) words)
      else return settled (← general dialect (tokenOf dialect words) words)

def decideAs (name : String) (refuse : Script → Running Nat) (given : List Script) :
    Running Nat := do
  let dialect := (← environment).dialect
  if name = "[" && given.getLast? ≠ some [']'] then refuse "missing ]".toList
  else
    let words := if name = "[" then given.dropLast else given
    match ← (ofWords dialect false words).run with
    | .ok value => return if value then 0 else 1
    | .error reason => refuse reason

def builtin (name : String) : Builtin :=
  decideAs name fun reason => do
    complainHere reason
    return misuse

end SchemaBuild.Shell.Decision
