import SchemaBuild.Shell.Parser

/-!
# Arithmetic

The expressions between double parentheses, on integers of sixty-four bits. An expression may set
variables; which ones it sets is told together with its value.
-/

namespace SchemaBuild.Shell.Arithmetic

inductive Expression where
  | number (value : Int)
  | named (name : Script) (subscript : Option Expression)
  | assign (operator : Option String) (name : Script) (subscript : Option Expression)
      (value : Expression)
  /-- Add to a variable. The value is the one before or the one after. -/
  | step (amount : Int) (after : Bool) (name : Script) (subscript : Option Expression)
  | unary (operator : String) (operand : Expression)
  | binary (operator : String) (left right : Expression)
  | choice (condition yes no : Expression)

instance : Inhabited Expression := ⟨.number 0⟩

inductive Fault where
  | reason (words : String)
  | illegalNumber (text : Script)
  | overflow

/-! ## Values -/

def wrap (value : Int) : Int :=
  Int.bmod value (Nat.pow 2 64)

def ofBool (value : Bool) : Int :=
  if value then 1 else 0

def bits (value : Int) : Nat :=
  (value % Int.pow 2 64).toNat

def greatest : Int := Int.pow 2 63 - 1

def inRange (value : Int) : Bool :=
  -greatest - 1 ≤ value && value ≤ greatest

def combine (dialect : Dialect) (operator : String) (left right : Int) : Except Fault Int :=
  let shift := bits right % 64
  let overflows := dialect = .plain && right = -1 && left = -greatest - 1
  match operator with
  | "==" => .ok (ofBool (left = right))
  | "!=" => .ok (ofBool (left ≠ right))
  | "<=" => .ok (ofBool (left ≤ right))
  | ">=" => .ok (ofBool (left ≥ right))
  | "<" => .ok (ofBool (left < right))
  | ">" => .ok (ofBool (left > right))
  | "<<" => .ok (wrap (left * Int.pow 2 shift))
  | ">>" => .ok (left / Int.pow 2 shift)
  | "+" => .ok (wrap (left + right))
  | "-" => .ok (wrap (left - right))
  | "*" => .ok (wrap (left * right))
  | "/" =>
      if right = 0 then .error (.reason "division by zero")
      else if overflows then .error .overflow
      else .ok (wrap (left.tdiv right))
  | "%" =>
      if right = 0 then .error (.reason "division by zero")
      else if overflows then .error .overflow
      else .ok (left.tmod right)
  | "|" => .ok (wrap (bits left ||| bits right))
  | "^" => .ok (wrap (bits left ^^^ bits right))
  | "&" => .ok (wrap (bits left &&& bits right))
  | "**" =>
      if right < 0 then .error (.reason "exponent less than 0")
      else .ok (wrap (Int.pow left right.toNat))
  | _ => .ok right

def takeNumber (text : Script) : Nat × Script :=
  match text with
  | '0' :: mark :: rest =>
      if mark = 'x' || mark = 'X' then
        if (rest.head?).any isHexDigit then
          (ofDigits 16 (rest.takeWhile isHexDigit), rest.dropWhile isHexDigit)
        else (0, mark :: rest)
      else
        (ofDigits 8 ((mark :: rest).takeWhile isOctalDigit), (mark :: rest).dropWhile isOctalDigit)
  | text => (ofDigits 10 (text.takeWhile Char.isDigit), text.dropWhile Char.isDigit)

/-- A number in an expression. One that is too great counts as the greatest number, or is folded
into the range in the extended dialect. -/
def literal (dialect : Dialect) (value : Nat) : Int :=
  match dialect with
  | .plain => min value greatest
  | .extended => wrap value

/-- The number that a whole text spells, with blanks and a sign before it, if it is in range. An
empty text spells zero. -/
def number? (text : Script) : Option Int :=
  let trimmed := text.dropWhile fun character => character = ' ' || character = '\t' ||
    character = '\n'
  let (negative, digits) := match trimmed with
    | '-' :: rest => (true, rest)
    | '+' :: rest => (false, rest)
    | rest => (false, rest)
  if trimmed.isEmpty then some 0
  else if !(digits.head?).any Char.isDigit then none
  else
    let (size, rest) := takeNumber digits
    let value : Int := if negative then -size else size
    let rest := rest.dropWhile fun character => character = ' ' || character = '\t' ||
      character = '\n'
    if rest.isEmpty && inRange value then some value else none

/-! ## Reading -/

def operators (dialect : Dialect) : List String :=
  (if dialect = .extended then ["**=", "++", "--", "**", ",", "[", "]"] else []) ++
    ["<<=", ">>=", "==", "!=", "<=", ">=", "<<", ">>", "&&", "||", "+=", "-=", "*=", "/=", "%=",
      "&=", "^=", "|=", "=", "<", ">", "+", "-", "*", "/", "%", "&", "^", "|", "!", "~", "(", ")",
      "?", ":"]

def settingOperators : List String :=
  ["=", "+=", "-=", "*=", "/=", "%=", "<<=", ">>=", "&=", "^=", "|=", "**="]

def levels : List (List String) := [
  ["||"], ["&&"], ["|"], ["^"], ["&"], ["==", "!="], ["<=", ">=", "<", ">"], ["<<", ">>"],
  ["+", "-"], ["*", "/", "%"], ["**"]]

inductive Lexeme where
  | number (value : Int)
  | name (name : Script)
  | operator (text : String)
  | finish
  | invalid
  deriving DecidableEq

def lexeme (dialect : Dialect) (text : Script) : Lexeme × Script :=
  match text.dropWhile fun character => character = ' ' || character = '\t' ||
    character = '\n' with
  | [] => (.finish, [])
  | first :: rest =>
      if first.isDigit then
        let base := (first :: rest).takeWhile Char.isDigit
        match (first :: rest).drop base.length with
        | '#' :: digits =>
            if dialect = .extended then
              let taken := digits.takeWhile Char.isAlphanum
              (.number (literal dialect (ofDigits (ofDigits 10 base) taken)),
                digits.dropWhile Char.isAlphanum)
            else
              let (value, rest) := takeNumber (first :: rest)
              (.number (literal dialect value), rest)
        | _ =>
            let (value, rest) := takeNumber (first :: rest)
            (.number (literal dialect value), rest)
      else if isNameStart first then
        (.name (first :: rest.takeWhile isNameRest), rest.dropWhile isNameRest)
      else
        match (operators dialect).find? fun operator =>
          operator.toList.isPrefixOf (first :: rest) with
        | some operator => (.operator operator, (first :: rest).drop operator.length)
        | none => (.invalid, rest)

abbrev Reading := StateT Script (Except Fault)

def next (dialect : Dialect) : Reading Lexeme := do
  let (found, rest) := lexeme dialect (← get)
  set rest
  return found

def peek (dialect : Dialect) : Reading Lexeme := do
  return (lexeme dialect (← get)).1

mutual

def commas (dialect : Dialect) : Nat → Reading Expression
  | 0 => throw (.reason "too complex")
  | steps + 1 => do
      let first ← setting dialect steps
      if (← peek dialect) = .operator "," then
        discard (next dialect)
        return .binary "," first (← commas dialect steps)
      else return first

def setting (dialect : Dialect) : Nat → Reading Expression
  | 0 => throw (.reason "too complex")
  | steps + 1 => do
      let start ← get
      match ← next dialect with
      | .name name =>
          let subscript ← subscriptOf dialect steps
          match ← next dialect with
          | .operator operator =>
              if settingOperators.contains operator then
                let value ← setting dialect steps
                let change := if operator = "=" then none
                  else some (String.ofList operator.toList.dropLast)
                return .assign change name subscript value
              else
                set start
                choice dialect steps
          | _ =>
              set start
              choice dialect steps
      | _ =>
          set start
          choice dialect steps

def subscriptOf (dialect : Dialect) : Nat → Reading (Option Expression)
  | 0 => throw (.reason "too complex")
  | steps + 1 => do
      if (← peek dialect) = .operator "[" then
        discard (next dialect)
        let inner ← commas dialect steps
        unless (← next dialect) = .operator "]" do throw (.reason "expecting ']'")
        return some inner
      else return none

def choice (dialect : Dialect) : Nat → Reading Expression
  | 0 => throw (.reason "too complex")
  | steps + 1 => do
      let condition ← level dialect levels steps
      if (← peek dialect) = .operator "?" then
        discard (next dialect)
        let yes ← setting dialect steps
        unless (← next dialect) = .operator ":" do throw (.reason "expecting ':'")
        return .choice condition yes (← choice dialect steps)
      else return condition

def level (dialect : Dialect) : List (List String) → Nat → Reading Expression
  | _, 0 => throw (.reason "too complex")
  | [], steps + 1 => primary dialect steps
  | operators :: stronger, steps + 1 => do
      let first ← level dialect stronger steps
      levelRest dialect operators stronger first steps

def levelRest (dialect : Dialect) (operators : List String) (stronger : List (List String)) :
    Expression → Nat → Reading Expression
  | _, 0 => throw (.reason "too complex")
  | left, steps + 1 => do
      match ← peek dialect with
      | .operator operator =>
          if operators.contains operator then
            discard (next dialect)
            let right ← level dialect stronger steps
            levelRest dialect operators stronger (.binary operator left right) steps
          else return left
      | _ => return left

def primary (dialect : Dialect) : Nat → Reading Expression
  | 0 => throw (.reason "too complex")
  | steps + 1 => do
      match ← next dialect with
      | .number value => return .number value
      | .name name =>
          let subscript ← subscriptOf dialect steps
          match ← peek dialect with
          | .operator "++" =>
              discard (next dialect)
              return .step 1 false name subscript
          | .operator "--" =>
              discard (next dialect)
              return .step (-1) false name subscript
          | _ => return .named name subscript
      | .operator "(" =>
          let inner ← commas dialect steps
          unless (← next dialect) = .operator ")" do throw (.reason "expecting ')'")
          return inner
      | .operator operator =>
          if operator = "++" || operator = "--" then
            match ← next dialect with
            | .name name =>
                let subscript ← subscriptOf dialect steps
                return .step (if operator = "++" then 1 else -1) true name subscript
            | _ => throw (.reason "expecting primary")
          else if ["-", "+", "!", "~"].contains operator then
            return .unary operator (← primary dialect steps)
          else throw (.reason "expecting primary")
      | _ => throw (.reason "expecting primary")

end

def parse (dialect : Dialect) (text : Script) : Except Fault Expression :=
  if (lexeme dialect text).1 = .finish then .ok (.number 0)
  else
    match (commas dialect (32 * text.length + 64)).run text with
    | .error error => .error error
    | .ok (expression, rest) =>
        if (lexeme dialect rest).1 = .finish then .ok expression
        else .error (.reason "expecting EOF")

/-! ## Evaluating -/

abbrev Setting := Script × Option Int × Int

abbrev Values := Script → Option Int → Except Fault Int

abbrev Evaluation := StateT (List Setting) (Except Fault)

def valueOf (values : Values) (name : Script) (subscript : Option Int) : Evaluation Int := do
  match (← get).find? fun entry => entry.1 = name && entry.2.1 = subscript with
  | some (_, _, value) => return value
  | none => values name subscript

/-- The value of an expression. Of a choice, and of an operator on truth values, only that part is
evaluated which decides. -/
def evaluate (dialect : Dialect) (values : Values) : Expression → Evaluation Int
  | .number value => return value
  | .named name none => valueOf values name none
  | .named name (some subscript) => do
      valueOf values name (some (← evaluate dialect values subscript))
  | .assign operator name none value => do
      let right ← evaluate dialect values value
      let result ← match operator with
        | none => pure right
        | some operator => combine dialect operator (← valueOf values name none) right
      modify ((name, none, result) :: ·)
      return result
  | .assign operator name (some subscript) value => do
      let index ← evaluate dialect values subscript
      let right ← evaluate dialect values value
      let result ← match operator with
        | none => pure right
        | some operator => combine dialect operator (← valueOf values name (some index)) right
      modify ((name, some index, result) :: ·)
      return result
  | .step amount after name none => do
      let old ← valueOf values name none
      modify ((name, none, wrap (old + amount)) :: ·)
      return if after then wrap (old + amount) else old
  | .step amount after name (some subscript) => do
      let index ← evaluate dialect values subscript
      let old ← valueOf values name (some index)
      modify ((name, some index, wrap (old + amount)) :: ·)
      return if after then wrap (old + amount) else old
  | .unary operator operand => do
      let value ← evaluate dialect values operand
      return match operator with
        | "-" => wrap (-value)
        | "!" => ofBool (value = 0)
        | "~" => -value - 1
        | _ => value
  | .binary operator left right => do
      let first ← evaluate dialect values left
      if operator = "&&" then
        if first = 0 then return 0 else return ofBool ((← evaluate dialect values right) ≠ 0)
      else if operator = "||" then
        if first ≠ 0 then return 1 else return ofBool ((← evaluate dialect values right) ≠ 0)
      else combine dialect operator first (← evaluate dialect values right)
  | .choice condition yes no => do
      if (← evaluate dialect values condition) ≠ 0 then evaluate dialect values yes
      else evaluate dialect values no

def evaluateText (dialect : Dialect) (values : Values) (text : Script) :
    Except Fault (Int × List Setting) := do
  let (value, settings) ← (evaluate dialect values (← parse dialect text)).run []
  return (value, settings.reverse)

end SchemaBuild.Shell.Arithmetic
