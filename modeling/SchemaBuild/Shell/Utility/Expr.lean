import SchemaBuild.Shell.Regex.Matching
import SchemaBuild.Shell.Utility

/-!
# Expressions of words

The utility that evaluates an expression whose operands and operators are its arguments.
-/

namespace SchemaBuild.Shell.Utility.Expr

abbrev Evaluating := StateT (List Script × Script) (Except Script)

def taken? (words : List String) : Evaluating (Option String) := do
  match ← get with
  | (word :: rest, _) =>
      let text := String.ofList word
      if words.contains text then
        set (rest, word)
        return some text
      return none
  | ([], _) => return none

def takeWord : Evaluating Script := do
  match ← get with
  | (word :: rest, _) =>
      set (rest, word)
      return word
  | ([], before) =>
      throw ("syntax error: missing argument after ".toList ++ quote before)

def integer? (value : Script) : Option Int :=
  match value with
  | '-' :: digits => (number? digits).map fun number => -(number : Int)
  | digits => (number? digits).map fun number => (number : Int)

def integer (value : Script) : Evaluating Int :=
  match integer? value with
  | some number => return number
  | none => throw "non-integer argument".toList

def ofInteger (number : Int) : Script :=
  (toString number).toList

def ofBool (value : Bool) : Script :=
  if value then ['1'] else ['0']

def isNull (value : Script) : Bool :=
  match value with
  | [] => true
  | '-' :: digits => !digits.isEmpty && digits.all (· = '0')
  | digits => digits.all (· = '0')

/-- Match the start of a text. The value is the first group, if there is one, and otherwise how long
the match is. -/
def matchStart (text pattern : Script) : Evaluating Script := do
  match Regex.parse { emptyRanges := true } pattern with
  | .error reason => throw reason.toList
  | .ok regex =>
      let subject : Regex.Subject := { text := text.toArray }
      let hasGroup := 0 < regex.groupCount
      match regex.matchAt? subject 0 with
      | some found =>
          return if hasGroup then found.group subject 1
            else (toString (found.stop - found.start)).toList
      | none => return if hasGroup then [] else ['0']

def indexOf (text characters : Script) : Nat :=
  match text.findIdx? characters.contains with
  | some index => index + 1
  | none => 0

def substring (text start count : Script) : Script :=
  match integer? start, integer? count with
  | some start, some count =>
      if start ≤ 0 || count ≤ 0 then [] else (text.drop (start.toNat - 1)).take count.toNat
  | _, _ => []

def calculate (operator : String) (left right : Script) : Evaluating Script := do
  let first ← integer left
  let second ← integer right
  match operator with
  | "+" => return ofInteger (first + second)
  | "-" => return ofInteger (first - second)
  | "*" => return ofInteger (first * second)
  | _ =>
      if second = 0 then throw "division by zero".toList
      return ofInteger (if operator = "/" then first.tdiv second else first.tmod second)

def compareBy (operator : String) (left right : Script) : Bool :=
  let order := match integer? left, integer? right with
    | some first, some second => compare first second
    | _, _ => compareOfLessAndEq left right
  match operator with
  | "<" => order = .lt
  | "<=" => order ≠ .gt
  | "=" => order = .eq
  | "==" => order = .eq
  | "!=" => order ≠ .eq
  | ">=" => order ≠ .lt
  | _ => order = .gt

def levels : List (List String) :=
  [["|"], ["&"], ["<", "<=", "=", "==", "!=", ">=", ">"], ["+", "-"], ["*", "/", "%"], [":"]]

def combine (needed : Bool) (operator : String) (left right : Script) : Evaluating Script := do
  if !needed then return left
  match operator with
  | "|" => return if !isNull left then left else if isNull right then ['0'] else right
  | "&" => return if isNull left || isNull right then ['0'] else left
  | ":" => matchStart left right
  | operator =>
      if ["<", "<=", "=", "==", "!=", ">=", ">"].contains operator then
        return ofBool (compareBy operator left right)
      calculate operator left right

def needsRight (operator : String) (left : Script) : Bool :=
  match operator with
  | "|" => isNull left
  | "&" => !isNull left
  | _ => true

mutual

def evaluate (needed : Bool) : Nat → List (List String) → Evaluating Script
  | 0, _ => throw "syntax error".toList
  | steps + 1, [] => operand needed steps
  | steps + 1, operators :: others => do
      let left ← evaluate needed steps others
      evaluateMore needed steps operators others left

def evaluateMore (needed : Bool) : Nat → List String → List (List String) → Script →
    Evaluating Script
  | 0, _, _, _ => throw "syntax error".toList
  | steps + 1, operators, others, left => do
      match ← taken? operators with
      | none => return left
      | some operator =>
          let right ← evaluate (needed && needsRight operator left) steps others
          evaluateMore needed steps operators others (← combine needed operator left right)

def operand (needed : Bool) : Nat → Evaluating Script
  | 0 => throw "syntax error".toList
  | steps + 1 => do
      match ← taken? ["match", "substr", "index", "length", "+", "("] with
      | some "match" =>
          let text ← operand needed steps
          let pattern ← operand needed steps
          if needed then matchStart text pattern else return []
      | some "substr" =>
          let text ← operand needed steps
          let start ← operand needed steps
          let count ← operand needed steps
          return substring text start count
      | some "index" =>
          let text ← operand needed steps
          let characters ← operand needed steps
          return (toString (indexOf text characters)).toList
      | some "length" => return (toString (← operand needed steps).length).toList
      | some "+" => takeWord
      | some _ =>
          let value ← evaluate needed steps levels
          match ← get with
          | ([], before) =>
              throw ("syntax error: expecting ')' after ".toList ++ quote before)
          | (word :: rest, _) =>
              if word = [')'] then
                set (rest, word)
                return value
              throw ("syntax error: expecting ')' instead of ".toList ++ quote word)
      | none =>
          let word ← takeWord
          if word = [')'] then throw "syntax error: unexpected ')'".toList
          return word

end

def value (words : List Script) : Except Script Script := do
  let (value, rest, _) ← (evaluate true (20 * words.length + 20) levels).run (words, [])
  match rest with
  | [] => return value
  | word :: _ => throw ("syntax error: unexpected argument ".toList ++ quote word)

end Expr

def expr : Utility := fun given => do
  let words := if given.head? = some ['-', '-'] then given.drop 1 else given
  if words.isEmpty then
    discard (failUsage "expr" "missing operand".toList)
    return misuse
  match Expr.value words with
  | .ok value =>
      printLine value
      return if Expr.isNull value then 1 else 0
  | .error reason =>
      discard (fail "expr" reason)
      return misuse

end SchemaBuild.Shell.Utility
