import SchemaBuild.Shell.Utility

/-!
# The program for conditions

The program that decides conditions goes by the number of its arguments first, as the builtin of the
shell does, but it has rules and words of its own for what it does not understand.
-/

namespace SchemaBuild.Shell.Utility.Condition

open Decision (Verdict)

def tooFew {α : Type} (all : List Script) : Verdict α :=
  throw ("missing argument after ".toList ++ quote (all.getLastD []))

def isBinary (word : Script) : Bool :=
  word = "==".toList || Decision.binaryOperators.contains (String.ofList word)

def isUnary : Script → Bool
  | ['-', _] => true
  | _ => false

def decideBinary (operator left right : Script) : Verdict Bool := do
  let isOnNumbers := ["-eq", "-ne", "-ge", "-gt", "-le", "-lt"].contains (String.ofList operator)
  if isOnNumbers then
    for operand in [left, right] do
      if (Decision.number? operand).isNone then
        throw ("invalid integer ".toList ++ quote operand)
  Decision.decideBinary operator left right

def unary (all : List Script) : List Script → Verdict (Bool × List Script)
  | operator :: operand :: rest => do
      match Decision.unary? operator with
      | some test => return (← ExceptT.lift (Decision.decideUnary test operand), rest)
      | none => throw (quote operator ++ ": unary operator expected".toList)
  | [operator] =>
      if (Decision.unary? operator).isSome then tooFew all
      else throw (quote operator ++ ": unary operator expected".toList)
  | [] => tooFew all

def single (all : List Script) : List Script → Verdict (Bool × List Script)
  | word :: rest => return (!word.isEmpty, rest)
  | [] => tooFew all

def negated (all : List Script) (condition : List Script → Verdict (Bool × List Script)) :
    List Script → Verdict (Bool × List Script)
  | [] => tooFew all
  | words => do
      let (value, rest) ← condition words
      return (!value, rest)

def two (all words : List Script) : Verdict (Bool × List Script) :=
  match words with
  | ['!'] :: rest => negated all (single all) rest
  | word :: _ => if isUnary word then unary all words else tooFew all
  | [] => tooFew all

mutual

def anyOf (all : List Script) : Nat → List Script → Verdict (Bool × List Script)
  | 0, _ => tooFew all
  | steps + 1, words => do
      let (first, rest) ← allOf all steps words
      match rest with
      | ['-', 'o'] :: rest =>
          let (second, rest) ← anyOf all steps rest
          return (first || second, rest)
      | rest => return (first, rest)

def allOf (all : List Script) : Nat → List Script → Verdict (Bool × List Script)
  | 0, _ => tooFew all
  | steps + 1, words => do
      let (first, rest) ← term all steps words
      match rest with
      | ['-', 'a'] :: rest =>
          let (second, rest) ← allOf all steps rest
          return (first && second, rest)
      | rest => return (first, rest)

def term (all : List Script) : Nat → List Script → Verdict (Bool × List Script)
  | 0, _ => tooFew all
  | steps + 1, words => do
      match words with
      | [] => tooFew all
      | ['!'] :: rest => negated all (term all steps) rest
      | ['('] :: rest =>
          if rest.isEmpty then tooFew all
          let count := (rest.takeWhile (· ≠ [')'])).length
          let (value, rest) ← counted all steps (if count < 4 then count else rest.length) rest
          match rest with
          | [')'] :: rest => return (value, rest)
          | [] => throw "')' expected".toList
          | word :: _ => throw ("')' expected, found ".toList ++ word)
      | left :: rest =>
          match rest with
          | operator :: right :: others =>
              if isBinary operator then return (← decideBinary operator left right, others)
              else if isUnary left then unary all words
              else single all words
          | _ => if isUnary left then unary all words else single all words

def counted (all : List Script) : Nat → Nat → List Script → Verdict (Bool × List Script)
  | 0, _, _ => tooFew all
  | steps + 1, count, words => do
      match count, words with
      | 1, words => single all words
      | 2, words => two all words
      | 3, words => three all steps words
      | 4, ['!'] :: rest => negated all (three all steps) rest
      | 4, words@(['('] :: rest) =>
          if rest.getD 2 [] = [')'] then
            let (value, rest) ← two all rest
            return (value, rest.drop 1)
          else anyOf all steps words
      | _, words => anyOf all steps words

def three (all : List Script) : Nat → List Script → Verdict (Bool × List Script)
  | 0, _ => tooFew all
  | steps + 1, words => do
      match words with
      | left :: operator :: right :: rest =>
          if isBinary operator then return (← decideBinary operator left right, rest)
          else if left = ['!'] then negated all (two all) (operator :: right :: rest)
          else if left = ['('] && right = [')'] then return (!operator.isEmpty, rest)
          else if operator = ['-', 'a'] || operator = ['-', 'o'] then anyOf all steps words
          else throw (quote operator ++ ": binary operator expected".toList)
      | _ => tooFew all

end

def decide (words : List Script) : Verdict Bool := do
  if words.isEmpty then return false
  let (value, rest) ← counted words (8 * words.length + 8) words.length words
  match rest with
  | word :: _ => throw ("extra argument ".toList ++ quote word)
  | [] => return value

def program (name : String) : Utility := fun given => do
  if name = "[" && given.getLast? ≠ some [']'] then
    discard (fail name "missing ']'".toList)
    return misuse
  match ← (decide (if name = "[" then given.dropLast else given)).run with
  | .ok value => return if value then 0 else 1
  | .error reason =>
      discard (fail name reason)
      return misuse

end SchemaBuild.Shell.Utility.Condition
