import SchemaBuild.Shell.Parser
import SchemaBuild.Shell.Pattern

/-!
# Regular expressions

The expressions by which utilities look for text, and the two notations in which most of them are
written. The basic notation wants a backslash before most operators.
-/

namespace SchemaBuild.Shell

inductive Edge where
  | wordStart
  | wordEnd
  | word
  | noWord
  | textStart
  | textEnd
  deriving DecidableEq, Repr

inductive Regex where
  | empty
  | set (inside : Bool) (members : List SetMember)
  | lineStart
  | lineEnd
  | edge (edge : Edge)
  | sequence (first second : Regex)
  | choice (first second : Regex)
  | repetition (lazy : Bool) (least : Nat) (most : Option Nat) (body : Regex)
  | group (number : Nat) (body : Regex)
  | again (number : Nat)
  | look (ahead holds : Bool) (body : Regex)
  | settled (body : Regex)
  | restart
  deriving Repr, Inhabited

namespace Regex

inductive LoneOperator where
  | literal
  | skipped
  | refused
  deriving DecidableEq, Repr

structure Style where
  extended : Bool := false
  letters : Bool := false
  setEscapes : Bool := false
  loneOperators : LoneOperator := .literal
  looseBraces : Bool := false
  singleRepetition : Bool := false
  looseParentheses : Bool := false
  emptyRanges : Bool := false
  looseHyphens : Bool := false
  refusesBareClasses : Bool := false
  simpleOperators : Bool := false

def exactly (character : Char) : Regex :=
  .set true [.range character character]

def any : Regex :=
  .set false []

/-! ## Reading -/

structure Progress where
  text : Script
  groups : Nat := 0
  closed : List Nat := []

abbrev Reading := StateT Progress (Except String)

def peek : Reading Script :=
  return (← get).text

def skip (count : Nat) : Reading Unit :=
  modify fun progress => { progress with text := progress.text.drop count }

def controlLetter? : Char → Option Char
  | 'n' => some '\n'
  | 't' => some '\t'
  | 'r' => some '\r'
  | 'f' => some '\x0c'
  | 'v' => some '\x0b'
  | 'a' => some '\x07'
  | _ => none

def wordMembers : List SetMember :=
  [.named "alnum".toList, .range '_' '_']

/-! ### Sets -/

def unmatchedBracket : String := "Unmatched [, [^, [:, [., or [="

def longestSetName : Nat := 31

def setName? (mark : Char) : Nat → Script → Option (Script × Script)
  | 0, _ => none
  | _ + 1, [] => none
  | limit + 1, character :: rest =>
      if character = mark && rest.head? = some ']' then some ([], rest.drop 1)
      else (setName? mark limit rest).map fun (name, rest) => (character :: name, rest)

inductive SetElement where
  | members (member : SetMember)
  | character (character : Char)

def setElement (style : Style) (text : Script) : Except String (SetElement × Script) :=
  let named := fun (mark : Char) (rest : Script) =>
    match setName? mark (longestSetName + 1) rest with
    | some found => .ok found
    | none => .error unmatchedBracket
  match text with
  | [] => .error unmatchedBracket
  | '[' :: ':' :: rest =>
      if style.simpleOperators then .ok (.character '[', ':' :: rest)
      else do
        let (name, rest) ← named ':' rest
        if (characterClass? name).isNone then .error "Invalid character class name"
        else .ok (.members (.named name), rest)
  | '[' :: '=' :: rest => do
      match ← named '=' rest with
      | ([character], rest) => .ok (.members (.range character character), rest)
      | _ => .error "Invalid collation character"
  | '[' :: '.' :: rest => do
      match ← named '.' rest with
      | ([character], rest) => .ok (.character character, rest)
      | _ => .error "Invalid collation character"
  | '\\' :: letter :: rest =>
      match if style.letters then controlLetter? letter else none with
      | some control => .ok (.character control, rest)
      | none =>
          if style.setEscapes then .ok (.character letter, rest)
          else .ok (.character '\\', letter :: rest)
  | character :: rest => .ok (.character character, rest)

def setMembers (style : Style) : Nat → Bool → Script →
    Except String (List SetMember × Script)
  | 0, _, _ => .error unmatchedBracket
  | _ + 1, true, [] => .error "Invalid regular expression"
  | _ + 1, false, [] => .error unmatchedBracket
  | _ + 1, false, ']' :: rest => .ok ([], rest)
  | steps + 1, isFirst, text => do
      let isHyphen := text.head? = some '-' && !isFirst && !style.looseHyphens
      if isHyphen && text[1]? ≠ some ']' then .error "Invalid range end"
      let (element, rest) ← setElement style text
      match element, rest with
      | .members member, rest =>
          let (members, rest) ← setMembers style steps false rest
          .ok (member :: members, rest)
      | .character first, '-' :: after =>
          if after.head? = some ']' then
            let (members, rest) ← setMembers style steps false rest
            .ok (.range first first :: members, rest)
          else
            match ← setElement style after with
            | (.members _, _) => .error "Invalid range end"
            | (.character last, rest) =>
                if last < first && !style.emptyRanges then .error "Invalid range end"
                else
                  let (members, rest) ← setMembers style steps false rest
                  .ok (.range first last :: members, rest)
      | .character first, rest =>
          let (members, rest) ← setMembers style steps false rest
          .ok (.range first first :: members, rest)

def isBareClass (text : Script) (members : List SetMember) : Bool :=
  text.head? = some ':' && text.getLast? = some ':' && text.any (· ≠ ':') &&
    members.length = text.length

def setOf (style : Style) (text : Script) : Except String (Regex × Script) := do
  let (inside, rest) := match text with
    | '^' :: rest => (false, rest)
    | rest => (true, rest)
  let (members, after) ← setMembers style (rest.length + 1) true rest
  let body := rest.take (rest.length - after.length - 1)
  if style.refusesBareClasses && isBareClass body members then
    .error "character class syntax is [[:space:]], not [:space:]"
  else .ok (.set inside members, after)

/-! ### Repetitions -/

def repetitionLimit : Nat := 32767

inductive Bound where
  | missing
  | invalid
  | number (value : Nat)
  deriving DecidableEq

def bound (closing : Script) : Nat → Bound → Script → Bound × Script
  | 0, _, text => (.invalid, text)
  | _ + 1, _, [] => (.invalid, [])
  | steps + 1, found, character :: rest =>
      if closing.isPrefixOf (character :: rest) || character = ',' then (found, character :: rest)
      else
        let next := match found, character.isDigit with
          | .missing, true => .number (character.toNat - 48)
          | .number value, true =>
              .number (min (repetitionLimit + 1) (value * 10 + character.toNat - 48))
          | _, _ => .invalid
        bound closing steps next (if character = '\\' then rest.drop 1 else rest)

/-- The bounds of a repetition after its brace, and what follows them. There are none where braces
that hold no bounds are let through. -/
def bounds (style : Style) (closing text : Script) :
    Except String (Option ((Nat × Option Nat) × Script)) := do
  let badContent := "Invalid content of \\\x7b\\\x7d"
  let unreadable := fun (rest : Script) =>
    if style.looseBraces then .ok none
    else if rest.isEmpty then .error "Unmatched \\\x7b"
    else .error badContent
  let settled := fun (least : Nat) (most : Option Nat) (rest : Script) =>
    if !closing.isPrefixOf rest || most.any (· < least) then .error badContent
    else if repetitionLimit < most.getD least then .error "Regular expression too big"
    else .ok (some ((least, most), rest.drop closing.length))
  let (first, rest) := bound closing (text.length + 1) .missing text
  let isComma : Bool := rest.head? = some ','
  match first, isComma with
  | .invalid, _ => unreadable rest
  | .missing, false => .error badContent
  | .number least, false => settled least (some least) rest
  | first, true =>
      let least := match first with
        | .number value => value
        | _ => 0
      match bound closing (rest.length + 1) .missing (rest.drop 1) with
      | (.invalid, rest) => unreadable rest
      | (.missing, rest) => settled least none rest
      | (.number most, rest) => settled least (some most) rest

def repetition? (style : Style) (text : Script) :
    Except String (Option ((Nat × Option Nat) × Nat)) :=
  let braced := fun (rest closing : Script) =>
    match bounds style closing rest with
    | .error reason => .error reason
    | .ok none => .ok none
    | .ok (some (bounds, after)) => .ok (some (bounds, text.length - after.length))
  match style.extended || style.simpleOperators, text with
  | _, '*' :: _ => .ok (some ((0, none), 1))
  | true, '+' :: _ => .ok (some ((1, none), 1))
  | true, '?' :: _ => .ok (some ((0, some 1), 1))
  | true, '\x7b' :: rest => if style.simpleOperators then .ok none else braced rest ['\x7d']
  | false, '\\' :: '+' :: _ => .ok (some ((1, none), 2))
  | false, '\\' :: '?' :: _ => .ok (some ((0, some 1), 2))
  | false, '\\' :: '\x7b' :: rest => braced rest ['\\', '\x7d']
  | _, _ => .ok none

def startsWithBraces (style : Style) (text : Script) : Bool :=
  match style.extended, text with
  | true, '\x7b' :: _ => true
  | false, '\\' :: '\x7b' :: _ => true
  | _, _ => false

/-! ### Expressions -/

def endsSequence (style : Style) (inGroup : Bool) (text : Script) : Bool :=
  match style.extended, text with
  | true, '|' :: _ => true
  | true, ')' :: _ => inGroup || !style.looseParentheses
  | false, '\\' :: '|' :: _ => true
  | false, '\\' :: ')' :: _ => true
  | _, [] => true
  | _, _ => false

def isPlace : Regex → Bool
  | .lineStart => true
  | .lineEnd => true
  | .edge _ => true
  | _ => false

mutual

def alternatives (style : Style) (inGroup : Bool) : Nat → Reading Regex
  | 0 => throw "Regular expression too big"
  | steps + 1 => do
      let first ← items style inGroup true true steps
      match style.extended, ← peek with
      | true, '|' :: _ =>
          skip 1
          return .choice first (← alternatives style inGroup steps)
      | false, '\\' :: '|' :: _ =>
          skip 2
          return .choice first (← alternatives style inGroup steps)
      | _, _ => return first

/-- Expressions one after the other. At the start a sign of the start of a line has its meaning, and
at the start or after a place an operator of repetition has nothing to repeat. -/
def items (style : Style) (inGroup isStart isLone : Bool) : Nat → Reading Regex
  | 0 => throw "Regular expression too big"
  | steps + 1 => do
      let text ← peek
      if endsSequence style inGroup text then return .empty
      if text.head? = some '^' && (isStart || style.extended) then
        skip 1
        return .sequence .lineStart (← items style inGroup false true steps)
      let operator ← if isLone then (repetition? style text) else pure none
      match operator, style.loneOperators with
      | some (_, length), .skipped =>
          skip length
          -- What comes next is an expression, even if it could close the group.
          match ← peek with
          | ')' :: _ =>
              skip 1
              return .sequence (exactly ')') (← items style inGroup false false steps)
          | _ => items style inGroup isStart true steps
      | some _, .refused => throw "Invalid preceding regular expression"
      | operator, _ =>
          if operator.isSome && style.singleRepetition && startsWithBraces style text then
            throw "Invalid preceding regular expression"
          let first ← atom style inGroup operator.isSome steps
          if isPlace first then
            return .sequence first (← items style inGroup false true steps)
          let first ← repeated style first false steps
          return .sequence first (← items style inGroup false false steps)

def repeated (style : Style) (body : Regex) (isRepeated : Bool) : Nat → Reading Regex
  | 0 => throw "Regular expression too big"
  | steps + 1 => do
      let text ← peek
      match ← (repetition? style text) with
      | none => return body
      | some ((least, most), length) =>
          let isSecond := isRepeated && style.singleRepetition &&
            (text.head? = some '*' || startsWithBraces style text)
          if isSecond then throw "Invalid preceding regular expression"
          skip length
          repeated style (.repetition false least most body) true steps

def atom (style : Style) (inGroup isOperator : Bool) : Nat → Reading Regex
  | 0 => throw "Regular expression too big"
  | steps + 1 => do
      let opened : Nat → Reading Regex := fun length => do
        skip length
        let number := (← get).groups + 1
        modify fun progress => { progress with groups := number }
        let body ← alternatives style true steps
        match style.extended, ← peek with
        | true, ')' :: _ => skip 1
        | false, '\\' :: ')' :: _ => skip 2
        | _, _ => throw "Unmatched ( or \\("
        modify fun progress => { progress with closed := number :: progress.closed }
        return .group number body
      match ← peek with
      | [] => return .empty
      | '.' :: _ =>
          skip 1
          return any
      | '[' :: rest =>
          let (regex, after) ← (setOf style rest)
          modify fun progress => { progress with text := after }
          return regex
      | '$' :: rest =>
          skip 1
          if style.extended || endsSequence style inGroup rest then return .lineEnd
          else return exactly '$'
      | '(' :: _ =>
          if style.extended then opened 1
          else
            skip 1
            return exactly '('
      | '\\' :: [] => throw "Trailing backslash"
      | '\\' :: character :: _ =>
          if character = '(' && !style.extended then opened 2
          else if isOperator && !style.extended then
            skip 2
            return exactly character
          else
            skip 2
            match character with
            | 'w' => return .set true wordMembers
            | 'W' => return .set false wordMembers
            | 's' => return .set true [.named "space".toList]
            | 'S' => return .set false [.named "space".toList]
            | 'b' => return .edge .word
            | 'B' => return .edge .noWord
            | '<' => return .edge .wordStart
            | '>' => return .edge .wordEnd
            | '\x60' => return .edge .textStart
            | '\'' => return .edge .textEnd
            | character =>
                if character.isDigit && character ≠ '0' then
                  let number := character.toNat - 48
                  unless (← get).closed.contains number do throw "Invalid back reference"
                  return .again number
                else
                  match if style.letters then controlLetter? character else none with
                  | some control => return exactly control
                  | none => return exactly character
      | character :: _ =>
          skip 1
          return exactly character

end

def parse (style : Style) (text : Script) : Except String Regex :=
  match (alternatives style false (4 * text.length + 16)).run { text := text } with
  | .error reason => .error reason
  | .ok (regex, progress) =>
      if progress.text.isEmpty then .ok regex else .error "Unmatched ) or \\)"

end Regex

end SchemaBuild.Shell
