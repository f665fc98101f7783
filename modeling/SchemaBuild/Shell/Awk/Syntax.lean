import SchemaBuild.Shell.Fraction
import SchemaBuild.Shell.Regex.Matching

/-!
# Programs for records

A program for records is a list of rules, each with a pattern and an action, and of functions. This
module holds the tokens and the trees of such programs.
-/

namespace SchemaBuild.Shell.Awk

inductive Token where
  | number (value : Float) (shown : Script)
  | text (text : Script)
  | regex (text : Script)
  | name (name : Script)
  | call (name : Script)
  | word (word : String)
  | sign (sign : String)
  | newline
  | strayEnd
  | broken (reason : Script)

structure Located where
  token : Token
  line : Nat
  depth : Nat
  braces : Nat

structure ExtraSign where
  place : Nat
  line : Nat
  sign : Char

inductive Expression where
  | number (value : Float)
  | text (text : Script)
  | regex (regex : Regex)
  | named (name : Script)
  | element (name : Script) (subscripts : List Expression)
  | field (index : Expression)
  | assign (operator : Option String) (target value : Expression)
  | conditional (condition yes no : Expression)
  | binary (operator : String) (left right : Expression)
  | unary (operator : Char) (operand : Expression)
  /-- Add one or take it away. The value is the one before or after. -/
  | step (isBefore : Bool) (amount : Float) (target : Expression)
  | member (subscripts : List Expression) (name : Script)
  | call (name : Script) (arguments : List Expression)
  | builtin (name : String) (arguments : List Expression)
  | take (target : Option Expression) (source : Option (Bool × Expression))
  | group (inner : Expression)
  deriving Inhabited

inductive Direction where
  | file
  | fileEnd
  | command
  deriving DecidableEq

inductive Statement where
  | expression (expression : Expression)
  | print (values : List Expression) (target : Option (Direction × Expression))
  | format (values : List Expression) (target : Option (Direction × Expression))
  | choose (condition : Expression) (yes : Statement) (no : Option Statement)
  | loop (condition : Expression) (body : Statement)
  | loopAfter (body : Statement) (condition : Expression)
  | count (start : Option Statement) (condition : Option Expression) (step : Option Statement)
      (body : Statement)
  | each (name array : Script) (body : Statement)
  | block (statements : List Statement)
  | delete (name : Script) (subscripts : List Expression)
  | next
  | nextFile
  | leave (value : Option Expression)
  | finish (status : Option Expression)
  | leaveLoop
  | nextRound
  deriving Inhabited

inductive Pattern where
  | always
  | first
  | last
  | holds (condition : Expression)
  | range (start stop : Expression)

structure Rule where
  pattern : Pattern
  action : Option Statement

structure Function where
  name : Script
  parameters : List Script
  body : Statement

structure Program where
  rules : List Rule := []
  functions : List Function := []

def keywords : List String :=
  ["BEGIN", "END", "function", "if", "else", "while", "for", "do", "break", "continue",
    "next", "nextfile", "exit", "return", "delete", "in", "getline", "print", "printf"]

def builtins : List String :=
  ["length", "substr", "index", "split", "sub", "gsub", "match", "sprintf", "sin", "cos", "atan2",
    "exp", "log", "sqrt", "int", "rand", "srand", "tolower", "toupper", "system", "close",
    "fflush"]

/-! ## Tokens -/

def signs : List String :=
  ["&&", "||", "==", "!=", "<=", ">=", "++", "--", "+=", "-=", "*=", "/=", "%=", "^=", ">>", "!~",
    "\x7b", "\x7d", "(", ")", "[", "]", ";", ",", "+", "-", "*", "%", "^", "!", ">", "<", "|", "?",
    ":", "~", "$", "=", "/"]

def unescaped : Nat → Script → Script
  | 0, _ => []
  | _ + 1, [] => []
  | _ + 1, ['\\'] => ['\\']
  | steps + 1, '\\' :: letter :: rest =>
      if isOctalDigit letter then
        let digits := ((letter :: rest).take 3).takeWhile isOctalDigit
        Char.ofNat (ofDigits 8 digits % 256) ::
          unescaped steps ((letter :: rest).drop digits.length)
      else
        match letter with
        | 'n' => '\n' :: unescaped steps rest
        | 't' => '\t' :: unescaped steps rest
        | 'r' => '\r' :: unescaped steps rest
        | 'a' => '\x07' :: unescaped steps rest
        | 'b' => '\x08' :: unescaped steps rest
        | 'f' => '\x0c' :: unescaped steps rest
        | 'v' => '\x0b' :: unescaped steps rest
        | '"' => '"' :: unescaped steps rest
        | '\\' => '\\' :: unescaped steps rest
        | 'x' =>
            let digits := (rest.take 2).takeWhile isHexDigit
            if digits.isEmpty then '\\' :: 'x' :: unescaped steps rest
            else Char.ofNat (ofDigits 16 digits) :: unescaped steps (rest.drop digits.length)
        | '\n' => unescaped steps rest
        | letter => '\\' :: letter :: unescaped steps rest
  | steps + 1, character :: rest => character :: unescaped steps rest

def upToMark (mark : Char) : Nat → Script → Option (Script × Script)
  | 0, _ => none
  | _ + 1, [] => none
  | _ + 1, '\n' :: _ => none
  | steps + 1, '\\' :: character :: rest =>
      (upToMark mark steps rest).map fun (text, rest) => ('\\' :: character :: text, rest)
  | steps + 1, character :: rest =>
      if character = mark then some ([], rest)
      else (upToMark mark steps rest).map fun (text, rest) => (character :: text, rest)

/-- Take a regular expression up to the slash that ends it, which does not stand in brackets. The
number tells how many characters into brackets reading is, and zero that it is not. -/
def upToSlash : Nat → Nat → Script → Option (Script × Script)
  | 0, _, _ => none
  | _ + 1, _, [] => none
  | _ + 1, _, '\n' :: _ => none
  | steps + 1, inside, '\\' :: character :: rest =>
      (upToSlash steps (if inside = 0 then 0 else inside + 1) rest).map fun (text, rest) =>
        ('\\' :: character :: text, rest)
  | steps + 1, inside, character :: rest =>
      if character = '/' && inside = 0 then some ([], rest)
      else
        let inside := match inside, character with
          | 0, '[' => 1
          | 0, _ => 0
          | 1, '^' => 1
          | 1, _ => 2
          | _, ']' => 0
          | inside, _ => inside
        (upToSlash steps inside rest).map fun (text, rest) => (character :: text, rest)

def endsOperand : Option Token → Bool
  | some (.number _ _) => true
  | some (.text _) => true
  | some (.regex _) => true
  | some (.name _) => true
  | some (.word word) => builtins.contains word
  | some (.sign sign) => [")", "]", "$", "++", "--"].contains sign
  | _ => false

structure Scanning where
  before : Option Token := none
  line : Nat := 1
  depth : Nat := 0
  braces : Nat := 0
  isStray : Bool := false
  count : Nat := 0

def joinsLines : Option Token → Bool
  | some (.sign sign) => [",", "\x7b", "&&", "||", ";"].contains sign
  | some (.word word) => word = "do" || word = "else"
  | _ => false

def shownCharacter (character : Char) : Script :=
  if 32 ≤ character.toNat && character.toNat < 127 then ['\'', character, '\'']
  else '0' :: 'x' :: (let digits := Nat.toDigits 16 character.toNat
    List.replicate (2 - digits.length) '0' ++ digits)

def scan : Nat → Scanning → Script → List Located × List ExtraSign
  | 0, _, _ => ([], [])
  | _ + 1, _, [] => ([], [])
  | steps + 1, state, character :: rest =>
      let text := character :: rest
      let lines := fun (rest : Script) => (text.take (text.length - rest.length)).count '\n'
      let skip := fun (rest : Script) =>
        scan steps { state with line := state.line + lines rest } rest
      let more := fun (state : Scanning) (token : Token) (rest : Script) =>
        let (others, extra) := scan steps
          { state with
            before := some token
            line := state.line + lines rest
            count := state.count + 1
            isStray := false } rest
        (⟨token, state.line, state.depth, state.braces⟩ :: others, extra)
      let token := more state
      let extra := fun (sign : Char) (state : Scanning) =>
        let (others, extra) := scan steps state rest
        (others, ⟨state.count, state.line, sign⟩ :: extra)
      let broken := fun (reason : Script) =>
        ([Located.mk (.broken reason) state.line state.depth state.braces], ([] : List ExtraSign))
      if character = ' ' || character = '\t' || character = '\r' then skip rest
      else if character = '\n' then
        if state.isStray then token .strayEnd rest
        else if joinsLines state.before then skip rest
        else
          let (others, extra) := scan steps
            { state with
              before := some .newline, line := state.line + 1, depth := 0, count := state.count + 1 }
            rest
          (⟨.newline, state.line, state.depth, state.braces⟩ :: others, extra)
      else if character = '#' then skip (rest.dropWhile (· ≠ '\n'))
      else if character = '\\' && rest.head? = some '\n' then skip (rest.drop 1)
      else if character = '"' then
        match upToMark '"' (rest.length + 1) rest with
        | some (inside, rest) => token (.text (unescaped (inside.length + 1) inside)) rest
        | none =>
            broken ("runaway string constant ".toList ++ text.takeWhile (· ≠ '\n') ++ " ...".toList)
      else if character = '/' && !endsOperand state.before then
        match upToSlash (rest.length + 1) 0 rest with
        | some (inside, rest) => token (.regex inside) rest
        | none =>
            broken ("runaway regular expression ".toList ++ text.takeWhile (· ≠ '\n') ++
              " ...".toList)
      else if character.isDigit || character = '.' && (rest.head?).any Char.isDigit then
        match Fraction.takeDecimal? text with
        | some (value, after) =>
            token (.number value (text.take (text.length - after.length))) after
        | none => broken "bad number".toList
      else if character.isAlpha || character = '_' then
        let name := text.takeWhile isNameRest
        let rest := text.drop name.length
        let spelled := String.ofList name
        if spelled = "BEGIN" || spelled = "END" then
          -- Braces that are still open here stay open.
          let (others, extra) := scan steps
            { state with before := some (.word spelled), braces := 0, count := state.count + 1 } rest
          (⟨.word spelled, state.line, state.depth, state.braces⟩ :: others, extra)
        else if keywords.contains spelled || builtins.contains spelled then
          token (.word spelled) rest
        else if rest.head? = some '(' then token (.call name) rest
        else token (.name name) rest
      else
        match signs.find? fun sign => sign.toList.isPrefixOf text with
        | none => broken ("unexpected character ".toList ++ shownCharacter character)
        | some "(" => more { state with depth := state.depth + 1 } (.sign "(") rest
        | some ")" =>
            if state.depth = 0 then
              extra ')' { state with isStray := state.braces = 0 && state.before.isNone }
            else more { state with depth := state.depth - 1 } (.sign ")") rest
        | some "\x7b" => more { state with braces := state.braces + 1 } (.sign "\x7b") rest
        | some "\x7d" =>
            if state.braces = 0 then extra '\x7d' { state with isStray := true }
            else
              let (others, extra) := scan steps
                { state with
                  before := some (.sign "\x7d")
                  depth := 0
                  braces := state.braces - 1
                  count := state.count + 1 } rest
              (⟨.sign "\x7d", state.line, state.depth, state.braces⟩ :: others, extra)
        | some sign => token (.sign sign) (text.drop sign.length)

end SchemaBuild.Shell.Awk
