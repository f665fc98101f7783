import SchemaBuild.Shell.Command

/-!
# Reading scripts

A script is read from front to back. The cursor holds what is left of it, with the number of the
current line, and at most one token that was looked at and put back.
-/

namespace SchemaBuild.Shell

inductive Token where
  | word (word : Word)
  | reserved (name : String)
  | operator (text : String)
  | newline
  | redirect (channel : Option Nat) (operator : String)
  | finish

instance : Inhabited Token := ⟨.finish⟩

structure SyntaxError where
  line : Nat
  message : Script

structure Cursor where
  rest : Script
  line : Nat := 1
  ahead : Nat := 0
  pushed : Option Token := none
  dialect : Dialect := .plain
  aliases : List (Script × Script) := []
  active : List (Script × Nat) := []

abbrev Parser := StateT Cursor (Except SyntaxError)

namespace Parser

def fail {α : Type} (message : String) : Parser α := do
  throw ⟨(← get).line, message.toList⟩

def tokenName : Token → String
  | .word _ => "word"
  | .reserved name => "\"" ++ name ++ "\""
  | .operator text => "\"" ++ text ++ "\""
  | .newline => "newline"
  | .redirect _ _ => "redirection"
  | .finish => "end of file"

def unexpected {α : Type} (token : Token) (wanted : Option String) : Parser α :=
  match wanted with
  | none => fail (tokenName token ++ " unexpected")
  | some wanted => fail (tokenName token ++ " unexpected (expecting " ++ wanted ++ ")")

def advance (taken rest : Script) : Parser Unit :=
  modify fun cursor =>
    let lines := taken.count '\n'
    if lines = 0 then { cursor with rest := rest }
    else { cursor with rest := rest, line := cursor.line + lines + cursor.ahead, ahead := 0 }

def push (token : Token) : Parser Unit :=
  modify fun cursor => { cursor with pushed := some token }

def isExtended : Parser Bool :=
  return (← get).dialect = .extended

def joinedLines : Script → Nat
  | '\\' :: '\n' :: rest => joinedLines rest + 1
  | _ => 0

def rest : Parser Script := do
  let cursor ← get
  match joinedLines cursor.rest with
  | 0 => return cursor.rest
  | lines =>
      let rest := cursor.rest.drop (2 * lines)
      advance (cursor.rest.take (2 * lines)) rest
      return rest

end Parser

def isBlank (character : Char) : Bool :=
  character = ' ' || character = '\t'

/-! ## Names -/

def isNameStart (character : Char) : Bool :=
  character.isAlpha || character = '_'

def isNameRest (character : Char) : Bool :=
  character.isAlphanum || character = '_'

def isName : Script → Bool
  | first :: rest => isNameStart first && rest.all isNameRest
  | [] => false

def isSpecialName (character : Char) : Bool :=
  ['@', '*', '#', '?', '$', '!', '-'].contains character

def specialBuiltins (dialect : Dialect) : List String :=
  [".", ":", "break", "continue", "eval", "exec", "exit", "export", "readonly", "return", "set",
    "shift", "times", "trap", "unset"] ++
    if dialect = .plain then ["local"] else []

def reservedWords (dialect : Dialect) : List String :=
  ["!", "case", "do", "done", "elif", "else", "esac", "fi", "for", "if", "in", "then", "until",
    "while", "\x7b", "\x7d"] ++
    if dialect = .extended then ["[[", "function", "time"] else []

def closesList : Token → Bool
  | .finish => true
  | .operator text => [")", ";;", ";&", ";;&"].contains text
  | .reserved name =>
      ["do", "done", "elif", "else", "esac", "fi", "then", "\x7d"].contains name
  | _ => false

def endsWord (character : Char) : Bool :=
  [' ', '\t', '\n', ';', '&', '|', '<', '>', '(', ')'].contains character

/-! ## Text that follows in the script -/

inductive Nesting where
  | parenthesis
  | single
  | double
  | backquote
  deriving DecidableEq

/-- The current line up to its end, which is not inside of quotes or parentheses, and what comes
after it. The second argument is the character before. -/
def restOfLine : List Nesting → Char → Script → Script × Script
  | _, _, [] => ([], [])
  | .single :: outer, _, character :: rest =>
      let (line, rest) := restOfLine (if character = '\'' then outer else .single :: outer)
        character rest
      (character :: line, rest)
  | nesting, _, '\\' :: character :: rest =>
      let (line, rest) := restOfLine nesting 'x' rest
      ('\\' :: character :: line, rest)
  | nesting, before, character :: rest =>
      if character = '\n' && nesting.isEmpty then ([], rest)
      else if character = '#' && nesting.isEmpty && endsWord before then
        ([], ((character :: rest).dropWhile (· ≠ '\n')).drop 1)
      else
        let next := match nesting, character with
          | .double :: outer, '"' => outer
          | .double :: outer, '(' =>
              if before = '$' then .parenthesis :: .double :: outer else .double :: outer
          | .double :: outer, _ => .double :: outer
          | .backquote :: outer, '\x60' => outer
          | outer, '\x60' => .backquote :: outer
          | .backquote :: outer, _ => .backquote :: outer
          | .parenthesis :: outer, ')' => outer
          | outer, '\'' => .single :: outer
          | outer, '"' => .double :: outer
          | outer, '(' => .parenthesis :: outer
          | outer, _ => outer
        let (line, rest) := restOfLine next character rest
        (character :: line, rest)

def isContinued (line : Script) : Bool :=
  (line.reverse.takeWhile (· = '\\')).length % 2 = 1

/-- Take lines up to one that equals the delimiter. Tabs at the start are dropped if `indented`. In
text that is expanded a line may go on with the next one, which is then no delimiter. The number of
lines comes with them. -/
def takeHere (indented expands : Bool) (delimiter : Script) :
    Nat → Bool → Script → Script × Nat × Script
  | 0, _, text => ([], 0, text)
  | _ + 1, _, [] => ([], 0, [])
  | steps + 1, continues, text =>
      let line := text.takeWhile (· ≠ '\n')
      let ending := text.dropWhile (· ≠ '\n')
      let rest := ending.drop 1
      let line := if indented && !continues then line.dropWhile (· = '\t') else line
      if line = delimiter && !continues then ([], 1, rest)
      else
        let (body, lines, rest) :=
          takeHere indented expands delimiter steps (expands && isContinued line) rest
        (line ++ ending.take 1 ++ body, lines + 1, rest)

def takeDelimiter : Script → Script × Bool × Script
  | '\\' :: character :: rest =>
      let (delimiter, _, rest) := takeDelimiter rest
      (character :: delimiter, true, rest)
  | '\'' :: rest =>
      let inner := rest.takeWhile (· ≠ '\'')
      (inner ++ ((rest.dropWhile (· ≠ '\'')).drop 1).takeWhile (!endsWord ·), true,
        ((rest.dropWhile (· ≠ '\'')).drop 1).dropWhile (!endsWord ·))
  | '"' :: rest =>
      let inner := rest.takeWhile (· ≠ '"')
      (inner ++ ((rest.dropWhile (· ≠ '"')).drop 1).takeWhile (!endsWord ·), true,
        ((rest.dropWhile (· ≠ '"')).drop 1).dropWhile (!endsWord ·))
  | character :: rest =>
      if endsWord character then ([], false, character :: rest)
      else
        let (delimiter, quoted, rest) := takeDelimiter rest
        (character :: delimiter, quoted, rest)
  | [] => ([], false, [])

/-- Take the text of an old-style substitution up to its closing mark. A backslash keeps its
meaning only before a dollar, a mark or a backslash, and between double quotes before one. -/
def takeMarked (quoted : Bool) : Script → Option (Script × Script)
  | [] => none
  | '\x60' :: rest => some ([], rest)
  | '\\' :: '\n' :: rest => takeMarked quoted rest
  | '\\' :: character :: rest =>
      let isPlain := character = '$' || character = '\x60' || character = '\\' ||
        quoted && character = '"'
      let kept := if isPlain then [character] else ['\\', character]
      (takeMarked quoted rest).map fun (taken, rest) => (kept ++ taken, rest)
  | character :: rest =>
      (takeMarked quoted rest).map fun (taken, rest) => (character :: taken, rest)

end SchemaBuild.Shell
