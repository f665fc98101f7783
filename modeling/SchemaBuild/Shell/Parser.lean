import SchemaBuild.Shell.Cursor

/-!
# The grammar of scripts

Words and commands are read together, since a word may hold commands. Every function takes a bound
on the depth of the recursion as its first argument; the length of the text is enough for it.
-/

namespace SchemaBuild.Shell

inductive Enclosure where
  | bare
  | braces
  | quotes
  /-- The braces of an expansion between double quotes. More of these may stand inside. -/
  | quotedBraces (inner : Bool)
  | arithmetic (depth : Nat)
  | here
  | regex (depth : Nat)
  deriving DecidableEq

namespace Enclosure

def isQuoted : Enclosure → Bool
  | .bare => false
  | .braces => false
  | .regex _ => false
  | _ => true

def escapes : Enclosure → List Char
  | .here => ['$', '\x60', '\\']
  | .quotedBraces _ => ['$', '\x60', '"', '\\', '\x7d']
  | _ => ['$', '\x60', '"', '\\']

def isActive (enclosure : Enclosure) (character : Char) : Bool :=
  ['\\', '$', '\x60'].contains character ||
    match enclosure with
    | .bare => character = '\'' || character = '"' || endsWord character
    | .braces => ['\'', '"', '\x7d', '\n'].contains character
    | .quotes => character = '"'
    | .quotedBraces _ => character = '"' || character = '\x7d'
    | .arithmetic _ => character = '(' || character = ')'
    | .here => false
    | .regex _ => ['\'', '"', '(', ')', ' ', '\t', '\n'].contains character

def missing : Enclosure → Option String
  | .bare => none
  | .here => none
  | .regex _ => none
  | .braces => some "Missing '\x7d'"
  | .arithmetic _ => some "Missing '))'"
  | _ => some "Unterminated quoted string"

end Enclosure

structure Expect where
  newlines : Bool := false
  reserved : Bool := false
  aliases : Bool := false

inductive ListKind where
  | line
  | body
  | optional
  deriving DecidableEq

def quotedEscape (character : Char) : Option Char :=
  match character with
  | 'a' => some '\x07'
  | 'b' => some '\x08'
  | 'e' => some '\x1b'
  | 'E' => some '\x1b'
  | 'f' => some '\x0c'
  | 'n' => some '\n'
  | 'r' => some '\r'
  | 't' => some '\t'
  | 'v' => some '\x0b'
  | '\\' => some '\\'
  | '\'' => some '\''
  | '"' => some '"'
  | '?' => some '?'
  | _ => none

def digitValue (digit : Char) : Nat :=
  if digit.isDigit then digit.toNat - 48
  else if digit.isLower then digit.toNat - 87
  else digit.toNat - 55

def ofDigits (base : Nat) (digits : Script) : Nat :=
  digits.foldl (fun value digit => value * base + digitValue digit) 0

def isOctalDigit (character : Char) : Bool :=
  '0' ≤ character && character ≤ '7'

def isHexDigit (character : Char) : Bool :=
  character.isDigit || 'a' ≤ character && character ≤ 'f' || 'A' ≤ character && character ≤ 'F'

def codePoint (number : Nat) : Script :=
  (Bytes.ofString (String.singleton (Char.ofNat number))).toLatin

def takeEscaped : Nat → Script → Option (Script × Script)
  | 0, _ => none
  | _ + 1, [] => none
  | _ + 1, '\'' :: rest => some ([], rest)
  | steps + 1, '\\' :: 'x' :: rest =>
      let digits := (rest.take 2).takeWhile isHexDigit
      (takeEscaped steps (rest.drop digits.length)).map fun (taken, rest) =>
        (Char.ofNat (ofDigits 16 digits) :: taken, rest)
  | steps + 1, '\\' :: 'u' :: rest =>
      let digits := (rest.take 4).takeWhile isHexDigit
      (takeEscaped steps (rest.drop digits.length)).map fun (taken, rest) =>
        (codePoint (ofDigits 16 digits) ++ taken, rest)
  | steps + 1, '\\' :: character :: rest =>
      if isOctalDigit character then
        let digits := ((character :: rest).take 3).takeWhile isOctalDigit
        (takeEscaped steps ((character :: rest).drop digits.length)).map fun (taken, rest) =>
          (Char.ofNat (ofDigits 8 digits % 256) :: taken, rest)
      else
        let kept := match quotedEscape character with
          | some escaped => [escaped]
          | none => ['\\', character]
        (takeEscaped steps rest).map fun (taken, rest) => (kept ++ taken, rest)
  | steps + 1, character :: rest =>
      (takeEscaped steps rest).map fun (taken, rest) => (character :: taken, rest)

def takeName (text : Script) : Script × Script :=
  match text with
  | first :: rest =>
      if isNameStart first then (first :: rest.takeWhile isNameRest, rest.dropWhile isNameRest)
      else if first.isDigit then (text.takeWhile Char.isDigit, text.dropWhile Char.isDigit)
      else ([], text)
  | [] => ([], [])

def controlOperators (dialect : Dialect) : List String :=
  (if dialect = .extended then [";;&", ";&", "|&"] else []) ++
    ["&&", "||", ";;", "&", "|", ";", "(", ")"]

def redirectOperators (dialect : Dialect) : List String :=
  (if dialect = .extended then ["<<<"] else []) ++
    ["<<-", "<<", "<&", "<>", "<", ">>", ">|", ">&", ">"]

def isReserved (name : String) : Token → Bool
  | .reserved other => other = name
  | _ => false

def isOperator (text : String) : Token → Bool
  | .operator other => other = text
  | _ => false

def assignment? (dialect : Dialect) (word : Word) : Option Assignment :=
  match word with
  | .text false text :: parts =>
      let name := text.takeWhile isNameRest
      if !isName name then none
      else
        let value := fun (rest : Script) =>
          if rest.isEmpty then parts else Part.text false rest :: parts
        match text.dropWhile isNameRest with
        | '=' :: rest => some (.one name none false (value rest))
        | '+' :: '=' :: rest =>
            if dialect = .extended then some (.one name none true (value rest)) else none
        | '[' :: rest =>
            if dialect = .plain then none
            else
              let subscript := rest.takeWhile (· ≠ ']')
              match rest.dropWhile (· ≠ ']') with
              | ']' :: '=' :: rest =>
                  some (.one name (some [.text false subscript]) false (value rest))
              | ']' :: '+' :: '=' :: rest =>
                  some (.one name (some [.text false subscript]) true (value rest))
              | [] =>
                  -- The subscript itself is expanded, and ends in the text after that.
                  match parts with
                  | .parameter quoted inner sub use :: .text false after :: parts =>
                      match after with
                      | ']' :: '=' :: rest =>
                          some (.one name
                            (some [.text false subscript, .parameter quoted inner sub use])
                            false (if rest.isEmpty then parts else .text false rest :: parts))
                      | _ => none
                  | _ => none
              | _ => none
        | _ => none
  | _ => none

def conditionOperators : List String :=
  ["=", "==", "!=", "=~", "-eq", "-ne", "-lt", "-le", "-gt", "-ge", "-nt", "-ot", "-ef"]

def splitWord (mark : Char) (inQuotes : Bool) : Word → Word × Option Word
  | [] => ([], none)
  | .text quoted text :: parts =>
      if (!quoted || inQuotes) && text.contains mark then
        let before := text.takeWhile (· ≠ mark)
        let after := (text.dropWhile (· ≠ mark)).drop 1
        (if before.isEmpty then [] else [.text quoted before],
          some (if after.isEmpty then parts else .text quoted after :: parts))
      else
        let (before, after) := splitWord mark inQuotes parts
        (.text quoted text :: before, after)
  | part :: parts =>
      let (before, after) := splitWord mark inQuotes parts
      (part :: before, after)

def splitCount (word : Word) : Word × Word × Word :=
  let (start, rest) := splitWord ';' true word
  let (test, step) := splitWord ';' true (rest.getD [])
  (start, test, step.getD [])

namespace Parser

mutual

def wordParts : Nat → Enclosure → Parser Word
  | 0, _ => fail "too deep"
  | steps + 1, enclosure => do
      let text := (← get).rest
      let plain := text.takeWhile (!enclosure.isActive ·)
      unless plain.isEmpty do advance plain (text.dropWhile (!enclosure.isActive ·))
      let parts ← activeParts steps enclosure
      return if plain.isEmpty then parts else .text enclosure.isQuoted plain :: parts

def activeParts : Nat → Enclosure → Parser Word
  | 0, _ => fail "too deep"
  | steps + 1, enclosure => do
      let quoted := enclosure.isQuoted
      let literal := fun (character : Char) (rest : Script) (enclosure : Enclosure) => do
        advance [character] rest
        return Part.text quoted [character] :: (← wordParts steps enclosure)
      match (← get).rest with
      | [] =>
          match enclosure.missing with
          | some reason => fail reason
          | none => return []
      | '\\' :: '\n' :: rest =>
          advance ['\\', '\n'] rest
          wordParts steps enclosure
      | '\\' :: character :: rest =>
          advance ['\\', character] rest
          let isEscape := !quoted || enclosure.escapes.contains character
          let kept := if isEscape then [character] else ['\\', character]
          let kept := if enclosure matches .regex _ then
            if ['(', ')', ' '].contains character then [character] else ['\\', character]
            else kept
          return .text (if enclosure matches .regex _ then false else true) kept ::
            (← wordParts steps enclosure)
      | '$' :: rest =>
          advance ['$'] rest
          let parts ← dollar steps enclosure
          return parts ++ (← wordParts steps enclosure)
      | '\x60' :: rest =>
          match takeMarked quoted rest with
          | none => fail "EOF in backquote substitution"
          | some (source, after) =>
              let start ← get
              set { start with rest := source, pushed := none }
              let body ← listOf steps .optional false []
              set start
              advance ('\x60' :: rest.take (rest.length - after.length)) after
              return .command quoted (.sequence body) :: (← wordParts steps enclosure)
      | '\'' :: rest =>
          match rest.dropWhile (· ≠ '\'') with
          | [] => fail "Unterminated quoted string"
          | _ :: after =>
              let inner := rest.takeWhile (· ≠ '\'')
              advance ('\'' :: inner) after
              return .text true inner :: (← wordParts steps enclosure)
      | '"' :: rest =>
          advance ['"'] rest
          match enclosure with
          | .quotes => return []
          | .quotedBraces inner => wordParts steps (.quotedBraces !inner)
          | _ =>
              let inner ← wordParts steps .quotes
              -- The arguments alone may stand for nothing at all; anything else is a field.
              let inner := match inner with
                | [.parameter true name subscript .value] =>
                    if name = ['@'] || subscript.any fun word => Word.literal word = ['@'] then inner
                    else .text true [] :: inner
                | inner => .text true [] :: inner
              return inner ++ (← wordParts steps enclosure)
      | '\x7d' :: rest =>
          match enclosure with
          | .quotedBraces true => literal '\x7d' rest enclosure
          | _ =>
              advance ['\x7d'] rest
              return []
      | '\n' :: rest =>
          match enclosure with
          | .braces =>
              if ← isExtended then literal '\n' rest enclosure else fail "Missing '\x7d'"
          | _ => return []
      | '(' :: rest =>
          match enclosure with
          | .arithmetic depth => literal '(' rest (.arithmetic (depth + 1))
          | .regex depth => literal '(' rest (.regex (depth + 1))
          | _ => return []
      | ')' :: rest =>
          match enclosure with
          | .arithmetic 0 =>
              advance [')'] rest
              match ← Parser.rest with
              | ')' :: rest =>
                  advance [')'] rest
                  return []
              | _ => return .text quoted [')'] :: (← wordParts steps enclosure)
          | .arithmetic (depth + 1) => literal ')' rest (.arithmetic depth)
          | .regex (depth + 1) => literal ')' rest (.regex depth)
          | _ => return []
      | character :: rest =>
          match enclosure with
          | .regex (_ + 1) => literal character rest enclosure
          | .bare => if character = '\\' then literal '\\' rest enclosure else return []
          | .regex 0 => if character = '\\' then literal '\\' rest enclosure else return []
          | _ => literal character rest enclosure

def dollar : Nat → Enclosure → Parser Word
  | 0, _ => fail "too deep"
  | steps + 1, enclosure => do
      let quoted := enclosure.isQuoted
      match ← rest with
      | '(' :: rest =>
          advance ['('] rest
          match ← Parser.rest with
          | '(' :: rest =>
              advance ['('] rest
              return [.arithmetic quoted (← wordParts steps (.arithmetic 0)).join]
          | _ => return [.command quoted (← enclosedList steps)]
      | '\x7b' :: rest =>
          advance ['\x7b'] rest
          return [← braced steps enclosure]
      | first :: rest =>
          if isNameStart first then
            let name := first :: rest.takeWhile isNameRest
            advance name (rest.dropWhile isNameRest)
            return [.parameter quoted name none .value]
          else if first.isDigit || isSpecialName first then
            advance [first] rest
            return [.parameter quoted [first] none .value]
          else if first = '\'' && !quoted && (← isExtended) then
            match takeEscaped (rest.length + 1) rest with
            | none => fail "Unterminated quoted string"
            | some (text, after) =>
                advance (first :: rest.take (rest.length - after.length)) after
                return [.text true text]
          else if first = '"' && !quoted && (← isExtended) then return []
          else return [.text quoted ['$']]
      | [] => return [.text quoted ['$']]

def enclosedList : Nat → Parser Command
  | 0 => fail "too deep"
  | steps + 1 => do
      let outer := (← get).pushed
      modify fun cursor => { cursor with pushed := none }
      let body ← listOf steps .optional false []
      let token ← readToken steps {}
      if isOperator ")" token then
        modify fun cursor => { cursor with pushed := outer }
        return .sequence body
      else unexpected token (some "\")\"")

def braced : Nat → Enclosure → Parser Part
  | 0, _ => fail "too deep"
  | steps + 1, enclosure => do
      let quoted := enclosure.isQuoted
      let inner : Enclosure := if quoted then .quotedBraces false else .braces
      let text ← rest
      -- A sign before a name asks for its length.
      let isLength := match text with
        | '#' :: first :: second :: _ =>
            isNameRest first || (isSpecialName first && second = '\x7d')
        | _ => false
      let isIndirect := (← isExtended) && match text with
        | '!' :: first :: _ => isNameStart first
        | _ => false
      let start := if isLength || isIndirect then text.drop 1 else text
      let (name, after) := match start with
        | first :: rest =>
            if isNameRest first then takeName start
            else if isSpecialName first then ([first], rest)
            else ([], start)
        | [] => ([], [])
      advance (text.take (text.length - after.length)) after
      let subscript ← match after with
        | '[' :: after =>
            if ← isExtended then
              let source := after.takeWhile (· ≠ ']')
              advance ('[' :: source ++ [']']) ((after.dropWhile (· ≠ ']')).drop 1)
              let current ← get
              set { current with rest := source }
              let word ← wordParts steps .here
              set current
              pure (some word.join)
            else pure none
        | _ => pure none
      let made := fun (use : ParameterUse) => Part.parameter quoted name subscript use
      let after ← rest
      if name.isEmpty then
        discard (wordParts steps inner)
        return made .invalid
      else if isLength then
        match after with
        | '\x7d' :: rest =>
            advance ['\x7d'] rest
            return made .length
        | _ =>
            discard (wordParts steps inner)
            return made .invalid
      else
        match after with
        | '\x7d' :: rest =>
            advance ['\x7d'] rest
            return made (if isIndirect then .indirect else .value)
        | _ => return made (← bracedUse steps inner after)

def bracedUse : Nat → Enclosure → Script → Parser ParameterUse
  | 0, _, _ => fail "too deep"
  | steps + 1, inner, text => do
      let word := fun (operator rest : Script) (enclosure : Enclosure) => do
        advance operator rest
        return (← wordParts steps enclosure).join
      let extended ← isExtended
      match text with
      | ':' :: '-' :: rest => return .orElse true (← word [':', '-'] rest inner)
      | '-' :: rest => return .orElse false (← word ['-'] rest inner)
      | ':' :: '=' :: rest => return .orAssign true (← word [':', '='] rest inner)
      | '=' :: rest => return .orAssign false (← word ['='] rest inner)
      | ':' :: '?' :: rest => return .orFail true (← word [':', '?'] rest inner)
      | '?' :: rest => return .orFail false (← word ['?'] rest inner)
      | ':' :: '+' :: rest => return .ifSet true (← word [':', '+'] rest inner)
      | '+' :: rest => return .ifSet false (← word ['+'] rest inner)
      | '%' :: '%' :: rest => return .trim true true (← word ['%', '%'] rest .braces)
      | '%' :: rest => return .trim true false (← word ['%'] rest .braces)
      | '#' :: '#' :: rest => return .trim false true (← word ['#', '#'] rest .braces)
      | '#' :: rest => return .trim false false (← word ['#'] rest .braces)
      | first :: second :: rest =>
          if !extended then
            discard (wordParts steps inner)
            return .invalid
          else if first = '^' || first = ',' then
            let every := first = second
            advance (if every then [first, second] else [first])
              (if every then rest else second :: rest)
            discard (wordParts steps .braces)
            return .changeCase (first = '^') every
          else if first = '/' then
            let (scope, operator, rest) := match second with
              | '/' => (ReplaceScope.every, ['/', '/'], rest)
              | '#' => (.atStart, ['/', '#'], rest)
              | '%' => (.atEnd, ['/', '%'], rest)
              | _ => (.first, ['/'], second :: rest)
            let parts ← word operator rest .braces
            let (pattern, replacement) := splitWord '/' false parts
            return .replace scope pattern (replacement.getD [])
          else if first = ':' then
            let parts ← word [':'] (second :: rest) inner
            let (offset, length) := splitWord ':' true parts
            return .slice offset length
          else
            discard (wordParts steps inner)
            return .invalid
      | _ =>
          discard (wordParts steps inner)
          return .invalid

def rawToken : Nat → Parser Token
  | 0 => fail "too deep"
  | steps + 1 => do
      match (← get).pushed with
      | some token =>
          modify fun cursor => { cursor with pushed := none }
          return token
      | none =>
          let text ← rest
          match text with
          | [] => return .finish
          | ' ' :: rest =>
              advance [' '] rest
              rawToken steps
          | '\t' :: rest =>
              advance ['\t'] rest
              rawToken steps
          | '#' :: rest =>
              advance [] (rest.dropWhile (· ≠ '\n'))
              rawToken steps
          | '\n' :: rest =>
              advance ['\n'] rest
              return .newline
          | _ =>
              let dialect := (← get).dialect
              let starts := fun (operator : String) => operator.toList.isPrefixOf text
              let digits := if dialect = .extended then text.takeWhile Char.isDigit
                else (text.take 1).takeWhile Char.isDigit
              let afterDigits := text.drop digits.length
              let redirects := (redirectOperators dialect).find? fun operator =>
                operator.toList.isPrefixOf afterDigits
              let isProcess := dialect = .extended &&
                ("<(".toList.isPrefixOf text || ">(".toList.isPrefixOf text)
              let isBoth := dialect = .extended && starts "&>"
              match (controlOperators dialect).find? starts, redirects with
              | some operator, _ =>
                  if isBoth then
                    let operator := if starts "&>>" then "&>>" else "&>"
                    advance [] (text.drop operator.length)
                    return .redirect none operator
                  else
                    advance [] (text.drop operator.length)
                    return .operator operator
              | none, some operator =>
                  if isProcess then
                    advance [] (text.drop 2)
                    let body ← enclosedList steps
                    return .word [.process (starts ">") body]
                  else
                    advance [] (afterDigits.drop operator.length)
                    return .redirect (if digits.isEmpty then none else some (ofDigits 10 digits))
                      operator
              | none, none => return .word (← wordParts steps .bare).join

def readToken : Nat → Expect → Parser Token
  | 0, _ => fail "too deep"
  | steps + 1, expected => do
      match ← rawToken steps with
      | .newline => if expected.newlines then readToken steps expected else return .newline
      | .word word =>
          match word.plain? with
          | none => return .word word
          | some text =>
              let cursor ← get
              if expected.reserved &&
                  (reservedWords cursor.dialect).contains (String.ofList text) then
                return .reserved (String.ofList text)
              else if expected.aliases then
                let left := cursor.rest.length
                let active := cursor.active.filter fun entry => entry.2 < left
                match cursor.aliases.lookup text with
                | some value =>
                    if active.any fun entry => entry.1 = text then return .word word
                    else
                      set { cursor with
                        rest := value ++ ' ' :: cursor.rest
                        active := (text, left) :: active }
                      readToken steps expected
                | none => return .word word
              else return .word word
      | token => return token

def listOf : Nat → ListKind → Bool → List Command → Parser (List Command)
  | 0, _, _, _ => fail "too deep"
  | steps + 1, kind, started, done => do
      let token ← readToken steps ⟨kind ≠ .line, true, true⟩
      match token with
      | .newline => return done.reverse
      | .finish =>
          push .finish
          return done.reverse
      | token =>
          push token
          if (kind = .optional || (kind = .body && started)) && closesList token then
            return done.reverse
          let command ← andOr steps
          let token ← readToken steps {}
          let command := if isOperator "&" token then .background command else command
          match token with
          | .finish =>
              push .finish
              return (command :: done).reverse
          | .newline =>
              push .newline
              listOf steps kind true (command :: done)
          | token =>
              if isOperator "&" token || isOperator ";" token then
                listOf steps kind true (command :: done)
              else if kind = .line then unexpected token none
              else
                push token
                return (command :: done).reverse

def andOr : Nat → Parser Command
  | 0 => fail "too deep"
  | steps + 1 => do
      let first ← pipelineOf steps {}
      andOrRest steps first

def andOrRest : Nat → Command → Parser Command
  | 0, _ => fail "too deep"
  | steps + 1, first => do
      let token ← readToken steps {}
      if isOperator "&&" token then
        andOrRest steps (.andThen first (← pipelineOf steps ⟨true, true, true⟩))
      else if isOperator "||" token then
        andOrRest steps (.orElse first (← pipelineOf steps ⟨true, true, true⟩))
      else
        push token
        return first

def pipelineOf : Nat → Expect → Parser Command
  | 0, _ => fail "too deep"
  | steps + 1, expected => do
      let token ← readToken steps expected
      if isReserved "!" token then
        if ← isExtended then return .negate (← pipelineOf steps ⟨false, true, true⟩)
        else
          match ← stagesOf steps ⟨false, true, true⟩ with
          | [stage] => return .negate stage
          | stages => return .negate (.pipeline stages)
      else if isReserved "time" token then pipelineOf steps ⟨false, true, true⟩
      else
        push token
        match ← stagesOf steps {} with
        | [stage] => return stage
        | stages => return .pipeline stages

def stagesOf : Nat → Expect → Parser (List Command)
  | 0, _ => fail "too deep"
  | steps + 1, expected => do
      let first ← command steps expected
      let token ← readToken steps {}
      if isOperator "|" token then
        return first :: (← stagesOf steps ⟨true, true, true⟩)
      else if isOperator "|&" token then
        let line := (← get).line
        let both := .redirected line first [.duplicate 2 true [.text false ['1']]]
        return both :: (← stagesOf steps ⟨true, true, true⟩)
      else
        push token
        return [first]

def expectReserved : Nat → String → Parser Unit
  | 0, _ => fail "too deep"
  | steps + 1, name => do
      let token ← readToken steps ⟨false, true, false⟩
      unless isReserved name token do unexpected token (some ("\"" ++ name ++ "\""))

def command : Nat → Expect → Parser Command
  | 0, _ => fail "too deep"
  | steps + 1, expected => do
      let token ← readToken steps expected
      let line := (← get).line
      match token with
      | .word word =>
          push (.word word)
          simpleCommand steps
      | .redirect channel operator =>
          push (.redirect channel operator)
          simpleCommand steps
      | .reserved "if" =>
          let body ← branch steps
          expectReserved steps "fi"
          withRedirects steps line body
      | .reserved "while" => loop steps line true
      | .reserved "until" => loop steps line false
      | .reserved "for" => forEach steps line
      | .reserved "case" =>
          let word ← match ← readToken steps {} with
            | .word word => pure word
            | token => unexpected token (some "word")
          let token ← readToken steps ⟨true, true, true⟩
          unless isReserved "in" token do unexpected token (some "\"in\"")
          let arms ← armsOf steps
          withRedirects steps line (.choose line word arms)
      | .reserved "\x7b" =>
          let body ← listOf steps .body false []
          expectReserved steps "\x7d"
          withRedirects steps line (.sequence body)
      | .reserved "[[" =>
          let condition ← conditionOr steps
          match ← readToken steps {} with
          | .word word =>
              if word.plain? = some "]]".toList then
                withRedirects steps line (.condition line condition)
              else unexpected (.word word) (some "\"]]\"")
          | token => unexpected token (some "\"]]\"")
      | .reserved "function" =>
          match ← readToken steps {} with
          | .word word =>
              let token ← readToken steps {}
              if isOperator "(" token then
                let token ← readToken steps {}
                unless isOperator ")" token do unexpected token (some "\")\"")
                return .define word.literal (← command steps ⟨true, true, true⟩)
              else
                push token
                return .define word.literal (← command steps ⟨true, true, true⟩)
          | token => unexpected token none
      | .operator "(" =>
          if (← isExtended) && (← get).rest.head? = some '(' then
            advance ['('] ((← get).rest.drop 1)
            let expression ← wordParts steps (.arithmetic 0)
            withRedirects steps line (.arithmetic line expression.join)
          else
            let body ← listOf steps .body false []
            let token ← readToken steps {}
            unless isOperator ")" token do unexpected token (some "\")\"")
            return .subshell line (.sequence body) (← redirectsOf steps)
      | token => unexpected token none

def withRedirects : Nat → Nat → Command → Parser Command
  | 0, _, _ => fail "too deep"
  | steps + 1, line, body => do
      match ← redirectsOf steps with
      | [] => return body
      | redirects => return .redirected line body redirects

def redirectsOf : Nat → Parser (List Redirect)
  | 0 => fail "too deep"
  | steps + 1 => do
      match ← readToken steps ⟨false, true, true⟩ with
      | .redirect channel operator =>
          let first ← redirection steps channel operator
          return first :: (← redirectsOf steps)
      | token =>
          push token
          return []

def redirection : Nat → Option Nat → String → Parser Redirect
  | 0, _, _ => fail "too deep"
  | steps + 1, channel, operator => do
      if operator = "<<" || operator = "<<-" then
        let start := (← get).rest.dropWhile fun character => character = ' ' || character = '\t'
        let (delimiter, quoted, after) := takeDelimiter start
        if delimiter.isEmpty && !quoted then
          advance [] start
          unexpected (← rawToken steps) none
        let (line, below) := restOfLine [] 'x' after
        let (text, lines, left) :=
          takeHere (operator = "<<-") (!quoted) delimiter (below.length + 1) false below
        let cursor ← get
        let body ← if quoted then pure [Part.text true text]
          else do
            set { cursor with rest := text, line := cursor.line + 1, pushed := none }
            wordParts steps .here
        set { cursor with
          rest := line ++ '\n' :: left
          ahead := cursor.ahead + lines }
        return .here (channel.getD 0) (Word.join body)
      else
        let word ← match ← readToken steps {} with
          | .word word => pure word
          | token => unexpected token none
        match operator with
        | "<<<" => return .here (channel.getD 0) (word ++ [.text true ['\n']])
        | "<" => return .file (channel.getD 0) .read word
        | "<>" => return .file (channel.getD 0) .readWrite word
        | ">" => return .file (channel.getD 1) .write word
        | ">|" => return .file (channel.getD 1) .overwrite word
        | ">>" => return .file (channel.getD 1) .append word
        | "<&" => return .duplicate (channel.getD 0) false word
        | "&>" => return .both false word
        | "&>>" => return .both true word
        | _ =>
            let isNumber := word.plain?.all fun text => text.all Char.isDigit || text = ['-']
            if (← isExtended) && channel.isNone && !isNumber then return .both false word
            else return .duplicate (channel.getD 1) true word

def branch : Nat → Parser Command
  | 0 => fail "too deep"
  | steps + 1 => do
      let condition ← listOf steps .body false []
      expectReserved steps "then"
      let yes ← listOf steps .body false []
      let token ← readToken steps ⟨false, true, false⟩
      if isReserved "elif" token then
        return .branch (.sequence condition) (.sequence yes) (← branch steps)
      else if isReserved "else" token then
        let no ← listOf steps .body false []
        return .branch (.sequence condition) (.sequence yes) (.sequence no)
      else
        push token
        return .branch (.sequence condition) (.sequence yes) (.sequence [])

def loop : Nat → Nat → Bool → Parser Command
  | 0, _, _ => fail "too deep"
  | steps + 1, line, wanted => do
      let condition ← listOf steps .body false []
      expectReserved steps "do"
      let body ← listOf steps .body false []
      expectReserved steps "done"
      withRedirects steps line (.loop wanted (.sequence condition) (.sequence body))

def forEach : Nat → Nat → Parser Command
  | 0, _ => fail "too deep"
  | steps + 1, line => do
      let token ← readToken steps {}
      if isOperator "(" token && (← isExtended) && (← get).rest.head? = some '(' then
        advance ['('] ((← get).rest.drop 1)
        let expression ← wordParts steps (.arithmetic 0)
        let (first, test, step) := splitCount expression.join
        let token ← readToken steps ⟨true, true, true⟩
        unless isOperator ";" token do push token
        let token ← readToken steps ⟨true, true, true⟩
        if isReserved "\x7b" token then
          let body ← listOf steps .body false []
          expectReserved steps "\x7d"
          withRedirects steps line
            (.forCount first test step (.sequence body))
        else
          unless isReserved "do" token do unexpected token (some "\"do\"")
          let body ← listOf steps .body false []
          expectReserved steps "done"
          withRedirects steps line
            (.forCount first test step (.sequence body))
      else
        let name ← match token with
          | .word word =>
              match word.plain? with
              | some name => if isName name then pure name else fail "Bad for loop variable"
              | none => fail "Bad for loop variable"
          | _ => fail "Bad for loop variable"
        let token ← readToken steps ⟨true, true, true⟩
        let words ← if isReserved "in" token then
            pure (some (← forWords steps))
          else do
            unless isOperator ";" token do push token
            pure none
        let token ← readToken steps ⟨true, true, true⟩
        unless isReserved "do" token do unexpected token (some "\"do\"")
        let body ← listOf steps .body false []
        expectReserved steps "done"
        withRedirects steps line (.forEach line name words (.sequence body))

def forWords : Nat → Parser (List Word)
  | 0 => fail "too deep"
  | steps + 1 => do
      match ← readToken steps {} with
      | .word word => return word :: (← forWords steps)
      | .newline => return []
      | token => if isOperator ";" token then return [] else unexpected token none

def armsOf : Nat → Parser (List (List Word × Command × String))
  | 0 => fail "too deep"
  | steps + 1 => do
      let token ← readToken steps ⟨true, true, false⟩
      if isReserved "esac" token then return []
      else
        let patterns ← if isOperator "(" token then patternsOf steps (← readToken steps {})
          else patternsOf steps token
        let body ← listOf steps .optional false []
        let token ← readToken steps ⟨true, true, false⟩
        match token with
        | .reserved "esac" => return [(patterns, .sequence body, ";;")]
        | .operator text =>
            if [";;", ";&", ";;&"].contains text then
              return (patterns, .sequence body, text) :: (← armsOf steps)
            else unexpected token (some "\";;\"")
        | token => unexpected token (some "\";;\"")

def patternsOf : Nat → Token → Parser (List Word)
  | 0, _ => fail "too deep"
  | steps + 1, token => do
      let word ← match token with
        | .word word => pure word
        | .reserved name => pure [Part.text false name.toList]
        | token => unexpected token (some "\")\"")
      let token ← readToken steps {}
      if isOperator "|" token then return word :: (← patternsOf steps (← readToken steps {}))
      else if isOperator ")" token then return [word]
      else unexpected token (some "\")\"")

def simpleCommand : Nat → Parser Command
  | 0 => fail "too deep"
  | steps + 1 => do
      let line := (← get).line
      simpleRest steps line [] [] []

def simpleRest : Nat → Nat → List Assignment → List Word → List Redirect → Parser Command
  | 0, _, _, _, _ => fail "too deep"
  | steps + 1, line, assignments, words, redirects => do
      let finish : Parser Command :=
        return .simple line assignments.reverse words.reverse redirects.reverse
      match ← readToken steps ⟨false, false, words.isEmpty⟩ with
      | .word word =>
          let dialect := (← get).dialect
          let isDeclaration := dialect = .extended && match words.getLast?.bind Word.plain? with
            | some name => ["declare", "typeset", "local", "export", "readonly"].contains
                (String.ofList name)
            | none => false
          match if words.isEmpty || isDeclaration then assignment? dialect word else none with
          | some (.one name subscript appends value) =>
              if dialect = .extended && value.isEmpty && subscript.isNone &&
                  (← get).rest.head? = some '(' then
                advance ['('] ((← get).rest.drop 1)
                let values ← arrayValues steps
                if words.isEmpty then
                  simpleRest steps line (.many name appends values :: assignments) words redirects
                else
                  -- The values of an array that is declared are set right before.
                  simpleRest steps line (.many name appends values :: assignments)
                    ([.text false name] :: words) redirects
              else if words.isEmpty then
                simpleRest steps line (.one name subscript appends value :: assignments) words
                  redirects
              else simpleRest steps line assignments (word :: words) redirects
          | _ => simpleRest steps line assignments (word :: words) redirects
      | .redirect channel operator =>
          let first ← redirection steps channel operator
          simpleRest steps line assignments words (first :: redirects)
      | .operator "(" =>
          match words, assignments, redirects with
          | [word], [], [] =>
              let token ← readToken steps {}
              unless isOperator ")" token do unexpected token (some "\")\"")
              let name := word.literal
              let isBad := word.plain?.isNone || !(← isExtended) &&
                (!isName name || (specialBuiltins .plain).contains (String.ofList name))
              if isBad then fail "Bad function name"
              return .define name (← command steps ⟨true, true, true⟩)
          | _, _, _ =>
              push (.operator "(")
              finish
      | token =>
          push token
          finish

def arrayValues : Nat → Parser (List (Option Word × Word))
  | 0 => fail "too deep"
  | steps + 1 => do
      match ← readToken steps ⟨true, false, false⟩ with
      | .word word =>
          let entry : Option Word × Word := match word with
            | .text false ('[' :: text) :: parts =>
                let subscript := text.takeWhile (· ≠ ']')
                match text.dropWhile (· ≠ ']') with
                | ']' :: '=' :: rest =>
                    (some [.text false subscript],
                      if rest.isEmpty then parts else .text false rest :: parts)
                | _ => (none, word)
            | word => (none, word)
          return entry :: (← arrayValues steps)
      | token => if isOperator ")" token then return [] else unexpected token (some "\")\"")

def conditionOr : Nat → Parser Condition
  | 0 => fail "too deep"
  | steps + 1 => do
      let first ← conditionAnd steps
      let token ← readToken steps ⟨true, false, false⟩
      if isOperator "||" token then return .either first (← conditionOr steps)
      else
        push token
        return first

def conditionAnd : Nat → Parser Condition
  | 0 => fail "too deep"
  | steps + 1 => do
      let first ← conditionOne steps
      let token ← readToken steps ⟨true, false, false⟩
      if isOperator "&&" token then return .both first (← conditionAnd steps)
      else
        push token
        return first

def conditionOne : Nat → Parser Condition
  | 0 => fail "too deep"
  | steps + 1 => do
      let token ← readToken steps ⟨true, false, false⟩
      match token with
      | .operator "(" =>
          let inner ← conditionOr steps
          let token ← readToken steps ⟨true, false, false⟩
          unless isOperator ")" token do unexpected token (some "\")\"")
          return inner
      | .word word =>
          let plain := String.ofList (word.plain?.getD [])
          if plain = "!" then return .negation (← conditionOne steps)
          else
            let next ← readToken steps {}
            let isUnary := plain.length = 2 && plain.toList.head? = some '-' && plain ≠ "--"
            match next with
            | .word other =>
                let operator := other.plain?.getD []
                if conditionOperators.contains (String.ofList operator) then
                  if operator = "=~".toList then
                    let start := (← get).rest.dropWhile fun character =>
                      character = ' ' || character = '\t'
                    advance [] start
                    return .binary operator word (← wordParts steps (.regex 0)).join
                  else
                    match ← readToken steps {} with
                    | .word right => return .binary operator word right
                    | token => unexpected token none
                else if isUnary then return .unary plain.toList other
                else
                  push next
                  return .word word
            | .redirect none operator =>
                match ← readToken steps {} with
                | .word right => return .binary operator.toList word right
                | token => unexpected token none
            | next =>
                push next
                return .word word
      | token => unexpected token none

end

def nextLine : Parser (Option Command) := do
  let steps := 8 * (← get).rest.length + 64
  match ← listOf steps .line false [] with
  | [] =>
      match (← get).pushed with
      | some .finish => return none
      | _ => return some (.sequence [])
  | commands => return some (.sequence commands)

def quotedText : Parser Word := do
  let steps := 8 * (← get).rest.length + 64
  return (← wordParts steps .here).join

end Parser

end SchemaBuild.Shell
