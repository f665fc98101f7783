import SchemaBuild.Toml.Space

/-!
# Quoted strings

The four kinds of strings: in double quotes with escapes or in single quotes without, each on one
line or, between three quotes, on several. Each reader starts after the opening quotes and takes
the closing ones.
-/

namespace SchemaBuild.Toml

def isBasicCharacter (character : Char) : Bool :=
  isCommentCharacter character && character ≠ '\\'

def hexDigit? (character : Char) : Option Nat :=
  let code := character.toNat
  if 0x30 ≤ code && code ≤ 0x39 then some (code - 0x30)
  else if 0x41 ≤ code && code ≤ 0x46 then some (code - 0x37)
  else if 0x61 ≤ code && code ≤ 0x66 then some (code - 0x57)
  else none

def scalar? (digits : List Char) : Option Char := do
  let values ← digits.mapM hexDigit?
  let code := values.foldl (fun number digit => number * 16 + digit) 0
  if code.isValidChar then some (Char.ofNat code) else none

def escape? : Char → Option Char
  | 'b' => some '\x08'
  | 't' => some '\t'
  | 'n' => some '\n'
  | 'f' => some '\x0c'
  | 'r' => some '\r'
  | '"' => some '"'
  | '\\' => some '\\'
  | _ => none

def consRead (character : Char) : Option (List Char × List Char) → Option (List Char × List Char) :=
  Option.map fun (text, rest) => (character :: text, rest)

def basicString : Reader (List Char)
  | [] => none
  | '"' :: rest => some ([], rest)
  | '\\' :: 'u' :: a :: b :: c :: d :: rest => do
      consRead (← scalar? [a, b, c, d]) (basicString rest)
  | '\\' :: 'U' :: a :: b :: c :: d :: e :: f :: g :: h :: rest => do
      consRead (← scalar? [a, b, c, d, e, f, g, h]) (basicString rest)
  | '\\' :: letter :: rest => do
      consRead (← escape? letter) (basicString rest)
  | character :: rest =>
      if isBasicCharacter character then consRead character (basicString rest) else none

def literalString : Reader (List Char)
  | [] => none
  | '\'' :: rest => some ([], rest)
  | character :: rest =>
      if isCommentCharacter character then consRead character (literalString rest) else none

def endsLine (text : List Char) : Bool :=
  (newline? (skipSpace text)).isSome

/-- The rest of a string between three double quotes. Up to two quotes may stand before the
closing ones. A backslash at the end of a line joins it with the next text, and while `joining`
all blanks and ends of lines are skipped. -/
def basicLines (joining : Bool) : Reader (List Char)
  | [] => none
  | '"' :: '"' :: '"' :: '"' :: '"' :: rest => some (['"', '"'], rest)
  | '"' :: '"' :: '"' :: '"' :: rest => some (['"'], rest)
  | '"' :: '"' :: '"' :: rest => some ([], rest)
  | '\r' :: '\n' :: rest =>
      if joining then basicLines true rest else consRead '\n' (basicLines false rest)
  | '\\' :: 'u' :: a :: b :: c :: d :: rest => do
      consRead (← scalar? [a, b, c, d]) (basicLines false rest)
  | '\\' :: 'U' :: a :: b :: c :: d :: e :: f :: g :: h :: rest => do
      consRead (← scalar? [a, b, c, d, e, f, g, h]) (basicLines false rest)
  | '\\' :: letter :: rest =>
      if endsLine (letter :: rest) then basicLines true (letter :: rest)
      else do consRead (← escape? letter) (basicLines false rest)
  | character :: rest =>
      if joining && (isSpace character || character = '\n') then basicLines true rest
      else if character = '\n' || isBasicCharacter character then
        consRead character (basicLines false rest)
      else none

def literalLines : Reader (List Char)
  | [] => none
  | '\'' :: '\'' :: '\'' :: '\'' :: '\'' :: rest => some (['\'', '\''], rest)
  | '\'' :: '\'' :: '\'' :: '\'' :: rest => some (['\''], rest)
  | '\'' :: '\'' :: '\'' :: rest => some ([], rest)
  | '\r' :: '\n' :: rest => consRead '\n' (literalLines rest)
  | character :: rest =>
      if character = '\n' || isCommentCharacter character then
        consRead character (literalLines rest)
      else none

def dropNewline (text : List Char) : List Char :=
  (newline? text).getD text

def string? : Reader String
  | '"' :: '"' :: '"' :: rest =>
      (basicLines false (dropNewline rest)).map fun (text, rest) => (String.ofList text, rest)
  | '\'' :: '\'' :: '\'' :: rest =>
      (literalLines (dropNewline rest)).map fun (text, rest) => (String.ofList text, rest)
  | '"' :: rest => (basicString rest).map fun (text, rest) => (String.ofList text, rest)
  | '\'' :: rest => (literalString rest).map fun (text, rest) => (String.ofList text, rest)
  | _ => none

end SchemaBuild.Toml
