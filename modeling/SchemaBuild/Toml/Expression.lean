import SchemaBuild.Toml.Item
import SchemaBuild.Toml.Moment

/-!
# Keys and values

Values nest in arrays and in tables on one line. The depth of nesting and the length of dotted
keys are limited.
-/

namespace SchemaBuild.Toml

def nestingLimit : Nat := 127

/-! ## Keys -/

def isKeyCharacter (character : Char) : Bool :=
  character.isAlphanum || character = '-' || character = '_'

def simpleKey? : Reader String
  | '"' :: rest => (basicString rest).map fun (text, rest) => (String.ofList text, rest)
  | '\'' :: rest => (literalString rest).map fun (text, rest) => (String.ofList text, rest)
  | text =>
      let key := text.takeWhile isKeyCharacter
      if key.isEmpty then none else some (String.ofList key, text.dropWhile isKeyCharacter)

/-- A key with dots between its parts and blanks around them. The reader goes on after a dot as
long as the text gets shorter, which it always does. -/
def keyParts? (text : List Char) : Option (List String × List Char) :=
  match simpleKey? (skipSpace text) with
  | none => none
  | some (part, rest) =>
      match skipSpace rest with
      | '.' :: after =>
          if after.length < text.length then
            (keyParts? after).map fun (parts, rest) => (part :: parts, rest)
          else none
      | rest => some ([part], rest)
termination_by text.length

def key? (text : List Char) : Option ((List String × String) × List Char) := do
  let (parts, rest) ← keyParts? text
  if parts.length ≤ nestingLimit then
    let last ← parts.getLast?
    some ((parts.dropLast, last), rest)
  else none

/-! ## Values -/

abbrev Assignment := (List String × String) × Value

def arrayItems (value? : Reader Value) (text : List Char) : Option (List Value × List Char) :=
  match skipLines false text with
  | ']' :: rest => some ([], rest)
  | start =>
      match value? start with
      | none => none
      | some (item, rest) =>
          match skipLines false rest with
          | ']' :: rest => some ([item], rest)
          | ',' :: after =>
              if after.length < text.length then
                (arrayItems value? after).map fun (items, rest) => (item :: items, rest)
              else none
          | _ => none
termination_by text.length

def assignment? (value? : Reader Value) (text : List Char) :
    Option (Assignment × List Char) := do
  let (key, rest) ← key? text
  let rest ← take? '=' rest
  let (value, rest) ← value? (skipSpace rest)
  some ((key, value), skipSpace rest)

/-- The assignments of a table on one line up to its closing brace. There is one at least, and no
comma after the last. -/
def tableItems (value? : Reader Value) (text : List Char) :
    Option (List Assignment × List Char) :=
  match assignment? value? text with
  | none => none
  | some (first, rest) =>
      match rest with
      | '\x7d' :: rest => some ([first], rest)
      | ',' :: after =>
          if after.length < text.length then
            (tableItems value? after).map fun (others, rest) => (first :: others, rest)
          else none
      | _ => none
termination_by text.length

/-- Add an assignment to a table on one line. Dotted keys make tables on their way, and may add
to any table that is there. -/
def assignInline (key : String) (value : Value) : List String → List (String × Value) →
    Option (List (String × Value))
  | [], entries =>
      if (entries.lookup key).isSome then none else some (entries ++ [(key, value)])
  | part :: path, entries =>
      match entries.lookup part with
      | none => (assignInline key value path []).map fun inner =>
          entries ++ [(part, .table inner)]
      | some (.table inner) => (assignInline key value path inner).map fun inner =>
          entries.map fun entry => if entry.1 = part then (part, .table inner) else entry
      | some _ => none

def inlineTable? (assignments : List Assignment) : Option Value :=
  (assignments.foldlM (fun entries assignment =>
    assignInline assignment.1.2 assignment.2 assignment.1.1 entries) []).map Value.table

def scalarValue? : Reader Value
  | 't' :: 'r' :: 'u' :: 'e' :: rest => some (.boolean true, rest)
  | 'f' :: 'a' :: 'l' :: 's' :: 'e' :: rest => some (.boolean false, rest)
  | '"' :: rest => (string? ('"' :: rest)).map fun (text, rest) => (.string text, rest)
  | '\'' :: rest => (string? ('\'' :: rest)).map fun (text, rest) => (.string text, rest)
  | text =>
      moment? text <|> plainFloat? text <|> specialFloat? text <|> integer? text

def value? : Nat → Reader Value
  | 0, '[' :: _ => none
  | depth + 1, '[' :: rest =>
      (arrayItems (value? depth) rest).map fun (items, rest) => (.array items, rest)
  | 0, '\x7b' :: _ => none
  | depth + 1, '\x7b' :: rest =>
      match skipSpace rest with
      | '\x7d' :: rest => some (.table [], rest)
      | start => do
          let (assignments, rest) ← tableItems (value? depth) start
          some (← inlineTable? assignments, rest)
  | _, text => scalarValue? text

end SchemaBuild.Toml
