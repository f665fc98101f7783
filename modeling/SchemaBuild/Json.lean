/-!
# JSON text

Values and their text over several lines, with two blanks per level. Members of an object keep
their order.
-/

namespace SchemaBuild

inductive Json where
  | null
  | bool (value : Bool)
  | string (text : String)
  | array (items : List Json)
  | object (members : List (String × Json))
  deriving Inhabited

namespace Json

def strings (texts : List String) : Json :=
  .array (texts.map Json.string)

/-- How a character stands in a string. Only quotes, backslashes and the controls below the space
are escaped. -/
def quoteCharacter (character : Char) : List Char :=
  match character with
  | '"' => ['\\', '"']
  | '\\' => ['\\', '\\']
  | '\x08' => ['\\', 'b']
  | '\t' => ['\\', 't']
  | '\n' => ['\\', 'n']
  | '\x0c' => ['\\', 'f']
  | '\r' => ['\\', 'r']
  | other =>
      if other.toNat < 0x20 then
        '\\' :: 'u' :: '0' :: '0' :: Nat.digitChar (other.toNat / 16) ::
          [Nat.digitChar (other.toNat % 16)]
      else [other]

def quote (text : String) : String :=
  String.ofList ('"' :: text.toList.flatMap quoteCharacter ++ ['"'])

def indentation (width : Nat) : String :=
  String.ofList (List.replicate width ' ')

mutual

def render (indent : Nat) : Json → String
  | .null => "null"
  | .bool true => "true"
  | .bool false => "false"
  | .string text => quote text
  | .array [] => "[]"
  | .array items =>
      "[\n" ++ renderItems (indent + 2) items ++ "\n" ++ indentation indent ++ "]"
  | .object [] => "\x7b\x7d"
  | .object members =>
      "\x7b\n" ++ renderMembers (indent + 2) members ++ "\n" ++ indentation indent ++ "\x7d"

def renderItems (indent : Nat) : List Json → String
  | [] => ""
  | [item] => indentation indent ++ render indent item
  | item :: rest => indentation indent ++ render indent item ++ ",\n" ++ renderItems indent rest

def renderMembers (indent : Nat) : List (String × Json) → String
  | [] => ""
  | [(name, value)] => indentation indent ++ quote name ++ ": " ++ render indent value
  | (name, value) :: rest =>
      indentation indent ++ quote name ++ ": " ++ render indent value ++ ",\n" ++
        renderMembers indent rest

end

end Json

end SchemaBuild
