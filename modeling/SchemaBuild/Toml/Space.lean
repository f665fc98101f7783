import SchemaBuild.Toml.Value

/-!
# Blanks, comments and the ends of lines
-/

namespace SchemaBuild.Toml

def isSpace (character : Char) : Bool :=
  character = ' ' || character = '\t'

def isCommentCharacter (character : Char) : Bool :=
  character = '\t' || (0x20 ≤ character.toNat && character.toNat ≠ 0x7f)

def skipSpace (text : List Char) : List Char :=
  text.dropWhile isSpace

def newline? : List Char → Option (List Char)
  | '\n' :: rest => some rest
  | '\r' :: '\n' :: rest => some rest
  | _ => none

def lineEnd? (text : List Char) : Option (List Char) :=
  let rest := match skipSpace text with
    | '#' :: comment => comment.dropWhile isCommentCharacter
    | other => other
  match rest with
  | [] => some []
  | other => newline? other

/-- Skip blanks, ends of lines and comments between the items of an array. A comment ends with
its line; what it may not hold is left in front, where nothing accepts it. -/
def skipLines (inComment : Bool) : List Char → List Char
  | [] => []
  | '\n' :: rest => skipLines false rest
  | '\r' :: '\n' :: rest => skipLines false rest
  | character :: rest =>
      if inComment then
        if isCommentCharacter character then skipLines true rest else character :: rest
      else if isSpace character then skipLines false rest
      else if character = '#' then skipLines true rest
      else character :: rest

end SchemaBuild.Toml
