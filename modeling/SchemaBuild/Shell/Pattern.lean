import SchemaBuild.Shell.Command

/-!
# Patterns

The patterns by which the shell matches text and names of files.
-/

namespace SchemaBuild.Shell

/-! ## Character classes -/

def characterClass? (name : Script) : Option (Char → Bool) :=
  match String.ofList name with
  | "alpha" => some Char.isAlpha
  | "digit" => some Char.isDigit
  | "alnum" => some Char.isAlphanum
  | "upper" => some Char.isUpper
  | "lower" => some Char.isLower
  | "space" => some fun character => [' ', '\t', '\n', '\r', '\x0b', '\x0c'].contains character
  | "blank" => some fun character => character = ' ' || character = '\t'
  | "punct" => some fun character =>
      33 ≤ character.toNat && character.toNat ≤ 126 && !character.isAlphanum
  | "print" => some fun character => 32 ≤ character.toNat && character.toNat ≤ 126
  | "graph" => some fun character => 33 ≤ character.toNat && character.toNat ≤ 126
  | "cntrl" => some fun character => character.toNat < 32 || character.toNat = 127
  | "xdigit" => some fun character =>
      character.isDigit || ('a' ≤ character && character ≤ 'f') ||
        ('A' ≤ character && character ≤ 'F')
  | _ => none

inductive SetMember where
  | range (first last : Char)
  | named (name : Script)
  deriving DecidableEq, Repr

namespace SetMember

def accepts (member : SetMember) (character : Char) : Bool :=
  match member with
  | .range first last => first ≤ character && character ≤ last
  | .named name => (characterClass? name).any fun test => test character

end SetMember

inductive PatternItem where
  | exactly (character : Char)
  | anyOne
  | anyMany
  | oneOf (inside : Bool) (members : List SetMember)
  deriving DecidableEq, Repr

abbrev Pattern := List PatternItem

namespace Pattern

def takeClass (text : List (Char × Bool)) : Option (Script × List (Char × Bool)) :=
  match text with
  | (':', _) :: rest =>
      let name := (rest.map (·.1)).takeWhile Char.isAlpha
      match rest.drop name.length with
      | (':', _) :: (']', _) :: rest =>
          if (characterClass? name).isSome then some (name, rest) else none
      | _ => none
  | _ => none

def members? : Nat → Bool → List (Char × Bool) →
    Option (List SetMember × List (Char × Bool))
  | 0, _, _ => none
  | _ + 1, _, [] => none
  | steps + 1, isFirst, (character, quoted) :: rest =>
      if character = ']' && !quoted && !isFirst then some ([], rest)
      else
        match if character = '[' then takeClass rest else none with
        | some (name, rest) =>
            (members? steps false rest).map fun (members, rest) => (.named name :: members, rest)
        | none =>
            let (character, rest) := match character, quoted, rest with
              | '\\', false, (escaped, _) :: rest => (escaped, rest)
              | character, _, rest => (character, rest)
            match rest with
            | ('-', false) :: (last, quoted) :: after =>
                if last = ']' && !quoted then
                  (members? steps false rest).map fun (members, rest) =>
                    (.range character character :: members, rest)
                else
                  (members? steps false after).map fun (members, rest) =>
                    (.range character last :: members, rest)
            | rest =>
                (members? steps false rest).map fun (members, rest) =>
                  (.range character character :: members, rest)

/-- The pattern that characters spell, of which the quoted ones mean themselves. With `carets` a
caret negates a set, too. The first argument bounds the steps. -/
def ofCharactersWithin (carets : Bool) : Nat → List (Char × Bool) → Pattern
  | 0, _ => []
  | _ + 1, [] => []
  | steps + 1, (character, quoted) :: rest =>
      if quoted then .exactly character :: ofCharactersWithin carets steps rest
      else
        match character with
        | '*' => .anyMany :: ofCharactersWithin carets steps rest
        | '?' => .anyOne :: ofCharactersWithin carets steps rest
        | '\\' =>
            match rest with
            | (escaped, _) :: rest => .exactly escaped :: ofCharactersWithin carets steps rest
            | [] => [.exactly '\\']
        | '[' =>
            let (inside, set) := match rest with
              | ('!', false) :: set => (false, set)
              | ('^', false) :: set => if carets then (false, set) else (true, rest)
              | set => (true, set)
            match members? (set.length + 1) true set with
            | some (members, rest) =>
                .oneOf inside members :: ofCharactersWithin carets steps rest
            | none => .exactly '[' :: ofCharactersWithin carets steps rest
        | other => .exactly other :: ofCharactersWithin carets steps rest

def ofCharacters (carets : Bool) (characters : List (Char × Bool)) : Pattern :=
  ofCharactersWithin carets (characters.length + 1) characters

def ofText (text : Script) : Pattern :=
  ofCharacters true (text.map fun character => (character, false))

def isActive (pattern : Pattern) : Bool :=
  pattern.any fun
    | .exactly _ => false
    | _ => true

def anyRest (test : List Char → Bool) : List Char → Bool
  | [] => test []
  | character :: rest => test (character :: rest) || anyRest test rest

def accepts : Pattern → List Char → Bool
  | [], text => text.isEmpty
  | [.anyMany], _ => true
  | .anyMany :: pattern, text => anyRest (accepts pattern) text
  | .exactly expected :: pattern, character :: rest =>
      expected = character && accepts pattern rest
  | .anyOne :: pattern, _ :: rest => accepts pattern rest
  | .oneOf inside members :: pattern, character :: rest =>
      (members.any fun member => member.accepts character) = inside && accepts pattern rest
  | _ :: _, [] => false

def trim (pattern : Pattern) (atEnd longest : Bool) (text : List Char) : List Char :=
  let lengths := List.range (text.length + 1)
  let lengths := if longest then lengths.reverse else lengths
  let cut := lengths.find? fun length =>
    pattern.accepts (if atEnd then text.drop (text.length - length) else text.take length)
  match cut with
  | none => text
  | some length => if atEnd then text.take (text.length - length) else text.drop length

def longestStart? (pattern : Pattern) (text : List Char) : Option Nat :=
  (List.range (text.length + 1)).reverse.find? fun length => pattern.accepts (text.take length)

def replaceIn (pattern : Pattern) (every : Bool) (replacement : List Char) :
    Nat → List Char → List Char
  | 0, text => text
  | _ + 1, [] => []
  | steps + 1, character :: rest =>
      match pattern.longestStart? (character :: rest) with
      | some (length + 1) =>
          let after := rest.drop length
          replacement ++ if every then replaceIn pattern every replacement steps after else after
      | _ => character :: replaceIn pattern every replacement steps rest

end Pattern

end SchemaBuild.Shell
