import SchemaBuild.Shell.Parser

/-!
# The order of versions

Names with numbers in them are compared part by part: what is between the numbers by its characters,
and numbers by their values. The suffix that tells the kind of a file counts only between names that
are equal otherwise.
-/

namespace SchemaBuild.Shell.Version

/-- The rank of the next character of a part between numbers. A tilde comes before the end, and the
end before anything else. -/
def rank (text : Script) : Int :=
  match text.head? with
  | none => -1
  | some character =>
      if character.isDigit then 0
      else if character.isAlpha then character.toNat
      else if character = '~' then -2
      else character.toNat + 256

def isBetween (text : Script) : Bool :=
  text.head?.any fun character => !character.isDigit

def compareBetween : Nat → Script → Script → Except Ordering (Script × Script)
  | 0, left, right => .ok (left, right)
  | steps + 1, left, right =>
      if !isBetween left && !isBetween right then .ok (left, right)
      else
        match compare (rank left) (rank right) with
        | .eq => compareBetween steps (left.drop 1) (right.drop 1)
        | order => .error order

def compareParts : Nat → Script → Script → Ordering
  | 0, _, _ => .eq
  | steps + 1, left, right =>
      if left.isEmpty && right.isEmpty then .eq
      else
        match compareBetween (left.length + right.length + 1) left right with
        | .error order => order
        | .ok (left, right) =>
            let first := left.takeWhile Char.isDigit
            let second := right.takeWhile Char.isDigit
            match compare (ofDigits 10 first) (ofDigits 10 second) with
            | .eq => compareParts steps (left.drop first.length) (right.drop second.length)
            | order => order

def dropSuffixes : Nat → Script → Script
  | steps + 1, '.' :: first :: rest =>
      if first.isAlpha || first = '~' then
        dropSuffixes steps (rest.dropWhile fun character =>
          character.isAlphanum || character = '~')
      else '.' :: first :: rest
  | _, text => text

def stemLength : Nat → Nat → Script → Nat
  | 0, place, _ => place
  | _ + 1, place, [] => place
  | steps + 1, place, _ :: rest =>
      match dropSuffixes (rest.length + 1) rest with
      | [] => place + 1
      | next => stemLength steps (place + 1 + (rest.length - next.length)) next

def dotRank (name : Script) : Nat :=
  match name with
  | [] => 0
  | ['.'] => 1
  | ['.', '.'] => 2
  | '.' :: _ => 3
  | _ => 4

def compareNames (left right : Script) : Ordering :=
  match compare (dotRank left) (dotRank right) with
  | .eq =>
      let steps := left.length + right.length + 1
      let stem := fun (name : Script) => name.take (stemLength (name.length + 1) 0 name)
      match compareParts steps (stem left) (stem right) with
      | .eq => compareParts steps left right
      | order => order
  | order => order

example : compareNames "v1.9".toList "v1.10".toList = .lt := by decide +kernel
example : compareNames "a.tar.gz".toList "a-1.tar.gz".toList = .lt := by decide +kernel
example : compareNames "1.0~rc".toList "1.0".toList = .lt := by decide +kernel

end SchemaBuild.Shell.Version
