import SchemaBuild.Toml.Quotation

/-!
# Numbers

Integers of sixty-four bits in four bases, and floats. A single underscore may stand between two
digits.
-/

namespace SchemaBuild.Toml

def digit? (base : Nat) (character : Char) : Option Nat :=
  (hexDigit? character).filter (· < base)

def isDigit (character : Char) : Bool :=
  (digit? 10 character).isSome

def moreDigits (base : Nat) : List Char → List Nat × List Char
  | '_' :: character :: rest =>
      match digit? base character with
      | some digit =>
          let (digits, rest) := moreDigits base rest
          (digit :: digits, rest)
      | none => ([], '_' :: character :: rest)
  | character :: rest =>
      match digit? base character with
      | some digit =>
          let (digits, rest) := moreDigits base rest
          (digit :: digits, rest)
      | none => ([], character :: rest)
  | [] => ([], [])

def digits? (base : Nat) : Reader (List Nat)
  | [] => none
  | character :: rest => do
      let digit ← digit? base character
      let (digits, rest) := moreDigits base rest
      some (digit :: digits, rest)

def ofDigits (base : Nat) (digits : List Nat) : Nat :=
  digits.foldl (fun number digit => number * base + digit) 0

def sign : List Char → Bool × List Char
  | '+' :: rest => (false, rest)
  | '-' :: rest => (true, rest)
  | text => (false, text)

def decimal? : Reader (List Nat)
  | '0' :: rest => some ([0], rest)
  | text => digits? 10 text

def fits (value : Int) : Bool :=
  -Int.pow 2 63 ≤ value && value < Int.pow 2 63

def integer? (text : List Char) : Option (Value × List Char) := do
  let (value, rest) ← match text with
    | '0' :: 'x' :: rest => (digits? 16 rest).map fun (digits, rest) =>
        ((ofDigits 16 digits : Int), rest)
    | '0' :: 'o' :: rest => (digits? 8 rest).map fun (digits, rest) =>
        ((ofDigits 8 digits : Int), rest)
    | '0' :: 'b' :: rest => (digits? 2 rest).map fun (digits, rest) =>
        ((ofDigits 2 digits : Int), rest)
    | other =>
        let (negative, rest) := sign other
        (decimal? rest).map fun (digits, rest) =>
          let value : Int := ofDigits 10 digits
          (if negative then -value else value, rest)
  if fits value then some (.integer value, rest) else none

/-! ## Floats -/

def fraction? : Reader (List Nat)
  | '.' :: rest => digits? 10 rest
  | _ => none

def exponent? : Reader Int
  | letter :: rest =>
      if letter = 'e' || letter = 'E' then
        let (negative, rest) := sign rest
        (digits? 10 rest).map fun (digits, rest) =>
          let value : Int := ofDigits 10 digits
          (if negative then -value else value, rest)
      else none
  | [] => none

/-- Whether `digits · 10 ^ exponent` rounds to a number that a double cannot hold: it is at least
as large as the middle between the largest double and the next power of two. The digits' count
settles the question far away from that bound. -/
def overflows (digits : List Nat) (exponent : Int) : Bool :=
  let significant := digits.dropWhile (· = 0)
  let magnitude := exponent + significant.length
  let bound := Nat.pow 2 1024 - Nat.pow 2 970
  if significant.isEmpty || magnitude < 300 then false
  else if magnitude > 320 then true
  else
    let number := ofDigits 10 significant
    if exponent ≥ 0 then decide (bound ≤ number * Nat.pow 10 exponent.toNat)
    else decide (bound * Nat.pow 10 (-exponent).toNat ≤ number)

def plainFloat? (text : List Char) : Option (Value × List Char) := do
  let (negative, rest) := sign text
  let (whole, rest) ← decimal? rest
  let (part, exponent, rest) ← match fraction? rest with
    | some (part, rest) =>
        match exponent? rest with
        | some (exponent, rest) => some (part, exponent, rest)
        | none => some (part, 0, rest)
    | none => (exponent? rest).map fun (exponent, rest) => ([], exponent, rest)
  if !negative && overflows (whole ++ part) (exponent - part.length) then none
  else some (.float, rest)

def specialFloat? (text : List Char) : Option (Value × List Char) :=
  match (sign text).2 with
  | 'i' :: 'n' :: 'f' :: rest => some (.float, rest)
  | 'n' :: 'a' :: 'n' :: rest => some (.float, rest)
  | _ => none

end SchemaBuild.Toml
