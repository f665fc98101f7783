import SchemaBuild.Shell.Parser

/-!
# Numbers with a fraction

Numbers of sixty-four bits with a binary point, as text. A number is a whole number times a power
of two, so its digits can be computed exactly, and are rounded only once, to the nearest number
with the wanted digits, where a tie goes to the even one.
-/

namespace SchemaBuild.Shell.Fraction

structure Dyadic where
  whole : Nat
  power : Int
  deriving DecidableEq, Repr

inductive Magnitude where
  | finite (value : Dyadic)
  | infinite
  | notNumber
  deriving DecidableEq, Repr

def decode (value : Float) : Bool × Magnitude :=
  let bits := value.toBits.toNat
  let negative := bits / Nat.pow 2 63 = 1
  let exponent := bits / Nat.pow 2 52 % 2048
  let fraction := bits % Nat.pow 2 52
  (negative,
    if exponent = 2047 then if fraction = 0 then .infinite else .notNumber
    else if exponent = 0 then .finite ⟨fraction, -1074⟩
    else .finite ⟨fraction + Nat.pow 2 52, (exponent : Int) - 1075⟩)

def roundQuotient (numerator denominator : Nat) : Nat :=
  let quotient := numerator / denominator
  let doubled := 2 * (numerator % denominator)
  if doubled < denominator then quotient
  else if denominator < doubled then quotient + 1
  else if quotient % 2 = 0 then quotient
  else quotient + 1

def scaled (value : Dyadic) (tens : Int) : Nat :=
  let numerator := value.whole * Nat.pow 2 value.power.toNat * Nat.pow 10 tens.toNat
  let denominator := Nat.pow 2 (-value.power).toNat * Nat.pow 10 (-tens).toNat
  roundQuotient numerator denominator

def leadingPower (value : Dyadic) : Int :=
  let numerator := value.whole * Nat.pow 2 value.power.toNat
  let denominator := Nat.pow 2 (-value.power).toNat
  if denominator ≤ numerator then ((Nat.toDigits 10 (numerator / denominator)).length : Int) - 1
  else
    -- The first power of ten that lifts the number to one or more.
    let guess := (Nat.toDigits 10 (denominator / numerator)).length
    if denominator ≤ numerator * Nat.pow 10 (guess - 1) then -((guess : Int) - 1)
    else -(guess : Int)

def paddedDigits (length : Nat) (value : Nat) : Script :=
  let digits := Nat.toDigits 10 value
  List.replicate (length - digits.length) '0' ++ digits

def fixed (places : Nat) (pointed : Bool) (value : Dyadic) : Script :=
  let digits := paddedDigits (places + 1) (scaled value places)
  let whole := digits.take (digits.length - places)
  if places = 0 && !pointed then whole
  else whole ++ '.' :: digits.drop (digits.length - places)

def scientificDigits (places : Nat) (value : Dyadic) : Script × Int :=
  if value.whole = 0 then (List.replicate (places + 1) '0', 0)
  else
    let power := leadingPower value
    let digits := Nat.toDigits 10 (scaled value ((places : Int) - power))
    if digits.length = places + 2 then (digits.take (places + 1), power + 1) else (digits, power)

def exponentText (power : Int) : Script :=
  (if power < 0 then '-' else '+') :: paddedDigits 2 power.natAbs

def scientific (places : Nat) (pointed : Bool) (value : Dyadic) : Script :=
  let (digits, power) := scientificDigits places value
  let point := if places = 0 && !pointed then [] else ['.']
  digits.take 1 ++ point ++ digits.drop 1 ++ 'e' :: exponentText power

def dropZeros (text : Script) : Script :=
  if text.contains '.' then
    let kept := text.reverse.dropWhile (· = '0')
    (if kept.head? = some '.' then kept.drop 1 else kept).reverse
  else text

/-- A number with so many digits that count, with an exponent if it is very large or small. Zeros at
the end are dropped unless `pointed`. -/
def general (precision : Nat) (pointed : Bool) (value : Dyadic) : Script :=
  let precision := max 1 precision
  let (digits, power) := scientificDigits (precision - 1) value
  if -4 ≤ power && power < precision then
    let text := fixed ((precision : Int) - 1 - power).toNat pointed value
    if pointed then text else dropZeros text
  else
    let mantissa := digits.take 1 ++ '.' :: digits.drop 1
    (if pointed then mantissa else dropZeros mantissa) ++ 'e' :: exponentText power

/-! ## Reading -/

def takeDecimal? (text : Script) : Option (Float × Script) :=
  let (negative, start) := match text with
    | '-' :: rest => (true, rest)
    | '+' :: rest => (false, rest)
    | rest => (false, rest)
  let whole := start.takeWhile Char.isDigit
  let rest := start.dropWhile Char.isDigit
  let (fraction, rest) := match rest with
    | '.' :: after =>
        if whole.isEmpty && !(after.head?).any Char.isDigit then ([], rest)
        else (after.takeWhile Char.isDigit, after.dropWhile Char.isDigit)
    | rest => ([], rest)
  if whole.isEmpty && fraction.isEmpty then none
  else
    let (power, rest) : Int × Script := match rest with
      | mark :: after =>
          if mark = 'e' || mark = 'E' then
            let (sign, digits) : Int × Script := match after with
              | '-' :: digits => (-1, digits)
              | '+' :: digits => (1, digits)
              | digits => (1, digits)
            if (digits.head?).any Char.isDigit then
              (sign * ofDigits 10 (digits.takeWhile Char.isDigit), digits.dropWhile Char.isDigit)
            else (0, rest)
          else (0, rest)
      | [] => (0, rest)
    let power := power - fraction.length
    let value := Float.ofScientific (ofDigits 10 (whole ++ fraction)) (power < 0) power.natAbs
    some (if negative then -value else value, rest)

/-- The number with hexadecimal digits at the start of a text, after its mark. It may have a point,
and a power of two. -/
def takeHexadecimal? (text : Script) : Option (Float × Script) :=
  let whole := text.takeWhile isHexDigit
  let rest := text.dropWhile isHexDigit
  let (fraction, rest) := match rest with
    | '.' :: after => (after.takeWhile isHexDigit, after.dropWhile isHexDigit)
    | rest => ([], rest)
  if whole.isEmpty && fraction.isEmpty then none
  else
    let (power, rest) : Int × Script := match rest with
      | mark :: after =>
          let (sign, digits) : Int × Script := match after with
            | '-' :: digits => (-1, digits)
            | '+' :: digits => (1, digits)
            | digits => (1, digits)
          if (mark = 'p' || mark = 'P') && (digits.head?).any Char.isDigit then
            (sign * ofDigits 10 (digits.takeWhile Char.isDigit), digits.dropWhile Char.isDigit)
          else (0, rest)
      | [] => (0, rest)
    let value := Float.ofNat (ofDigits 16 (whole ++ fraction))
    some (value.scaleB (power - 4 * fraction.length), rest)

def takeNumber? (text : Script) : Option (Float × Script) :=
  let (negative, start) := match text with
    | '-' :: rest => (true, rest)
    | '+' :: rest => (false, rest)
    | rest => (false, rest)
  let signed := fun (result : Float × Script) =>
    (if negative then -result.1 else result.1, result.2)
  let starts := fun (word : String) =>
    (start.take word.length).map Char.toLower = word.toList
  if starts "infinity" then some (signed (1 / 0, start.drop 8))
  else if starts "inf" then some (signed (1 / 0, start.drop 3))
  else if starts "nan" then some (signed (0 / 0, start.drop 3))
  else if starts "0x" then
    match takeHexadecimal? (start.drop 2) with
    | some result => some (signed result)
    | none => some (signed (0, start.drop 1))
  else if start.head? = some '-' || start.head? = some '+' then none
  else (takeDecimal? start).map signed

def ofInt (value : Int) : Float :=
  let magnitude := Float.ofScientific value.natAbs false 0
  if value < 0 then -magnitude else magnitude

def toInt (value : Float) : Int :=
  match decode value with
  | (negative, .finite number) =>
      let magnitude : Int :=
        number.whole * Nat.pow 2 number.power.toNat / Nat.pow 2 (-number.power).toNat
      if negative then -magnitude else magnitude
  | _ => 0

end SchemaBuild.Shell.Fraction
