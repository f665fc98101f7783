import SchemaBuild.Shell.Fraction

/-!
# Wide numbers

Numbers with a binary point of which sixty-four bits count. A sum or a product is computed exactly
and rounded once, to the nearest such number, where a tie goes to the even
one. -/

namespace SchemaBuild.Shell.Fraction

def wideBits : Nat := 64

def widePower : Int := 16384

def leastPower : Int := -16445

def nearest (bits numerator denominator : Nat) : Dyadic :=
  if numerator = 0 then ⟨0, 0⟩
  else
    let up := fun (power : Int) => numerator * Nat.pow 2 (-power).toNat
    let down := fun (power : Int) => denominator * Nat.pow 2 power.toNat
    let guess : Int := (Nat.log2 numerator : Int) - Nat.log2 denominator - (bits - 1 : Nat)
    let power := if up guess / down guess < Nat.pow 2 (bits - 1) then guess - 1 else guess
    ⟨roundQuotient (up power) (down power), power⟩

structure Wide where
  negative : Bool
  magnitude : Magnitude
  deriving DecidableEq, Repr

namespace Wide

def ofScaled (whole power : Int) : Wide :=
  ⟨whole < 0,
    .finite (nearest wideBits (whole.natAbs * Nat.pow 2 power.toNat) (Nat.pow 2 (-power).toNat))⟩

def ofNat (value : Nat) : Wide :=
  ofScaled value 0

def scaled (power : Int) (negative : Bool) (value : Dyadic) : Int :=
  let magnitude : Int := value.whole * Nat.pow 2 (value.power - power).toNat
  if negative then -magnitude else magnitude

def add (left right : Wide) : Wide :=
  match left.magnitude, right.magnitude with
  | .finite first, .finite second =>
      let power := min first.power second.power
      let sum := scaled power left.negative first + scaled power right.negative second
      if sum = 0 then ⟨left.negative && right.negative, .finite ⟨0, 0⟩⟩ else ofScaled sum power
  | .notNumber, _ => left
  | _, .notNumber => right
  | .infinite, .infinite => if left.negative = right.negative then left else ⟨true, .notNumber⟩
  | .infinite, .finite _ => left
  | .finite _, .infinite => right

def times (count : Nat) (value : Wide) : Wide :=
  match value.magnitude with
  | .finite number =>
      { ofScaled (count * number.whole) number.power with negative := value.negative }
  | _ => value

def less (left right : Wide) : Bool :=
  match left.magnitude, right.magnitude with
  | .finite first, .finite second =>
      let power := min first.power second.power
      scaled power left.negative first < scaled power right.negative second
  | .notNumber, _ => false
  | _, .notNumber => false
  | .infinite, .infinite => left.negative && !right.negative
  | .infinite, .finite _ => left.negative
  | .finite _, .infinite => !right.negative

def equal (left right : Wide) : Bool :=
  left.magnitude ≠ .notNumber && right.magnitude ≠ .notNumber &&
    !less left right && !less right left

def isZero (value : Wide) : Bool :=
  match value.magnitude with
  | .finite number => number.whole = 0
  | _ => false

def isFinite (value : Wide) : Bool :=
  match value.magnitude with
  | .finite _ => true
  | _ => false

/-! ## Reading -/

def takePower (marks : List Char) (text : Script) : Int × Script :=
  match text with
  | mark :: after =>
      let (sign, digits) : Int × Script := match after with
        | '-' :: digits => (-1, digits)
        | '+' :: digits => (1, digits)
        | digits => (1, digits)
      if marks.contains mark && (digits.head?).any Char.isDigit then
        (sign * ofDigits 10 (digits.takeWhile Char.isDigit), digits.dropWhile Char.isDigit)
      else (0, text)
  | [] => (0, text)

def takeDigits? (isDigit : Char → Bool) (text : Script) : Option (Script × Nat × Script) :=
  let whole := text.takeWhile isDigit
  let (fraction, rest) := match text.dropWhile isDigit with
    | '.' :: after => (after.takeWhile isDigit, after.dropWhile isDigit)
    | rest => ([], rest)
  if whole.isEmpty && fraction.isEmpty then none
  else some (whole ++ fraction, fraction.length, rest)

def firstPower (value : Dyadic) : Int :=
  Nat.log2 value.whole + value.power

def sized? (base : Nat) (digits : Script) (power : Int) (ofPower : Nat → Nat) : Option Dyadic :=
  let digits := digits.dropWhile (· = '0')
  if digits.isEmpty || power + 4 * digits.length < -20000 then some ⟨0, 0⟩
  else if 20000 < power then none
  else
    let whole := ofDigits base digits
    let value := nearest wideBits (whole * ofPower power.toNat) (ofPower (-power).toNat)
    if widePower ≤ firstPower value then none
    else if firstPower value < leastPower then some ⟨0, 0⟩
    else some value

def takeMagnitude? (text : Script) : Option (Magnitude × Script) :=
  let starts := fun (word : String) =>
    (text.take word.length).map Char.toLower = word.toList
  let decimal := fun (text : Script) => do
    let (digits, places, rest) ← takeDigits? Char.isDigit text
    let (power, rest) := takePower ['e', 'E'] rest
    let value ← sized? 10 digits (power - places) (Nat.pow 10)
    return (.finite value, rest)
  if starts "infinity" then some (.infinite, text.drop 8)
  else if starts "inf" then some (.infinite, text.drop 3)
  else if starts "nan" then some (.notNumber, text.drop 3)
  else if starts "0x" then
    match takeDigits? isHexDigit (text.drop 2) with
    | none => some (.finite ⟨0, 0⟩, text.drop 1)
    | some (digits, places, rest) => do
        let (power, rest) := takePower ['p', 'P'] rest
        let value ← sized? 16 digits (power - 4 * places) (Nat.pow 2)
        return (.finite value, rest)
  else decimal text

def take? (text : Script) : Option (Wide × Script) :=
  let start := text.dropWhile fun character =>
    [' ', '\t', '\n', '\r', '\x0b', '\x0c'].contains character
  let (negative, start) := match start with
    | '-' :: rest => (true, rest)
    | '+' :: rest => (false, rest)
    | rest => (false, rest)
  (takeMagnitude? start).map fun (magnitude, rest) => (⟨negative, magnitude⟩, rest)

def read? (text : Script) : Option Wide :=
  match take? text with
  | some (value, []) => some value
  | _ => none

example : read? "2.5e1".toList = some (ofNat 25) := by decide +kernel
example : read? "0x1p4".toList = some (ofNat 16) := by decide +kernel
example : read? "2x".toList = none := by decide +kernel

end Wide

/-! ## Hexadecimal digits -/

/-- A number in hexadecimal digits after their mark, with a power of two. So many of its bits count,
and `lead` of these stand before the point. -/
def hexadecimal (bits lead : Nat) (places : Option Nat) (pointed : Bool) (value : Dyadic) :
    Script :=
  let value := nearest bits (value.whole * Nat.pow 2 value.power.toNat)
    (Nat.pow 2 (-value.power).toNat)
  let all := (bits - lead) / 4
  let kept := min all (places.getD all)
  let rounded := roundQuotient value.whole (Nat.pow 16 (all - kept))
  let power := if value.whole = 0 then 0 else value.power + 4 * all
  let fraction := (List.range kept).reverse.map fun place =>
    Nat.digitChar (rounded / Nat.pow 16 place % 16)
  let fraction := match places with
    | some places => fraction ++ List.replicate (places - kept) '0'
    | none => (fraction.reverse.dropWhile (· = '0')).reverse
  let whole := rounded / Nat.pow 16 kept
  let (whole, power) := if 16 ≤ whole then (whole / 16, power + 4) else (whole, power)
  Nat.digitChar whole :: (if fraction.isEmpty && !pointed then [] else '.' :: fraction) ++
    'p' :: (if power < 0 then '-' else '+') :: Nat.toDigits 10 power.natAbs

end SchemaBuild.Shell.Fraction
