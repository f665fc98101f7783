import SchemaBuild.Shell.Utility

/-!
# Quantities

Numbers in arguments that count something. A letter after the digits multiplies the number, and a
mark after the letter tells whether it counts in powers of a thousand or of
1024. -/

namespace SchemaBuild.Shell.Utility

inductive QuantityFault where
  | invalid
  | wrongUnit
  | tooLarge
  deriving DecidableEq

namespace Quantity

def greatest : Nat := 18446744073709551615

def powerLetters : Script := "KMGTPEZYRQ".toList

def factor? (base : Nat) (letter : Char) : Option Nat :=
  match letter with
  | 'b' => some 512
  | 'c' => some 1
  | 'w' => some 2
  | 'B' => some 1024
  | letter => (powerLetters.findIdx? (· = letter.toUpper)).map fun index => Nat.pow base (index + 1)

/-- Read a quantity whose unit may be one of some letters. A unit alone counts once. With `anyBase`,
digits may be octal or hexadecimal. -/
def read (units : String) (anyBase : Bool) (text : Script) : Except QuantityFault Nat :=
  let text := text.dropWhile fun character =>
    [' ', '\t', '\n', '\r', '\x0b', '\x0c'].contains character
  let text := if text.head? = some '+' then text.drop 1 else text
  let (base, start) := match text with
    | '0' :: mark :: digit :: rest =>
        if anyBase && (mark = 'x' || mark = 'X') && isHexDigit digit then (16, digit :: rest)
        else if anyBase then (8, text)
        else (10, text)
    | text => (if anyBase && text.head? = some '0' then 8 else 10, text)
  let isDigit := fun (character : Char) =>
    if base = 16 then isHexDigit character
    else if base = 8 then isOctalDigit character
    else character.isDigit
  let digits := start.takeWhile isDigit
  let rest := start.drop digits.length
  let limited := fun (value : Nat) =>
    if greatest < value then Except.error QuantityFault.tooLarge else .ok value
  let fault := if digits.isEmpty then QuantityFault.invalid else .wrongUnit
  let number := if digits.isEmpty then 1 else ofDigits base digits
  match rest with
  | [] => if digits.isEmpty then .error .invalid else limited number
  | letter :: marks =>
      if !units.toList.contains letter then .error fault
      else
        let isPower := powerLetters.contains letter.toUpper
        let base? := match String.ofList marks with
          | "" => some 1024
          | "B" => if isPower then some 1000 else none
          | "iB" => if isPower then some 1024 else none
          | _ => none
        match base?.bind fun base => factor? base letter with
        | some factor => limited (number * factor)
        | none => .error fault

example : (read "kK" false "2k".toList).toOption = some 2048 := by decide +kernel
example : (read "kK" false "2kB".toList).toOption = some 2000 := by decide +kernel
example : (read "kK" false "".toList).toOption = none := by decide +kernel
example : (read "" true "0x10".toList).toOption = some 16 := by decide +kernel

end Quantity

def countUnits : String := "bkKmMGTPEZYRQ"

def refuseQuantity (name what : String) (text : Script) (fault : QuantityFault) : Running Nat :=
  fail name (what.toList ++ ": ".toList ++ quote text ++
    if fault = .tooLarge then ": Value too large for defined data type".toList else [])

def refuseOption (name option : String) (text : Script) (fault : QuantityFault) : Running Nat :=
  let shown := option.toList ++ " argument ".toList ++ quote text
  fail name (match fault with
    | .invalid => "invalid ".toList ++ shown
    | .wrongUnit => "invalid suffix in ".toList ++ shown
    | .tooLarge => shown ++ " too large".toList)

end SchemaBuild.Shell.Utility
