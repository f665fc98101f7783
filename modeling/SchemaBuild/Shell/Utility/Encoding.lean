import SchemaBuild.Shell.Utility.Quantity

/-!
# Encodings

Utilities that write bytes with few characters, and that read them back. A group of bytes becomes a
group of digits in the base of the alphabet, and signs fill up a group that is not full.
-/

namespace SchemaBuild.Shell.Utility

structure Encoding where
  name : String
  alphabet : Script
  bits : Nat
  bytes : Nat
  digits : Nat
  keepsStart : Bool

namespace Encoding

def sixtyFour : Encoding where
  name := "base64"
  alphabet := "ABCDEFGHIJKLMNOPQRSTUVWXYZabcdefghijklmnopqrstuvwxyz0123456789+/".toList
  bits := 6
  bytes := 3
  digits := 4
  keepsStart := true

def thirtyTwo : Encoding where
  name := "base32"
  alphabet := "ABCDEFGHIJKLMNOPQRSTUVWXYZ234567".toList
  bits := 5
  bytes := 5
  digits := 8
  keepsStart := false

def digitsFor (encoding : Encoding) (bytes : Nat) : Nat :=
  (8 * bytes + encoding.bits - 1) / encoding.bits

def encodeGroup (encoding : Encoding) (group : Script) : Script :=
  let value := (group ++ List.replicate (encoding.bytes - group.length) (Char.ofNat 0)).foldl
    (fun value byte => value * 256 + byte.toNat) 0
  let base := Nat.pow 2 encoding.bits
  let digits := (List.range encoding.digits).reverse.map fun place =>
    encoding.alphabet.getD (value / base.pow place % base) '='
  let count := encoding.digitsFor group.length
  digits.take count ++ List.replicate (encoding.digits - count) '='

def encode (encoding : Encoding) : Nat → Script → Script
  | 0, _ => []
  | _ + 1, [] => []
  | steps + 1, text =>
      encoding.encodeGroup (text.take encoding.bytes) ++
        encoding.encode steps (text.drop encoding.bytes)

def bytesOf (encoding : Encoding) (digits : List Nat) : Script :=
  let base := Nat.pow 2 encoding.bits
  let value := (digits ++ List.replicate (encoding.digits - digits.length) 0).foldl
    (fun value digit => value * base + digit) 0
  let all := (List.range encoding.bytes).reverse.map fun place =>
    Char.ofNat (value / Nat.pow 256 place % 256)
  all.take (encoding.bits * digits.length / 8)

/-- The bytes of a group of digits, and whether the group is right. Signs may fill it up from a
place where a byte ends. -/
def decodeGroup (encoding : Encoding) (group : Script) : Script × Bool :=
  let digits := (group.takeWhile encoding.alphabet.contains).filterMap fun digit =>
    encoding.alphabet.findIdx? (· = digit)
  let rest := group.drop digits.length
  let bytes := encoding.bytesOf digits
  let isRight := group.length = encoding.digits && rest.all (· = '=') &&
    0 < bytes.length && encoding.digitsFor bytes.length = digits.length
  (if isRight || encoding.keepsStart then bytes else [], isRight)

def decode (encoding : Encoding) : Nat → Script → Script × Bool
  | 0, _ => ([], true)
  | _ + 1, [] => ([], true)
  | steps + 1, text =>
      let (bytes, isRight) := encoding.decodeGroup (text.take encoding.digits)
      if !isRight then (bytes, false)
      else
        let (others, isRight) := encoding.decode steps (text.drop encoding.digits)
        (bytes ++ others, isRight)

def wrapped (width : Nat) : Nat → Script → Script
  | 0, _ => []
  | _ + 1, [] => []
  | steps + 1, text => text.take width ++ '\n' :: wrapped width steps (text.drop width)

example : encode sixtyFour 9 "abcd".toList = "YWJjZA==".toList := by decide +kernel
example : decode sixtyFour 9 "YWJjZA==".toList = ("abcd".toList, true) := by decide +kernel
example : decode sixtyFour 9 "YWJjZA".toList = ("abcd".toList, false) := by decide +kernel
example : encode thirtyTwo 9 "a".toList = "ME======".toList := by decide +kernel
example : decode thirtyTwo 9 "ME======".toList = ("a".toList, true) := by decide +kernel

end Encoding

def encoder (encoding : Encoding) : Utility := fun given =>
  let name := encoding.name
  Grammar.run
    { name := name, flags := "di", valued := "w"
      long := [("decode", 'd'), ("wrap", 'w'), ("ignore-garbage", 'i')] } given fun arguments => do
    let widths := (arguments.values 'w').map fun text => (text, Quantity.read "" false text)
    let wrong := widths.find? fun (_, result) => match result with
      | .error .tooLarge => false
      | .error _ => true
      | .ok _ => false
    match wrong with
    | some (text, _) => return ← fail name ("invalid wrap size: ".toList ++ quote text)
    | none => pure ()
    let width := match widths.getLast? with
      | some (_, .ok width) => width
      | some (_, .error _) => 0
      | none => 76
    match arguments.operands with
    | _ :: extra :: _ => return ← failUsage name ("extra operand ".toList ++ quote extra)
    | _ => pure ()
    let path := arguments.operands.headD ['-']
    match ← textOf path with
    | .error .isDirectory => failBarely name "read error".toList .isDirectory
    | .error .badChannel => failBarely name "read error".toList .badChannel
    | .error error => failPlainly name path error
    | .ok text =>
        if arguments.has 'd' then
          let ignores := arguments.has 'i'
          let digits := text.filter fun character => character ≠ '\n' &&
            (!ignores || character = '=' || encoding.alphabet.contains character)
          let (bytes, isRight) := encoding.decode (digits.length + 1) digits
          print bytes
          if isRight then return 0 else fail name "invalid input".toList
        else
          let digits := encoding.encode (text.length + 1) text
          print (if width = 0 then digits else Encoding.wrapped width (digits.length + 1) digits)
          return 0

end SchemaBuild.Shell.Utility
