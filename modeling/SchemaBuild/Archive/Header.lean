import SchemaBuild.Archive

/-!
# Headers of archives

What the directory at the end of a zip file declares about the entries.
-/

namespace SchemaBuild

structure EntryHeader where
  name : String
  /-- How long the data is. -/
  size : Nat
  checksum : Nat
  /-- The number of the way in which the data is stored. -/
  method : Nat
  mode : Nat
  /-- The date and the time in the packed form of the format. -/
  date : Nat
  time : Nat
  deriving DecidableEq, Repr

namespace EntryHeader

def methodName (header : EntryHeader) : String :=
  if header.method = 0 then "stored" else "deflated"

def twoDigits (number : Nat) : String :=
  (if number < 10 then "0" else "") ++ toString number

def moment (header : EntryHeader) : String :=
  toString (1980 + header.date / 0x200) ++ "-" ++ twoDigits (header.date / 0x20 % 0x10) ++ "-" ++
    twoDigits (header.date % 0x20) ++ " " ++ twoDigits (header.time / 0x800) ++ ":" ++
    twoDigits (header.time / 0x20 % 0x40) ++ ":" ++ twoDigits (header.time % 0x20 * 2)

end EntryHeader

namespace Archive

def numberAt (bytes : Bytes) (offset count : Nat) : Nat :=
  ((bytes.drop offset).take count).foldr (fun byte value => 0x100 * value + byte.toNat) 0

def header? (bytes : Bytes) : Option (EntryHeader × Nat) :=
  let nameLength := numberAt bytes 28 2
  if numberAt bytes 0 4 = 0x02014b50 && 46 + nameLength ≤ bytes.length then
    some ({
      name := Bytes.toStringLossy ((bytes.drop 46).take nameLength)
      size := numberAt bytes 24 4
      checksum := numberAt bytes 16 4
      method := numberAt bytes 10 2
      mode := numberAt bytes 40 2
      date := numberAt bytes 14 2
      time := numberAt bytes 12 2 }, 46 + nameLength + numberAt bytes 30 2 + numberAt bytes 32 2)
  else none

def headers? : Nat → Bytes → Option (List EntryHeader)
  | 0, _ => some []
  | count + 1, bytes => do
      let (header, length) ← header? bytes
      let others ← headers? count (bytes.drop length)
      some (header :: others)

def marks : List Nat := [0x04034b50, 0x06054b50]

def read? (bytes : Bytes) : Option (List EntryHeader) :=
  let ending := bytes.drop (bytes.length - 22)
  if marks.contains (numberAt bytes 0 4) && numberAt ending 0 4 = 0x06054b50 then
    headers? (numberAt ending 10 2) (bytes.drop (numberAt ending 16 4))
  else none

end Archive

end SchemaBuild
