/-!
# Bytes

File contents and file names are bytes. Most of them are UTF-8 text, but nothing forces them to
be, so reading bytes as text can fail, or can put a replacement mark where it would fail.
-/

namespace SchemaBuild

abbrev Bytes := List UInt8

namespace Bytes

def ofString (text : String) : Bytes :=
  text.toByteArray.data.toList

def toString? (bytes : Bytes) : Option String :=
  String.fromUTF8? ⟨bytes.toArray⟩

/-- Each byte as the character of the same number. It loses nothing, and leaves ASCII readable. -/
def toLatin (bytes : Bytes) : List Char :=
  bytes.map fun byte => Char.ofNat byte.toNat

def ofLatin (characters : List Char) : Bytes :=
  characters.map fun character => UInt8.ofNat character.toNat

/-! ## Reading with replacement -/

/-- What is still owed of a character that takes several bytes: how many bytes, the bounds of
the next one, and the bits so far. -/
structure Pending where
  owed : Nat := 0
  low : UInt8 := 0x80
  high : UInt8 := 0xbf
  bits : Nat := 0

def replacement : Char := Char.ofNat 0xfffd

/-- Begin a character at its first byte. The bounds of the second byte leave out spellings that
are longer than needed, surrogates, and numbers above the last code point. -/
def begin (byte : UInt8) : List Char × Pending :=
  let value := byte.toNat
  if value < 0x80 then ([Char.ofNat value], {})
  else if value < 0xc2 then ([replacement], {})
  else if value < 0xe0 then ([], ⟨1, 0x80, 0xbf, value - 0xc0⟩)
  else if value < 0xf0 then
    ([], ⟨2, if value = 0xe0 then 0xa0 else 0x80, if value = 0xed then 0x9f else 0xbf,
      value - 0xe0⟩)
  else if value < 0xf5 then
    ([], ⟨3, if value = 0xf0 then 0x90 else 0x80, if value = 0xf4 then 0x8f else 0xbf,
      value - 0xf0⟩)
  else ([replacement], {})

/-- Read on from a character that may be unfinished. Its bytes are replaced by one mark when the
next byte cannot continue it. -/
def readLossy : Pending → Bytes → List Char
  | pending, [] => if pending.owed = 0 then [] else [replacement]
  | pending, byte :: rest =>
      if pending.owed = 0 then
        let (done, next) := begin byte
        done ++ readLossy next rest
      else if pending.low ≤ byte && byte ≤ pending.high then
        let bits := pending.bits * 0x40 + (byte.toNat - 0x80)
        if pending.owed = 1 then Char.ofNat bits :: readLossy {} rest
        else readLossy ⟨pending.owed - 1, 0x80, 0xbf, bits⟩ rest
      else
        let (done, next) := begin byte
        replacement :: done ++ readLossy next rest

/-- The bytes as text, with a replacement mark for what is not UTF-8. -/
def toStringLossy (bytes : Bytes) : String :=
  String.ofList (readLossy {} bytes)

end Bytes

end SchemaBuild
