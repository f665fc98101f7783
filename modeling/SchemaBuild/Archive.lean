import SchemaBuild.Text.Bytes

/-!
# Archives

An archive is a list of named entries. Its bytes are a zip file in which every entry is marked as
deflated, has the permissions of a plain file, and carries the earliest time that the format
knows, so that equal entries give equal bytes. Short data is written with codes of a fixed table,
long data stands in blocks that are not compressed any further.
-/

namespace SchemaBuild

structure ArchiveEntry where
  name : String
  data : Bytes
  deriving DecidableEq, Repr

abbrev Archive := List ArchiveEntry

namespace Archive

def entryMode : Nat := 0o100644

/-- The date of every entry in the packed form of the format: the first day of 1980. Its time is
midnight. -/
def entryDate : Nat := 0x21

/-! ## Checksums

The cyclic redundancy check of thirty-two bits by which an archive guards its entries. -/

def shiftBit (register : UInt32) : UInt32 :=
  if register &&& 1 = 1 then (register >>> 1) ^^^ 0xedb88320 else register >>> 1

def takeByte (register : UInt32) (byte : UInt8) : UInt32 :=
  (List.range 8).foldl (fun register _ => shiftBit register) (register ^^^ byte.toUInt32)

def checksum (bytes : Bytes) : UInt32 :=
  bytes.foldl takeByte 0xffffffff ^^^ 0xffffffff

/-- The check value of the algorithm: the checksum of the digits from one to nine. -/
example : checksum (Bytes.ofString "123456789") = 0xcbf43926 := by decide +kernel

/-! ## Bytes -/

def bytes16 (number : Nat) : Bytes :=
  [UInt8.ofNat (number % 0x100), UInt8.ofNat (number / 0x100 % 0x100)]

def bytes32 (number : Nat) : Bytes :=
  bytes16 (number % 0x10000) ++ bytes16 (number / 0x10000)

def blockSize : Nat := 0xffff

def storedBlocks : Nat → Bytes → Bytes
  | 0, _ => []
  | blocks + 1, data =>
      let block := data.take blockSize
      let isLast : UInt8 := if blocks = 0 then 1 else 0
      isLast :: bytes16 block.length ++ bytes16 (0xffff - block.length) ++ block ++
        storedBlocks blocks (data.drop blockSize)

def codeBits (width number : Nat) : List Bool :=
  (List.range width).reverse.map number.testBit

def byteCode (byte : UInt8) : List Bool :=
  let value := byte.toNat
  if value < 144 then codeBits 8 (0x30 + value) else codeBits 9 (0x190 + (value - 144))

def packBits : Nat → List Bool → Bytes
  | 0, _ => []
  | bytes + 1, bits =>
      let byte := (bits.take 8).foldr (fun bit value => 2 * value + bit.toNat) 0
      UInt8.ofNat byte :: packBits bytes (bits.drop 8)

/-- Data as one block that is marked as the last one, with codes of the fixed table and the code
that ends it. -/
def fixedBlock (data : Bytes) : Bytes :=
  let bits := [true, true, false] ++ data.flatMap byteCode ++ List.replicate 7 false
  packBits ((bits.length + 7) / 8) bits

def longData : Nat := 48

def stored (data : Bytes) : Bytes :=
  if data.length < longData then fixedBlock data
  else storedBlocks ((data.length + blockSize - 1) / blockSize) data

example : fixedBlock [] = [0x03, 0x00] := by decide +kernel
example : fixedBlock [0x61] = [0x4b, 0x04, 0x00] := by decide +kernel

structure DataSummary where
  checksum : Nat
  storedSize : Nat
  size : Nat

def DataSummary.unknown : DataSummary := ⟨0, 0, 0⟩

def DataSummary.of (data : Bytes) : DataSummary :=
  ⟨(Archive.checksum data).toNat, (stored data).length, data.length⟩

/-- The fields that both headers of an entry share: needed version, flags (which say whether the
name goes beyond ASCII), method, time, date, checksum, sizes, and the length of the name. -/
def commonHeader (entryName : String) (summary : DataSummary) : Bytes :=
  let name := Bytes.ofString entryName
  let flags := if name.all (· < 0x80) then 0 else 0x800
  bytes16 20 ++ bytes16 flags ++ bytes16 8 ++ bytes16 0 ++ bytes16 entryDate ++
    bytes32 summary.checksum ++ bytes32 summary.storedSize ++ bytes32 summary.size ++
    bytes16 name.length

def localHeader (name : String) (summary : DataSummary) : Bytes :=
  bytes32 0x04034b50 ++ commonHeader name summary ++ bytes16 0 ++ Bytes.ofString name

def localEntry (entry : ArchiveEntry) : Bytes :=
  localHeader entry.name (.of entry.data) ++ stored entry.data

/-- What a file holds while an archive is written to it. The data of the last entry gets there, and
its header is filled in, only when the entry after it is begun. -/
def begun (archive : Archive) : Bytes :=
  archive.dropLast.flatMap localEntry ++
    (archive.getLast?.map fun entry => localHeader entry.name .unknown).getD []

def directoryRecord (entry : ArchiveEntry) (offset : Nat) : Bytes :=
  bytes32 0x02014b50 ++ bytes16 0x031e ++
    commonHeader entry.name (.of entry.data) ++ bytes16 0 ++ bytes16 0 ++
    bytes16 0 ++ bytes16 0 ++ bytes32 (entryMode * 0x10000) ++ bytes32 offset ++
    Bytes.ofString entry.name

def directoryRecords : Nat → Archive → Bytes
  | _, [] => []
  | offset, entry :: rest =>
      directoryRecord entry offset ++ directoryRecords (offset + (localEntry entry).length) rest

def encode (archive : Archive) : Bytes :=
  let entries := archive.flatMap localEntry
  let records := directoryRecords 0 archive
  entries ++ records ++ bytes32 0x06054b50 ++ bytes16 0 ++ bytes16 0 ++
    bytes16 archive.length ++ bytes16 archive.length ++ bytes32 records.length ++
    bytes32 entries.length ++ bytes16 0

end Archive

end SchemaBuild
