import SchemaBuild.Text.Bytes

/-!
# Digests

Short values that stand for a text: checksums and hashes.
-/

namespace SchemaBuild.Shell.Digest

/-! ## A checksum -/

def shiftUp (register : UInt32) : UInt32 :=
  if register &&& 0x80000000 ≠ 0 then (register <<< 1) ^^^ 0x04c11db7 else register <<< 1

def takeByte (register : UInt32) (byte : UInt8) : UInt32 :=
  (List.range 8).foldl (fun register _ => shiftUp register) (register ^^^ (byte.toUInt32 <<< 24))

def lengthBytes : Nat → Nat → Bytes
  | 0, _ => []
  | _ + 1, 0 => []
  | steps + 1, length => UInt8.ofNat (length % 256) :: lengthBytes steps (length / 256)

def checksum (bytes : Bytes) : UInt32 :=
  let all := bytes.foldl takeByte 0
  ~~~ ((lengthBytes 8 bytes.length).foldl takeByte all)

example : checksum [] = 4294967295 := by decide +kernel
example : checksum (Bytes.ofString "123456789") = 930766865 := by decide +kernel

/-! ## Blocks -/

def bigEndian : Nat → Nat → Bytes
  | 0, _ => []
  | count + 1, number => UInt8.ofNat (number / 256 ^ count % 256) :: bigEndian count number

def padded (lowFirst : Bool) (bytes : Bytes) : Bytes :=
  let zeros := (119 - bytes.length % 64) % 64
  let length := bigEndian 8 (bytes.length * 8)
  bytes ++ 0x80 :: List.replicate zeros 0 ++ if lowFirst then length.reverse else length

def wordOf (lowFirst : Bool) (bytes : Bytes) : UInt32 :=
  (if lowFirst then bytes.reverse else bytes).foldl
    (fun word byte => (word <<< 8) ||| byte.toUInt32)
    0

def words (lowFirst : Bool) : Nat → Bytes → List UInt32
  | 0, _ => []
  | count + 1, bytes => wordOf lowFirst (bytes.take 4) :: words lowFirst count (bytes.drop 4)

def takeBlocks {State : Type} (takeBlock : State → Array UInt32 → State) (lowFirst : Bool) :
    Nat → State → Bytes → State
  | 0, state, _ => state
  | count + 1, state, bytes =>
      takeBlocks takeBlock lowFirst count
        (takeBlock state (words lowFirst 16 (bytes.take 64)).toArray) (bytes.drop 64)

def takeAll {State : Type} (takeBlock : State → Array UInt32 → State) (lowFirst : Bool)
    (state : State) (bytes : Bytes) : State :=
  let all := padded lowFirst bytes
  takeBlocks takeBlock lowFirst (all.length / 64) state all

def rotate (word : UInt32) (count : UInt32) : UInt32 :=
  (word <<< count) ||| (word >>> (32 - count))

def hexWord (word : UInt32) : List Char :=
  let digits := Nat.toDigits 16 word.toNat
  List.replicate (8 - digits.length) '0' ++ digits

def hexWordLowFirst (word : UInt32) : List Char :=
  hexWord (wordOf true (bigEndian 4 word.toNat))

/-! ## The hash of four words -/

def squareRoot (number : Nat) : Nat :=
  (List.range 80).reverse.foldl (fun root bit =>
    let next := root + Nat.pow 2 bit
    if next * next ≤ number then next else root) 0

def cubeRoot (number : Nat) : Nat :=
  (List.range 80).reverse.foldl (fun root bit =>
    let next := root + Nat.pow 2 bit
    if next * next * next ≤ number then next else root) 0

def sineWords : Array UInt32 := #[
  0xd76aa478, 0xe8c7b756, 0x242070db, 0xc1bdceee, 0xf57c0faf, 0x4787c62a, 0xa8304613, 0xfd469501,
  0x698098d8, 0x8b44f7af, 0xffff5bb1, 0x895cd7be, 0x6b901122, 0xfd987193, 0xa679438e, 0x49b40821,
  0xf61e2562, 0xc040b340, 0x265e5a51, 0xe9b6c7aa, 0xd62f105d, 0x02441453, 0xd8a1e681, 0xe7d3fbc8,
  0x21e1cde6, 0xc33707d6, 0xf4d50d87, 0x455a14ed, 0xa9e3e905, 0xfcefa3f8, 0x676f02d9, 0x8d2a4c8a,
  0xfffa3942, 0x8771f681, 0x6d9d6122, 0xfde5380c, 0xa4beea44, 0x4bdecfa9, 0xf6bb4b60, 0xbebfbc70,
  0x289b7ec6, 0xeaa127fa, 0xd4ef3085, 0x04881d05, 0xd9d4d039, 0xe6db99e5, 0x1fa27cf8, 0xc4ac5665,
  0xf4292244, 0x432aff97, 0xab9423a7, 0xfc93a039, 0x655b59c3, 0x8f0ccc92, 0xffeff47d, 0x85845dd1,
  0x6fa87e4f, 0xfe2ce6e0, 0xa3014314, 0x4e0811a1, 0xf7537e82, 0xbd3af235, 0x2ad7d2bb, 0xeb86d391]

def turns : Array UInt32 := #[7, 12, 17, 22, 5, 9, 14, 20, 4, 11, 16, 23, 6, 10, 15, 21]

structure Four where
  a : UInt32
  b : UInt32
  c : UInt32
  d : UInt32

def fourRound (block : Array UInt32) (state : Four) (round : Nat) : Four :=
  let ⟨a, b, c, d⟩ := state
  let (mixed, index) := match round / 16 with
    | 0 => ((b &&& c) ||| (~~~b &&& d), round)
    | 1 => ((d &&& b) ||| (~~~d &&& c), (5 * round + 1) % 16)
    | 2 => (b ^^^ c ^^^ d, (3 * round + 5) % 16)
    | _ => (c ^^^ (b ||| ~~~d), (7 * round) % 16)
  let sum := a + mixed + sineWords.getD round 0 + block.getD index 0
  ⟨d, b + rotate sum (turns.getD (round / 16 * 4 + round % 4) 0), b, c⟩

def fourBlock (state : Four) (block : Array UInt32) : Four :=
  let after := (List.range 64).foldl (fourRound block) state
  ⟨state.a + after.a, state.b + after.b, state.c + after.c, state.d + after.d⟩

def md5 (bytes : Bytes) : List Char :=
  let ⟨a, b, c, d⟩ := takeAll fourBlock true ⟨0x67452301, 0xefcdab89, 0x98badcfe, 0x10325476⟩ bytes
  [a, b, c, d].flatMap hexWordLowFirst

/-! ## The hash of five words -/

structure Five where
  a : UInt32
  b : UInt32
  c : UInt32
  d : UInt32
  e : UInt32

def extended (next : Array UInt32 → Nat → UInt32) (block : Array UInt32) (count : Nat) :
    Array UInt32 :=
  (List.range (count - 16)).foldl (fun words index => words.push (next words (index + 16))) block

def fiveRound (words : Array UInt32) (state : Five) (round : Nat) : Five :=
  let ⟨a, b, c, d, e⟩ := state
  let (mixed, constant) := match round / 20 with
    | 0 => ((b &&& c) ||| (~~~b &&& d), (0x5a827999 : UInt32))
    | 1 => (b ^^^ c ^^^ d, 0x6ed9eba1)
    | 2 => ((b &&& c) ||| (b &&& d) ||| (c &&& d), 0x8f1bbcdc)
    | _ => (b ^^^ c ^^^ d, 0xca62c1d6)
  ⟨rotate a 5 + mixed + e + constant + words.getD round 0, a, rotate b 30, c, d⟩

def fiveBlock (state : Five) (block : Array UInt32) : Five :=
  let words := extended (fun words index =>
    let at' := fun (back : Nat) => words.getD (index - back) 0
    rotate (at' 3 ^^^ at' 8 ^^^ at' 14 ^^^ at' 16) 1) block 80
  let after := (List.range 80).foldl (fiveRound words) state
  ⟨state.a + after.a, state.b + after.b, state.c + after.c, state.d + after.d, state.e + after.e⟩

def sha1 (bytes : Bytes) : List Char :=
  let ⟨a, b, c, d, e⟩ := takeAll fiveBlock false
    ⟨0x67452301, 0xefcdab89, 0x98badcfe, 0x10325476, 0xc3d2e1f0⟩ bytes
  [a, b, c, d, e].flatMap hexWord

/-! ## The hash of eight words -/

def primes : List Nat :=
  (List.range 410).filter fun number =>
    2 ≤ number && (List.range number).all fun divisor => divisor < 2 || number % divisor ≠ 0

def rootWords : Array UInt32 :=
  ((primes.take 64).map fun prime => UInt32.ofNat (cubeRoot (prime <<< 96) % 4294967296)).toArray

def startWords : List UInt32 :=
  (primes.take 8).map fun prime => UInt32.ofNat (squareRoot (prime <<< 64) % 4294967296)

def eightRound (words : Array UInt32) (state : List UInt32) (round : Nat) : List UInt32 :=
  match state with
  | [a, b, c, d, e, f, g, h] =>
      let high := rotate e 26 ^^^ rotate e 21 ^^^ rotate e 7
      let chosen := (e &&& f) ^^^ (~~~e &&& g)
      let first := h + high + chosen + rootWords.getD round 0 + words.getD round 0
      let low := rotate a 30 ^^^ rotate a 19 ^^^ rotate a 10
      let most := (a &&& b) ^^^ (a &&& c) ^^^ (b &&& c)
      [first + low + most, a, b, c, d + first, e, f, g]
  | state => state

def eightBlock (state : List UInt32) (block : Array UInt32) : List UInt32 :=
  let words := extended (fun words index =>
    let at' := fun (back : Nat) => words.getD (index - back) 0
    let first := rotate (at' 15) 25 ^^^ rotate (at' 15) 14 ^^^ (at' 15 >>> 3)
    let second := rotate (at' 2) 15 ^^^ rotate (at' 2) 13 ^^^ (at' 2 >>> 10)
    at' 16 + first + at' 7 + second) block 64
  let after := (List.range 64).foldl (eightRound words) state
  List.zipWith (· + ·) state after

def sha256 (bytes : Bytes) : List Char :=
  (takeAll eightBlock false startWords bytes).flatMap hexWord

def shortStartWords : List UInt32 :=
  ((primes.drop 8).take 8).map fun prime => UInt32.ofNat (squareRoot (prime <<< 128) % 4294967296)

def sha224 (bytes : Bytes) : List Char :=
  ((takeAll eightBlock false shortStartWords bytes).take 7).flatMap hexWord

/-! ## The hash of eight wide words -/

def rotateWide (word : UInt64) (count : UInt64) : UInt64 :=
  (word >>> count) ||| (word <<< (64 - count))

def wideRootWords : Array UInt64 :=
  (primes.map fun prime => UInt64.ofNat (cubeRoot (prime <<< 192) % 18446744073709551616)).toArray

def wideStartWords (primes : List Nat) : List UInt64 :=
  primes.map fun prime => UInt64.ofNat (squareRoot (prime <<< 128) % 18446744073709551616)

def wideRound (words : Array UInt64) (state : List UInt64) (round : Nat) : List UInt64 :=
  match state with
  | [a, b, c, d, e, f, g, h] =>
      let high := rotateWide e 14 ^^^ rotateWide e 18 ^^^ rotateWide e 41
      let chosen := (e &&& f) ^^^ (~~~e &&& g)
      let first := h + high + chosen + wideRootWords.getD round 0 + words.getD round 0
      let low := rotateWide a 28 ^^^ rotateWide a 34 ^^^ rotateWide a 39
      let most := (a &&& b) ^^^ (a &&& c) ^^^ (b &&& c)
      [first + low + most, a, b, c, d + first, e, f, g]
  | state => state

def wideBlock (state : List UInt64) (block : Array UInt64) : List UInt64 :=
  let words := (List.range 64).foldl (fun (words : Array UInt64) index =>
    let at' := fun (back : Nat) => words.getD (index + 16 - back) 0
    let first := rotateWide (at' 15) 1 ^^^ rotateWide (at' 15) 8 ^^^ (at' 15 >>> 7)
    let second := rotateWide (at' 2) 19 ^^^ rotateWide (at' 2) 61 ^^^ (at' 2 >>> 6)
    words.push (at' 16 + first + at' 7 + second)) block
  let after := (List.range 80).foldl (wideRound words) state
  List.zipWith (· + ·) state after

def wideWords : Nat → Bytes → List UInt64
  | 0, _ => []
  | count + 1, bytes =>
      (bytes.take 8).foldl (fun word byte => (word <<< 8) ||| byte.toUInt64) 0 ::
        wideWords count (bytes.drop 8)

def takeWideBlocks : Nat → List UInt64 → Bytes → List UInt64
  | 0, state, _ => state
  | count + 1, state, bytes =>
      takeWideBlocks count (wideBlock state (wideWords 16 (bytes.take 128)).toArray)
        (bytes.drop 128)

def wideHash (start : List UInt64) (bytes : Bytes) : List UInt64 :=
  let zeros := (239 - bytes.length % 128) % 128
  let all := bytes ++ 0x80 :: List.replicate zeros 0 ++ bigEndian 16 (bytes.length * 8)
  takeWideBlocks (all.length / 128) start all

def hexWideWord (word : UInt64) : List Char :=
  let digits := Nat.toDigits 16 word.toNat
  List.replicate (16 - digits.length) '0' ++ digits

def sha512 (bytes : Bytes) : List Char :=
  (wideHash (wideStartWords (primes.take 8)) bytes).flatMap hexWideWord

def sha384 (bytes : Bytes) : List Char :=
  ((wideHash (wideStartWords ((primes.drop 8).take 8)) bytes).take 6).flatMap hexWideWord

/-! ## A short checksum -/

def turningSum (bytes : Bytes) : UInt16 :=
  bytes.foldl (fun sum byte => ((sum >>> 1) ||| (sum <<< 15)) + byte.toUInt16) 0

def plainSum (bytes : Bytes) : Nat :=
  let total := bytes.foldl (fun sum byte => sum + byte.toNat) 0 % 4294967296
  let folded := total % 65536 + total / 65536
  folded % 65536 + folded / 65536

end SchemaBuild.Shell.Digest
