import SchemaBuild.Shell.Format
import SchemaBuild.Shell.Utility.FileFacts
import SchemaBuild.Shell.Utility.Quantity

/-!
# Dumps

The utility that shows the bytes of texts as numbers or by their names. Every row shows the same
bytes in each of the formats that are asked for, and the columns of all formats are aligned.
-/

namespace SchemaBuild.Shell.Utility

/-! ## Data -/

inductive DatumKind where
  | signed
  | unsigned (base : Nat)
  | fraction
  | character
  | name
  deriving DecidableEq

structure DumpFormat where
  kind : DatumKind
  size : Nat
  trails : Bool := false
  deriving DecidableEq

def controlNames : List String := [
  "nul", "soh", "stx", "etx", "eot", "enq", "ack", "bel", "bs", "ht", "nl", "vt", "ff", "cr", "so",
  "si", "dle", "dc1", "dc2", "dc3", "dc4", "nak", "syn", "etb", "can", "em", "sub", "esc", "fs", "gs",
  "rs", "us", "sp"]

def byteName (byte : Char) : Script :=
  let code := byte.toNat % 128
  if code = 127 then "del".toList
  else match controlNames[code]? with
    | some name => name.toList
    | none => [Char.ofNat code]

def byteCharacter (byte : Char) : Script :=
  match byte.toNat with
  | 0 => ['\\', '0']
  | 7 => ['\\', 'a']
  | 8 => ['\\', 'b']
  | 9 => ['\\', 't']
  | 10 => ['\\', 'n']
  | 11 => ['\\', 'v']
  | 12 => ['\\', 'f']
  | 13 => ['\\', 'r']
  | code =>
      if 32 ≤ code && code < 127 then [byte]
      else [64, 8, 1].map fun place => Char.ofNat ('0'.toNat + code / place % 8)

def datumValue (bytes : Script) : Nat :=
  bytes.foldr (fun byte value => value * 256 + byte.toNat) 0

def digitCount (base size : Nat) : Nat :=
  (Nat.toDigits base (Nat.pow 256 size - 1)).length

/-- A number with as few digits as it takes to tell it from its neighbours. The precision grows from
the least one until the digits read back as the number. -/
def shortestFraction (readsBack : Script → Bool) (value : Float) : Nat → Nat → Script
  | 0, precision => Format.fractionText { precision := some precision } 'g' value
  | steps + 1, precision =>
      let text := Format.fractionText { precision := some precision } 'g' value
      if readsBack text then text else shortestFraction readsBack value steps (precision + 1)

def doubleText (value : Float) : Script :=
  let readsBack := fun (text : Script) =>
    (Fraction.takeNumber? text).all fun result => result.1 == value || value.isNaN
  shortestFraction readsBack value 17 (if value.abs < 2.2250738585072014e-308 then 1 else 15)

def singleText (value : Float32) : Script :=
  let readsBack := fun (text : Script) =>
    (Fraction.takeNumber? text).all fun result => result.1.toFloat32 == value || value.isNaN
  shortestFraction readsBack value.toFloat 9
    (if value.toFloat.abs < 1.1754943508222875e-38 then 1 else 6)

namespace DumpFormat

def width (format : DumpFormat) : Nat :=
  match format.kind with
  | .signed => (Nat.toDigits 10 (Nat.pow 256 format.size / 2)).length + 1
  | .unsigned base => digitCount base format.size
  | .fraction => if format.size = 4 then 15 else 24
  | .character => 3
  | .name => 3

def datumText (format : DumpFormat) (bytes : Script) : Script :=
  let value := datumValue bytes
  match format.kind with
  | .signed =>
      let limit := Nat.pow 256 format.size
      (if 2 * value < limit then toString value else "-" ++ toString (limit - value)).toList
  | .unsigned 10 => (toString value).toList
  | .unsigned base =>
      let digits := Nat.toDigits base value
      List.replicate (format.width - digits.length) '0' ++ digits
  | .fraction =>
      if format.size = 4 then singleText (Float32.ofBits value.toUInt32)
      else doubleText (Float.ofBits value.toUInt64)
  | .character => byteCharacter (bytes.headD ' ')
  | .name => byteName (bytes.headD ' ')

end DumpFormat

/-! ## Rows -/

def chunks (length : Nat) : Nat → Script → List Script
  | 0, _ => []
  | _ + 1, [] => []
  | steps + 1, text => text.take length :: chunks length steps (text.drop length)

structure Dump where
  formats : List DumpFormat
  rowSize : Nat
  addressBase : Option Nat := some 8
  showsRepeated : Bool := false
  firstCountsMost : Bool := false

namespace Dump

def rowWidth (dump : Dump) : Nat :=
  dump.formats.foldl (fun width format =>
    max width ((format.width + 1) * (dump.rowSize / format.size))) 0

def addressWidth (dump : Dump) : Nat :=
  match dump.addressBase with
  | none => 0
  | some 16 => 6
  | some _ => 7

def address (dump : Dump) (place : Nat) : Script :=
  match dump.addressBase with
  | none => []
  | some base =>
      let digits := Nat.toDigits base place
      List.replicate (dump.addressWidth - digits.length) '0' ++ digits

/-- The bytes of a row in one format. What the format takes less than the widest one is shared out
among its columns. -/
def formatRow (dump : Dump) (format : DumpFormat) (row : Script) : Script :=
  let fields := dump.rowSize / format.size
  let room := dump.rowWidth - format.width * fields
  let data := chunks format.size (row.length + 1) row
  let texts := (data.zip (List.range data.length)).flatMap fun (bytes, index) =>
    let bytes := bytes ++ List.replicate (format.size - bytes.length) (Char.ofNat 0)
    let bytes := if dump.firstCountsMost then bytes.reverse else bytes
    let left := fields - index
    padLeft (room * left / fields - room * (left - 1) / fields + format.width)
      (format.datumText bytes)
  if format.trails then
    let blanks := fields - data.length
    let filling := List.replicate (blanks * format.width + room * blanks / fields) ' '
    let shown := row.map fun byte =>
      if 32 ≤ byte.toNat && byte.toNat < 127 then byte else '.'
    texts ++ filling ++ "  >".toList ++ shown ++ ['<']
  else texts

def rowLines (dump : Dump) (place : Nat) (row : Script) : List Script :=
  (dump.formats.zip (List.range dump.formats.length)).map fun (format, index) =>
    (if index = 0 then dump.address place else List.replicate dump.addressWidth ' ') ++
      dump.formatRow format row

def lines (dump : Dump) : Nat → Option Script → Bool → List Script → List Script
  | _, _, _, [] => []
  | place, before, isMarked, row :: rows =>
      let next := place + row.length
      if !dump.showsRepeated && before = some row && row.length = dump.rowSize then
        (if isMarked then [] else [['*']]) ++ dump.lines next before true rows
      else dump.rowLines place row ++ dump.lines next (some row) false rows

end Dump

/-! ## Formats by their names -/

def wholeSizes : List (Char × Nat) := [('C', 1), ('S', 2), ('I', 4), ('L', 8)]

def fractionSizes : List (Char × Nat) := [('F', 4), ('D', 8), ('L', 16)]

def datumSize (whole rest : Script) (letters : List (Char × Nat)) (usual : Nat)
    (allowed : List Nat) (thing : String) : Except Script (Nat × Script) :=
  match rest with
  | [] => .ok (usual, [])
  | letter :: after =>
      match letters.lookup letter with
      | some size => .ok (size, after)
      | none =>
          let digits := rest.takeWhile Char.isDigit
          let size := ofDigits 10 digits
          if digits.isEmpty then .ok (usual, rest)
          else if allowed.contains size then .ok (size, rest.drop digits.length)
          else
            .error ("invalid type string ".toList ++ quote whole ++
              (";\nthis system doesn't provide a " ++ toString size ++ "-byte " ++ thing ++
                " type").toList)

def dumpFormats (whole : Script) : Nat → Script → Except Script (List DumpFormat)
  | 0, _ => .ok []
  | _ + 1, [] => .ok []
  | steps + 1, letter :: rest => do
      let sized := fun (kind : DatumKind) =>
        return (kind, ← datumSize whole rest wholeSizes 4 [1, 2, 4, 8] "integral")
      let (kind, size, rest) ← match letter with
        | 'a' => pure (DatumKind.name, 1, rest)
        | 'c' => pure (DatumKind.character, 1, rest)
        | 'd' => sized .signed
        | 'o' => sized (.unsigned 8)
        | 'u' => sized (.unsigned 10)
        | 'x' => sized (.unsigned 16)
        | 'f' =>
            pure (DatumKind.fraction,
              ← datumSize whole rest fractionSizes 8 [4, 8, 16] "floating point")
        | letter =>
            .error ("invalid character ".toList ++ quote [letter] ++ " in type string ".toList ++
              quote whole)
      let (trails, rest) := match rest with
        | 'z' :: rest => (true, rest)
        | rest => (false, rest)
      return { kind, size, trails } :: (← dumpFormats whole steps rest)

def letterFormats : List (Char × String) := [
  ('a', "a"), ('b', "o1"), ('c', "c"), ('D', "u4"), ('d', "u2"), ('F', "fD"), ('e', "fD"),
  ('f', "fF"), ('X', "x4"), ('H', "x4"), ('i', "dI"), ('I', "dL"), ('L', "dL"), ('l', "dL"),
  ('O', "o4"), ('B', "o2"), ('o', "o2"), ('s', "d2"), ('h', "x2"), ('x', "x2")]

def byteOrders : List (Bool × List String) := [(false, ["little"]), (true, ["big"])]

def odGrammar : Grammar :=
  { name := "od", flags := "aBbcDdeFfHhIiLlOosvXx", valued := "AjNtε", optional := "wS"
    long := [("skip-bytes", 'j'), ("address-radix", 'A'), ("read-bytes", 'N'), ("format", 't'),
      ("output-duplicates", 'v'), ("strings", 'S'), ("width", 'w'), ("endian", 'ε')] }

def dumpUnits : String := "bEGKkMmPQRTYZ"

def visibleTexts (least : Nat) : Nat → Nat → Script → List (Nat × Script)
  | 0, _, _ => []
  | steps + 1, place, text =>
      let run := text.takeWhile fun byte => 32 ≤ byte.toNat && byte.toNat < 127
      match text.drop run.length with
      | [] => []
      | next :: rest =>
          let others := visibleTexts least steps (place + run.length + 1) rest
          if next.toNat = 0 && least ≤ run.length then (place, run) :: others else others

def od : Utility := fun given =>
  odGrammar.run given fun arguments => do
    let mut formats : List DumpFormat := []
    let mut isValid := true
    for (letter, value) in arguments.options do
      match letter with
      | 'A' =>
          unless [['d'], ['o'], ['x'], ['n']].contains (value.take 1) do
            return ← fail "od" ("invalid output address radix ".toList ++ quote (value.take 1) ++
              "; it must be one character from [doxn]".toList)
      | 'ε' =>
          if (choice? byteOrders value).isNone then
            return ← refuseChoice "od" "--endian" byteOrders value
      | 't' =>
          match dumpFormats value (value.length + 1) value with
          | .ok more => formats := formats ++ more
          | .error reason =>
              discard (fail "od" reason)
              isValid := false
      | letter =>
          if "jNwS".toList.contains letter && !value.isEmpty then
            match Quantity.read dumpUnits true value with
            | .ok _ => pure ()
            | .error fault =>
                return ← refuseOption "od" ("-" ++ String.ofList [letter]) value fault
          match letterFormats.lookup letter with
          | some name =>
              formats := formats ++ (dumpFormats [] name.length name.toList).toOption.getD []
          | none => pure ()
    unless isValid do return 1
    let quantity := fun (letter : Char) =>
      (arguments.value? letter).bind fun value => (Quantity.read dumpUnits true value).toOption
    if formats.isEmpty then formats := [⟨.unsigned 8, 2, false⟩]
    let common := formats.foldl (fun common format => Nat.lcm common format.size) 1
    let usual := if common < 16 then common * (16 / common) else common
    let mut rowSize := usual
    if arguments.has 'w' then
      let wanted := (quantity 'w').getD 32
      if wanted % common = 0 && 0 < wanted then rowSize := wanted
      else
        complain ("od: warning: invalid width " ++ toString wanted ++ "; using " ++
          toString common ++ " instead").toList
        rowSize := common
    let dump : Dump :=
      { formats, rowSize
        addressBase := match arguments.value? 'A' with
          | some ('d' :: _) => some 10
          | some ('x' :: _) => some 16
          | some ('n' :: _) => none
          | _ => some 8
        showsRepeated := arguments.has 'v'
        firstCountsMost := ((arguments.value? 'ε').bind (choice? byteOrders)).getD false }
    let mut text := []
    let mut status := 0
    let mut isOpened := false
    for path in (if arguments.operands.isEmpty then [['-']] else arguments.operands) do
      match ← textOf path with
      | .ok more =>
          text := text ++ more
          isOpened := true
      | .error error =>
          status ← failPlainly "od" path error
          if error = .isDirectory then isOpened := true
    unless isOpened do return status
    let skipped := (quantity 'j').getD 0
    if text.length < skipped then
      return ← fail "od" "cannot skip past end of combined input".toList
    let shown := text.drop skipped
    let shown := match quantity 'N' with
      | some count => shown.take count
      | none => shown
    if arguments.has 'S' then
      let least := (quantity 'S').getD 3
      for (place, run) in visibleTexts least (shown.length + 1) skipped shown do
        printLine (dump.address place ++ (if dump.addressBase.isSome then [' '] else []) ++ run)
      return status
    for line in dump.lines skipped none false (chunks rowSize (shown.length + 1) shown) do
      printLine line
    if dump.addressBase.isSome then printLine (dump.address (skipped + shown.length))
    return status

end SchemaBuild.Shell.Utility
