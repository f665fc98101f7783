import SchemaBuild.Shell.Utility.Counting
import SchemaBuild.Shell.Utility.Lines
import SchemaBuild.Shell.Utility.Quantity

/-!
# Comparing bytes

The utility that tells where two texts differ.
-/

namespace SchemaBuild.Shell.Utility

namespace ByteComparison

inductive Manner where
  | firstDifference
  | allDifferences
  | status
  deriving DecidableEq

structure Comparison where
  manner : Manner := .firstDifference
  showsBytes : Bool := false
  skips : Nat × Nat := (0, 0)
  limit : Option Nat := none

def octal (byte : Char) : Script :=
  padLeft 3 (Nat.toDigits 8 byte.toNat)

def shownByte (byte : Char) : Script :=
  if byte = '\n' then ['^', 'J'] else visible true byte

def differences : Nat → Script → Script → List (Nat × Char × Char)
  | place, first :: firsts, second :: seconds =>
      let others := differences (place + 1) firsts seconds
      if first = second then others else (place, first, second) :: others
  | _, _, _ => []

def firstLine (comparison : Comparison) (names : Script × Script) (shared : Script)
    (first second : Char) : Script :=
  let place := (toString (shared.length + 1)).toList
  let line := (toString (shared.count '\n' + 1)).toList
  let start := names.1 ++ ' ' :: names.2 ++ " differ: ".toList
  if comparison.showsBytes then
    start ++ "byte ".toList ++ place ++ ", line ".toList ++ line ++ " is ".toList ++
      octal first ++ ' ' :: shownByte first ++ ' ' :: octal second ++ ' ' :: shownByte second
  else start ++ "char ".toList ++ place ++ ", line ".toList ++ line

def differenceLine (comparison : Comparison) (width : Nat) :
    Nat × Char × Char → Script
  | (place, first, second) =>
      let start := padLeft width (toString place).toList ++ ' ' :: octal first
      if comparison.showsBytes then
        let shown := shownByte first
        start ++ ' ' :: shown ++ List.replicate (4 - shown.length) ' ' ++ ' ' :: octal second ++
          ' ' :: shownByte second
      else start ++ ' ' :: octal second

def endWords (comparison : Comparison) (name shared : Script) : Script :=
  let start := "cmp: EOF on ".toList ++ name
  if shared.isEmpty then start ++ " which is empty".toList
  else
    let bytes := start ++ " after byte ".toList ++ (toString shared.length).toList
    if comparison.manner = .firstDifference then
      let lines := shared.count '\n'
      if shared.getLast? = some '\n' then bytes ++ ", line ".toList ++ (toString lines).toList
      else bytes ++ ", in line ".toList ++ (toString (lines + 1)).toList
    else bytes

def compare (comparison : Comparison) (names texts : Script × Script) (sizes : List Nat) :
    Running Nat := do
  let cut := fun (text : Script) =>
    match comparison.limit with
    | some limit => text.take limit
    | none => text
  let first := cut (texts.1.drop comparison.skips.1)
  let second := cut (texts.2.drop comparison.skips.2)
  let length := min first.length second.length
  let found := differences 1 (first.take length) (second.take length)
  match comparison.manner, found with
  | .status, _ => return if first = second then 0 else 1
  | .firstDifference, (place, left, right) :: _ =>
      let line := firstLine comparison names (first.take (place - 1)) left right
      printLine line
      return 1
  | _, found =>
      let width := (toString ((sizes ++ comparison.limit.toList).foldl min
        ((sizes ++ comparison.limit.toList).headD 9223372036854775807))).length
      for difference in found do printLine (differenceLine comparison width difference)
      if first.length = second.length then return if found.isEmpty then 0 else 1
      let shorter := if first.length < second.length then names.1 else names.2
      complain (endWords comparison shorter (first.take length))
      return 1

def units : String := "kKMGTPEZY"

def skips? (text : Script) : Option (Nat × Nat) :=
  let quantity? := fun (text : Script) => (Quantity.read units true text).toOption
  let first := text.takeWhile (· ≠ ':')
  match text.drop first.length with
  | [] => (quantity? first).map fun skip => (skip, skip)
  | _ :: second => do return (← quantity? first, ← quantity? second)

end ByteComparison

def cmp : Utility := fun given =>
  Grammar.run
    { name := "cmp", flags := "bls", valued := "in", failure := misuse, namesHelp := true
      long := [("print-bytes", 'b'), ("ignore-initial", 'i'), ("verbose", 'l'), ("bytes", 'n'),
        ("quiet", 's'), ("silent", 's')] } given fun arguments => do
      let refuse := fun (reason : Script) => do
        discard (fail "cmp" reason)
        discard (fail "cmp" (helpPointer (← calledAs "cmp")))
        return misuse
      let mut comparison : ByteComparison.Comparison :=
        { showsBytes := arguments.has 'b'
          manner := if arguments.has 's' then .status
            else if arguments.has 'l' then .allDifferences
            else .firstDifference }
      for (letter, value) in arguments.options do
        match letter with
        | 'i' =>
            match ByteComparison.skips? value with
            | some (first, second) =>
                comparison := { comparison with
                  skips := (max comparison.skips.1 first, max comparison.skips.2 second) }
            | none => return ← refuse ("invalid --ignore-initial value ".toList ++ quote value)
        | 'n' =>
            match Quantity.read ByteComparison.units true value with
            | .ok limit =>
                comparison := { comparison with
                  limit := some (min limit (comparison.limit.getD limit)) }
            | .error _ => return ← refuse ("invalid --bytes value ".toList ++ quote value)
        | _ => pure ()
      if arguments.has 's' && arguments.has 'l' then
        return ← refuse "options -l and -s are incompatible".toList
      match arguments.operands with
      | [] =>
          let last := given.getLast?.getD (← calledAs "cmp")
          refuse ("missing operand after ".toList ++ quote last)
      | left :: others =>
          let right := others.headD ['-']
          let numbers := others.drop 1
          for (number, index) in (numbers.take 2).zip [0, 1] do
            match Quantity.read ByteComparison.units true number with
            | .ok skip =>
                let (first, second) := comparison.skips
                comparison := { comparison with
                  skips :=
                    if index = 0 then (max first skip, second) else (first, max second skip) }
            | .error _ =>
                return ← refuse ("invalid --ignore-initial value ".toList ++ quote number)
          match numbers[2]? with
          | some extra => return ← refuse ("extra operand ".toList ++ quote extra)
          | none => pure ()
          let missing := fun (path : Script) (error : FileError) => do
            unless comparison.manner = .status && error ≠ .isDirectory do
              discard (failBarely "cmp" path error)
            return misuse
          match ← textOf left with
          | .error error => missing left error
          | .ok first =>
              if left = right && comparison.skips.1 = comparison.skips.2 then return 0
              match ← textOf right with
              | .error error => missing right error
              | .ok second =>
                  let sizeOf := fun (path : Script) (skip : Nat) => do
                    match ← operandSize path with
                    | .file size => return [size - skip]
                    | _ => return []
                  let sizes := (← sizeOf left comparison.skips.1) ++
                    (← sizeOf right comparison.skips.2)
                  ByteComparison.compare comparison (left, right) (first, second) sizes

end SchemaBuild.Shell.Utility
