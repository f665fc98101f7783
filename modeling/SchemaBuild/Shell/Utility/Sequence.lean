import SchemaBuild.Shell.Format
import SchemaBuild.Shell.Utility

/-!
# Sequences of numbers

The utility that prints the numbers from a first to a last one. Numbers without a fraction are
printed exactly, whatever their size. All others are wide numbers, which a format
prints. -/

namespace SchemaBuild.Shell.Utility

namespace Sequence

open Fraction

structure Operand where
  value : Wide
  width : Int := 0
  places : Option Nat := none

def exponentOf (text : Script) : Int :=
  (Wide.takePower ['e', 'E'] text).1

def Operand.ofText (text : Script) (value : Wide) : Operand :=
  let text := text.dropWhile fun character => isSpace character || character = '+'
  let beforePoint := text.takeWhile (· ≠ '.')
  let point? := if text.contains '.' then some beforePoint.length else none
  let places := if point?.isNone && !text.contains 'p' then some 0 else none
  if text.contains 'x' || text.contains 'X' || !value.isFinite then { value, places }
  else
    let fraction := (text.drop (beforePoint.length + 1)).takeWhile fun character =>
      character ≠ 'e' && character ≠ 'E'
    let count := fraction.length
    let places := if point?.isSome then count else 0
    let width : Int := text.length +
      if point?.isNone then 0
      else if count = 0 then -1
      else if (beforePoint.getLast?).any Char.isDigit then 0
      else 1
    let mark := if text.contains 'e' then 'e' else 'E'
    let mantissa := text.takeWhile (· ≠ mark)
    if mantissa.length = text.length then { value, width, places := some places }
    else
      let exponent := exponentOf (text.drop mantissa.length)
      let width := width - (text.length - mantissa.length : Nat)
      if exponent < 0 then
        let width := if point?.isNone || count = 0 then width + 1 else width
        { value, width := width + exponent.natAbs, places := some (places + exponent.natAbs) }
      else
        let places := places - exponent.toNat
        let width := if point?.isSome && places = 0 && count ≠ 0 then width - 1 else width
        { value, width := width + (exponent.toNat - count : Nat), places := some places }

structure Form where
  before : Script := []
  layout : Format.Layout := {}
  letter : Char := 'g'
  after : Script := []

def Form.bare (form : Form) (value : Wide) : Script :=
  Format.wideText form.layout form.letter value

def Form.text (form : Form) (value : Wide) : Script :=
  form.before ++ form.bare value ++ form.after

def literal : Script → Script × Script
  | '%' :: '%' :: rest =>
      let (text, rest) := literal rest
      ('%' :: text, rest)
  | '%' :: rest => ([], '%' :: rest)
  | character :: rest =>
      let (text, rest) := literal rest
      (character :: text, rest)
  | [] => ([], [])

def form (format : Script) : Except Script Form :=
  let refuse := fun (text : String) =>
    Except.error ("format ".toList ++ quote format ++ text.toList)
  match literal format with
  | (before, '%' :: rest) =>
      let isFlag := fun (character : Char) => ['-', '+', '#', '0', ' ', '\''].contains character
      let (layout, _) := Format.flags {} ((rest.takeWhile isFlag).filter (· ≠ '\''))
      let (width, rest) := Format.leadingNumber (rest.dropWhile isFlag)
      let (precision, rest) := match rest with
        | '.' :: rest =>
            let (precision, rest) := Format.leadingNumber rest
            (some precision, rest)
        | rest => (none, rest)
      let rest := if rest.head? = some 'L' then rest.drop 1 else rest
      match rest with
      | [] => refuse " ends in %"
      | letter :: rest =>
          if !"efgaEFGA".toList.contains letter then
            refuse (" has unknown %" ++ letter.toString ++ " directive")
          else
            match literal rest with
            | (after, []) => .ok { before, layout := { layout with width, precision }, letter, after }
            | _ => refuse " has too many % directives"
  | _ => refuse " has no % directive"

def usualForm (hasEqualWidth : Bool) (first step last : Operand) : Form :=
  match first.places, step.places, last.places with
  | some firstPlaces, some stepPlaces, some lastPlaces =>
      let places := max firstPlaces stepPlaces
      let plain : Form := { layout := { precision := some places }, letter := 'f' }
      if !hasEqualWidth then plain
      else
        let firstWidth := first.width + (places - firstPlaces : Nat) +
          if firstPlaces = 0 && places ≠ 0 then 1 else 0
        let lastWidth := last.width + ((places : Int) - lastPlaces) +
          (if lastPlaces ≠ 0 && places = 0 then -1 else 0) +
          (if lastPlaces = 0 && places ≠ 0 then 1 else 0)
        let width := max firstWidth lastWidth
        if width < 0 then {}
        else { plain with layout := { plain.layout with zeros := true, width := width.toNat } }
  | _, _, _ => {}

/-! ## Printing -/

def blockSize : Nat := 1024

def printBlocks (separator : Script) (block : Nat → List Script × Bool) : Nat → Nat → Running Unit
  | 0, _ => throw .exhausted
  | steps + 1, index => do
      let (texts, isLast) := block index
      print (texts.flatMap (separator ++ ·))
      unless isLast do printBlocks separator block steps (index + 1)

def printAll (separator : Script) (block : Nat → List Script × Bool) : Running Unit := do
  let (texts, isLast) := block 0
  match texts with
  | [] => pure ()
  | text :: texts =>
      print (text ++ texts.flatMap (separator ++ ·))
      unless isLast do printBlocks separator block ((Pipe.room {}).getD 0) 1
      print ['\n']

def wholeBlock (first step : Nat) (last : Option Nat) (index : Nat) : List Script × Bool :=
  let start := first + index * blockSize * step
  match last with
  | none => ((List.range blockSize).map fun place => Nat.toDigits 10 (start + place * step), false)
  | some last =>
      let left := if last < start then 0 else (last - start) / step + 1
      ((List.range (min left blockSize)).map fun place => Nat.toDigits 10 (start + place * step),
        left ≤ blockSize)

/-- Numbers from a place on that are not beyond the last. The first one beyond it counts if it
prints like the last, and not like the one before it. -/
def wideRun (form : Form) (first step last : Wide) : Nat → Nat → List Script × Bool
  | 0, _ => ([], false)
  | count + 1, place =>
      let value := fun (place : Nat) =>
        if place = 0 then first else Wide.add first (Wide.times place step)
      let isBeyond := fun (value : Wide) =>
        if step.less (Wide.ofNat 0) then value.less last else last.less value
      let current := value place
      if isBeyond current then
        if place = 0 then ([], true)
        else
          let shown := form.bare current
          let isLast := (Wide.read? shown).any fun read => read.equal last
          if isLast && shown ≠ form.bare (value (place - 1)) then ([form.text current], true)
          else ([], true)
      else
        let (texts, isDone) := wideRun form first step last count (place + 1)
        (form.text current :: texts, isDone)

def exactStep : Nat := 200

def digits? (text : Script) : Option Nat :=
  if !text.isEmpty && text.all Char.isDigit then some (ofDigits 10 text) else none

def whole? (value : Wide) : Option Nat :=
  match value with
  | ⟨false, .finite number⟩ => some (Fraction.scaled number 0)
  | _ => none

def spelled? (operands : List Script) : Option (Nat × Nat × Nat) :=
  match operands.mapM digits? with
  | some [last] => some (1, 1, last)
  | some [first, last] => some (first, 1, last)
  | some [first, step, last] =>
      if 0 < step && step ≤ exactStep then some (first, step, last) else none
  | _ => none

def wholeOperands? (first step last : Operand) : Option (Nat × Nat × Option Nat) := do
  if first.places ≠ some 0 || step.places ≠ some 0 || last.places ≠ some 0 then none
  let start ← whole? first.value
  let stride ← whole? step.value
  if stride = 0 || exactStep < stride then none
  match last.value with
  | ⟨false, .infinite⟩ => some (start, stride, none)
  | value => (whole? value).map fun stop => (start, stride, some stop)

end Sequence

open Sequence in
def seq : Utility := fun given =>
  Grammar.run
    { name := "seq", flags := "w", valued := "sf", inOrder := true, takesNegatives := true
      long := [("equal-width", 'w'), ("separator", 's'), ("format", 'f')] } given fun arguments => do
    let operand := fun (text : Script) => do
      match Fraction.Wide.read? text with
      | none =>
          discard (failUsage "seq" ("invalid floating point argument: ".toList ++ quote text))
          return none
      | some value =>
          if value.magnitude = .notNumber then
            discard (failUsage "seq" ("invalid 'not-a-number' argument: ".toList ++ quote text))
            return none
          return some (Operand.ofText text value)
    let one : Operand := { value := Fraction.Wide.ofNat 1, width := 1, places := some 0 }
    match arguments.operands with
    | [] => return ← failUsage "seq" "missing operand".toList
    | _ :: _ :: _ :: extra :: _ => return ← failUsage "seq" ("extra operand ".toList ++ quote extra)
    | _ => pure ()
    let given? ← match arguments.value? 'f' with
      | none => pure none
      | some format =>
          match form format with
          | .error reason => return ← fail "seq" reason
          | .ok form => pure (some form)
    let hasEqualWidth := arguments.has 'w'
    if given?.isSome && hasEqualWidth then
      return ← failUsage "seq"
        "format string may not be specified when printing equal width strings".toList
    let separator := (arguments.value? 's').getD ['\n']
    let isPlain := !hasEqualWidth && given?.isNone && separator.length = 1
    match (if isPlain then spelled? arguments.operands else none) with
    | some (first, step, last) =>
        printAll separator (wholeBlock first step (some last))
        return 0
    | none => pure ()
    let operands ← match arguments.operands with
      | [last] => do
          match ← operand last with
          | some last => pure (some (one, one, last))
          | none => pure none
      | [first, last] => do
          let some first ← operand first | return 1
          let some last ← operand last | return 1
          pure (some (first, one, last))
      | first :: step :: last :: _ => do
          let some first ← operand first | return 1
          let text := step
          let some step ← operand step | return 1
          if step.value.isZero then
            return ← failUsage "seq" ("invalid Zero increment value: ".toList ++ quote text)
          let some last ← operand last | return 1
          pure (some (first, step, last))
      | [] => pure none
    let some (first, step, last) := operands | return 1
    match (if isPlain then wholeOperands? first step last else none) with
    | some (first, step, last) => printAll separator (wholeBlock first step last)
    | none =>
        let form := given?.getD (usualForm hasEqualWidth first step last)
        printAll separator fun index =>
          wideRun form first.value step.value last.value blockSize (index * blockSize)
    return 0

end SchemaBuild.Shell.Utility
