import SchemaBuild.Shell.Utility.System

/-!
# Joining

Utilities that show the common lines of two sorted texts, and that join them by a field.
-/

namespace SchemaBuild.Shell.Utility

/-! ## The order of lines -/

inductive OrderCheck where
  | usual
  | always
  | never
  deriving DecidableEq

inductive Side where
  | first
  | second
  deriving DecidableEq

inductive Remark where
  | output (text : Script)
  | disorder (side : Side) (number : Nat) (line : Script)

structure SideReading (α : Type) where
  rest : List α
  taken : List α := []
  hasWarned : Bool := false

structure PairReading (α : Type) where
  firsts : SideReading α
  seconds : SideReading α
  hasUnpaired : Bool := false
  remarks : List Remark := []

abbrev Pairing (α : Type) := ExceptT Unit (StateM (PairReading α))

namespace Pairing

variable {α : Type}

def sideOf (side : Side) (reading : PairReading α) : SideReading α :=
  match side with
  | .first => reading.firsts
  | .second => reading.seconds

def modifySide (side : Side) (change : SideReading α → SideReading α) : Pairing α Unit :=
  modify fun reading => match side with
    | .first => { reading with firsts := change reading.firsts }
    | .second => { reading with seconds := change reading.seconds }

def print (text : Script) : Pairing α Unit :=
  modify fun reading => { reading with remarks := .output text :: reading.remarks }

def noteUnpaired : Pairing α Unit :=
  modify fun reading => { reading with hasUnpaired := true }

def checkOrder (check : OrderCheck) (isOrdered : α → α → Bool) (shown : α → Script) (side : Side)
    (before line : α) : Pairing α Unit := do
  let reading ← get
  let isChecked := check = .always || check = .usual && reading.hasUnpaired
  if isChecked && !(sideOf side reading).hasWarned && !isOrdered before line then
    let number := (sideOf side reading).taken.length
    modify fun reading =>
      { reading with remarks := .disorder side number (shown line) :: reading.remarks }
    if check = .always then throw ()
    modifySide side fun reading => { reading with hasWarned := true }

def takeLine (check : OrderCheck) (isOrdered : α → α → Bool) (shown : α → Script) (side : Side) :
    Pairing α (Option α) := do
  match (sideOf side (← get)).rest with
  | [] => return none
  | line :: rest =>
      let before := (sideOf side (← get)).taken.head?
      modifySide side fun reading => { reading with rest := rest, taken := line :: reading.taken }
      match before with
      | some before => checkOrder check isOrdered shown side before line
      | none => pure ()
      return some line

end Pairing

/-! ## Common lines -/

def mayStandBefore (left right : Script) : Bool :=
  !decide (right < left)

def plain (line : Script) : Script := line

def commonLines (check : OrderCheck) (ending : Char) (columns : List (Option Script)) :
    Nat → Nat × Nat × Nat → Option Script → Option Script → Pairing Script (Nat × Nat × Nat)
  | 0, totals, _, _ => return totals
  | steps + 1, totals, first, second => do
      let shown := fun (column : Nat) (line : Script) => do
        match columns.getD column none with
        | some before => Pairing.print (before ++ line ++ [ending])
        | none => pure ()
      let next := fun (side : Side) => do
        let taken ← Pairing.takeLine check mayStandBefore plain side
        if taken.isNone then
          -- The last two lines are checked again, as a line without a partner may have come since.
          match (Pairing.sideOf side (← get)).taken with
          | line :: before :: _ =>
              Pairing.checkOrder check mayStandBefore plain side before line
          | _ => pure ()
        return taken
      let (ones, twos, boths) := totals
      let order := match first, second with
        | none, _ => Ordering.gt
        | _, none => .lt
        | some left, some right => compareOfLessAndEq left right
      match order, first, second with
      | _, none, none => return totals
      | .eq, _, some line =>
          shown 2 line
          let first ← next .first
          let second ← next .second
          commonLines check ending columns steps (ones, twos, boths + 1) first second
      | .lt, some line, second =>
          Pairing.noteUnpaired
          shown 0 line
          commonLines check ending columns steps (ones + 1, twos, boths) (← next .first) second
      | _, first, some line =>
          Pairing.noteUnpaired
          shown 1 line
          commonLines check ending columns steps (ones, twos + 1, boths) first (← next .second)
      | _, _, none => return totals

def reportRemarks (remarks : List Remark) (wrong : Side → Nat → Script → Running Nat) :
    Running Bool := do
  let mut isWrong := false
  for remark in remarks do
    match remark with
    | .output text => print text
    | .disorder side number line =>
        isWrong := true
        discard (wrong side number line)
  return isWrong

def orderCheck (arguments : Arguments) : OrderCheck :=
  match arguments.lastOf? "χν" with
  | some 'χ' => .always
  | some _ => .never
  | none => .usual

def comm : Utility := fun given =>
  Grammar.run
    { name := "comm", flags := "123zχντ", valued := "δ"
      long := [("check-order", 'χ'), ("nocheck-order", 'ν'), ("output-delimiter", 'δ'),
        ("total", 'τ'), ("zero-terminated", 'z')] } given fun arguments => do
      let separators := (arguments.values 'δ').eraseDups
      if 1 < separators.length then
        return ← fail "comm" "multiple output delimiters specified".toList
      let separator := match separators.head? with
        | none => ['\t']
        | some [] => [Char.ofNat 0]
        | some separator => separator
      match arguments.operands with
      | [left, right] =>
          match ← textOf left, ← textOf right with
          | .error error, _ => failPlainly "comm" left error
          | _, .error error => failPlainly "comm" right error
          | .ok first, .ok second =>
              let ending := recordEnd (arguments.has 'z')
              let firsts := plainRecords ending first
              let seconds := plainRecords ending second
              let check := orderCheck arguments
              let isShown := fun (column : Char) => !arguments.has column
              let before := fun (columns : List Char) =>
                columns.flatMap fun column => if isShown column then separator else []
              let columns := [('1', []), ('2', ['1']), ('3', ['1', '2'])].map fun (column, others) =>
                if isShown column then some (before others) else none
              let reading : Pairing Script (Nat × Nat × Nat) := do
                let take := Pairing.takeLine check mayStandBefore plain
                let first ← take .first
                let second ← take .second
                commonLines check ending columns (firsts.length + seconds.length + 1) (0, 0, 0)
                  first second
              let (result, final) :=
                reading.run.run ⟨{ rest := firsts }, { rest := seconds }, false, []⟩
              let isWrong ← reportRemarks final.remarks.reverse fun side _ _ =>
                fail "comm" (("file " ++ (if side = .first then "1" else "2") ++
                  " is not in sorted order").toList)
              match result with
              | .error () => return 1
              | .ok (ones, twos, boths) =>
                  if arguments.has 'τ' then
                    let counts := [ones, twos, boths].map fun count => (toString count).toList
                    print (separator.intercalate (counts ++ ["total".toList]) ++ [ending])
                  if isWrong then fail "comm" "input is not in sorted order".toList else return 0
      | [] => failUsage "comm" "missing operand".toList
      | [one] => failUsage "comm" ("missing operand after ".toList ++ quote (given.getLastD one))
      | _ :: _ :: extra :: _ => failUsage "comm" ("extra operand ".toList ++ quote extra)

/-! ## Joining by a field -/

structure FieldLine where
  text : Script
  fields : List Script

inductive JoinField where
  | shared
  | ofText (side : Side) (place : Nat)

inductive FieldMark where
  | blanks
  | character (mark : Char)
  | none

structure Joining where
  mark : FieldMark := .blanks
  firstKey : Nat := 0
  secondKey : Nat := 0
  ignoresCase : Bool := false
  filler : Script := []
  chosen : List JoinField := []
  isUniform : Bool := false
  check : OrderCheck := .usual
  hasHeader : Bool := false
  ending : Char := '\n'
  showsFirsts : Bool := false
  showsSeconds : Bool := false
  showsPairs : Bool := true

namespace Joining

/-- The fields of a line that stand between blanks, after those at its start. Blanks at the end are
followed by an empty field. -/
def blankFields (line : Script) : List Script :=
  let isMark := fun (character : Char) => isBlank character || character = '\n'
  let rec fields : Nat → Script → List Script
    | 0, _ => []
    | steps + 1, text =>
        let field := text.takeWhile fun character => !isMark character
        match text.drop field.length with
        | [] => [field]
        | rest => field :: fields steps (rest.dropWhile isMark)
  let start := line.dropWhile isMark
  if start.isEmpty then [] else fields (start.length + 1) start

def lineOf (joining : Joining) (line : Script) : FieldLine :=
  { text := line
    fields :=
      if line.isEmpty then []
      else
        match joining.mark with
        | .blanks => blankFields line
        | .character mark => line.splitOn mark
        | .none => [line] }

def keyPlace (joining : Joining) : Side → Nat
  | .first => joining.firstKey
  | .second => joining.secondKey

def key (joining : Joining) (side : Side) (line : FieldLine) : Script :=
  let field := line.fields.getD (joining.keyPlace side) []
  if joining.ignoresCase then field.map Char.toUpper else field

def shown (joining : Joining) (line : Option FieldLine) (place : Nat) : Script :=
  match line.bind fun line => line.fields[place]? with
  | some field => if field.isEmpty then joining.filler else field
  | none => joining.filler

/-- The line for two lines, of which one may be missing. The numbers tell how many fields lines of
the two texts get, if they all get as many. -/
def joined (joining : Joining) (counts : Nat × Nat) (first second : Option FieldLine) : Script :=
  let shared := match first with
    | some line => joining.shown (some line) joining.firstKey
    | none => joining.shown second joining.secondKey
  let others := fun (line : Option FieldLine) (key count : Nat) =>
    let count := if joining.isUniform then count else (line.map (·.fields.length)).getD 0
    ((List.range count).filter (· ≠ key)).map (joining.shown line)
  let fields := match joining.chosen with
    | [] =>
        shared :: others first joining.firstKey counts.1 ++
          others second joining.secondKey counts.2
    | chosen => chosen.map fun
        | .shared => shared
        | .ofText .first place => joining.shown first place
        | .ofText .second place => joining.shown second place
  let mark := match joining.mark with
    | .blanks => ' '
    | .character mark => mark
    | .none => '\n'
  [mark].intercalate fields ++ [joining.ending]

def next (joining : Joining) (side : Side) : Pairing FieldLine (Option FieldLine) :=
  Pairing.takeLine joining.check
    (fun before line => mayStandBefore (joining.key side before) (joining.key side line))
    FieldLine.text side

def takeSame (joining : Joining) (side : Side) (key : Script) :
    Nat → List FieldLine → Pairing FieldLine (List FieldLine × Option FieldLine)
  | 0, taken => return (taken, none)
  | steps + 1, taken => do
      match ← joining.next side with
      | none => return (taken, none)
      | some line =>
          if joining.key side line = key then
            joining.takeSame side key steps (taken ++ [line])
          else return (taken, some line)

def joinAll (joining : Joining) (counts : Nat × Nat) :
    Nat → Option FieldLine → Option FieldLine →
      Pairing FieldLine (Option FieldLine × Option FieldLine)
  | 0, first, second => return (first, second)
  | steps + 1, some first, some second => do
      let firstKey := joining.key .first first
      let secondKey := joining.key .second second
      if firstKey < secondKey then
        if joining.showsFirsts then Pairing.print (joining.joined counts (some first) none)
        let following ← joining.next .first
        Pairing.noteUnpaired
        joining.joinAll counts steps following (some second)
      else if secondKey < firstKey then
        if joining.showsSeconds then Pairing.print (joining.joined counts none (some second))
        let following ← joining.next .second
        Pairing.noteUnpaired
        joining.joinAll counts steps (some first) following
      else
        let (firsts, nextFirst) ← joining.takeSame .first secondKey steps [first]
        let (seconds, nextSecond) ← joining.takeSame .second firstKey steps [second]
        if joining.showsPairs then
          for left in firsts do
            for right in seconds do
              Pairing.print (joining.joined counts (some left) (some right))
        joining.joinAll counts steps nextFirst nextSecond
  | _ + 1, first, second => return (first, second)

def finish (joining : Joining) (side : Side) (isShown : Bool) (joined : FieldLine → Script) :
    Nat → Pairing FieldLine Unit
  | 0 => return ()
  | steps + 1 => do
      match ← joining.next side with
      | none => return ()
      | some line =>
          if isShown then Pairing.print (joined line)
          let hasWarned := (Pairing.sideOf side (← get)).hasWarned
          unless hasWarned && !isShown do joining.finish side isShown joined steps

def run (joining : Joining) (steps : Nat) : Pairing FieldLine Unit := do
  let first ← joining.next .first
  let second ← joining.next .second
  let counts := ((first.map (·.fields.length)).getD 0, (second.map (·.fields.length)).getD 0)
  let (first, second) ← if joining.hasHeader && (first.isSome || second.isSome) then do
      Pairing.print (joining.joined counts first second)
      -- The lines after the headers follow nothing.
      modify fun reading =>
        { reading with
          firsts := { reading.firsts with taken := [] }
          seconds := { reading.seconds with taken := [] } }
      let following := fun (side : Side) (line : Option FieldLine) =>
        if line.isSome then joining.next side else pure none
      let first ← following .first first
      let second ← following .second second
      pure (first, second)
    else pure (first, second)
  let (first, second) ← joining.joinAll counts steps first second
  let reading ← get
  let checksRest := joining.check ≠ .never &&
    !(reading.firsts.hasWarned && reading.seconds.hasWarned)
  match first with
  | some line =>
      if joining.showsFirsts || checksRest then
        let joined := fun line => joining.joined counts (some line) none
        if joining.showsFirsts then Pairing.print (joined line)
        if second.isSome then Pairing.noteUnpaired
        joining.finish .first joining.showsFirsts joined steps
  | none => pure ()
  match second with
  | some line =>
      if joining.showsSeconds || checksRest then
        let joined := fun line => joining.joined counts none (some line)
        if joining.showsSeconds then Pairing.print (joined line)
        if first.isSome then Pairing.noteUnpaired
        joining.finish .second joining.showsSeconds joined steps
  | none => pure ()

/-! ### Options -/

def fieldPlace (text : Script) : Except Script Nat :=
  let digits := if text.head? = some '+' then text.drop 1 else text
  match number? digits with
  | some (number + 1) => .ok number
  | _ => .error ("invalid field number: ".toList ++ quote text)

def chosenField (text : Script) : Except Script JoinField :=
  let invalid := Except.error ("invalid field specifier: ".toList ++ quote text)
  match text with
  | ['0'] => .ok .shared
  | '0' :: _ => invalid
  | '1' :: '.' :: number => (fieldPlace number).map (.ofText .first)
  | '2' :: '.' :: number => (fieldPlace number).map (.ofText .second)
  | '1' :: _ => invalid
  | '2' :: _ => invalid
  | text => .error ("invalid file number in field spec: ".toList ++ quote text)

def chosenFields (text : Script) : Except Script (List JoinField) :=
  (text.splitOnP fun character => character = ',' || isBlank character).mapM chosenField

def placeOnce (before : Option Nat) (place : Nat) : Except Script (Option Nat) :=
  match before with
  | none => .ok (some place)
  | some other =>
      if other = place then .ok before
      else .error (("incompatible join fields " ++ toString other ++ ", " ++ toString place).toList)

structure Choices where
  joining : Joining := {}
  firstKey : Option Nat := none
  secondKey : Option Nat := none
  filler : Option Script := none
  mark : Option Char := none

def Choices.put (choices : Choices) (letter : Char) (value : Script) : Except Script Choices := do
  let joining := choices.joining
  let alone := fun (joining : Joining) =>
    match number? (if value.head? = some '+' then value.drop 1 else value) with
    | some 1 => .ok { choices with joining := { joining with showsFirsts := true } }
    | some 2 => .ok { choices with joining := { joining with showsSeconds := true } }
    | _ => .error ("invalid field number: ".toList ++ quote value)
  match letter with
  | 'a' => alone joining
  | 'v' => alone { joining with showsPairs := false }
  | 'e' =>
      match choices.filler with
      | some other =>
          if other = value then .ok choices
          else .error "conflicting empty-field replacement strings".toList
      | none =>
          .ok { choices with filler := some value, joining := { joining with filler := value } }
  | '1' => return { choices with firstKey := ← placeOnce choices.firstKey (← fieldPlace value) }
  | '2' => return { choices with secondKey := ← placeOnce choices.secondKey (← fieldPlace value) }
  | 'j' =>
      let place ← fieldPlace value
      let firstKey ← placeOnce choices.firstKey place
      return { choices with firstKey, secondKey := ← placeOnce choices.secondKey place }
  | 'o' =>
      if value = "auto".toList then
        return { choices with joining := { joining with isUniform := true } }
      let fields ← chosenFields value
      return { choices with joining := { joining with chosen := joining.chosen ++ fields } }
  | 't' =>
      let mark ← match value with
        | [] => pure '\n'
        | [mark] => pure mark
        | ['\\', '0'] => pure (Char.ofNat 0)
        | value => .error ("multi-character tab ".toList ++ quote value)
      match choices.mark with
      | some other => if other = mark then .ok choices else .error "incompatible tabs".toList
      | none =>
          let kind := if mark = '\n' then FieldMark.none else .character mark
          return { choices with mark := some mark, joining := { joining with mark := kind } }
  | 'i' => return { choices with joining := { joining with ignoresCase := true } }
  | 'z' => return { choices with joining := { joining with ending := Char.ofNat 0 } }
  | 'η' => return { choices with joining := { joining with hasHeader := true } }
  | 'χ' => return { choices with joining := { joining with check := .always } }
  | _ => return { choices with joining := { joining with check := .never } }

def isFieldList (word : Script) : Bool :=
  match chosenFields word with
  | .ok _ => true
  | .error _ => false

def gatherFields : Nat → List Script → List Script
  | 0, words => words
  | _ + 1, [] => []
  | steps + 1, ['-', 'o'] :: value :: rest =>
      let more := rest.takeWhile isFieldList
      ['-', 'o'] :: [','].intercalate (value :: more) ::
        gatherFields steps (rest.drop more.length)
  | steps + 1, word :: rest => word :: gatherFields steps rest

end Joining

def join : Utility := fun given =>
  let grammar : Grammar :=
    { name := "join", flags := "izηχν", valued := "avt12jeo"
      long := [("ignore-case", 'i'), ("header", 'η'), ("nocheck-order", 'ν'),
        ("check-order", 'χ'), ("zero-terminated", 'z')] }
  let hasMany := match grammar.read given with
    | .ok arguments => decide (2 < arguments.operands.length)
    | .error _ => false
  let words := if hasMany then Joining.gatherFields (given.length + 1) given else given
  grammar.run words fun arguments => do
    let choices := arguments.options.foldlM (fun (choices : Joining.Choices) (letter, value) =>
      choices.put letter value) {}
    match choices with
    | .error reason => fail "join" reason
    | .ok choices =>
        let joining := { choices.joining with
          firstKey := choices.firstKey.getD 0
          secondKey := choices.secondKey.getD 0 }
        match arguments.operands with
        | [] => failUsage "join" "missing operand".toList
        | [operand] =>
            failUsage "join" ("missing operand after ".toList ++ quote (given.getLastD operand))
        | _ :: _ :: extra :: _ => failUsage "join" ("extra operand ".toList ++ quote extra)
        | [left, right] =>
            if left = ['-'] && right = ['-'] then
              return ← fail "join" "both files cannot be standard input".toList
            match ← textOf left, ← textOf right with
            | .error error, _ => failPlainly "join" left error
            | _, .error error => failPlainly "join" right error
            | .ok first, .ok second =>
                let linesOf := fun (text : Script) =>
                  (plainRecords joining.ending text).map joining.lineOf
                let firsts := linesOf first
                let seconds := linesOf second
                let (result, final) := (joining.run (firsts.length + seconds.length + 2)).run.run
                  ⟨{ rest := firsts }, { rest := seconds }, false, []⟩
                let isWrong ← reportRemarks final.remarks.reverse fun side number line =>
                  let path := if side = .first then left else right
                  let number := if joining.hasHeader then number + 1 else number
                  fail "join" (path ++ ':' :: (toString number).toList ++
                    ": is not sorted: ".toList ++ line)
                match result with
                | .error () => return 1
                | .ok () =>
                    if isWrong then fail "join" "input is not in sorted order".toList
                    else return 0

/-! ## Numbers -/

def primeFactors : Nat → Nat → Nat → List Nat
  | 0, _, number => if number ≤ 1 then [] else [number]
  | steps + 1, divisor, number =>
      if number < divisor * divisor then if number ≤ 1 then [] else [number]
      else if number % divisor = 0 then divisor :: primeFactors steps divisor (number / divisor)
      else primeFactors steps (divisor + 1) number

def divisorLimit : Nat := 1000000

def factor : Utility := fun given =>
  Grammar.run { name := "factor", flags := "h" } given fun arguments => do
    let words ← if arguments.operands.isEmpty then do
        let text := (← takeAllInput).toOption.getD []
        pure ((text.splitOnP fun character => isBlank character || character = '\n').filter
          fun word => !word.isEmpty)
      else pure arguments.operands
    forEachOperand words fun word => do
      match number? word with
      | some number =>
          printLine (word ++ ':' :: (primeFactors divisorLimit 2 number).flatMap fun factor =>
            ' ' :: (toString factor).toList)
          return 0
      | none => fail "factor" (quote word ++ " is not a valid positive integer".toList)

end SchemaBuild.Shell.Utility
