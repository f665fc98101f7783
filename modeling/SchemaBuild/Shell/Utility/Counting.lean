import SchemaBuild.Shell.Utility.FileFacts

/-!
# Counting

The utility that counts the lines, words and characters of texts.
-/

namespace SchemaBuild.Shell.Utility

structure Counts where
  lines : Nat := 0
  words : Nat := 0
  characters : Nat := 0
  longest : Nat := 0

namespace Counts

structure Progress where
  counts : Counts := {}
  width : Nat := 0
  isInWord : Bool := false

def isVisible (character : Char) : Bool :=
  33 ≤ character.toNat && character.toNat < 127

def Progress.next (progress : Progress) (character : Char) : Progress :=
  let counts := { progress.counts with characters := progress.counts.characters + 1 }
  let ended := { counts with longest := max counts.longest progress.width }
  match character with
  | '\n' => { counts := { ended with lines := ended.lines + 1 } }
  | '\r' => { counts := ended }
  | '\x0c' => { counts := ended }
  | '\t' => { counts := counts, width := progress.width + 8 - progress.width % 8 }
  | ' ' => { counts := counts, width := progress.width + 1 }
  | '\x0b' => { counts := counts, width := progress.width }
  | character =>
      if isVisible character then
        { counts := { counts with words := counts.words + if progress.isInWord then 0 else 1 }
          width := progress.width + 1
          isInWord := true }
      else { progress with counts := counts }

def ofText (text : Script) : Counts :=
  let progress := text.foldl Progress.next {}
  { progress.counts with longest := max progress.counts.longest progress.width }

def add (left right : Counts) : Counts :=
  { lines := left.lines + right.lines
    words := left.words + right.words
    characters := left.characters + right.characters
    longest := max left.longest right.longest }

example : (ofText "a b\nc".toList).words = 3 := by decide +kernel
example : (ofText "a\tb\n".toList).longest = 9 := by decide +kernel

end Counts

inductive TotalManner where
  | auto
  | always
  | only
  | never
  deriving DecidableEq

def totalChoices : List (TotalManner × List String) :=
  [(.auto, ["auto"]), (.always, ["always"]), (.only, ["only"]), (.never, ["never"])]

inductive OperandSize where
  | missing
  | file (size : Nat)
  | other

def operandSize (path : Script) : Running OperandSize := do
  let state ← get
  let sizeAt := fun (id : FileId) =>
    OperandSize.file (state.files.storedAt id).content.toBytes.length
  if path = ['-'] then
    match state.openFile? 0 with
    | some (_, { endpoint := .file id, .. }) => return sizeAt id
    | some _ => return .other
    | none => return .missing
  else
    match ← nodeAt? true path with
    | .ok (.file id) => return sizeAt id
    | .ok _ => return .other
    | .error _ => return .missing

def countWidth (sizes : List OperandSize) : Nat :=
  match sizes with
  | [] => 1
  | .missing :: _ => 1
  | sizes =>
      let total := sizes.foldl (fun total size => total + match size with
        | .file size => size
        | _ => 0) 0
      let least := if sizes.any fun size => size matches .other then 7 else 1
      max (toString total).length least

def listedOperands (path : Script) : Running (Except Script (List Script × Bool)) := do
  match ← textOf path with
  | .ok text =>
      let isFile := (← operandSize path) matches .file _
      return .ok (plainRecords (Char.ofNat 0) text, isFile && path ≠ ['-'])
  | .error .isDirectory =>
      return .error (path ++ ": read error: Is a directory".toList)
  | .error error =>
      return .error ("cannot open ".toList ++ quotePath path ++ " for reading: ".toList ++
        error.words.toList)

def countAll (list : Option Script) (total : TotalManner) (chosen : Counts → List Nat)
    (width : Nat) (isNamed : Bool) (operands : List Script) : Running Nat := do
  let shown := fun (counts : Counts) (name : Script) =>
    let texts := (chosen counts).map fun count => padLeft width (toString count).toList
    printLine ([' '].intercalate texts ++ if name.isEmpty then [] else ' ' :: name)
  let mut status := 0
  let mut totals : Counts := {}
  for (path, index) in operands.zip (List.range operands.length) do
    if list.isSome && path.isEmpty then
      status ← fail "wc" (list.getD [] ++ ':' :: (toString (index + 1)).toList ++
        ": invalid zero-length file name".toList)
    else if list = some ['-'] && path = ['-'] then
      status ← fail "wc"
        "when reading file names from stdin, no file name of '-' allowed".toList
    else
      match ← textOf path with
      | .ok text =>
          let counts := Counts.ofText text
          totals := totals.add counts
          unless total = .only do shown counts (if isNamed then path else [])
      | .error .isDirectory =>
          status ← failPlainly "wc" path .isDirectory
          unless total = .only do shown {} path
      | .error .badChannel =>
          status ← failBarely "wc" "'standard input'".toList .badChannel
          unless total = .only do shown {} (if isNamed then path else [])
          discard (failBarely "wc" ['-'] .badChannel)
      | .error error => status ← failPlainly "wc" path error
  match total with
  | .never => pure ()
  | .only => shown totals []
  | .always => shown totals "total".toList
  | .auto => if 1 < operands.length then shown totals "total".toList
  return status

def wc : Utility := fun given =>
  Grammar.run
    { name := "wc", flags := "lwcmL", valued := "φτ"
      long := [("lines", 'l'), ("words", 'w'), ("bytes", 'c'), ("chars", 'm'),
        ("max-line-length", 'L'), ("files0-from", 'φ'), ("total", 'τ')] } given fun arguments => do
      let total ← match arguments.value? 'τ' with
        | none => pure TotalManner.auto
        | some word =>
            match choice? totalChoices word with
            | some total => pure total
            | none => return ← refuseChoice "wc" "--total" totalChoices word
      let columns : List (Char × (Counts → Nat)) :=
        [('l', Counts.lines), ('w', Counts.words), ('m', Counts.characters),
          ('c', Counts.characters), ('L', Counts.longest)]
      let isGiven := columns.any fun column => arguments.has column.1
      let picked := columns.filter fun column =>
        if isGiven then arguments.has column.1 else ['l', 'w', 'c'].contains column.1
      let chosen := fun (counts : Counts) => picked.map fun column => column.2 counts
      match arguments.value? 'φ', arguments.operands with
      | some _, extra :: _ =>
          discard (fail "wc" ("extra operand ".toList ++ quote extra))
          complain "file operands cannot be combined with --files0-from".toList
          pointToHelp "wc"
          return 1
      | some list, [] =>
          match ← listedOperands list with
          | .error reason => fail "wc" reason
          | .ok (operands, isKnown) =>
              let sizes ← if isKnown then operands.mapM operandSize else pure []
              let isOne := operands.length = 1 && picked.length = 1
              let width := if total = .only || isOne then 1 else countWidth sizes
              countAll (some list) total chosen width true operands
      | none, operands =>
          let isNamed := !operands.isEmpty
          let operands := if operands.isEmpty then [['-']] else operands
          let sizes ← operands.mapM operandSize
          let isOne := operands.length = 1 && picked.length = 1
          let width := if total = .only || isOne then 1 else countWidth sizes
          countAll none total chosen width isNamed operands

end SchemaBuild.Shell.Utility
