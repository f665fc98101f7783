import SchemaBuild.Shell.Utility.Lines
import SchemaBuild.Shell.Utility.Quantity

/-!
# Splitting

The utility that splits a text into files, or into the inputs of a command. The text is first
divided into pieces, and then a name is counted up for each of
them. -/

namespace SchemaBuild.Shell.Utility

namespace Pieces

/-! ## Pieces -/

def pieces {α : Type} (length : Nat) : Nat → List α → List (List α)
  | 0, _ => []
  | _ + 1, [] => []
  | steps + 1, items => items.take length :: pieces length steps (items.drop length)

def equalPieces (count : Nat) (text : Script) : List Script :=
  let size := text.length / count
  let extra := text.length % count
  go size extra text count 0
where
  go (size extra : Nat) (text : Script) : Nat → Nat → List Script
    | 0, _ => []
    | left + 1, index =>
        let length := size + if index < extra then 1 else 0
        text.take length :: go size extra (text.drop length) left (index + 1)

structure Writing where
  isNew : Bool
  text : Script := []
  chunk : Nat := 0

def gathered (writings : List Writing) : List Script :=
  let (done, last) := writings.foldl (fun (done, last) writing =>
    if writing.isNew then
      (match last with
        | some text => text :: done
        | none => done, some writing.text)
    else (done, some (last.getD [] ++ writing.text))) (([] : List Script), (none : Option Script))
  (match last with
    | some text => text :: done
    | none => done).reverse

/-- Whole lines, as many as fit into some length. A longer line is broken. `done` tells how much the
current file holds, `held` is text for which there may be no room in it, and `hasLine` tells whether
a line has ended in it. -/
def fitting (ending : Char) (limit : Nat) : Nat → Nat → Script → Bool → Script → List Writing
  | 0, _, _, _, _ => []
  | _ + 1, done, held, _, [] => if held.isEmpty then [] else [{ isNew := done = 0, text := held }]
  | steps + 1, done, held, hasLine, text =>
      let room := limit - done - held.length
      let isFull := room ≤ text.length
      let window := if isFull then text.take room else text
      -- The text up to the last line that ends in the window.
      let whole := (window.reverse.dropWhile (· ≠ ending)).reverse
      let flushes := !held.isEmpty && !(whole.isEmpty && done ≠ 0)
      let first : List Writing := if flushes then [{ isNew := done = 0, text := held }] else []
      let done := if flushes then done + held.length else done
      let held := if flushes then [] else held
      let second : List Writing :=
        if whole.isEmpty then [] else [{ isNew := done = 0, text := whole }]
      let done := done + whole.length
      let hasLine := hasLine || !whole.isEmpty
      let rest := window.drop whole.length
      let breaks := !hasLine && !rest.isEmpty
      let third : List Writing := if breaks then [{ isNew := done = 0, text := rest }] else []
      let done := if breaks then done + rest.length else done
      let held := if breaks then held else held ++ rest
      let after := text.drop window.length
      let others :=
        if isFull then fitting ending limit steps 0 held false after
        else fitting ending limit steps done held hasLine after
      first ++ second ++ third ++ others

structure Chunking where
  written : Nat
  chunk : Nat := 1
  stop : Nat

/-- Go on to the chunk in which the next line starts. A chunk that a line has skipped gets an empty
file. Gives these files, and whether the text ended within a line. -/
def skipChunks (size extra : Nat) (isAtEnd : Bool) :
    Nat → Bool → Chunking → List Writing × Chunking × Bool
  | 0, _, chunking => ([], chunking, false)
  | steps + 1, isNext, chunking =>
      if !(isNext || chunking.stop ≤ chunking.written) then ([], chunking, false)
      else if !isNext && isAtEnd then ([], chunking, true)
      else
        let moved := { chunking with
          stop := chunking.stop + size + if chunking.chunk < extra then 1 else 0
          chunk := chunking.chunk + 1 }
        if moved.stop ≤ moved.written then
          let (writings, final, isCut) := skipChunks size extra isAtEnd steps isNext moved
          ({ isNew := true, chunk := moved.chunk } :: writings, final, isCut)
        else skipChunks size extra isAtEnd steps false moved

/-- Chunks of whole lines. A chunk ends with the first line that ends at or after the place where it
should. At most `limit` files are empty in a row. -/
def lineChunks (ending : Char) (size extra count limit : Nat) :
    Nat → Bool → Bool → Chunking → Script → List Writing
  | 0, _, _, _, _ => []
  | _ + 1, _, isCut, chunking, [] =>
      let next := if isCut then chunking.chunk + 1 else chunking.chunk
      List.replicate (count + 1 - next) { isNew := true, chunk := count + 1 }
  | steps + 1, isNew, _, chunking, text =>
      let skipped := min text.length (chunking.stop - 1 - chunking.written)
      let start := text.take skipped
      let rest := text.drop skipped
      let before := rest.takeWhile (· ≠ ending)
      let isNext := before.length < rest.length
      let taken := start ++ before ++ if isNext then [ending] else []
      let after := rest.drop (before.length + 1)
      let moved := { chunking with written := chunking.written + taken.length }
      let (empty, final, isCut) := skipChunks size extra after.isEmpty limit isNext moved
      { isNew, text := taken, chunk := chunking.chunk } :: empty ++
        lineChunks ending size extra count limit steps isNext isCut final after

def chunksOf (ending : Char) (count limit : Nat) (text : Script) : List Writing :=
  let size := text.length / count
  let extra := text.length % count
  lineChunks ending size extra count limit (text.length + 2) true false
    { written := 0, stop := size + if 0 < extra then 1 else 0 } text

def chunkOf (ending : Char) (number count : Nat) (text : Script) : Script :=
  let size := text.length / count
  let extra := text.length % count
  let writings :=
    if 1 < number && !text.isEmpty then
      let start := (number - 1) * size + min (number - 1) extra - 1
      lineChunks ending size extra count (count + 2) (text.length + 2) true false
        { written := start, chunk := number - 1, stop := start + 1 } (text.drop start)
    else chunksOf ending count (count + 2) text
  (writings.filter fun writing => writing.chunk = number).flatMap (·.text)

def roundRobin (ending : Char) (count : Nat) (text : Script) : List Script :=
  let lines := (records ending text).zipIdx
  (List.range (min count lines.length)).map (fun index =>
    (lines.filter fun line => line.2 % count = index).flatMap (·.1)) ++
    List.replicate (count - lines.length) []

/-! ## Names -/

structure Names where
  base : Script
  alphabet : Script := "abcdefghijklmnopqrstuvwxyz".toList
  length : Nat := 2
  widens : Bool := true
  number : Nat := 0
  ending : Script := []

namespace Names

def text (names : Names) : Script :=
  let base := names.alphabet.length
  names.base ++ ((List.range names.length).reverse.map fun place =>
    names.alphabet.getD (names.number / base.pow place % base) 'a') ++ names.ending

def next? (names : Names) : Option Names :=
  let base := names.alphabet.length
  let next := names.number + 1
  if names.widens && next = (base - 1) * base.pow (names.length - 1) then
    some { names with
      base := names.base ++ [names.alphabet.getLastD 'z'], length := names.length + 1, number := 0 }
  else if next < base.pow names.length then some { names with number := next }
  else none

def reach (names : Names) (count : Nat) : Bool :=
  names.widens || names.number + count ≤ names.alphabet.length.pow names.length

end Names

/-! ## Choices -/

inductive Way where
  | lines (count : Nat)
  | bytes (count : Nat)
  | lineBytes (count : Nat)
  | byteChunks (only : Option Nat) (count : Nat)
  | lineChunks (only : Option Nat) (count : Nat)
  | rounds (only : Option Nat) (count : Nat)

namespace Way

def count? : Way → Option Nat
  | .byteChunks _ count => some count
  | .lineChunks _ count => some count
  | .rounds _ count => some count
  | _ => none

def only? : Way → Option Nat
  | .byteChunks only _ => only
  | .lineChunks only _ => only
  | .rounds only _ => only
  | _ => none

def needsLength : Way → Bool
  | .byteChunks _ _ => true
  | .lineChunks _ _ => true
  | _ => false

end Way

structure Choices where
  way : Option Way := none
  isShort : Bool := false
  length : Nat := 0
  alphabet : Script := "abcdefghijklmnopqrstuvwxyz".toList
  first : Option Script := none
  ending : Script := []
  separator : Option Char := none
  dropsEmpty : Bool := false
  filter : Option Script := none
  isVerbose : Bool := false

abbrev Refusal := Script × Bool

def countOf (units what : String) (text : Script) : Except Refusal Nat :=
  let refusal : Refusal := (what.toList ++ ": ".toList ++ quote text, false)
  match Quantity.read units false text with
  | .ok 0 => .error refusal
  | .ok count => .ok count
  | .error .tooLarge => .ok Quantity.greatest
  | .error _ => .error refusal

def chunksIn (text : Script) : Except Refusal (Option Nat × Nat) := do
  let what := "invalid number of chunks"
  let first := text.takeWhile (· ≠ '/')
  match text.drop first.length, Quantity.read "" false first with
  | _ :: rest, .ok number =>
      let count ← countOf "" what rest
      if number = 0 || count < number then
        throw ("invalid chunk number: ".toList ++ quote first, false)
      return (some number, count)
  | _, _ => return (none, ← countOf "" what text)

def wayOf (letter : Char) (value : Script) : Except Refusal Way := do
  match letter with
  | 'b' => return .bytes (← countOf countUnits "invalid number of bytes" value)
  | 'C' => return .lineBytes (← countOf countUnits "invalid number of lines" value)
  | 'n' =>
      match value.dropWhile isSpace with
      | 'r' :: '/' :: text =>
          let (only, count) ← chunksIn text
          return .rounds only count
      | 'l' :: '/' :: text =>
          let (only, count) ← chunksIn text
          return .lineChunks only count
      | text =>
          let (only, count) ← chunksIn text
          return .byteChunks only count
  | _ => return .lines (← countOf "" "invalid number of lines" value)

def separatorOf (old : Option Char) (value : Script) : Except Refusal Char := do
  let new ← match value with
    | [] => throw ("empty record separator".toList, false)
    | [character] => pure character
    | ['\\', '0'] => pure (Char.ofNat 0)
    | value => throw ("multi-character separator ".toList ++ quote value, false)
  if old.any (· ≠ new) then throw ("multiple separator characters specified".toList, false)
  return new

def firstOf (isNumber : Bool) (alphabet value : Script) : Except Refusal Script :=
  if value.all alphabet.contains then
    let trimmed := value.dropWhile (· = '0')
    .ok (if trimmed.isEmpty then value.take 1 else trimmed)
  else
    .error (quote value ++ ": invalid start value for ".toList ++
      (if isNumber then "numerical" else "hexadecimal").toList ++ " suffix".toList, true)

def Choices.put (choices : Choices) (letter : Char) (value : Script) : Except Refusal Choices := do
  let twice : Refusal := ("cannot split in more than one way".toList, true)
  match letter with
  | 'a' =>
      match Quantity.read "" false value with
      | .ok length => return { choices with length }
      | .error fault =>
          let isNegative := match value with
            | '-' :: digits => (number? digits).isSome
            | _ => false
          throw ("invalid suffix length: ".toList ++ quote value ++
            (if isNegative then ": Numerical result out of range"
              else if fault = .tooLarge then ": Value too large for defined data type"
              else "").toList, false)
  | 'δ' =>
      if choices.way.isSome && !choices.isShort then throw twice
      return { choices with
        way := some (.lines (min Quantity.greatest (ofDigits 10 value))), isShort := true }
  | 'd' | 'ν' =>
      let alphabet := "0123456789".toList
      let first ← if letter = 'ν' && !value.isEmpty then some <$> firstOf true alphabet value
        else pure choices.first
      return { choices with alphabet, first }
  | 'x' | 'ξ' =>
      let alphabet := "0123456789abcdef".toList
      let first ← if letter = 'ξ' && !value.isEmpty then some <$> firstOf false alphabet value
        else pure choices.first
      return { choices with alphabet, first }
  | 'σ' =>
      if value.contains '/' then
        throw ("invalid suffix ".toList ++ quote value ++
          ", contains directory separator".toList, true)
      return { choices with ending := value }
  | 't' => return { choices with separator := some (← separatorOf choices.separator value) }
  | 'e' => return { choices with dropsEmpty := true }
  | 'φ' => return { choices with filter := some value }
  | 'β' => return { choices with isVerbose := true }
  | 'u' => return choices
  | letter =>
      if choices.way.isSome then throw twice
      return { choices with way := some (← wayOf letter value) }

def lengthFor (base : Nat) : Nat → Nat → Nat
  | 0, _ => 1
  | steps + 1, greatest => if greatest < base then 1 else lengthFor base steps (greatest / base) + 1

def Choices.names (choices : Choices) (way : Way) (base : Script) : Except Refusal Names := do
  let needed := match way.count? with
    | none => 0
    | some count =>
        let shift := match choices.first.map (Quantity.read "" false) with
          | some (.ok first) => if first < count then first else 0
          | _ => 0
        lengthFor choices.alphabet.length 70 (count - 1 + shift)
  if choices.length ≠ 0 && choices.length < needed then
    throw ("the suffix length needs to be at least ".toList ++ (toString needed).toList, false)
  let length := if choices.length ≠ 0 then choices.length else max 2 needed
  let first := choices.first.getD []
  if length < first.length then
    throw ("numerical suffix start value is too large for the suffix length".toList, true)
  return {
    base, length
    alphabet := choices.alphabet
    widens := choices.length = 0 && choices.first.isNone && way.count?.isNone
    number := first.foldl (fun number digit =>
      number * choices.alphabet.length + choices.alphabet.idxOf digit) 0
    ending := choices.ending }

/-! ## Output -/

def grammar : Grammar :=
  { name := "split", flags := "0123456789deuxβ", valued := "abCδlntσφ", optional := "νξ"
    long := [("bytes", 'b'), ("lines", 'l'), ("line-bytes", 'C'), ("number", 'n'),
      ("elide-empty-files", 'e'), ("unbuffered", 'u'), ("suffix-length", 'a'),
      ("additional-suffix", 'σ'), ("numeric-suffixes", 'ν'), ("hex-suffixes", 'ξ'),
      ("filter", 'φ'), ("verbose", 'β'), ("separator", 't')] }

def setApart : List Script → List Script
  | [] => []
  | ['-', '-'] :: rest => ['-', '-'] :: rest
  | ('-' :: first :: letters) :: rest =>
      if first.isDigit then
        let digits := first :: letters.takeWhile Char.isDigit
        let others := letters.dropWhile Char.isDigit
        ('-' :: 'δ' :: digits) ::
          (if others.isEmpty then setApart rest else ('-' :: others) :: setApart rest)
      else
        match grammar.cluster (first :: letters), rest with
        | .ok (_, some _), value :: rest => ('-' :: first :: letters) :: value :: setApart rest
        | _, rest => ('-' :: first :: letters) :: setApart rest
  | word :: rest => word :: setApart rest

def filterPiece (start : Start) (command name piece : Script) : Running Nat := do
  let environment ← environment
  let shell := (valueOf? "SHELL".toList environment.exports).getD "/bin/sh".toList
  -- A shell of the system is called by its plain name.
  let called := if parentPath shell = "/bin".toList then lastName shell else shell
  let pipe ← addPipe piece
  let index ← addOpen { endpoint := .pipe pipe, reads := true }
  let result ← withChannel 0 index do
    modifyEnvironment fun environment =>
      environment.bind "FILE".toList { value := some name, exported := true }
    start [called, "-c".toList, command]
  let report := fun (what : Script) =>
    fail "split" ("with FILE=".toList ++ Quotation.ifNeeded name ++ ", ".toList ++ what ++
      " from command: ".toList ++ command)
  match result with
  | .ok (.code 0) => return 0
  | .ok (.code status) =>
      discard (report ("exit ".toList ++ (toString status).toList))
      return status
  | .ok (.signal number) =>
      let name := ExitStatus.signalNames.getD (number - 1) ""
      if name = "SIGPIPE" then return 0
      discard (report ("signal ".toList ++ name.toList.drop 3))
      return 128 + number
  | .error error =>
      discard (fail "split" ("failed to run command: \"".toList ++ shell ++ " -c ".toList ++
        command ++ "\": ".toList ++ error.words.toList))
      report "exit 1".toList

def writePiece (input : Option FileId) (name piece : Script) : Running Nat := do
  match ← nodeAt? true name with
  | .ok (.file id) =>
      if some id = input then
        return ← fail "split" (quotePath name ++ " would overwrite input; aborting".toList)
  | _ => pure ()
  match ← replaceFile name piece with
  | .ok () => return 0
  | .error error => failPlainly "split" name error

/-- Put pieces out under the names from one on, and tell with what status that ends, and what was
done. Without a name there is none for the next piece. -/
def putOut (choices : Choices) (output : Script → Script → Running Nat) (told : Script) :
    Option Names → List Script → Running (Nat × Script)
  | _, [] => return (0, told)
  | none, _ :: _ => do
      print told
      return (← fail "split" "output file suffixes exhausted".toList, [])
  | some names, piece :: rest => do
      let name := names.text
      let told := if !choices.isVerbose then told
        else if choices.filter.isSome then
          told ++ "executing with FILE=".toList ++ Quotation.ifNeeded name ++ ['\n']
        else told ++ "creating file ".toList ++ quotePath name ++ ['\n']
      let status ← output name piece
      if status ≠ 0 then return (status, told)
      putOut choices output told names.next? rest

def piecesOf (ending : Char) (names : Names) (text : Script) : Way → List Script
  | .lines count => (pieces count text.length (records ending text)).map List.flatten
  | .bytes count => pieces count text.length text
  | .lineBytes count => gathered (fitting ending count (2 * text.length + 2) 0 [] false text)
  | .byteChunks none count => equalPieces count text
  | .byteChunks (some number) count => [(equalPieces count text).getD (number - 1) []]
  | .lineChunks none count =>
      let limit := names.alphabet.length.pow names.length + 1
      gathered (chunksOf ending count limit text)
  | .lineChunks (some number) count => [chunkOf ending number count text]
  | .rounds none count => roundRobin ending count text
  | .rounds (some number) count => [(roundRobin ending count text).getD (number - 1) []]

end Pieces

open Pieces in
def split (start : Start) : Utility := fun given =>
  grammar.run (setApart given) fun arguments => do
    let refuse := fun ((reason, pointsToHelp) : Refusal) =>
      if pointsToHelp then failUsage "split" reason else fail "split" reason
    let put := fun (choices : Choices) ((letter, value) : Char × Script) =>
      if letter.isDigit then choices.put 'δ' [letter] else choices.put letter value
    match arguments.options.foldlM put {} with
    | .error refusal => refuse refusal
    | .ok choices =>
        let way := choices.way.getD (.lines 1000)
        if way.only?.isSome && choices.filter.isSome then
          return ← failUsage "split" "--filter does not process a chunk extracted to stdout".toList
        match way with
        | .lines 0 => return ← failUsage "split" "invalid number of lines: '0'".toList
        | _ => pure ()
        let path := arguments.operands.headD ['-']
        let extra? := (arguments.operands.drop 2).head?
        match choices.names way (arguments.operands.getD 1 ['x']), extra? with
        | .error (reason, false), _ => fail "split" reason
        | _, some extra => failUsage "split" ("extra operand ".toList ++ quote extra)
        | .error refusal, none => refuse refusal
        | .ok names, none =>
            match ← textOf path with
            | .error .isDirectory =>
                if way.needsLength then
                  failBarely "split"
                    (Quotation.ifNeeded path ++ ": cannot determine file size".toList) .isDirectory
                else failPlainly "split" path .isDirectory
            | .error .badChannel => failPlainly "split" path .badChannel
            | .error error =>
                fail "split" ("cannot open ".toList ++ quotePath path ++ " for reading: ".toList ++
                  error.words.toList)
            | .ok text =>
                let ending := choices.separator.getD '\n'
                let pieces := piecesOf ending names text way
                if way.only?.isSome then
                  print pieces.flatten
                  return 0
                let pieces :=
                  if choices.dropsEmpty then pieces.filter fun piece => !piece.isEmpty else pieces
                let isShort := match way with
                  | .rounds _ count => !names.reach count
                  | _ => false
                if isShort then return ← fail "split" "output file suffixes exhausted".toList
                let input ← inputFile? path
                let output := match choices.filter with
                  | some command => filterPiece start command
                  | none => writePiece input
                let (status, told) ← putOut choices output [] (some names) pieces
                print told
                return status

end SchemaBuild.Shell.Utility
