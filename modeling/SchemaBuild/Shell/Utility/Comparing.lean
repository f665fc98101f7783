import SchemaBuild.Shell.Utility.Lines

/-!
# Comparing texts

Utilities that tell how two texts differ.
-/

namespace SchemaBuild.Shell.Utility

/-! ## Differences -/

def nextLengths (line : Script) (others : List Script) (lengths : List Nat) : List Nat :=
  match others, lengths with
  | other :: others, skipped :: lengths =>
      let rest := nextLengths line others lengths
      let length := if line = other then lengths.headD 0 + 1 else max skipped (rest.headD 0)
      length :: rest
  | _, _ => [0]

def commonLengths : List Script → List Script → List (List Nat)
  | [], others => [List.replicate (others.length + 1) 0]
  | line :: lines, others =>
      let rest := commonLengths lines others
      nextLengths line others (rest.headD []) :: rest

inductive Edit where
  | keep
  | remove
  | add
  deriving DecidableEq

def editsFrom : List Script → List Script → List (List Nat) → List Edit
  | [], others, _ => others.map fun _ => .add
  | line :: lines, others, table => inner line lines others (table.headD []) table.tail
where
  inner (line : Script) (lines : List Script) : List Script → List Nat → List (List Nat) →
      List Edit
    | [], _, _ => .remove :: lines.map fun _ => .remove
    | other :: others, lengths, table =>
        if line = other then
          .keep :: editsFrom lines others (table.map (·.drop 1))
        else if lengths.tail.headD 0 ≤ (table.headD []).headD 0 then
          .remove :: editsFrom lines (other :: others) table
        else .add :: inner line lines others lengths.tail (table.map (·.drop 1))

structure Difference where
  first : Nat
  removed : Nat
  second : Nat
  added : Nat

def differences : List Edit → Nat → Nat → Option Difference → List Difference
  | [], _, _, current => current.toList
  | .keep :: edits, first, second, current =>
      current.toList ++ differences edits (first + 1) (second + 1) none
  | .remove :: edits, first, second, current =>
      let old := current.getD ⟨first, 0, second, 0⟩
      differences edits (first + 1) second (some { old with removed := old.removed + 1 })
  | .add :: edits, first, second, current =>
      let old := current.getD ⟨first, 0, second, 0⟩
      differences edits first (second + 1) (some { old with added := old.added + 1 })

def lineRange (start count : Nat) : Script :=
  if count = 0 then (toString start).toList
  else if count = 1 then (toString (start + 1)).toList
  else (toString (start + 1) ++ "," ++ toString (start + count)).toList

def printMarked (mark : String) (lines : List Script) : Running Unit := do
  for line in lines do
    if line.getLast? = some '\n' then print (mark.toList ++ line)
    else print (mark.toList ++ line ++ "\n\\ No newline at end of file\n".toList)

def printDifference (first second : List Script) (difference : Difference) : Running Unit := do
  let letter := if difference.removed = 0 then 'a' else if difference.added = 0 then 'd' else 'c'
  printLine (lineRange difference.first difference.removed ++
    letter :: lineRange difference.second difference.added)
  printMarked "< " ((first.drop difference.first).take difference.removed)
  if letter = 'c' then printLine "---".toList
  printMarked "> " ((second.drop difference.second).take difference.added)

def hunks (context : Nat) : List Difference → List (List Difference)
  | [] => []
  | difference :: others =>
      match hunks context others with
      | (next :: more) :: rest =>
          if next.first ≤ difference.first + difference.removed + 2 * context then
            (difference :: next :: more) :: rest
          else [difference] :: (next :: more) :: rest
      | rest => [difference] :: rest

def hunkRange (start count : Nat) : Script :=
  if count = 1 then (toString (start + 1)).toList
  else (toString (if count = 0 then start else start + 1) ++ "," ++ toString count).toList

def printHunk (context : Nat) (first second : List Script) (hunk : List Difference) :
    Running Unit := do
  match hunk.head?, hunk.getLast? with
  | some head, some last =>
      let before := min context head.first
      let start := head.first - before
      let stop := min first.length (last.first + last.removed + context)
      let secondStart := head.second - before
      let secondStop := last.second + last.added + (stop - (last.first + last.removed))
      printLine ("@@ -".toList ++ hunkRange start (stop - start) ++ " +".toList ++
        hunkRange secondStart (secondStop - secondStart) ++ " @@".toList)
      let mut place := start
      for difference in hunk do
        printMarked " " ((first.drop place).take (difference.first - place))
        printMarked "-" ((first.drop difference.first).take difference.removed)
        printMarked "+" ((second.drop difference.second).take difference.added)
        place := difference.first + difference.removed
      printMarked " " ((first.drop place).take (stop - place))
  | _, _ => pure ()

def comparedLine (arguments : Arguments) (line : Script) : Script :=
  let line := if arguments.has 'i' then line.map Char.toLower else line
  if arguments.has 'w' then line.filter fun character => !isBlank character
  else if arguments.has 'b' then
    let words := (line.splitOnP isBlank).filter fun word => !word.isEmpty
    [' '].intercalate words
  else line

def aboutPaths (first second : Script) (told : String) : Script :=
  "Files ".toList ++ first ++ " and ".toList ++ second ++ told.toList

def compareTexts (arguments : Arguments) (heading : List Script)
    (firstPath secondPath first second : Script) : Running Nat := do
  let firstLines := lines first
  let secondLines := lines second
  let firstKeys := firstLines.map (comparedLine arguments)
  let secondKeys := secondLines.map (comparedLine arguments)
  if firstKeys = secondKeys then
    if arguments.has 's' then printLine (aboutPaths firstPath secondPath " are identical")
    return 0
  if arguments.has 'q' then
    printLine (aboutPaths firstPath secondPath " differ")
    return 1
  for line in heading do printLine line
  let found := differences
    (editsFrom firstKeys secondKeys (commonLengths firstKeys secondKeys)) 0 0 none
  if arguments.has 'u' || arguments.has 'U' then
    let labels := arguments.values 'L'
    printLine ("--- ".toList ++ labels.headD firstPath)
    printLine ("+++ ".toList ++ labels.tail.headD secondPath)
    let context := ((arguments.value? 'U').bind number?).getD 3
    for hunk in hunks context found do printHunk context firstLines secondLines hunk
  else
    for difference in found do printDifference firstLines secondLines difference
  return 1

def namesAt (path : Script) : Running (List Script) := do
  match ← nodeAt? true path with
  | .ok (.directory entries) => return entries.toList.map fun entry => Bytes.toLatin entry.1
  | _ => return []

def isThere (path : Script) : Running Bool :=
  return (← nodeAt? true path) matches .ok _

def kindAt (path : Script) : Running Script := do
  if ← isDirectoryAt path then return "directory".toList
  match ← textOf path with
  | .ok [] => return "regular empty file".toList
  | _ => return "regular file".toList

def comparedText (arguments : Arguments) (path : Script) : Running (Except FileError Script) := do
  match ← textOf path with
  | .error .notFound => return if arguments.has 'N' then .ok [] else .error .notFound
  | result => return result

def compareFiles (arguments : Arguments) (heading : List Script) (first second : Script) :
    Running Nat := do
  match ← comparedText arguments first, ← comparedText arguments second with
  | .ok firstText, .ok secondText =>
      compareTexts arguments heading first second firstText secondText
  | firstText, secondText =>
      for (path, text) in [(first, firstText), (second, secondText)] do
        match text with
        | .error error => discard (failBarely "diff" path error)
        | .ok _ => pure ()
      return 2

/-- Compare what two paths lead to, down to some depth. The heading is printed above the differences
of two files that were found in directories. -/
def comparePaths (arguments : Arguments) (heading : Script) : Nat → Bool → Script → Script →
    Running Nat
  | 0, _, _, _ => return 2
  | depth + 1, isTop, first, second => do
      let fills := arguments.has 'N'
      let firstIs ← isDirectoryAt first
      let secondIs ← isDirectoryAt second
      let firstCounts := firstIs || secondIs && fills && !(← isThere first)
      let secondCounts := secondIs || firstIs && fills && !(← isThere second)
      match firstCounts, secondCounts with
      | true, true =>
          if !isTop && !arguments.has 'r' then
            printLine ("Common subdirectories: ".toList ++ first ++ " and ".toList ++ second)
            return 0
          let names := ((← namesAt first) ++ (← namesAt second)).eraseDups.mergeSort
            fun left right => decide (left ≤ right)
          names.foldlM (fun status name => do
            let only := fun (path : Script) => do
              printLine ("Only in ".toList ++ path ++ ": ".toList ++ name)
              return max status 1
            if !fills && !(← isThere (below second name)) then only first
            else if !fills && !(← isThere (below first name)) then only second
            else
              let found ← comparePaths arguments heading depth false (below first name)
                (below second name)
              return max status found) 0
      | false, false =>
          compareFiles arguments (if isTop then [] else [heading ++ ' ' :: first ++ ' ' :: second])
            first second
      | _, _ =>
          for path in [first, second] do
            unless ← isThere path do
              discard (failBarely "diff" path .notFound)
              return 2
          printLine ("File ".toList ++ first ++ " is a ".toList ++ (← kindAt first) ++
            " while file ".toList ++ second ++ " is a ".toList ++ (← kindAt second))
          return 1

def comparedDepth : Nat := 1000

def diff : Utility := fun given =>
  Grammar.run
    { name := "diff", flags := "qsuiwbBrNacet", valued := "UL", failure := 2, namesHelp := true
      long := [("brief", 'q'), ("unified", 'u'), ("ignore-case", 'i'), ("label", 'L'),
        ("recursive", 'r'), ("new-file", 'N'), ("report-identical-files", 's'),
        ("ignore-all-space", 'w'), ("ignore-space-change", 'b')] } given fun arguments => do
      let called ← calledAs "diff"
      let refuse := fun (reason : Script) => do
        discard (fail "diff" reason)
        discard (fail "diff" (helpPointer called))
        return 2
      match arguments.operands with
      | [left, right] =>
          let options := given.filter fun word => word.head? = some '-' && 1 < word.length
          let heading := [' '].intercalate (called :: options)
          -- A file is compared with the one of its name in a directory.
          let inside := fun (path other : Script) => do
            if (← isDirectoryAt path) && (← isThere other) && !(← isDirectoryAt other) then
              return below path (lastName other)
            else return path
          comparePaths arguments heading comparedDepth true (← inside left right)
            (← inside right left)
      | [] => refuse ("missing operand after ".toList ++ quote (given.getLast?.getD called))
      | [operand] => refuse ("missing operand after ".toList ++ quote operand)
      | _ :: _ :: extra :: _ => refuse ("extra operand ".toList ++ quote extra)

end SchemaBuild.Shell.Utility
