import SchemaBuild.FileSystem.Listing
import SchemaBuild.Shell.Regex.Matching
import SchemaBuild.Shell.Regex.Rich
import SchemaBuild.Shell.Utility.FileFacts

/-!
# Looking for lines

The utility that prints the lines which have a match of a regular expression.
-/

namespace SchemaBuild.Shell.Utility

structure Searching where
  regexes : List Regex
  ignoresCase : Bool := false
  inverted : Bool := false
  wholeWords : Bool := false
  wholeLines : Bool := false
  firstCounts : Bool := false

def literalRegex (text : Script) : Regex :=
  text.foldr (fun character rest => .sequence (.exactly character) rest) .empty

def Searching.subject (searching : Searching) (line : Script) : Regex.Subject :=
  { text := line.toArray
    ignoresCase := searching.ignoresCase
    firstCounts := searching.firstCounts }

def Searching.isGood (searching : Searching) (subject : Regex.Subject) (found : Regex.Match) :
    Bool :=
  (!searching.wholeLines || found.start = 0 && found.stop = subject.text.size) &&
    (!searching.wholeWords ||
      !(0 < found.start && subject.isWordAt (found.start - 1)) && !subject.isWordAt found.stop)

def Searching.findFrom? (searching : Searching) (subject : Regex.Subject) (regex : Regex) :
    Nat → Nat → Option Regex.Match
  | 0, _ => none
  | steps + 1, place =>
      if subject.text.size < place then none
      else
        match regex.findFrom? subject place with
        | none => none
        | some found =>
            if searching.isGood subject found then some found
            else searching.findFrom? subject regex steps (found.start + 1)

def Searching.bestFrom? (searching : Searching) (subject : Regex.Subject) (place : Nat) :
    Option Regex.Match :=
  searching.regexes.foldl (fun best regex =>
    match best, searching.findFrom? subject regex (subject.text.size + 2) place with
    | none, found => found
    | some best, none => some best
    | some best, some found =>
        if found.start < best.start || found.start = best.start && best.stop < found.stop then
          some found
        else some best) none

def Searching.accepts (searching : Searching) (line : Script) : Bool :=
  (searching.bestFrom? (searching.subject line) 0).isSome ≠ searching.inverted

def Searching.allMatches (searching : Searching) (subject : Regex.Subject) :
    Nat → Nat → List (Nat × Script)
  | 0, _ => []
  | steps + 1, place =>
      match searching.bestFrom? subject place with
      | none => []
      | some found =>
          if found.start = found.stop then
            searching.allMatches subject steps (found.stop + 1)
          else
            (found.start, subject.slice found.start found.stop) ::
              searching.allMatches subject steps found.stop

structure Reporting where
  brief : Option Char := none
  numbers : Bool := false
  names : Bool := false
  onlyMatches : Bool := false
  limit : Option Nat := none
  before : Nat := 0
  after : Nat := 0
  offsets : Bool := false
  divider : Option Script := some ['-', '-']
  ending : Char := '\n'
  zeroAfterNames : Bool := false
  aligned : Bool := false
  isText : Bool := false
  skipsBinary : Bool := false

structure FoundLine where
  number : Nat
  start : Nat
  text : Script
  isMatch : Bool

def placedLines (number start : Nat) : List Script → List (Nat × Nat × Script)
  | [] => []
  | line :: rest => (number, start, line) :: placedLines (number + 1) (start + line.length + 1) rest

def foundLines (searching : Searching) (reporting : Reporting) (lines : List Script) :
    List FoundLine :=
  let placed := placedLines 1 0 lines
  let hits := (placed.filter fun (_, _, line) => searching.accepts line).map (·.1)
  let hits := match reporting.limit with
    | some limit => hits.take limit
    | none => hits
  placed.filterMap fun (number, start, line) =>
    if hits.contains number then some ⟨number, start, line, true⟩
    else if hits.any fun hit =>
        hit < number && number ≤ hit + reporting.after ||
          number < hit && hit ≤ number + reporting.before then
      some ⟨number, start, line, false⟩
    else none

def reportText (searching : Searching) (reporting : Reporting) (name text : Script) :
    Running Bool := do
  let isBinary := text.contains (Char.ofNat 0) && !reporting.isText && reporting.ending = '\n'
  if isBinary && reporting.skipsBinary then return false
  let found := foundLines searching reporting (plainRecords reporting.ending text)
  let hits := found.filter (·.isMatch)
  let isFound := !hits.isEmpty
  let named := fun (sign : Char) =>
    name ++ [if reporting.zeroAfterNames then Char.ofNat 0 else sign]
  let mark := fun (sign : Char) => if reporting.names then named sign else []
  match reporting.brief with
  | some 'c' => printLine (mark ':' ++ (toString hits.length).toList)
  | some 'l' => if isFound then print (named '\n')
  | some 'L' => unless isFound do print (named '\n')
  | some _ => pure ()
  | none =>
      if isFound && isBinary then
        discard (fail "grep" (name ++ ": binary file matches".toList))
      else
        let mut last := 0
        for line in found do
          let sign := if line.isMatch then ':' else '-'
          let number := if reporting.numbers then (toString line.number).toList ++ [sign] else []
          let isGap := 0 < last && last + 1 < line.number
          match reporting.divider with
          | some divider =>
              if isGap && (0 < reporting.before || 0 < reporting.after) then printLine divider
          | none => pure ()
          last := line.number
          let lead := fun (offset : Nat) =>
            let offset := if reporting.offsets then (toString offset).toList ++ [sign] else []
            let lead := mark sign ++ number ++ offset
            if reporting.aligned && !lead.isEmpty then lead ++ ['\t'] else lead
          if reporting.onlyMatches then
            if line.isMatch && !searching.inverted then
              let subject := searching.subject line.text
              for (start, text) in searching.allMatches subject (line.text.length + 2) 0 do
                print (lead (line.start + start) ++ text ++ [reporting.ending])
          else print (lead line.start ++ line.text ++ [reporting.ending])
  return isFound

def filesBelow (path : Script) (entries : Directory) : List Script :=
  ((Node.directory entries).listing (Bytes.ofLatin path)).filterMap fun (path, node) =>
    match node with
    | .file _ => some (Bytes.toLatin path)
    | _ => none

def isWanted (arguments : Arguments) (path : Script) : Bool :=
  let name := lastName path
  let accepted := fun (pattern : Script) => (Pattern.ofText pattern).accepts name
  let wanted := arguments.values '1'
  (wanted.isEmpty || wanted.any accepted) && !(arguments.values '2').any accepted

def grepUsage : String := "Usage: grep [OPTION]... PATTERNS [FILE]..."

def grepStyle (kind : Char) : Regex.Style :=
  if kind = 'E' then
    { extended := true, loneOperators := .skipped, looseBraces := true, looseParentheses := true
      refusesBareClasses := true }
  else { refusesBareClasses := true }

def loneOperators : Nat → Bool → Script → List Script
  | 0, _, _ => []
  | _ + 1, _, [] => []
  | steps + 1, isLone, text =>
      match text with
      | '\\' :: _ :: rest => loneOperators steps false rest
      | '[' :: rest =>
          match Regex.setOf (grepStyle 'E') rest with
          | .ok (_, rest) => loneOperators steps false rest
          | .error _ => []
      | '(' :: rest => loneOperators steps true rest
      | '|' :: rest => loneOperators steps true rest
      | '^' :: rest => loneOperators steps true rest
      | text =>
          match isLone, Regex.repetition? (grepStyle 'E') text with
          | true, .ok (some (_, length)) =>
              let shown := if text.head? = some '\x7b' then "\x7b...\x7d".toList else text.take 1
              shown :: loneOperators steps true (text.drop length)
          | _, .ok (some (_, length)) => loneOperators steps false (text.drop length)
          | _, _ => loneOperators steps false (text.drop 1)

def regexOf (kind : Char) (pattern : Script) : Except String (Regex × Bool) :=
  match kind with
  | 'F' => .ok (literalRegex pattern, false)
  | 'P' => Regex.Rich.parse pattern
  | kind => (Regex.parse (grepStyle kind) pattern).map fun regex => (regex, false)

def contextOptions (given : List Script) : List Script :=
  let before := given.takeWhile (· ≠ ['-', '-'])
  before.map (fun word =>
    match word with
    | '-' :: digits => if (number? digits).isSome then '-' :: 'C' :: digits else word
    | word => word) ++ given.drop before.length

/-- The utility under a name. Its expressions are of the kind that is usual for this name, unless an
option asks for another one. -/
def grepAs (name : String) (usual : Char) : Utility := fun given =>
  Grammar.run
    { helpName := some "grep", usage := some grepUsage, name := "grep"
      flags := "EFGPivclLnqsohHwxrRazybUuIZT45", valued := "efmABC123d6789", failure := 2
      long := [("extended-regexp", 'E'), ("fixed-strings", 'F'), ("basic-regexp", 'G'),
        ("perl-regexp", 'P'), ("ignore-case", 'i'), ("no-ignore-case", '4'),
        ("invert-match", 'v'), ("count", 'c'), ("files-with-matches", 'l'),
        ("files-without-match", 'L'), ("line-number", 'n'), ("quiet", 'q'), ("silent", 'q'),
        ("no-messages", 's'), ("only-matching", 'o'), ("no-filename", 'h'),
        ("with-filename", 'H'), ("word-regexp", 'w'), ("line-regexp", 'x'), ("recursive", 'r'),
        ("dereference-recursive", 'R'), ("byte-offset", 'b'), ("initial-tab", 'T'),
        ("null", 'Z'), ("binary", 'U'), ("line-buffered", 'u'), ("no-group-separator", '5'),
        ("group-separator", '6'), ("label", '7'), ("binary-files", '8'), ("directories", 'd'),
        ("regexp", 'e'), ("file", 'f'), ("max-count", 'm'), ("after-context", 'A'),
        ("before-context", 'B'), ("context", 'C'), ("text", 'a'), ("include", '1'),
        ("exclude", '2'), ("exclude-dir", '3'), ("null-data", 'z')] }
    (contextOptions (given.filter fun word => !("--colo".toList.isPrefixOf word)))
    fun arguments => do
      let refuse := fun (reason : Script) => do
        discard (fail name reason)
        return 2
      for letter in ['A', 'B', 'C'] do
        for text in arguments.values letter do
          if (number? text).isNone then
            return ← refuse (text ++ ": invalid context length argument".toList)
      for text in arguments.values 'm' do
        if (number? text).isNone && (number? (text.drop 1)).isNone then
          return ← refuse "invalid max count".toList
      let mut given := arguments.values 'e'
      for path in arguments.values 'f' do
        match ← textOf path with
        | .ok text => given := given ++ plainLines text
        | .error error =>
            return ← refuse (path ++ ": ".toList ++ error.words.toList)
      let isGiven := (arguments.value? 'e').isSome || (arguments.value? 'f').isSome
      if !isGiven && arguments.operands.isEmpty then
        complain grepUsage.toList
        complain (helpPointer "grep".toList)
        return 2
      let operands := if isGiven then arguments.operands else arguments.operands.drop 1
      let patterns := if isGiven then given else [arguments.operands.headD []]
      let patterns := patterns.flatMap fun pattern => pattern.splitOn '\n'
      let kind := (arguments.lastOf? "EFGP").getD usual
      match patterns.mapM (regexOf kind) with
      | .error reason => refuse reason.toList
      | .ok found =>
          if kind = 'E' then
            for pattern in patterns do
              for operator in loneOperators (pattern.length + 1) true pattern do
                discard (fail name ("warning: ".toList ++ operator ++
                  " at start of expression".toList))
          let wholeLines := arguments.has 'x'
          let regexes := found.map fun (regex, _) =>
            if wholeLines then .sequence .lineStart (.sequence (.group 99 regex) .lineEnd)
            else regex
          let searching : Searching :=
            { regexes := regexes
              ignoresCase := (arguments.lastOf? "iy4").any (· ≠ '4') || found.any (·.2)
              inverted := arguments.has 'v'
              wholeWords := arguments.has 'w' && !wholeLines
              wholeLines := wholeLines
              firstCounts := kind = 'P' }
          let recursive := arguments.has 'r' || arguments.has 'R'
          let numberOf := fun (letter : Char) => (arguments.value? letter).bind number?
          let operands := if operands.isEmpty then (if recursive then [['.']] else [['-']])
            else operands
          let mut status := 1
          let mut failed := false
          let mut paths := []
          for path in operands do
            match ← nodeAt? true path with
            | .ok (.directory entries) =>
                if recursive then
                  let skipped := arguments.values '3'
                  let inner := (filesBelow path entries).filter fun inner =>
                    isWanted arguments inner &&
                      !((inner.drop path.length).splitOn '/').dropLast.any fun name =>
                        skipped.any fun pattern => (Pattern.ofText pattern).accepts name
                  let isBare := arguments.operands.length ≤ (if isGiven then 0 else 1)
                  paths := paths ++ inner.map fun inner =>
                    if isBare && "./".toList.isPrefixOf inner then inner.drop 2 else inner
                else paths := paths ++ [path]
            | _ => paths := paths ++ [path]
          let names := match arguments.lastOf? "hH" with
            | some 'h' => false
            | some _ => true
            | none => 1 < operands.length || recursive
          let reporting : Reporting :=
            { brief := if arguments.has 'q' then some 'q' else arguments.lastOf? "clL"
              numbers := arguments.has 'n'
              names := names
              onlyMatches := arguments.has 'o'
              limit := numberOf 'm'
              before := ((numberOf 'B').or (numberOf 'C')).getD 0
              after := ((numberOf 'A').or (numberOf 'C')).getD 0
              offsets := arguments.has 'b'
              divider := if arguments.has '5' then none
                else some ((arguments.value? '6').getD ['-', '-'])
              ending := recordEnd (arguments.has 'z')
              zeroAfterNames := arguments.has 'Z'
              aligned := arguments.has 'T'
              isText := arguments.has 'a' || arguments.value? '8' = some "text".toList
              skipsBinary := arguments.has 'I' ||
                arguments.value? '8' = some "without-match".toList }
          for path in paths do
            match ← textOf path with
            | .error .isDirectory =>
                unless arguments.has 's' || arguments.value? 'd' = some "skip".toList do
                  discard (failBarely "grep" path .isDirectory)
                discard (reportText searching reporting path [])
            | .error error =>
                unless arguments.has 's' do discard (failBarely "grep" path error)
                failed := true
            | .ok text =>
                let shown := if path = ['-'] then
                    (arguments.value? '7').getD "(standard input)".toList
                  else path
                if ← reportText searching reporting shown text then status := 0
          if failed && !(arguments.has 'q' && status = 0) then return 2
          return status

def grep : Utility := grepAs "grep" 'G'

def workingAs (name : String) (utility : Utility) : Utility := fun given => do
  modifyEnvironment fun environment => { environment with calledName := name.toList }
  utility given

def egrep : Utility := workingAs "grep" (grepAs "grep" 'E')

def fgrep : Utility := workingAs "grep" (grepAs "grep" 'F')

end SchemaBuild.Shell.Utility
