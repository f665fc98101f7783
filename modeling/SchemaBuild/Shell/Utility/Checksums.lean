import SchemaBuild.Shell.Digest
import SchemaBuild.Shell.Utility

/-!
# Checksums

Utilities that print a digest of every text, or check digests that a text lists.
-/

namespace SchemaBuild.Shell.Utility

structure Digesting where
  name : String
  label : String
  digest : Bytes → Script

namespace Digesting

def length (digesting : Digesting) : Nat :=
  (digesting.digest []).length

/-! ## Names -/

def needsEscape (path : Script) : Bool :=
  path.any fun character => character = '\\' || character = '\n' || character = '\r'

def escapedName (path : Script) : Script :=
  path.flatMap fun character =>
    if character = '\\' then ['\\', '\\']
    else if character = '\n' then ['\\', 'n']
    else if character = '\r' then ['\\', 'r']
    else [character]

def plainName? : Script → Option Script
  | [] => some []
  | '\\' :: 'n' :: rest => (plainName? rest).map ('\n' :: ·)
  | '\\' :: 'r' :: rest => (plainName? rest).map ('\r' :: ·)
  | '\\' :: '\\' :: rest => (plainName? rest).map ('\\' :: ·)
  | character :: rest =>
      if character = '\\' || character.toNat = 0 then none
      else (plainName? rest).map (character :: ·)

def line (digesting : Digesting) (isTagged isBinary : Bool) (ending : Char) (path value : Script) :
    Script :=
  let escapes := needsEscape path && ending = '\n'
  let shown := if escapes then escapedName path else path
  (if escapes then ['\\'] else []) ++
    (if isTagged then digesting.label.toList ++ " (".toList ++ shown ++ ") = ".toList ++ value
    else value ++ (if isBinary then " *" else "  ").toList ++ shown) ++ [ending]

/-! ## Lists of digests -/

abbrev Listed := Script × Script

def isDigest (digesting : Digesting) (text : Script) : Bool :=
  text.length = digesting.length && text.all isHexDigit

def taggedLine? (digesting : Digesting) (isEscaped : Bool) (text : Script) : Option Listed := do
  let '(' :: rest := (if text.head? = some ' ' then text.drop 1 else text) | none
  let reversed := rest.reverse.dropWhile (· ≠ ')')
  if reversed.isEmpty then none
  let written := (reversed.drop 1).reverse
  let path ← if isEscaped then plainName? written else some written
  let '=' :: after := (rest.drop reversed.length).dropWhile isBlank | none
  let value := after.dropWhile isBlank
  if digesting.isDigest value then some (value, path) else none

def listedLine (digesting : Digesting) (isNarrow : Option Bool) (text : Script) :
    Option Listed × Option Bool :=
  let start := text.dropWhile isBlank
  let isEscaped := start.head? = some '\\'
  let start := if isEscaped then start.drop 1 else start
  let label := digesting.label.toList
  if label.isPrefixOf start then
    (digesting.taggedLine? isEscaped (start.drop label.length), isNarrow)
  else if start.length < digesting.length + 2 then (none, isNarrow)
  else
    let value := start.take digesting.length
    match start.drop digesting.length with
    | blank :: rest =>
        if !isBlank blank || !digesting.isDigest value then (none, isNarrow)
        else
          let looksNarrow := rest.length = 1 || !(rest.head?).any fun character =>
            character = ' ' || character = '*'
          if looksNarrow && isNarrow = some false then (none, isNarrow)
          else
            let isNarrow := if looksNarrow then true else isNarrow.getD false
            let written := if isNarrow then rest else rest.drop 1
            let path := if isEscaped then plainName? written else some written
            (path.map fun path => (value, path), some isNarrow)
    | [] => (none, isNarrow)

structure Checking where
  isSilent : Bool
  isQuiet : Bool
  warns : Bool
  isStrict : Bool
  ignoresMissing : Bool

structure Tally where
  number : Nat := 0
  isNarrow : Option Bool := none
  misformed : Nat := 0
  unread : Nat := 0
  wrong : Nat := 0
  isProper : Bool := false
  hasMatch : Bool := false

def checkFile (digesting : Digesting) (checking : Checking) (tally : Tally) (listed : Listed) :
    Running Tally := do
  let (value, path) := listed
  let tell := fun (words : String) => do
    unless checking.isSilent do
      printLine ((if needsEscape path then '\\' :: escapedName path else path) ++ words.toList)
  let tally := { tally with isProper := true }
  match ← textOf path with
  | .ok text =>
      if digesting.digest (Bytes.ofLatin text) = value.map Char.toLower then
        unless checking.isQuiet do tell ": OK"
        return { tally with hasMatch := true }
      tell ": FAILED"
      return { tally with wrong := tally.wrong + 1 }
  | .error error =>
      if checking.ignoresMissing && error = .notFound then return tally
      discard (failPlainly digesting.name path error)
      tell ": FAILED open or read"
      return { tally with unread := tally.unread + 1 }

def checkLine (digesting : Digesting) (checking : Checking) (isInput : Bool) (listName : Script)
    (tally : Tally) (line : Script) : Running Tally := do
  let tally := { tally with number := tally.number + 1 }
  let text := trimRecord '\r' line
  if line.head? = some '#' || text.isEmpty then return tally
  let (listed, isNarrow) := digesting.listedLine tally.isNarrow text
  let tally := { tally with isNarrow }
  match listed.filter fun (_, path) => !(isInput && path = ['-']) with
  | some listed => digesting.checkFile checking tally listed
  | none =>
      if checking.warns then
        discard (fail digesting.name (Quotation.ifNeeded listName ++ ": ".toList ++
          (toString tally.number ++ ": improperly formatted " ++ digesting.label ++
            " checksum line").toList))
      return { tally with misformed := tally.misformed + 1 }

def check (digesting : Digesting) (checking : Checking) (path text : Script) : Running Nat := do
  let isInput := path = ['-']
  let listName := if isInput then "standard input".toList else path
  let tally ← (plainLines text).foldlM (digesting.checkLine checking isInput listName) {}
  let name := digesting.name
  let warn := fun (count : Nat) (one many : String) => do
    unless count = 0 do
      discard
        (fail name ("WARNING: " ++ toString count ++ (if count = 1 then one else many)).toList)
  if !tally.isProper then
    discard (fail name (Quotation.ifNeeded listName ++
      ": no properly formatted checksum lines found".toList))
  else
    unless checking.isSilent do
      warn tally.misformed " line is improperly formatted" " lines are improperly formatted"
      warn tally.unread " listed file could not be read" " listed files could not be read"
      warn tally.wrong " computed checksum did NOT match" " computed checksums did NOT match"
      if checking.ignoresMissing && !tally.hasMatch then
        discard (fail name (Quotation.ifNeeded listName ++ ": no file was verified".toList))
  let isRight := tally.isProper && tally.hasMatch && tally.wrong = 0 && tally.unread = 0 &&
    (!checking.isStrict || tally.misformed = 0)
  return if isRight then 0 else 1

end Digesting

def digesting (name label : String) (digest : Bytes → Script) : Utility := fun given =>
  let digesting : Digesting := { name, label, digest }
  Grammar.run
    { name := name, flags := "bctzwτσκςι"
      long := [("binary", 'b'), ("check", 'c'), ("ignore-missing", 'ι'), ("quiet", 'κ'),
        ("status", 'σ'), ("tag", 'τ'), ("text", 't'), ("warn", 'w'), ("strict", 'ς'),
        ("zero", 'z')] } given fun arguments => do
    let checks := arguments.has 'c'
    let mode := arguments.lastOf? "btτ"
    let isTagged := arguments.has 'τ'
    if isTagged && mode = some 't' then
      return ← failUsage name "--tag does not support --text mode".toList
    if checks then
      if arguments.has 'z' then
        return ← failUsage name
          "the --zero option is not supported when verifying checksums".toList
      if isTagged then
        return ← failUsage name "the --tag option is meaningless when verifying checksums".toList
      if mode.isSome then
        return ← failUsage name
          "the --binary and --text options are meaningless when verifying checksums".toList
    else
      for (letter, option) in
          [('ι', "ignore-missing"), ('σ', "status"), ('w', "warn"), ('κ', "quiet"),
            ('ς', "strict")] do
        if arguments.has letter then
          return ← failUsage name
            ("the --" ++ option ++ " option is meaningful only when verifying checksums").toList
    let operands := if arguments.operands.isEmpty then [['-']] else arguments.operands
    let checking : Digesting.Checking :=
      { isSilent := arguments.lastOf? "σwκ" = some 'σ'
        isQuiet := arguments.lastOf? "σwκ" = some 'κ'
        warns := arguments.lastOf? "σwκ" = some 'w'
        isStrict := arguments.has 'ς'
        ignoresMissing := arguments.has 'ι' }
    forEachOperand operands fun path => do
      match ← textOf path with
      | .ok text =>
          if checks then digesting.check checking path text
          else
            print (digesting.line isTagged (mode = some 'b') (recordEnd (arguments.has 'z')) path
              (digest (Bytes.ofLatin text)))
            return 0
      | .error error =>
          if checks && error = .isDirectory then
            fail name (Quotation.ifNeeded path ++ ": read error".toList)
          else failPlainly name path error

/-! ## Short checksums -/

def turningLine (text shown : Script) : Script :=
  let digits := (toString (Digest.turningSum (Bytes.ofLatin text))).toList
  let blocks := (toString ((text.length + 1023) / 1024)).toList
  List.replicate (5 - digits.length) '0' ++ digits ++
    ' ' :: List.replicate (5 - blocks.length) ' ' ++ blocks ++ shown

def addingLine (text shown : Script) : Script :=
  (toString (Digest.plainSum (Bytes.ofLatin text))).toList ++
    ' ' :: (toString ((text.length + 511) / 512)).toList ++ shown

def dividingLine (text shown : Script) : Script :=
  (toString (Digest.checksum (Bytes.ofLatin text))).toList ++
    ' ' :: (toString text.length).toList ++ shown

def printSums (name : String) (operands : List Script) (line : Script → Script → Script) :
    Running Nat :=
  filterTexts name operands fun path text =>
    printLine (line text (if operands.isEmpty then [] else ' ' :: path))

def sum : Utility := fun given =>
  Grammar.run { name := "sum", flags := "rs", long := [("sysv", 's')] } given fun arguments =>
    printSums "sum" arguments.operands
      (if arguments.lastOf? "rs" = some 's' then addingLine else turningLine)

inductive Algorithm where
  | adding
  | turning
  | dividing
  | digest (label : String) (digest : Bytes → Script)

def algorithms : List (Algorithm × List String) := [
  (.turning, ["bsd"]), (.adding, ["sysv"]), (.dividing, ["crc"]),
  (.digest "MD5" Digest.md5, ["md5"]),
  (.digest "SHA1" Digest.sha1, ["sha1"]),
  (.digest "SHA224" Digest.sha224, ["sha224"]),
  (.digest "SHA256" Digest.sha256, ["sha256"]),
  (.digest "SHA384" Digest.sha384, ["sha384"]),
  (.digest "SHA512" Digest.sha512, ["sha512"])]

def cksum : Utility := fun given =>
  Grammar.run
    { name := "cksum", flags := "zτυ", valued := "a"
      long := [("algorithm", 'a'), ("tag", 'τ'), ("untagged", 'υ'), ("zero", 'z')] }
    given fun arguments => do
    let name := "cksum"
    match (arguments.value? 'a').map fun word => (word, choice? algorithms word) with
    | none => printSums name arguments.operands dividingLine
    | some (_, some .dividing) => printSums name arguments.operands dividingLine
    | some (_, some .turning) => printSums name arguments.operands turningLine
    | some (_, some .adding) => printSums name arguments.operands addingLine
    | some (word, none) => refuseChoice name "--algorithm" algorithms word
    | some (_, some (.digest label digest)) =>
        let digesting : Digesting := { name, label, digest }
        let isTagged := arguments.lastOf? "τυ" ≠ some 'υ'
        filterTexts name arguments.operands fun path text =>
          print (digesting.line isTagged false (recordEnd (arguments.has 'z')) path
            (digest (Bytes.ofLatin text)))

end SchemaBuild.Shell.Utility
