import SchemaBuild.Shell.Fraction
import SchemaBuild.Shell.Utility.Lines
import SchemaBuild.Shell.Version

/-!
# Sorting

Utilities that bring lines into an order, and that tell equal lines from others.
-/

namespace SchemaBuild.Shell.Utility

/-! ## Keys -/

structure Manner where
  kinds : List Char := []
  reversed : Bool := false
  folds : Bool := false
  skipsFirstBlanks : Bool := false
  skipsLastBlanks : Bool := false
  ignored : Option Char := none
  deriving DecidableEq

namespace Manner

def isUsual (manner : Manner) : Bool :=
  { manner with reversed := false } = {}

/-- A manner with what a letter asks for, if it is one of those that do. The letter for blanks
counts for the first field, the last one, or both. -/
def addLetter? (manner : Manner) (first last : Bool) (letter : Char) : Option Manner :=
  match letter with
  | 'r' => some { manner with reversed := true }
  | 'f' => some { manner with folds := true }
  | 'b' =>
      some { manner with
        skipsFirstBlanks := manner.skipsFirstBlanks || first
        skipsLastBlanks := manner.skipsLastBlanks || last }
  | 'd' => some { manner with ignored := some 'd' }
  | 'i' => some { manner with ignored := some (manner.ignored.getD 'i') }
  | letter =>
      if "ghMnRV".toList.contains letter then
        some { manner with
          kinds := if manner.kinds.contains letter then manner.kinds else letter :: manner.kinds }
      else none

def takeLetters (manner : Manner) (first last : Bool) : Script → Manner × Script
  | [] => (manner, [])
  | letter :: rest =>
      match manner.addLetter? first last letter with
      | some manner => manner.takeLetters first last rest
      | none => (manner, letter :: rest)

def conflict? (manner : Manner) : Option Script :=
  let has := fun (letter : Char) => manner.kinds.contains letter
  let texts := has 'V' || has 'R' || manner.ignored.isSome
  let count := (['n', 'g', 'h', 'M'].filter has).length + if texts then 1 else 0
  if count ≤ 1 then none
  else
    some ("dfghiMnRV".toList.filter fun letter =>
      has letter || manner.ignored = some letter || (letter = 'f' && manner.folds))

end Manner

structure SortKey where
  field : Nat
  character : Nat := 1
  lastField : Option Nat := none
  lastCharacter : Nat := 0
  manner : Manner := {}

def isFieldBlank (character : Char) : Bool :=
  isBlank character || character = '\n'

/-- How many characters come before the end of a number of fields. With a separator, `passing` tells
whether the one after the last of them is passed too. -/
def fieldsLength (separator : Option Char) (passing : Bool) : Nat → Script → Nat
  | 0, _ => 0
  | count + 1, line =>
      if line.isEmpty then 0
      else
        let length := match separator with
          | some separator =>
              let field := (line.takeWhile (· ≠ separator)).length
              if field < line.length && (0 < count || passing) then field + 1 else field
          | none =>
              let blanks := (line.takeWhile isFieldBlank).length
              blanks + ((line.drop blanks).takeWhile fun character =>
                !isFieldBlank character).length
        length + fieldsLength separator passing count (line.drop length)

def keyText (separator : Option Char) (key : SortKey) (line : Script) : Script :=
  let skipped := fun (skips : Bool) (place : Nat) =>
    if skips then place + ((line.drop place).takeWhile isFieldBlank).length else place
  let start :=
    skipped key.manner.skipsFirstBlanks (fieldsLength separator true (key.field - 1) line)
    + (key.character - 1)
  let stop := match key.lastField with
    | none => line.length
    | some field =>
        if key.lastCharacter = 0 then fieldsLength separator false field line
        else
          skipped key.manner.skipsLastBlanks (fieldsLength separator true (field - 1) line) +
            key.lastCharacter
  (line.take stop).drop start

/-! ## Comparing -/

def decimalOf (text : Script) : Bool × Script × Script :=
  let text := text.dropWhile isFieldBlank
  let (negative, text) := match text with
    | '-' :: rest => (true, rest)
    | rest => (false, rest)
  let whole := text.takeWhile Char.isDigit
  let fraction := match text.drop whole.length with
    | '.' :: rest => rest.takeWhile Char.isDigit
    | _ => []
  (negative, whole, fraction)

def scaledDecimal (places : Nat) (number : Bool × Script × Script) : Int :=
  let (negative, whole, fraction) := number
  let digits := whole ++ fraction ++ List.replicate (places - fraction.length) '0'
  let value : Int := ofDigits 10 digits
  if negative then -value else value

def compareDecimals (left right : Script) : Ordering :=
  let first := decimalOf left
  let second := decimalOf right
  let places := max first.2.2.length second.2.2.length
  compare (scaledDecimal places first) (scaledDecimal places second)

def unitPower (text : Script) : Int :=
  let (negative, whole, fraction) := decimalOf text
  let start := (text.dropWhile isFieldBlank).drop (if negative then 1 else 0)
  let rest := match start.drop whole.length with
    | '.' :: rest => rest.drop fraction.length
    | rest => rest
  if (whole ++ fraction).all (· = '0') then 0
  else
    let power : Int := match rest.head? with
      | none => 0
      | some 'k' => 1
      | some unit => ("KMGTPEZYRQ".toList.findIdx? (· = unit)).elim 0 (· + 1)
    if negative then -power else power

def monthNumber (text : Script) : Nat :=
  let start := ((text.dropWhile isFieldBlank).take 3).map Char.toUpper
  match Calendar.monthNames.findIdx? fun name =>
      (name.toList.take 3).map Char.toUpper = start with
  | some index => index + 1
  | none => 0

def fractionRank (text : Script) : Nat × Float :=
  match Fraction.takeNumber? (text.dropWhile isSpace) with
  | none => (0, 0)
  | some (value, _) => if value.isNaN then (1, 0) else (2, value)

def compareFractions (left right : Script) : Ordering :=
  let first := fractionRank left
  let second := fractionRank right
  match compare first.1 second.1 with
  | .eq => if first.2 < second.2 then .lt else if second.2 < first.2 then .gt else .eq
  | order => order

namespace Manner

def prepared (manner : Manner) (text : Script) : Script :=
  let text := match manner.ignored with
    | some 'd' => text.filter fun character => character.isAlphanum || isFieldBlank character
    | some _ => text.filter fun character => 32 ≤ character.toNat && character.toNat < 127
    | none => text
  if manner.folds then text.map Char.toUpper else text

def compareTexts (manner : Manner) (left right : Script) : Ordering :=
  let has := fun (letter : Char) => manner.kinds.contains letter
  let left := manner.prepared left
  let right := manner.prepared right
  let order :=
    if has 'n' then compareDecimals left right
    else if has 'g' then compareFractions left right
    else if has 'h' then
      match compare (unitPower left) (unitPower right) with
      | .eq => compareDecimals left right
      | order => order
    else if has 'M' then compare (monthNumber left) (monthNumber right)
    else if has 'V' then Version.compareNames left right
    else compare left right
  if manner.reversed then order.swap else order

end Manner

/-! ## The description of a key -/

def keyNumber (place : String) (text : Script) : Except Script (Nat × Script) :=
  let digits := text.takeWhile Char.isDigit
  if digits.isEmpty then
    .error (place.toList ++ ": invalid count at start of ".toList ++ quote text)
  else .ok (ofDigits 10 digits, text.drop digits.length)

def sortKey (text : Script) : Except Script SortKey := do
  let bad := fun (reason : String) =>
    Except.error (reason.toList ++ ": invalid field specification ".toList ++ quote text)
  let (field, rest) ← keyNumber "invalid number at field start" text
  if field = 0 then bad "field number is zero"
  let (character, rest) ← match rest with
    | '.' :: rest => keyNumber "invalid number after '.'" rest
    | rest => pure (1, rest)
  if character = 0 then bad "character offset is zero"
  let (manner, rest) := Manner.takeLetters {} true false rest
  match rest with
  | ',' :: rest =>
      let (lastField, rest) ← keyNumber "invalid number after ','" rest
      if lastField = 0 then bad "field number is zero"
      let (lastCharacter, rest) ← match rest with
        | '.' :: rest => keyNumber "invalid number after '.'" rest
        | rest => pure (0, rest)
      let (manner, rest) := manner.takeLetters false true rest
      if !rest.isEmpty then bad "stray character in field spec"
      return { field, character, lastField := some lastField, lastCharacter, manner }
  | rest =>
      if !rest.isEmpty then bad "stray character in field spec"
      return { field, character, manner }

/-! ## Sorting -/

structure SortItem where
  line : Script
  parts : List Script

structure SortOrder where
  separator : Option Char := none
  keys : List SortKey := []
  usual : Manner := {}
  isStable : Bool := false

namespace SortOrder

/-- The keys with what they have from outside. Without keys, a manner that is asked for counts for
the whole line. -/
def usedKeys (order : SortOrder) : List SortKey :=
  if order.keys.isEmpty && !order.usual.isUsual then [{ field := 1, manner := order.usual }]
  else
    order.keys.map fun key =>
      if key.manner.isUsual && !key.manner.reversed then { key with manner := order.usual } else key

def item (order : SortOrder) (line : Script) : SortItem :=
  { line, parts := order.usedKeys.map fun key => keyText order.separator key line }

def compareParts : List SortKey → List Script → List Script → Ordering
  | key :: keys, left :: lefts, right :: rights =>
      match key.manner.compareTexts left right with
      | .eq => compareParts keys lefts rights
      | order => order
  | _, _, _ => .eq

def compareItems (order : SortOrder) (left right : SortItem) : Ordering :=
  let keys := order.usedKeys
  match compareParts keys left.parts right.parts with
  | .eq =>
      if order.isStable && !keys.isEmpty then .eq
      else if order.usual.reversed then compare right.line left.line
      else compare left.line right.line
  | result => result

end SortOrder

def dropEqual {α : Type} (isEqual : α → α → Bool) : List α → List α
  | first :: second :: rest =>
      if isEqual first second then dropEqual isEqual (first :: rest)
      else first :: dropEqual isEqual (second :: rest)
  | items => items
termination_by items => items.length

def disorder? {α : Type} (inOrder : α → α → Bool) : Nat → List α → Option (Nat × α)
  | number, first :: second :: rest =>
      if inOrder first second then disorder? inOrder (number + 1) (second :: rest)
      else some (number + 1, second)
  | _, _ => none

def sortKinds : List (Char × List String) := [
  ('g', ["general-numeric"]),
  ('h', ["human-numeric"]),
  ('M', ["month"]),
  ('n', ["numeric"]),
  ('R', ["random"]),
  ('V', ["version"])]

def checkKinds : List (Char × List String) := [
  ('C', ["quiet", "silent"]),
  ('c', ["diagnose-first"])]

def sortGrammar : Grammar :=
  { name := "sort", flags := "bcCdfghiMmnRrsuVz", valued := "koSTtβφρσπκ", optional := "χδ"
    failure := 2
    long := [("ignore-leading-blanks", 'b'), ("check", 'χ'), ("compress-program", 'κ'),
      ("debug", 'δ'), ("dictionary-order", 'd'), ("ignore-case", 'f'), ("files0-from", 'φ'),
      ("general-numeric-sort", 'g'), ("ignore-nonprinting", 'i'), ("key", 'k'), ("merge", 'm'),
      ("month-sort", 'M'), ("numeric-sort", 'n'), ("human-numeric-sort", 'h'),
      ("version-sort", 'V'), ("random-sort", 'R'), ("random-source", 'ρ'), ("sort", 'σ'),
      ("output", 'o'), ("reverse", 'r'), ("stable", 's'), ("batch-size", 'β'),
      ("buffer-size", 'S'), ("field-separator", 't'), ("temporary-directory", 'T'),
      ("unique", 'u'), ("zero-terminated", 'z'), ("parallel", 'π')] }

def sortSeparator (before : Option Char) (text : Script) : Except Script (Option Char) := do
  let separator ← match text with
    | [] => .error "empty tab".toList
    | [character] => pure character
    | ['\\', '0'] => pure (Char.ofNat 0)
    | _ => .error ("multi-character tab ".toList ++ quote text)
  if before.any (· ≠ separator) then .error "incompatible tabs".toList
  else return some separator

structure SortRequest extends SortOrder where
  check : Option Char := none
  output : Option Script := none
  merges : Bool := false
  isUnique : Bool := false
  ending : Char := '\n'

def SortRequest.add (request : SortRequest) (option : Char × Script) : Except Script SortRequest :=
  let checking := fun (letter : Char) =>
    if request.check.any (· ≠ letter) then .error "options '-cC' are incompatible".toList
    else .ok { request with check := some letter }
  match option with
  | ('c', _) => checking 'c'
  | ('C', _) => checking 'C'
  | ('χ', word) => checking ((choice? checkKinds word).getD 'c')
  | ('k', text) => do return { request with keys := request.keys ++ [← sortKey text] }
  | ('t', text) => do return { request with separator := ← sortSeparator request.separator text }
  | ('o', path) =>
      if request.output.any (· ≠ path) then .error "multiple output files specified".toList
      else .ok { request with output := some path }
  | ('m', _) => .ok { request with merges := true }
  | ('u', _) => .ok { request with isUnique := true, isStable := true }
  | ('s', _) => .ok { request with isStable := true }
  | ('z', _) => .ok { request with ending := Char.ofNat 0 }
  | ('σ', word) =>
      .ok { request with
        usual := (request.usual.addLetter? true true ((choice? sortKinds word).getD 'n')).getD {} }
  | (letter, _) =>
      match request.usual.addLetter? true true letter with
      | some usual => .ok { request with usual }
      | none => .ok request

def SortRequest.conflict? (request : SortRequest) (operands : List Script) : Option Script :=
  let incompatible := fun (letters : Script) =>
    "options '-".toList ++ letters ++ "' are incompatible".toList
  match request.usedKeys.filterMap fun key => key.manner.conflict? with
  | letters :: _ => some (incompatible letters)
  | [] =>
      match request.check, operands with
      | some letter, _ :: extra :: _ =>
          some ("extra operand ".toList ++ quotePath extra ++ " not allowed with -".toList ++
            [letter])
      | some letter, _ => if request.output.isSome then some (incompatible [letter, 'o']) else none
      | none, _ => none

def sort : Utility := fun given =>
  sortGrammar.run given fun arguments => do
    let refuse := fun (reason : Script) => do
      discard (fail "sort" reason)
      return 2
    for (letter, word) in arguments.options do
      if letter = 'σ' && (choice? sortKinds word).isNone then
        return ← refuseChoice "sort" "--sort" sortKinds word
      if letter = 'χ' && !word.isEmpty && (choice? checkKinds word).isNone then
        return ← refuseChoice "sort" "--check" checkKinds word
    let request ← match arguments.options.foldlM SortRequest.add {} with
      | .ok request => pure request
      | .error reason => return ← refuse reason
    match request.conflict? arguments.operands with
    | some reason => return ← refuse reason
    | none => pure ()
    let operands := if arguments.operands.isEmpty then [['-']] else arguments.operands
    let failReading := fun (deed : String) (path : Script) (error : FileError) =>
      refuse (deed.toList ++ Quotation.ifNeeded path ++ ": ".toList ++ error.words.toList)
    -- Files are looked at before anything is read, and so is the place for the result.
    if request.check.isNone then
      for path in operands do
        unless path = ['-'] do
          match ← nodeAt? true path with
          | .ok _ => pure ()
          | .error error => return ← failReading "cannot read: " path error
      match request.output with
      | some path =>
          match ← openAt path .append with
          | .ok _ => pure ()
          | .error error => return ← failReading "open failed: " path error
      | none => pure ()
    let mut texts := []
    for path in operands do
      match ← textOf path with
      | .ok text => texts := texts ++ [plainRecords request.ending text]
      | .error .isDirectory => return ← failReading "read failed: " path .isDirectory
      | .error error => return ← failReading "open failed: " path error
    let items := texts.map fun lines => lines.map request.item
    match request.check with
    | some letter =>
        let inOrder := fun (left right : SortItem) =>
          match request.compareItems left right with
          | .lt => true
          | .eq => !request.isUnique
          | .gt => false
        match disorder? inOrder 1 items.flatten with
        | none => return 0
        | some (number, item) =>
            if letter = 'c' then
              discard (fail "sort" (operands.headD [] ++ ':' :: (toString number).toList ++
                ": disorder: ".toList ++ item.line))
            return 1
    | none =>
        let inOrder : SortItem → SortItem → Bool := fun left right =>
          request.compareItems left right ≠ .gt
        let sorted := if request.merges then
            items.foldl (fun merged items => merged.merge items inOrder) []
          else items.flatten.mergeSort inOrder
        let kept := if request.isUnique then
            dropEqual (fun left right => request.compareItems left right = .eq) sorted
          else sorted
        let text := kept.flatMap fun item => item.line ++ [request.ending]
        match request.output with
        | none =>
            print text
            return 0
        | some path =>
            match ← replaceFile path text with
            | .ok () => return 0
            | .error error => failReading "open failed: " path error

/-! ## Repetitions -/

inductive Setting where
  | none
  | before
  | between
  | after
  | around
  deriving DecidableEq

def repeatedSettings : List (Setting × List String) := [
  (.none, ["none"]),
  (.before, ["prepend"]),
  (.between, ["separate"])]

def groupSettings : List (Setting × List String) := [
  (.before, ["prepend"]),
  (.after, ["append"]),
  (.between, ["separate"]),
  (.around, ["both"])]

def setGroups (setting : Setting) (groups : List (List Script)) : List Script :=
  match setting, groups with
  | _, [] => []
  | .none, groups => groups.flatten
  | .before, groups => groups.flatMap ([] :: ·)
  | .between, groups => [[]].intercalate groups
  | .after, groups => groups.flatMap (· ++ [[]])
  | .around, groups => [] :: groups.flatMap (· ++ [[]])

def comparedPart (fields characters : Nat) (width : Option Nat) (folds : Bool) (record : Script) :
    Script :=
  let part := (record.drop (fieldsLength Option.none false fields record)).drop characters
  let part := match width with
    | some width => part.take width
    | none => part
  if folds then part.map Char.toLower else part

def uniqGrammar : Grammar :=
  { name := "uniq", flags := "cDdiuz", valued := "fsw", optional := "αγ"
    long := [("count", 'c'), ("repeated", 'd'), ("all-repeated", 'α'), ("group", 'γ'),
      ("ignore-case", 'i'), ("unique", 'u'), ("skip-fields", 'f'), ("skip-chars", 's'),
      ("check-chars", 'w'), ("zero-terminated", 'z')] }

def spellSkips : List Script → List Script
  | [] => []
  | ['-', letter] :: value :: rest =>
      if "fsw".toList.contains letter then ['-', letter] :: value :: spellSkips rest
      else spelled ['-', letter] ++ spellSkips (value :: rest)
  | word :: rest => spelled word ++ spellSkips rest
where
  spelled (word : Script) : List Script :=
    match word with
    | sign :: digit :: digits =>
        if !(digit :: digits).all Char.isDigit then [word]
        else if sign = '-' then [['-', 'f'], digit :: digits]
        else if sign = '+' then [['-', 's'], digit :: digits]
        else [word]
    | word => [word]

def uniq : Utility := fun given =>
  uniqGrammar.run (spellSkips given) fun arguments => do
    match arguments.operands with
    | _ :: _ :: extra :: _ => return ← failUsage "uniq" ("extra operand ".toList ++ quote extra)
    | _ => pure ()
    for (letter, word) in arguments.options do
      if letter = 'α' && !word.isEmpty && (choice? repeatedSettings word).isNone then
        return ← refuseChoice "uniq" "--all-repeated" repeatedSettings word
      if letter = 'γ' && !word.isEmpty && (choice? groupSettings word).isNone then
        return ← refuseChoice "uniq" "--group" groupSettings word
      if "fsw".toList.contains letter && (number? word).isNone then
        let thing := if letter = 'f' then "fields to skip"
          else if letter = 's' then "bytes to skip"
          else "bytes to compare"
        return ← fail "uniq" (word ++ ": invalid number of ".toList ++ thing.toList)
    let showsAll := arguments.has 'D' || arguments.has 'α'
    let isGrouped := arguments.has 'γ'
    if isGrouped && (showsAll || (arguments.lastOf? "cdu").isSome) then
      return ← failUsage "uniq" "--group is mutually exclusive with -c/-d/-D/-u".toList
    if showsAll && arguments.has 'c' then
      return ← failUsage "uniq"
        "printing all duplicated lines and repeat counts is meaningless".toList
    let numberOf := fun (letter : Char) => (arguments.value? letter).bind number?
    let part := comparedPart ((numberOf 'f').getD 0) ((numberOf 's').getD 0) (numberOf 'w')
      (arguments.has 'i')
    let path := arguments.operands.headD ['-']
    match ← textOf path with
    | .error .isDirectory =>
        fail "uniq" ("error reading ".toList ++ quotePath path ++ ": Is a directory".toList)
    | .error error => failPlainly "uniq" path error
    | .ok text =>
        let ending := recordEnd (arguments.has 'z')
        let groups := (plainRecords ending text).splitBy fun left right => part left = part right
        let chosen := if isGrouped then
            setGroups ((choice? groupSettings ((arguments.value? 'γ').getD [])).getD .between) groups
          else
            let singles := !(arguments.has 'd' || showsAll)
            let repeated := !arguments.has 'u'
            let counted := fun (group : List Script) (record : Script) =>
              if arguments.has 'c' then padLeft 7 (toString group.length).toList ++ ' ' :: record
              else record
            let kept := groups.map fun group =>
              if group.length = 1 then if singles then group.map (counted group) else []
              else if showsAll then
                -- The last one of a group is told apart from the others.
                group.dropLast ++ if repeated then group.drop (group.length - 1) else []
              else if repeated then [counted group (group.headD [])]
              else []
            setGroups ((choice? repeatedSettings ((arguments.value? 'α').getD [])).getD .none)
              (kept.filter fun group => !group.isEmpty)
        let result := chosen.flatMap (· ++ [ending])
        match arguments.operands[1]? with
        | none =>
            print result
            return 0
        | some target =>
            match ← replaceFile target result with
            | .ok () => return 0
            | .error error => failPlainly "uniq" target error

end SchemaBuild.Shell.Utility
