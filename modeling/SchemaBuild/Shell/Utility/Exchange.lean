import SchemaBuild.Shell.Format
import SchemaBuild.Shell.Utility

/-!
# Exchanging characters

The utility that exchanges characters for others, deletes them, or drops their repetitions. Sets of
characters are spelled with ranges, classes and repetitions. Where both sets name a class of letters
in the same place, letters are exchanged for the same ones in the other
case. -/

namespace SchemaBuild.Shell.Utility

namespace Exchange

structure Letter where
  character : Char
  isEscaped : Bool := false

def Letter.isSign (letter : Letter) (sign : Char) : Bool :=
  letter.character = sign && !letter.isEscaped

def letters : Nat → Script → List Letter × List Script
  | 0, _ => ([], [])
  | _ + 1, [] => ([], [])
  | _ + 1, ['\\'] =>
      ([⟨'\\', false⟩], ["an unescaped backslash at end of string is not portable".toList])
  | steps + 1, '\\' :: first :: rest =>
      if isOctalDigit first then
        let digits := ((first :: rest).take 3).takeWhile isOctalDigit
        -- Three digits may be too large for one character.
        let isAmbiguous := 255 < ofDigits 8 digits
        let taken := if isAmbiguous then digits.take 2 else digits
        let (others, warnings) := letters steps ((first :: rest).drop taken.length)
        let warning := "the ambiguous octal escape \\".toList ++ digits ++
          " is being\n\tinterpreted as the 2-byte sequence \\0".toList ++ digits.take 2 ++
          ", ".toList ++ digits.drop 2
        (⟨Char.ofNat (ofDigits 8 taken), true⟩ :: others,
          if isAmbiguous then warning :: warnings else warnings)
      else
        let (others, warnings) := letters steps rest
        let character := match first with
          | 'a' => '\x07'
          | 'b' => '\x08'
          | 'f' => '\x0c'
          | 'n' => '\n'
          | 'r' => '\r'
          | 't' => '\t'
          | 'v' => '\x0b'
          | first => first
        (⟨character, true⟩ :: others, warnings)
  | steps + 1, first :: rest =>
      let (others, warnings) := letters steps rest
      (⟨first, false⟩ :: others, warnings)

inductive LetterCase where
  | upper
  | lower
  deriving DecidableEq

inductive Element where
  | single (character : Char)
  | range (first last : Char)
  | named (name : Script)
  | equivalent (character : Char)
  | repeated (character : Char) (count : Option Nat)

def classMembers (name : Script) : List Char :=
  match characterClass? name with
  | some test => ((List.range 256).map Char.ofNat).filter test
  | none => []

def Element.members : Element → List Char
  | .single character => [character]
  | .range first last =>
      (List.range (last.toNat + 1 - first.toNat)).map fun offset =>
        Char.ofNat (first.toNat + offset)
  | .named name => classMembers name
  | .equivalent character => [character]
  | .repeated character count => List.replicate (count.getD 0) character

def Element.case? : Element → Option LetterCase
  | .named name =>
      if name = "upper".toList then some .upper
      else if name = "lower".toList then some .lower
      else none
  | _ => none

def shownCharacter (character : Char) : Script :=
  let number := character.toNat
  if 32 ≤ number && number < 127 then (if character = '\\' then ['\\', '\\'] else [character])
  else
    match character with
    | '\x07' => ['\\', 'a']
    | '\x08' => ['\\', 'b']
    | '\x0c' => ['\\', 'f']
    | '\n' => ['\\', 'n']
    | '\r' => ['\\', 'r']
    | '\t' => ['\\', 't']
    | '\x0b' => ['\\', 'v']
    | _ => '\\' :: [number / 64, number / 8 % 8, number % 8].map fun digit =>
        Char.ofNat (48 + digit)

def upToClosing (sign : Char) : List Letter → Option (List Letter × List Letter)
  | first :: second :: rest =>
      if first.isSign sign && second.isSign ']' then some ([], rest)
      else (upToClosing sign (second :: rest)).map fun (inside, after) => (first :: inside, after)
  | _ => none

def textOf (letters : List Letter) : Script :=
  letters.map (·.character)

def isRepetition : List Letter → Bool
  | first :: rest =>
      first.isSign '*' &&
        match rest.dropWhile fun letter => letter.character.isDigit with
        | closing :: _ => closing.isSign ']'
        | [] => false
  | [] => false

def repetitionLimit : Nat := 18446744073709551614

def repetition? : List Letter → Except Script (Option (Element × List Letter))
  | character :: star :: rest =>
      if !star.isSign '*' then .ok none
      else
        let inside := rest.takeWhile fun letter =>
          !letter.isEscaped && letter.character ≠ ']'
        match rest.drop inside.length with
        | closing :: after =>
            if !closing.isSign ']' then .ok none
            else
              let digits := textOf inside
              let isOctal := digits.head? = some '0'
              let isNumber := digits.all fun digit =>
                if isOctal then isOctalDigit digit else digit.isDigit
              let count := ofDigits (if isOctal then 8 else 10) digits
              if !isNumber || repetitionLimit < count then
                .error ("invalid repeat count ".toList ++
                  quote (digits.flatMap shownCharacter) ++ " in [c*n] construct".toList)
              else
                .ok (some (.repeated character.character (if count = 0 then none else some count),
                  after))
        | [] => .ok none
  | _ => .ok none

def elements : Nat → List Letter → Except Script (List Element)
  | 0, _ => .ok []
  | steps + 1, first :: second :: third :: rest => do
      let plainly := fun () => do
        if second.isSign '-' then
          if third.character < first.character then
            .error ("range-endpoints of ".toList ++ quote (shownCharacter first.character ++
              '-' :: shownCharacter third.character) ++
              " are in reverse collating sequence order".toList)
          else return .range first.character third.character :: (← elements steps rest)
        else return .single first.character :: (← elements steps (second :: third :: rest))
      if !first.isSign '[' then plainly ()
      else
        let repeated := fun () => do
          match ← repetition? (second :: third :: rest) with
          | some (element, after) => return element :: (← elements steps after)
          | none => plainly ()
        let isClass := second.isSign ':'
        if !isClass && !second.isSign '=' then repeated ()
        else
          match upToClosing second.character (third :: rest) with
          | none => repeated ()
          | some ([], _) =>
              .error (if isClass then "missing character class name '[::]'".toList
                else "missing equivalence class character '[==]'".toList)
          | some (inside, after) =>
              let name := textOf inside
              if isClass then
                if (characterClass? name).isSome then
                  return .named name :: (← elements steps after)
                else if isRepetition (third :: rest) then repeated ()
                else .error ("invalid character class ".toList ++
                  quote (name.flatMap shownCharacter))
              else
                match name with
                | [character] => return .equivalent character :: (← elements steps after)
                | name =>
                    if isRepetition (third :: rest) then repeated ()
                    else .error (name.flatMap shownCharacter ++
                      ": equivalence class operand must be a single character".toList)
  | _ + 1, letters => .ok (letters.map fun letter => .single letter.character)

/-! ## Two sets -/

structure Member where
  character : Char
  case? : Option LetterCase
  isFirst : Bool

def membersOf (elements : List Element) : List Member :=
  elements.flatMap fun element =>
    (List.range element.members.length).zip element.members |>.map fun (index, character) =>
      ⟨character, element.case?, index = 0⟩

def afterElement (members : List Member) : List Member :=
  members.tail.dropWhile fun member => !member.isFirst

/-- How many characters two sets have, where classes of letters in the same place count as one
character. There is no answer if a class of the second set has none in its place. -/
def alignedLengths : Nat → List Member → List Member → Option (Nat × Nat)
  | 0, _, _ => some (0, 0)
  | _ + 1, [], [] => some (0, 0)
  | _ + 1, firsts, [] => some (firsts.length, 0)
  | _ + 1, [], seconds =>
      match seconds with
      | second :: _ =>
          if second.isFirst && second.case?.isSome then none else some (0, seconds.length)
      | [] => some (0, 0)
  | steps + 1, first :: firsts, second :: seconds =>
      if second.isFirst && second.case?.isSome && !(first.isFirst && first.case?.isSome) then none
      else
        let (firsts, seconds) := if second.case?.isSome then
            (afterElement (first :: firsts), afterElement (second :: seconds))
          else (firsts, seconds)
        (alignedLengths steps firsts seconds).map fun (left, right) => (left + 1, right + 1)

abbrev Table := Char → Char

def tableOf : Nat → Table → List Member → List Member → Table
  | 0, table, _, _ => table
  | steps + 1, table, first :: firsts, second :: seconds =>
      let changed : Table := match first.case?, second.case? with
        | some .lower, some .upper => fun character =>
            if character.isLower then character.toUpper else table character
        | some .upper, some .lower => fun character =>
            if character.isUpper then character.toLower else table character
        | _, _ => fun character =>
            if character = first.character then second.character else table character
      if second.case?.isSome then
        tableOf steps changed (afterElement (first :: firsts)) (afterElement (second :: seconds))
      else tableOf steps changed firsts seconds
  | _ + 1, table, _, _ => table

structure Manner where
  complements : Bool
  deletes : Bool
  squeezes : Bool
  truncates : Bool

def stretch (length : Nat) (elements : List Element) : List Element :=
  let fixed := (elements.flatMap Element.members).length
  elements.map fun
    | .repeated character none => .repeated character (some (length - fixed))
    | element => element

def lastCharacter? (elements : List Element) : Option Char :=
  match elements.getLast? with
  | some (.single character) => some character
  | some (.range _ last) => some last
  | some (.repeated character _) => some character
  | _ => none

def allCharacters : List Char :=
  (List.range 256).map Char.ofNat

def exchange (manner : Manner) (first second : List Element) :
    Except Script (Table × List Element) := do
  let isRepeated := fun (element : Element) => element matches .repeated _ none
  let firstMembers := first.flatMap Element.members
  let outside := allCharacters.filter fun character => !firstMembers.contains character
  let length := if manner.complements then outside.length else firstMembers.length
  if 1 < (second.filter isRepeated).length then
    throw "only one [c*] repeat construct may appear in string2".toList
  let second := stretch length second
  if second.any fun element => element matches .equivalent _ then
    throw "[=c=] expressions may not appear in string2 when translating".toList
  let isRestricted := fun (element : Element) =>
    element.case?.isNone && element matches .named _
  if second.any isRestricted then
    throw ("when translating, the only character classes that may appear in\n".toList ++
      "string2 are 'upper' and 'lower'".toList)
  let hasClass := second.any fun element => element matches .named _
  let secondLength := (second.flatMap Element.members).length
  let lengths := if manner.complements || !hasClass then some (length, secondLength)
    else alignedLengths (length + secondLength + 1) (membersOf first) (membersOf second)
  match lengths with
  | none => throw "misaligned [:upper:] and/or [:lower:] construct".toList
  | some (left, right) =>
      let extended ← if left ≤ right || manner.truncates then pure second
        else if right = 0 then
          throw "when not truncating set1, string2 must be non-empty".toList
        else
          match lastCharacter? second with
          | some character => pure (second ++ [.repeated character (some (left - right))])
          | none =>
              throw ("when translating with string1 longer than string2,\n".toList ++
                "the latter string must not end with a character class".toList)
      let members := membersOf extended
      let isUniform := match members with
        | [] => true
        | member :: rest => rest.all fun other => other.character = member.character
      if manner.complements && (first.any fun element => element matches .named _) &&
          !isUniform then
        throw ("when translating with complemented character classes,\n".toList ++
          "string2 must map all characters in the domain to one".toList)
      let domain := if manner.complements then
          outside.map fun character => ⟨character, none, true⟩
        else membersOf first
      let members := if manner.complements then
          members.map fun member => { member with case? := none }
        else members
      return (tableOf (domain.length + members.length + 1) id domain members, extended)

def squeeze (isSqueezed : Char → Bool) : Option Char → Script → Script
  | _, [] => []
  | before, character :: rest =>
      if before = some character && isSqueezed character then squeeze isSqueezed before rest
      else character :: squeeze isSqueezed (some character) rest

def changeOf (manner : Manner) (first : List Element) (second : Option (List Element)) :
    Except Script (Script → Script) := do
  let isRepeated := fun (element : Element) => element matches .repeated _ none
  if first.any isRepeated then
    throw "the [c*] repeat construct may not appear in string1".toList
  let contains := fun (elements : List Element) (character : Char) =>
    (elements.flatMap Element.members).contains character
  let isChosen := fun (character : Char) => contains first character != manner.complements
  match second with
  | none =>
      if manner.squeezes && !manner.deletes then return squeeze isChosen none
      return fun text => text.filter fun character => !isChosen character
  | some second =>
      if manner.deletes then
        if second.any isRepeated then
          throw "the [c*] construct may appear in string2 only when translating".toList
        return fun text =>
          squeeze (contains second) none (text.filter fun character => !isChosen character)
      let (table, second) ← exchange manner first second
      return fun text =>
        let changed := text.map table
        if manner.squeezes then squeeze (contains second) none changed else changed

end Exchange

def tr : Utility := fun given =>
  Grammar.run
    { name := "tr", flags := "cCdst", inOrder := true
      long := [("complement", 'c'), ("delete", 'd'), ("squeeze-repeats", 's'),
        ("truncate-set1", 't')] } given fun arguments => do
      let manner : Exchange.Manner :=
        { complements := arguments.has 'c' || arguments.has 'C'
          deletes := arguments.has 'd'
          squeezes := arguments.has 's'
          truncates := arguments.has 't' }
      let least := if manner.deletes = manner.squeezes then 2 else 1
      let most := if manner.deletes && !manner.squeezes then 1 else 2
      let count := arguments.operands.length
      if count < least then
        match arguments.operands.getLast? with
        | none => return ← failUsage "tr" "missing operand".toList
        | some operand =>
            discard (fail "tr" ("missing operand after ".toList ++ quote operand))
            complain (if manner.squeezes then
                "Two strings must be given when both deleting and squeezing repeats."
              else "Two strings must be given when translating.").toList
            pointToHelp "tr"
            return 1
      if most < count then
        discard (fail "tr" ("extra operand ".toList ++ quote (arguments.operands.getD most [])))
        if count = 2 then
          complain "Only one string may be given when deleting without squeezing repeats.".toList
        pointToHelp "tr"
        return 1
      let mut sets := []
      for operand in arguments.operands do
        let (letters, warnings) := Exchange.letters (operand.length + 1) operand
        for warning in warnings do discard (fail "tr" ("warning: ".toList ++ warning))
        match Exchange.elements (letters.length + 1) letters with
        | .error reason => return ← fail "tr" reason
        | .ok elements => sets := sets ++ [elements]
      match Exchange.changeOf manner (sets.headD []) sets[1]? with
      | .error reason => fail "tr" reason
      | .ok change =>
          match ← takeAllInput with
          | .ok text =>
              print (change text)
              return 0
          | .error error => failBarely "tr" "read error".toList error

end SchemaBuild.Shell.Utility
