import SchemaBuild.Shell.Regex.Matching

/-!
# Editing scripts

A script for editing lines is a list of commands, each with the lines it is for. This module says
what commands there are and reads them from text.
-/

namespace SchemaBuild.Shell.Sed

/-! ## Commands -/

structure Search where
  regex : Option Regex
  ignoresCase : Bool := false
  manyLines : Bool := false
  deriving Inhabited

inductive Address where
  | line (number : Nat)
  | last
  | every (first step : Nat)
  | having (search : Search)

inductive RangeEnd where
  | address (address : Address)
  | after (count : Nat)
  | multiple (count : Nat)

structure Selection where
  first : Option Address := none
  ending : Option RangeEnd := none
  negated : Bool := false

inductive CaseChange where
  | upper
  | lower
  | nextUpper
  | nextLower
  | stop
  deriving DecidableEq

inductive Replacement where
  | text (text : Script)
  | group (number : Nat)
  | change (change : CaseChange)

structure Substitution where
  search : Search
  parts : List Replacement
  every : Bool := false
  ordinal : Nat := 1
  prints : Bool := false
  target : Option Script := none

inductive Action where
  | opening
  | closing
  | label (name : Script)
  | branch (wanted : Option Bool) (name : Script)
  | substitute (substitution : Substitution)
  | exchange (pairs : List (Char × Char))
  | append (text : Script)
  | insert (text : Script)
  | replace (text : Script)
  | readFile (path : Script)
  | writeLine (path : Script) (whole : Bool)
  | quit (prints : Bool) (status : Nat)
  | plain (letter : Char)

structure Command where
  selection : Selection := {}
  action : Action

/-! ## Reading -/

structure Fault where
  reason : String
  left : Nat

abbrev Reading := StateT Script (Except Fault)

def fault {α : Type} (reason : String) : Reading α := do
  throw ⟨reason, (← get).length⟩

def next? : Reading (Option Char) := do
  match ← get with
  | [] => return none
  | character :: rest =>
      set rest
      return some character

def takeWhile (accepts : Char → Bool) : Reading Script := do
  let text ← get
  let taken := text.takeWhile accepts
  set (text.drop taken.length)
  return taken

def skipBlanks : Reading Unit :=
  discard (takeWhile fun character => isBlank character)

def isGap (character : Char) : Bool :=
  isBlank character || character = '\n' || character = ';'

def number : Reading Nat := do
  return ofDigits 10 (← takeWhile Char.isDigit)

def setLength (text : Script) : Nat :=
  let body := match text with
    | '^' :: ']' :: _ => 2
    | ']' :: _ => 1
    | _ => 0
  let rec go : Nat → Script → Nat
    | 0, _ => 0
    | _ + 1, [] => 0
    | _ + 1, ']' :: _ => 1
    | steps + 1, '[' :: mark :: rest =>
        if mark = ':' || mark = '.' || mark = '=' then
          let inner := (rest.takeWhile (· ≠ ']')).length + 1
          inner + 2 + go steps (rest.drop inner)
        else go steps (mark :: rest) + 1
    | steps + 1, _ :: rest => go steps rest + 1
  body + go text.length (text.drop body)

/-- Take text up to a mark. A backslash before the mark only keeps it from being the end, and in an
expression it turns the letter `n` into the end of a line. -/
def upTo (mark : Char) (isRegex : Bool) : Nat → Reading (Option Script)
  | 0 => return none
  | steps + 1 => do
      match ← get with
      | [] => return none
      | '\n' :: _ => return none
      | '\\' :: character :: rest =>
          set rest
          let taken :=
            if character = 'n' && isRegex && mark ≠ 'n' then ['\n']
            else if character = mark && (isRegex || mark ≠ '&') then [character]
            else ['\\', character]
          return (← upTo mark isRegex steps).map (taken ++ ·)
      | '[' :: rest =>
          if isRegex && mark ≠ '[' then
            let length := setLength rest
            let inside := rest.take length
            if 0 < length && !inside.contains '\n' then
              set (rest.drop length)
              return (← upTo mark isRegex steps).map ('[' :: inside ++ ·)
          takeOne steps '['
      | character :: rest =>
          if character = mark then
            set rest
            return some []
          takeOne steps character
where
  takeOne (steps : Nat) (character : Char) : Reading (Option Script) := do
    modify fun text => text.drop 1
    return (← upTo mark isRegex steps).map (character :: ·)

def delimited (mark : Char) (isRegex : Bool) : Reading (Option Script) := do
  upTo mark isRegex ((← get).length + 1)

def regexStyle (extended : Bool) : Regex.Style :=
  { extended := extended
    letters := true
    loneOperators := if extended then .refused else .literal
    singleRepetition := !extended
    refusesBareClasses := true }

def searchOf (extended : Bool) (text flags : Script) : Reading Search := do
  let has := fun (letters : List Char) => letters.any flags.contains
  if text.isEmpty then return { regex := none }
  match Regex.parse (regexStyle extended) text with
  | .ok regex =>
      return { regex := some regex, ignoresCase := has ['I', 'i'], manyLines := has ['M', 'm'] }
  | .error reason => fault reason

def address? (extended : Bool) : Reading (Option Address) := do
  match ← get with
  | [] => return none
  | '$' :: rest =>
      set rest
      return some .last
  | character :: rest =>
      if character.isDigit then
        let first ← number
        match ← get with
        | '~' :: rest =>
            set rest
            return some (.every first (← number))
        | _ => return some (.line first)
      else
        let having := fun (mark : Char) (rest : Script) => do
          set rest
          match ← delimited mark true with
          | none => fault "unterminated address regex"
          | some text =>
              let flags ← takeWhile fun character => character = 'I' || character = 'M'
              return some (Address.having (← searchOf extended text flags))
        match character, rest with
        | '/', rest => having '/' rest
        | '\\', mark :: rest => having mark rest
        | _, _ => return none

def rangeEnd (extended : Bool) : Reading RangeEnd := do
  match ← get with
  | '+' :: rest =>
      set rest
      return .after (← number)
  | '~' :: rest =>
      set rest
      return .multiple (← number)
  | _ =>
      match ← address? extended with
      | some address => return .address address
      | none => fault "unexpected \x60,'"

def selection (extended : Bool) : Reading Selection := do
  let first ← address? extended
  skipBlanks
  let ending ← match first, ← get with
    | some _, ',' :: rest => do
        set rest
        skipBlanks
        pure (some (← rangeEnd extended))
    | _, _ => pure none
  match first, ending with
  | some (.line 0), some (.address (.having _)) => pure ()
  | some (.line 0), _ => fault "invalid usage of line address 0"
  | _, _ => pure ()
  skipBlanks
  let marks ← takeWhile (· = '!')
  skipBlanks
  return { first, ending, negated := !marks.isEmpty }

def spelledCharacter? (base width : Nat) (text : Script) : Option (Char × Script) :=
  let digits := (text.take width).takeWhile fun character =>
    isHexDigit character && digitValue character < base
  if digits.isEmpty then none
  else some (Char.ofNat (ofDigits base digits % 256), text.drop digits.length)

def plainText : Nat → Script → Script
  | 0, text => text
  | _ + 1, [] => []
  | _ + 1, ['\\'] => []
  | steps + 1, '\\' :: letter :: rest =>
      match Regex.controlLetter? letter with
      | some control => control :: plainText steps rest
      | none => letter :: plainText steps rest
  | steps + 1, character :: rest => character :: plainText steps rest

def textLines : Nat → Reading Script
  | 0 => return []
  | steps + 1 => do
      match ← get with
      | [] => return []
      | '\n' :: rest =>
          set rest
          return []
      | '\\' :: character :: rest =>
          set rest
          return '\\' :: character :: (← textLines steps)
      | character :: rest =>
          set rest
          return character :: (← textLines steps)

def textArgument : Reading Script := do
  skipBlanks
  let finish : Reading Script := do
    let text ← textLines ((← get).length + 1)
    return plainText (text.length + 1) text ++ ['\n']
  match ← get with
  | [] => fault "expected \\ after \x60a', \x60c' or \x60i'"
  | '\\' :: rest =>
      let after := rest.dropWhile fun character => isBlank character
      match after with
      | [] =>
          set after
          return []
      | '\n' :: after =>
          set after
          finish
      | _ =>
          set rest
          finish
  | _ => finish

def replacementParts (groups : Nat) : Nat → Script → Reading (List Replacement)
  | 0, _ => return []
  | _ + 1, [] => return []
  | steps + 1, '&' :: rest => return .group 0 :: (← replacementParts groups steps rest)
  | steps + 1, '\\' :: letter :: rest => do
      let going := fun (part : Replacement) (rest : Script) => do
        return part :: (← replacementParts groups steps rest)
      let spelled := fun (base width : Nat) =>
        match spelledCharacter? base width rest with
        | some (character, rest) => going (.text [character]) rest
        | none => going (.text [letter]) rest
      match letter with
      | 'U' => going (.change .upper) rest
      | 'L' => going (.change .lower) rest
      | 'u' => going (.change .nextUpper) rest
      | 'l' => going (.change .nextLower) rest
      | 'E' => going (.change .stop) rest
      | 'x' => spelled 16 2
      | 'o' => spelled 8 3
      | 'd' => spelled 10 3
      | letter =>
          if letter.isDigit then
            let number := letter.toNat - 48
            if groups < number then
              fault ("invalid reference \\" ++ toString number ++ " on \x60s' command's RHS")
            going (.group number) rest
          else
            match Regex.controlLetter? letter with
            | some control => going (.text [control]) rest
            | none => going (.text [letter]) rest
  | steps + 1, text => do
      let plain := text.takeWhile fun character => character ≠ '&' && character ≠ '\\'
      if plain.isEmpty then return .text text :: []
      return .text plain :: (← replacementParts groups steps (text.drop plain.length))

def pathArgument : Reading Script := do
  skipBlanks
  let path ← takeWhile (· ≠ '\n')
  if path.isEmpty then fault "missing filename in r/R/w/W commands"
  return path

def substitutionFlags : Nat → Substitution → Script → Reading (Substitution × Script)
  | 0, substitution, flags => return (substitution, flags)
  | steps + 1, substitution, flags => do
      match ← get with
      | 'g' :: rest =>
          set rest
          substitutionFlags steps { substitution with every := true } flags
      | 'p' :: rest =>
          set rest
          substitutionFlags steps { substitution with prints := true } flags
      | 'w' :: rest =>
          set rest
          let path ← pathArgument
          return ({ substitution with target := some path }, flags)
      | letter :: rest =>
          if "iImM".toList.contains letter then
            set rest
            substitutionFlags steps substitution (letter :: flags)
          else if letter.isDigit then
            let ordinal ← number
            if ordinal = 0 then fault "number option to \x60s' command may not be zero"
            substitutionFlags steps { substitution with ordinal := ordinal } flags
          else if ['\n', ';', '\x7d', '#', ' ', '\t'].contains letter then
            return (substitution, flags)
          else
            set rest
            fault "unknown option to \x60s'"
      | [] => return (substitution, flags)

def substitution (extended : Bool) : Reading Substitution := do
  let unterminated : Reading Substitution := fault "unterminated \x60s' command"
  match ← next? with
  | none => unterminated
  | some mark =>
      match ← delimited mark true with
      | none => unterminated
      | some pattern =>
          match ← delimited mark false with
          | none => unterminated
          | some replacement =>
              let (flagged, flags) ← substitutionFlags ((← get).length + 1)
                { search := { regex := none }, parts := [] } []
              let search ← searchOf extended pattern flags
              let groups := (search.regex.map Regex.groupCount).getD 9
              let parts ← replacementParts groups (replacement.length + 1) replacement
              return { flagged with search := search, parts := parts }

def exchanged : Nat → Script → Script
  | 0, _ => []
  | _ + 1, [] => []
  | steps + 1, '\\' :: letter :: rest =>
      match letter with
      | '\\' => '\\' :: exchanged steps rest
      | letter =>
          match Regex.controlLetter? letter with
          | some control => control :: exchanged steps rest
          | none => '\\' :: letter :: exchanged steps rest
  | steps + 1, character :: rest => character :: exchanged steps rest

def exchange : Reading (List (Char × Char)) := do
  let unterminated : Reading (List (Char × Char)) := fault "unterminated \x60y' command"
  match ← next? with
  | none => unterminated
  | some mark =>
      match ← delimited mark false with
      | none => unterminated
      | some old =>
          match ← delimited mark false with
          | none => unterminated
          | some new =>
              let old := exchanged (old.length + 1) old
              let new := exchanged (new.length + 1) new
              if old.length ≠ new.length then
                fault "strings for \x60y' command are different lengths"
              return old.zip new

def endOfCommand : Reading Unit := do
  skipBlanks
  match ← get with
  | [] => pure ()
  | character :: rest =>
      if character = '\n' || character = ';' then set rest
      else if character = '\x7d' || character = '#' then pure ()
      else
        set rest
        fault "extra characters after command"

def labelName : Reading Script := do
  skipBlanks
  takeWhile fun character => !isGap character && character ≠ '\x7d'

def plainLetters : Script := "dDpPnNgGhHx=zFl".toList

def action (extended : Bool) : Reading Action := do
  match ← next? with
  | none => fault "missing command"
  | some letter =>
      let ended := fun (action : Action) => do
        endOfCommand
        return action
      match letter with
      | '\x7b' => return .opening
      | '\x7d' => ended .closing
      | ':' =>
          let name ← labelName
          if name.isEmpty then fault "\":\" lacks a label"
          return .label name
      | 'b' =>
          let name ← labelName
          ended (.branch none name)
      | 't' =>
          let name ← labelName
          ended (.branch (some true) name)
      | 'T' =>
          let name ← labelName
          ended (.branch (some false) name)
      | 's' =>
          let substitution ← substitution extended
          ended (.substitute substitution)
      | 'y' =>
          let pairs ← exchange
          ended (.exchange pairs)
      | 'a' => return .append (← textArgument)
      | 'i' => return .insert (← textArgument)
      | 'c' => return .replace (← textArgument)
      | 'r' => return .readFile (← pathArgument)
      | 'w' => return .writeLine (← pathArgument) true
      | 'W' => return .writeLine (← pathArgument) false
      | 'q' =>
          skipBlanks
          let status ← number
          ended (.quit true status)
      | 'Q' =>
          skipBlanks
          let status ← number
          ended (.quit false status)
      | letter =>
          if plainLetters.contains letter then
            if letter = 'l' then
              skipBlanks
              discard number
            ended (.plain letter)
          else fault ("unknown command: \x60" ++ String.ofList [letter] ++ "'")

def commands (extended : Bool) : Nat → Nat → Reading (List Command)
  | 0, _ => return []
  | steps + 1, depth => do
      discard (takeWhile isGap)
      match ← get with
      | [] =>
          if 0 < depth then throw ⟨"unmatched \x60\x7b'", 0⟩
          return []
      | '#' :: _ =>
          discard (takeWhile (· ≠ '\n'))
          commands extended steps depth
      | _ =>
          let selection ← selection extended
          let action ← action extended
          let depth ← match action with
            | .opening => pure (depth + 1)
            | .closing =>
                if depth = 0 then fault "unexpected \x60\x7d'"
                pure (depth - 1)
            | _ => pure depth
          return { selection, action } :: (← commands extended steps depth)

def parse (extended : Bool) (text : Script) : Except Fault (Array Command) := do
  let (commands, _) ← (commands extended (text.length + 1) 0).run text
  return commands.toArray

end SchemaBuild.Shell.Sed
