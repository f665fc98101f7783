import SchemaBuild.Shell.Sed.Script
import SchemaBuild.Shell.Utility

/-!
# Editing lines

An editor takes one line after the other, runs the commands of its script on it, and prints what
has become of it.
-/

namespace SchemaBuild.Shell.Sed

/-! ## Editors -/

structure Line where
  text : Script
  isEnded : Bool
  file : Script

structure Output where
  chunks : List Script := []
  owesEnd : Bool := false

def Output.add (output : Output) (ending : Char) (text : Script) (isEnded : Bool) : Output :=
  let start := if output.owesEnd then [ending] else []
  { chunks := (start ++ text ++ if isEnded then [ending] else []) :: output.chunks
    owesEnd := !isEnded }

def Output.addPlain (output : Output) (ending : Char) (text : Script) : Output :=
  let start := if output.owesEnd then [ending] else []
  { chunks := (start ++ text) :: output.chunks, owesEnd := false }

def Output.text (output : Output) : Script :=
  output.chunks.reverse.flatten

inductive Queued where
  | text (text : Script)
  | file (path : Script)

structure Editor where
  space : Script := []
  isEnded : Bool := true
  hold : Script := []
  number : Nat := 0
  file : Script := ['-']
  lines : List Line := []
  isChanged : Bool := false
  queue : List Queued := []
  output : Output := {}
  written : List (Script × Output) := []
  active : List (Nat × Option Nat) := []
  lastSearch : Option Search := none
  scriptEnd : Script := []

structure Manner where
  silent : Bool := false
  ending : Char := '\n'

abbrev Editing := StateT Editor Running

/-! ## Lines -/

def takeLine : Editing Bool := do
  let editor ← get
  match editor.lines with
  | [] => return false
  | line :: lines =>
      set { editor with
        space := line.text
        isEnded := line.isEnded
        file := line.file
        lines := lines
        number := editor.number + 1 }
      return true

def printSpace (manner : Manner) (text : Script) : Editing Unit :=
  modify fun editor =>
    { editor with output := editor.output.add manner.ending text editor.isEnded }

def printText (manner : Manner) (text : Script) : Editing Unit :=
  modify fun editor => { editor with output := editor.output.addPlain manner.ending text }

def flushQueue (manner : Manner) : Editing Unit := do
  let queue := (← get).queue
  for item in queue do
    match item with
    | .text text => printText manner text
    | .file path =>
        match ← (Utility.textOf (if path = "/dev/stdin".toList then ['-'] else path) :
            Running (Except FileError Script)) with
        | .ok text => unless text.isEmpty do printText manner text
        | .error _ => pure ()
  modify fun editor => { editor with queue := [] }

def writeFile (manner : Manner) (path text : Script) : Editing Unit := do
  if path = "/dev/stdout".toList then printSpace manner text
  else if path = "/dev/stderr".toList then discard (Shell.write 2 (text ++ [manner.ending]))
  else
    modify fun editor => { editor with written := editor.written.map fun (other, output) =>
      (other, if other = path then output.add manner.ending text editor.isEnded else output) }

/-! ## Addresses -/

def settledSearch (search : Search) : Editing Search := do
  match search.regex with
  | some _ =>
      modify fun editor => { editor with lastSearch := some search }
      return search
  | none =>
      match (← get).lastSearch with
      | some last => return last
      | none =>
          discard (Utility.fail "sed"
            ((← get).scriptEnd ++ ": no previous regular expression".toList))
          throw (.exit (.code 1))

def subjectOf (search : Search) (text : Script) : Regex.Subject :=
  { text := text.toArray, ignoresCase := search.ignoresCase, manyLines := search.manyLines }

def accepts (address : Address) : Editing Bool := do
  let editor ← get
  match address with
  | .line number => return editor.number = number
  | .last => return editor.lines.isEmpty
  | .every first step =>
      if step = 0 then return editor.number = first
      return first ≤ editor.number && (editor.number - first) % step = 0
  | .having search =>
      let search ← settledSearch search
      return (search.regex.map fun regex => regex.matchesIn (subjectOf search editor.space)).getD
        false

def setActive (index : Nat) (ending : Option (Option Nat)) : Editing Unit :=
  modify fun editor =>
    let others := editor.active.filter fun entry => entry.1 ≠ index
    { editor with active := match ending with
        | some last => (index, last) :: others
        | none => others }

def goesOn (index : Nat) (ending : RangeEnd) (last : Option Nat) : Editing Bool := do
  match ending, last with
  | _, some last =>
      let number := (← get).number
      if last ≤ number then setActive index none
      return number ≤ last
  | .address address, none =>
      if ← accepts address then setActive index none
      return true
  | _, none => return true

def beginRange (index : Nat) (ending : RangeEnd) : Editing Unit := do
  let number := (← get).number
  let upTo := fun (last : Nat) =>
    if number < last then setActive index (some (some last)) else pure ()
  match ending with
  | .address (.line last) => upTo last
  | .address _ => setActive index (some none)
  | .after count => upTo (number + count)
  | .multiple count => unless count = 0 do upTo (number / count * count + count)

def isSelected (index : Nat) (selection : Selection) : Editing Bool := do
  let inside ← match selection.first, selection.ending with
    | none, _ => pure true
    | some first, none => accepts first
    | some first, some ending =>
        match (← get).active.lookup index with
        | some last => goesOn index ending last
        | none => do
            if ← accepts first then
              beginRange index ending
              pure true
            else pure false
  return inside ≠ selection.negated

def isInside (index : Nat) : Editing Bool :=
  return ((← get).active.lookup index).isSome

/-! ## Replacing -/

structure Casing where
  all : Option Bool := none
  next : Option Bool := none

def Casing.apply (casing : Casing) (text : Script) : Script × Casing :=
  let changed := fun (upper : Bool) (character : Char) =>
    if upper then character.toUpper else character.toLower
  let text := match casing.all with
    | some upper => text.map (changed upper)
    | none => text
  match casing.next, text with
  | some upper, first :: rest => (changed upper first :: rest, { casing with next := none })
  | _, text => (text, casing)

def replacementText (subject : Regex.Subject) (found : Regex.Match) :
    Casing → List Replacement → Script
  | _, [] => []
  | casing, part :: parts =>
      let going := fun (text : Script) =>
        let (text, casing) := casing.apply text
        text ++ replacementText subject found casing parts
      match part with
      | .text text => going text
      | .group number => going (found.group subject number)
      | .change .upper => replacementText subject found { casing with all := some true } parts
      | .change .lower => replacementText subject found { casing with all := some false } parts
      | .change .nextUpper => replacementText subject found { casing with next := some true } parts
      | .change .nextLower => replacementText subject found { casing with next := some false } parts
      | .change .stop => replacementText subject found {} parts

def substitute (manner : Manner) (substitution : Substitution) : Editing Unit := do
  let search ← settledSearch substitution.search
  let subject := subjectOf search (← get).space
  match search.regex with
  | none => pure ()
  | some regex =>
      let (text, count) := regex.replace subject substitution.ordinal substitution.every
        fun found => replacementText subject found {} substitution.parts
      if 0 < count then
        modify fun editor => { editor with space := text, isChanged := true }
        if substitution.prints then printSpace manner text
        match substitution.target with
        | some path => writeFile manner path text
        | none => pure ()

/-! ## Unambiguous lines -/

def listed (character : Char) : Script :=
  let code := character.toNat
  match character with
  | '\\' => "\\\\".toList
  | '\n' => "\\n".toList
  | '\t' => "\\t".toList
  | '\r' => "\\r".toList
  | '\x07' => "\\a".toList
  | '\x08' => "\\b".toList
  | '\x0b' => "\\v".toList
  | '\x0c' => "\\f".toList
  | character =>
      if 32 ≤ code && code < 127 then [character]
      else '\\' :: (Nat.toDigits 8 (code + 512)).drop 1

def listingWidth : Nat := 69

def listing (text : Script) : Script :=
  let (lines, _) := text.foldl (fun (done, width) character =>
    let shown := listed character
    if listingWidth < width + shown.length then
      (shown.reverse ++ '\n' :: '\\' :: done, shown.length)
    else (shown.reverse ++ done, width + shown.length)) (([], 0) : Script × Nat)
  lines.reverse ++ ['$', '\n']

/-! ## Commands -/

inductive Ending where
  | next (prints : Bool)
  | again
  | quit (prints : Bool) (status : Nat)

def afterBlock (commands : Array Command) : Nat → Nat → Nat → Nat
  | 0, index, _ => index
  | steps + 1, index, depth =>
      match commands[index]? with
      | none => index
      | some command =>
          match command.action with
          | .opening => afterBlock commands steps (index + 1) (depth + 1)
          | .closing =>
              if depth ≤ 1 then index + 1 else afterBlock commands steps (index + 1) (depth - 1)
          | _ => afterBlock commands steps (index + 1) depth

def labelPlace (commands : Array Command) (name : Script) : Nat :=
  if name.isEmpty then commands.size
  else
    (commands.findIdx? fun command =>
      match command.action with
      | .label other => other = name
      | _ => false).getD commands.size

def runPlain (manner : Manner) (letter : Char) : Editing (Option Ending) := do
  let editor ← get
  let firstPart := editor.space.takeWhile (· ≠ manner.ending)
  let joined := fun (first second : Script) => first ++ manner.ending :: second
  match letter with
  | 'd' => return some (.next false)
  | 'D' =>
      if !editor.space.contains manner.ending then return some (.next false)
      set { editor with space := editor.space.drop (firstPart.length + 1) }
      return some .again
  | 'p' =>
      printSpace manner editor.space
      return none
  | 'P' =>
      modify fun editor =>
        { editor with output := editor.output.add manner.ending firstPart true }
      return none
  | 'n' =>
      if editor.lines.isEmpty then return some (.next true)
      unless manner.silent do printSpace manner editor.space
      flushQueue manner
      discard takeLine
      return none
  | 'N' =>
      if editor.lines.isEmpty then return some (.next true)
      flushQueue manner
      discard takeLine
      modify fun after => { after with space := joined editor.space after.space }
      return none
  | 'g' =>
      set { editor with space := editor.hold }
      return none
  | 'G' =>
      set { editor with space := joined editor.space editor.hold }
      return none
  | 'h' =>
      set { editor with hold := editor.space }
      return none
  | 'H' =>
      set { editor with hold := joined editor.hold editor.space }
      return none
  | 'x' =>
      set { editor with space := editor.hold, hold := editor.space }
      return none
  | '=' =>
      printText manner ((toString editor.number).toList ++ ['\n'])
      return none
  | 'z' =>
      set { editor with space := [] }
      return none
  | 'F' =>
      printText manner (editor.file ++ ['\n'])
      return none
  | 'l' =>
      printText manner (listing editor.space)
      return none
  | _ => return none

def runAction (manner : Manner) (commands : Array Command) (index : Nat) (action : Action) :
    Editing (Nat ⊕ Ending) := do
  let onward : Nat ⊕ Ending := .inl (index + 1)
  match action with
  | .opening => return onward
  | .closing => return onward
  | .label _ => return onward
  | .branch none name => return .inl (labelPlace commands name)
  | .branch (some wanted) name =>
      let isChanged := (← get).isChanged
      modify fun editor => { editor with isChanged := false }
      return if isChanged = wanted then .inl (labelPlace commands name) else onward
  | .substitute substitution =>
      substitute manner substitution
      return onward
  | .exchange pairs =>
      let exchanged := fun (character : Char) => (pairs.lookup character).getD character
      modify fun editor => { editor with space := editor.space.map exchanged }
      return onward
  | .append text =>
      modify fun editor => { editor with queue := editor.queue ++ [.text text] }
      return onward
  | .insert text =>
      printText manner text
      return onward
  | .replace text =>
      unless ← isInside index do printText manner text
      return .inr (.next false)
  | .readFile path =>
      modify fun editor => { editor with queue := editor.queue ++ [.file path] }
      return onward
  | .writeLine path whole =>
      let space := (← get).space
      writeFile manner path (if whole then space else space.takeWhile (· ≠ '\n'))
      return onward
  | .quit prints status => return .inr (.quit prints status)
  | .plain letter =>
      match ← runPlain manner letter with
      | some ending => return .inr ending
      | none => return onward

def runFrom (manner : Manner) (commands : Array Command) : Nat → Nat → Editing Ending
  | 0, _ => throw .exhausted
  | steps + 1, index => do
      match commands[index]? with
      | none => return .next true
      | some command =>
          if ← isSelected index command.selection then
            match ← runAction manner commands index command.action with
            | .inl next => runFrom manner commands steps next
            | .inr ending => return ending
          else
            let next := match command.action with
              | .opening => afterBlock commands commands.size (index + 1) 1
              | _ => index + 1
            runFrom manner commands steps next

def commandLimit : Nat := 1000000

def runLines (manner : Manner) (commands : Array Command) : Nat → Bool → Editing (Option Nat)
  | 0, _ => return none
  | steps + 1, isTaken => do
      unless isTaken do
        unless ← takeLine do return none
        modify fun editor => { editor with isChanged := false }
      let ending ← runFrom manner commands commandLimit 0
      let finish := fun (prints : Bool) => do
        if prints && !manner.silent then printSpace manner (← get).space
        flushQueue manner
      match ending with
      | .next prints =>
          finish prints
          runLines manner commands steps false
      | .again =>
          flushQueue manner
          runLines manner commands steps true
      | .quit prints status =>
          if prints then finish true
          return some status

def targets (commands : Array Command) : List Script :=
  (commands.toList.filterMap fun command =>
    match command.action with
    | .writeLine path _ => some path
    | .substitute substitution => substitution.target
    | _ => none).eraseDups

def missingLabel? (commands : Array Command) : Option Script :=
  commands.toList.findSome? fun command =>
    match command.action with
    | .branch _ name =>
        if !name.isEmpty && labelPlace commands name = commands.size then some name else none
    | _ => none

def startRanges (commands : Array Command) : List (Nat × Option Nat) :=
  (List.range commands.size).filterMap fun index =>
    match commands[index]? with
    | some command =>
        match command.selection.first with
        | some (.line 0) => some (index, none)
        | _ => none
    | none => none

end SchemaBuild.Shell.Sed
