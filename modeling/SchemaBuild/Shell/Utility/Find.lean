import SchemaBuild.Shell.Format
import SchemaBuild.Shell.Program
import SchemaBuild.Shell.Utility.DirectoryListing
import SchemaBuild.Shell.Utility.Find.Expression

/-!
# Finding files

The utility that walks through directories, and tests what it finds by an expression.
-/

namespace SchemaBuild.Shell.Utility.Find

/-! ## Walking -/

structure Walking where
  isPruned : Bool := false
  isOver : Bool := false
  status : Nat := 0
  collected : List (Find.Running × Script × List Script) := []
  outputs : List (Script × Nat) := []

abbrev Finding := StateT Walking Shell.Running

structure Found where
  path : Script
  top : Script
  depth : Nat
  node : Node
  follows : Bool := false

def kindOf (node : Node) : Char :=
  match node with
  | .file _ => 'f'
  | node => kindLetter node

def baseName (path : Script) : Script :=
  let body := dropSlashes path
  if body.isEmpty then path.take 1
  else lastName body ++ path.drop body.length

def directoryOf (path : Script) : Script :=
  let body := dropSlashes path
  if body.isEmpty then []
  else if body.length < path.length && !body.contains '/' then body
  else if body.contains '/' then
    (body.reverse.dropWhile (· ≠ '/')).drop 1 |>.reverse
  else ['.']

/-! ## Formats -/

structure Printed where
  text : Script := []
  warnings : List Script := []
  failure : Option Script := none

def Printed.after (printed : Printed) (text : Script) (warnings : List Script) : Printed :=
  { printed with text := text ++ printed.text, warnings := warnings ++ printed.warnings }

def longSeconds (text : Script) : Script :=
  text ++ ".0000000000".toList

def timeField (time : Int) (letter : Char) : Script :=
  let shown := fun (format : String) => Calendar.formatted { seconds := time } format.toList
  match letter with
  | '@' => longSeconds (toString time).toList
  | '+' => longSeconds (shown "%Y-%m-%d+%H:%M:%S")
  | 'S' => longSeconds (shown "%S")
  | 'T' => longSeconds (shown "%H:%M:%S")
  | 'X' => longSeconds (shown "%H:%M:%S")
  | letter =>
      if "HIklMprZaAbBcdDFhjmUwWxyYs".toList.contains letter then
        Calendar.formatted { seconds := time } ['%', letter]
      else ['%', letter]

def field? (files : FileSystem) (goal : Option Node) (found : Found) (letter : Char) :
    Option (Script × Bool) :=
  let (permissions, size, time) := factsOf files found.node
  let text := fun (text : Script) => some (text, false)
  let number := fun (value : Nat) => some ((toString value).toList, true)
  match letter with
  | 'p' => text found.path
  | 'f' => text (baseName found.path)
  | 'h' => text (directoryOf found.path)
  | 'P' => text ((found.path.drop found.top.length).dropWhile (· = '/'))
  | 'H' => text found.top
  | 's' => number size
  | 'M' => text (kindLetter found.node :: permissionText permissions)
  | 'y' => text [kindOf found.node]
  | 'Y' => text (match found.node, goal with
      | .link _, some node => [kindOf node]
      | .link _, none => ['N']
      | node, _ => [kindOf node])
  | 'd' => number found.depth
  | 'D' => number 0
  | 'u' => text "root".toList
  | 'g' => text "root".toList
  | 'U' => number 0
  | 'G' => number 0
  | 'n' => number (linkCount files found.node)
  | 'i' => match found.node with
      | .file id => number (id + 1)
      | _ => number 0
  | 'k' => number ((blockCount files found.node + 1) / 2)
  | 'b' => number (blockCount files found.node)
  | 'S' => text (if size = 0 then ['1']
      else Format.fractionText {} 'g'
        (Float.ofNat (blockCount files found.node * 512) / Float.ofNat size))
  | 'F' => text "ext4".toList
  | 'l' => match found.node with
      | .link target => text (Bytes.toLatin target)
      | _ => text []
  | 'a' => text (Calendar.formatted { seconds := time } "%a %b %e %H:%M:%S.0000000000 %Y".toList)
  | 'c' => text (Calendar.formatted { seconds := time } "%a %b %e %H:%M:%S.0000000000 %Y".toList)
  | 't' => text (Calendar.formatted { seconds := time } "%a %b %e %H:%M:%S.0000000000 %Y".toList)
  | _ => none

def formatted (files : FileSystem) (goal : Option Node) (found : Found) : Nat → Script → Printed
  | 0, _ => {}
  | _ + 1, [] => {}
  | _ + 1, ['\\'] =>
      { text := ['\\']
        warnings := ["warning: escape ".toList ++ backquote ['\\'] ++
          " followed by nothing at all".toList] }
  | _ + 1, '\\' :: 'c' :: _ => {}
  | steps + 1, '\\' :: first :: rest =>
      let onward := formatted files goal found steps
      if isOctalDigit first then
        let digits := ((first :: rest).take 3).takeWhile isOctalDigit
        (onward ((first :: rest).drop digits.length)).after [Format.ofOctal digits] []
      else
        match (if first = 'e' then none else Format.escape? first) with
        | some character => (onward rest).after [character] []
        | none =>
            (onward rest).after ['\\', first]
              ["warning: unrecognized escape ".toList ++ backquote ['\\', first]]
  | _ + 1, ['%'] => { failure := some "error: % at end of format string".toList }
  | steps + 1, '%' :: '%' :: rest => (formatted files goal found steps rest).after ['%'] []
  | steps + 1, '%' :: start =>
      let onward := formatted files goal found steps
      let flags := start.takeWhile fun character => ['-', '+', '#', '0', ' '].contains character
      let (width, rest) := Format.leadingNumber (start.drop flags.length)
      let (precision, rest) := match rest with
        | '.' :: rest =>
            let (precision, rest) := Format.leadingNumber rest
            (some precision, rest)
        | rest => (none, rest)
      let pad := fun (text : Script) =>
        Format.pad { leftAligned := flags.contains '-', width }
          (text.take (precision.getD text.length))
      match rest with
      | [] =>
          { failure := some ("error: the format directive ".toList ++
              backquote ['%', Char.ofNat 0] ++ " is reserved for future use".toList) }
      | 'm' :: after =>
          let layout : Format.Layout :=
            { leftAligned := flags.contains '-', zeros := flags.contains '0'
              alternative := flags.contains '#', width, precision }
          (onward after).after
            (Format.wholeText layout 'o' (factsOf files found.node).1) []
      | letter :: after =>
          match (letter = 'T' || letter = 'A' || letter = 'C' : Bool), after with
          | true, inner :: after =>
              (onward after).after (pad (timeField (factsOf files found.node).2.2 inner)) []
          | _, after =>
              match field? files goal found letter with
              | some (text, _) => (onward after).after (pad text) []
              | none =>
                  let directive := '%' :: start.take (start.length - after.length)
                  (onward after).after directive
                    ["warning: unrecognized format directive ".toList ++ backquote directive]
  | steps + 1, character :: rest => (formatted files goal found steps rest).after [character] []

def escapedName (name : Script) : Script :=
  Listing.escapedText [' ', '"'] name

def detailLine (files : FileSystem) (found : Found) : Script :=
  let (permissions, size, time) := factsOf files found.node
  let number := match found.node with
    | .file id => id + 1
    | _ => 0
  let target := match found.node with
    | .link target => " -> ".toList ++ escapedName (Bytes.toLatin target)
    | _ => []
  let fill := fun (width : Nat) (text : Script) =>
    text ++ List.replicate (width - text.length) ' '
  padLeft 9 (toString number).toList ++ ' ' ::
    padLeft 6 (toString ((blockCount files found.node + 1) / 2)).toList ++ ' ' ::
    (kindLetter found.node :: permissionText permissions) ++ ' ' :: ' ' ::
    padLeft 2 (toString (linkCount files found.node)).toList ++ ' ' ::
    fill 8 "root".toList ++ ' ' :: fill 8 "root".toList ++ ' ' ::
    padLeft 8 (toString size).toList ++ ' ' :: Listing.timeText none time ++ ' ' ::
    escapedName found.path ++ target ++ ['\n']

/-! ## Tests -/

def putPath (path : Script) : Nat → Script → Script
  | 0, word => word
  | _ + 1, [] => []
  | steps + 1, '\x7b' :: '\x7d' :: rest => path ++ putPath path steps rest
  | steps + 1, character :: rest => character :: putPath path steps rest

def startCommand (start : Start) (directory : Script) (words : List Script) :
    Shell.Running Bool := do
  let before := (← get).files.working
  unless directory.isEmpty do
    match (← get).files.locate true (Bytes.ofLatin directory) with
    | .ok (.node location (.directory _)) =>
        modify fun state => { state with files := { state.files with working := location } }
    | _ => pure ()
  let result ← start words
  modify fun state => { state with files := { state.files with working := before } }
  match result with
  | .ok (.code 0) => return true
  | .ok _ => return false
  | .error error =>
      discard (fail "find" (quote (words.headD []) ++ ": ".toList ++ error.words.toList))
      return false

def agrees (running : Find.Running) (path : Script) : Shell.Running Bool := do
  discard (write 2 ("< ".toList ++ running.words.headD [] ++ " ... ".toList ++ path ++
    " > ? ".toList))
  match ← takeFrom 0 fun text => (text.takeWhile (· ≠ '\n')).length + 1 with
  | .ok (first :: _) => return first = 'y' || first = 'Y'
  | _ => return false

def put (file : Option Script) (text : Script) : Finding Unit := do
  let outputs := (← get).outputs
  match file.bind fun path => outputs.lookup path with
  | none => Shell.print text
  | some index =>
      let state ← getThe State
      match state.opened[index]? with
      | some opened => discard (writeTo index opened text : Shell.Running _)
      | none => pure ()

def collect (running : Find.Running) (directory path : Script) :
    List (Find.Running × Script × List Script) → List (Find.Running × Script × List Script)
  | [] => [(running, directory, [path])]
  | (other, place, paths) :: rest =>
      if other = running && place = directory then (other, place, paths ++ [path]) :: rest
      else (other, place, paths) :: collect running directory path rest

def runFor (start : Start) (found : Found) (running : Find.Running) : Finding Bool := do
  let (directory, path) := if running.isThere then
      let body := dropSlashes found.path
      (directoryOf body, '.' :: '/' :: lastName body)
    else ([], found.path)
  if running.isMany then
    modify fun walking => { walking with
      collected := collect running directory path walking.collected }
    return true
  if running.asks then
    unless ← agrees running found.path do return false
  startCommand start directory (running.words.map fun word => putPath path (word.length + 1) word)

def holds (start : Start) (walk : Walk) (found : Found) : Expression → Finding Bool
  | .constant value => return value
  | .name whole ignoresCase pattern => do
      let text := if whole then found.path else lastName found.path
      let settled := fun (text : Script) => if ignoresCase then text.map Char.toLower else text
      return (Pattern.ofText (settled pattern)).accepts (settled text)
  | .target ignoresCase pattern =>
      let settled := fun (text : Script) => if ignoresCase then text.map Char.toLower else text
      match found.node with
      | .link target =>
          return (Pattern.ofText (settled pattern)).accepts (settled (Bytes.toLatin target))
      | _ => return false
  | .regex regex ignoresCase => do
      let subject : Regex.Subject := { text := found.path.toArray, ignoresCase }
      match regex.matchAt? subject 0 with
      | some found => return found.stop = subject.text.size
      | none => return false
  | .kind letters follows => do
      if !follows then return letters.contains (kindOf found.node)
      -- Where links are followed, the link itself is meant.
      match ← (nodeAt? (!found.follows) found.path : Shell.Running _) with
      | .ok node => return letters.contains (kindOf node)
      | .error _ => return letters.contains 'l'
  | .empty => do
      match found.node with
      | .directory entries => return entries.isEmpty
      | .file _ => return (factsOf (← getThe State).files found.node).2.1 = 0
      | _ => return false
  | .size unit quantity => do
      let size := (factsOf (← getThe State).files found.node).2.1
      return quantity.accepts ((size + unit - 1) / unit)
  | .age unit quantity => do
      let time := (factsOf (← getThe State).files found.node).2.2
      let now := if walk.fromDayEnd then presentTime + Calendar.daySeconds - 1 else presentTime
      return quantity.accepts ((now - time).toNat / unit)
  | .permissions sign mode => do
      let permissions := (factsOf (← getThe State).files found.node).1
      match sign with
      | none => return permissions = mode
      | some '-' => return permissions &&& mode = mode
      | some _ => return mode = 0 || permissions &&& mode ≠ 0
  | .newer path => do
      let files := (← getThe State).files
      match ← (nodeAt? true path : Shell.Running _) with
      | .ok other => return (factsOf files other).2.2 < (factsOf files found.node).2.2
      | .error _ => return false
  | .newerThan time => return time < (factsOf (← getThe State).files found.node).2.2
  | .same path => do
      match ← (nodeAt? found.follows path : Shell.Running _) with
      | .ok other => return other = found.node
      | .error _ => return false
  | .fact fact quantity => do
      let files := (← getThe State).files
      let value := match fact, found.node with
        | .links, node => linkCount files node
        | .number, .file id => id + 1
        | .number, _ => 1
        | _, _ => 0
      return quantity.accepts value
  | .runnable =>
      match found.node with
      | .directory _ => return true
      | _ => do
          match ← (nodeAt? true found.path : Shell.Running _) with
          | .ok (.directory _) => return true
          | .ok node => return (permissionsOf (← getThe State).files node) &&& 0o111 ≠ 0
          | .error _ => return false
  | .print ending file => do
      put file (found.path ++ [ending])
      return true
  | .format text file => do
      let goal ← match ← (nodeAt? true found.path : Shell.Running _) with
        | .ok node => pure (some node)
        | .error _ => pure none
      let printed := formatted (← getThe State).files goal found (text.length + 1) text
      put file printed.text
      return true
  | .details file => do
      put file (detailLine (← getThe State).files found)
      return true
  | .run running => runFor start found running
  | .delete => do
      if found.path = ['.'] then return true
      let place := Bytes.ofLatin found.path
      let result ← (changeFiles (fun files =>
        match found.node with
        | .directory _ => files.removeDirectory place
        | _ => files.unlink place) : Shell.Running _)
      match result with
      | .ok () => return true
      | .error error =>
          discard (fail "find" ("cannot delete ".toList ++ quote found.path ++ ": ".toList ++
            error.words.toList) : Shell.Running Nat)
          modify fun walking => { walking with status := 1 }
          return false
  | .prune => do
      modify fun walking => { walking with isPruned := true }
      return true
  | .quit => do
      modify fun walking => { walking with isOver := true }
      return true
  | .negation expression => return !(← holds start walk found expression)
  | .both first second => do
      if ← holds start walk found first then
        if (← get).isOver then return true
        holds start walk found second
      else return false
  | .either first second => do
      if ← holds start walk found first then return true
      holds start walk found second
  | .sequence first second => do
      discard (holds start walk found first)
      holds start walk found second

/-! ## The walk -/

def visit (start : Start) (walk : Walk) (expression : Expression) (top : Script) :
    Nat → Nat → Script → Finding Unit
  | 0, _, _ => return
  | steps + 1, depth, path => do
      if (← get).isOver then return
      let follows := walk.following = .always || walk.following = .tops && depth = 0
      let node ← (do
        match ← nodeAt? follows path with
        | .ok node => return .ok node
        | .error _ => nodeAt? false path : Shell.Running (Except FileError Node))
      match node with
      | .error error =>
          discard (fail "find" (quote path ++ ": ".toList ++ error.words.toList))
          modify fun walking => { walking with status := 1 }
      | .ok node =>
          let test : Finding Unit := do
            if walk.least ≤ depth && !(← get).isOver then
              modify fun walking => { walking with isPruned := false }
              discard (holds start walk ⟨path, top, depth, node, follows⟩ expression)
          unless walk.contentFirst do
            modify fun walking => { walking with isPruned := false }
            test
          let isPruned := !walk.contentFirst && (← get).isPruned
          match node with
          | .directory _ =>
              if !isPruned && walk.most.all (depth < ·) then
                -- The directory may have changed in the meantime.
                let files := (← getThe State).files
                let names : List Script := match files.list (Bytes.ofLatin path) with
                  | .ok entries => entries.toList.map fun entry => Bytes.toLatin entry.1
                  | .error _ => []
                for name in names do
                  visit start walk expression top steps (depth + 1) (below path name)
          | _ => pure ()
          if walk.contentFirst then test

def depthLimit : Nat := 2000

def leadingOptions : Walk → List Script → Except Script (Walk × List Script × List Script)
  | walk, ['-', 'L'] :: rest => leadingOptions { walk with following := .always } rest
  | walk, ['-', 'H'] :: rest => leadingOptions { walk with following := .tops } rest
  | walk, ['-', 'P'] :: rest => leadingOptions { walk with following := .never } rest
  | walk, ['-', '-'] :: rest => .ok (walk, rest, [])
  | _, ['-', 'O'] :: _ =>
      .error "The -O option must be immediately followed by a decimal integer".toList
  | walk, ('-' :: 'O' :: digits) :: rest =>
      if digits.all Char.isDigit then leadingOptions walk rest
      else .error "Please specify a decimal number immediately after -O".toList
  | _, [['-', 'D']] => .error "Missing argument after the -D option.".toList
  | walk, ['-', 'D'] :: flag :: rest => do
      let (walk, words, warnings) ← leadingOptions walk rest
      return (walk, words,
        ("Ignoring unrecognised debug flag ".toList ++ quote flag) :: warnings)
  | walk, words => .ok (walk, words, [])

def formats : Expression → List Script
  | .format text _ => [text]
  | .negation expression => formats expression
  | .both first second => formats first ++ formats second
  | .either first second => formats first ++ formats second
  | .sequence first second => formats first ++ formats second
  | _ => []

def prepare (walk : Walk) (expression : Expression) :
    Shell.Running (Except Nat (List (Script × Nat))) := do
  for warning in walk.warnings do discard (fail "find" warning)
  for path in walk.needed do
    match ← nodeAt? (walk.following ≠ .never) path with
    | .ok _ => pure ()
    | .error error =>
        return .error (← fail "find" (quote path ++ ": ".toList ++ error.words.toList))
  -- A format is checked before anything is found.
  for text in formats expression do
    let printed :=
      formatted (← get).files none ⟨[], [], 0, .directory ∅, false⟩ (text.length + 1) text
    for warning in printed.warnings do discard (fail "find" warning)
    match printed.failure with
    | some reason => return .error (← fail "find" reason)
    | none => pure ()
  let mut outputs : List (Script × Nat) := []
  for path in walk.outputs do
    if (outputs.lookup path).isNone then
      match ← openAt path .write with
      | .ok index => outputs := outputs ++ [(path, index)]
      | .error error =>
          return .error (← fail "find" (quote path ++ ": ".toList ++ error.words.toList))
  return .ok outputs

end Find

def find (start : Start) : Utility := fun given => do
  match Find.leadingOptions {} given with
  | .error reason =>
      discard (fail "find" reason)
      if given.getLast? = some "-D".toList then pointToHelp "find"
      return 1
  | .ok (walk, words, warnings) =>
      for warning in warnings do discard (fail "find" warning)
      let paths := words.takeWhile fun word => !Find.startsExpression true word
      match Find.parse walk (words.drop paths.length) with
      | .error (.plain reason) => fail "find" reason
      | .error (.stray word last) =>
          discard (fail "find" ("paths must precede expression: ".toList ++ Find.backquote word))
          match last, ← nodeAt? true word with
          | some last, .ok _ =>
              discard (fail "find" ("possible unquoted pattern after predicate ".toList ++
                Find.backquote last ++ ['?']))
          | _, _ => pure ()
          return 1
      | .ok (expression, walk) =>
          match ← Find.prepare walk expression with
          | .error status => return status
          | .ok outputs =>
              let paths := if paths.isEmpty then [['.']] else paths
              let walkAll : Find.Finding Unit := do
                for path in paths do
                  Find.visit start walk expression path Find.depthLimit 0 path
              let (_, walking) ← walkAll.run { outputs }
              let mut status := walking.status
              for (running, directory, paths) in walking.collected do
                unless ← Find.startCommand start directory (running.words ++ paths) do status := 1
              return status

end SchemaBuild.Shell.Utility
