import SchemaBuild.Shell.Regex.Matching
import SchemaBuild.Shell.Utility.FileFacts

/-!
# Lines

Utilities that print parts of texts, or their lines in another form.
-/

namespace SchemaBuild.Shell.Utility

/-! ## Whole texts -/

def visible (tabs : Bool) (character : Char) : Script :=
  let number := character.toNat
  let low := fun (number : Nat) =>
    if number = 127 then ['^', '?']
    else if number < 32 then ['^', Char.ofNat (number + 64)]
    else [Char.ofNat number]
  if character = '\n' then ['\n']
  else if character = '\t' then (if tabs then ['^', 'I'] else ['\t'])
  else if number < 128 then low number
  else 'M' :: '-' :: low (number - 128)

structure Adorning where
  numbers : Bool := false
  onlyFull : Bool := false
  squeezes : Bool := false
  ends : Bool := false
  tabs : Bool := false
  controls : Bool := false

def adorn (adorning : Adorning) : Nat → Nat → List Script → List Script × Nat
  | number, _, [] => ([], number)
  | number, blanks, line :: lines =>
      let text := trimLine line
      let isEmpty := line = ['\n']
      if adorning.squeezes && isEmpty && 0 < blanks then adorn adorning number (blanks + 1) lines
      else
        let isNumbered := adorning.numbers && !(adorning.onlyFull && isEmpty)
        let mark := if isNumbered then padLeft 6 (toString number).toList ++ ['\t'] else []
        let plain := if adorning.ends && !adorning.controls && line.length ≠ text.length &&
            text.getLast? = some '\r' then text.dropLast
          else text
        let shown := plain.flatMap fun character =>
          if adorning.controls then visible adorning.tabs character
          else if adorning.tabs && character = '\t' then ['^', 'I']
          else [character]
        -- A return before the end of a line is shown together with it.
        let ending := (if plain.length = text.length then [] else ['^', 'M']) ++
          if line.length = text.length then []
          else if adorning.ends then ['$', '\n'] else ['\n']
        let (rest, last) := adorn adorning (if isNumbered then number + 1 else number)
          (if isEmpty then blanks + 1 else 0) lines
        ((mark ++ shown ++ ending) :: rest, last)

def inputFile? (path : Script) : Running (Option FileId) := do
  if path = ['-'] then
    match (← get).openFile? 0 with
    | some (_, { endpoint := .file id, .. }) => return some id
    | _ => return none
  else
    match ← nodeAt? true path with
    | .ok (.file id) => return some id
    | _ => return none

def isOwnOutput (path : Script) : Running Bool := do
  let state ← get
  match ← inputFile? path, state.openFile? 1 with
  | some input, some (_, { endpoint := .file output, .. }) =>
      let size := (state.files.storedAt input).content.toBytes.length
      let offset := match path, state.openFile? 0 with
        | ['-'], some (_, file) => file.offset
        | _, _ => 0
      return input = output && offset < size
  | _, _ => return false

def catText (path : Script) : Running (Except Nat Script) := do
  if ← isOwnOutput path then
    return .error (← fail "cat" (Quotation.ifNeeded path ++ ": input file is output file".toList))
  match ← textOf path with
  | .ok text => return .ok text
  | .error error =>
      let status ← failPlainly "cat" path error
      if path = ['-'] && error = .badChannel then
        discard (failBarely "cat" "closing standard input".toList error)
      return .error status

def cat : Utility := fun given =>
  Grammar.run
    { name := "cat", flags := "nbsEATetuv"
      long := [("number", 'n'), ("number-nonblank", 'b'), ("squeeze-blank", 's'),
        ("show-ends", 'E'), ("show-all", 'A'), ("show-tabs", 'T'), ("show-nonprinting", 'v')] }
    given fun arguments => do
      let operands := if arguments.operands.isEmpty then [['-']] else arguments.operands
      if arguments.options.all fun option => option.1 = 'u' then
        forEachOperand operands fun path => do
          match ← catText path with
          | .ok text =>
              print text
              return 0
          | .error status => return status
      else
        let all := arguments.has 'A'
        let adorning : Adorning :=
          { numbers := arguments.has 'n' || arguments.has 'b'
            onlyFull := arguments.has 'b'
            squeezes := arguments.has 's'
            ends := all || arguments.has 'E' || arguments.has 'e'
            tabs := all || arguments.has 'T' || arguments.has 't'
            controls := all || arguments.has 'v' || arguments.has 'e' || arguments.has 't' }
        let mut status := 0
        let mut texts := []
        for path in operands do
          match ← catText path with
          | .ok text => texts := texts ++ text
          | .error failed => status := failed
        print (adorn adorning 1 0 (lines texts)).1.flatten
        return status

/-- The records of a text from the last one on, for a separator. A record starts with the separator
if `before`, and ends with it otherwise. The text is read backwards, and the number bounds the
steps. -/
def backward (separator : Script) (before : Bool) : Nat → Script → Script → List Script
  | 0, _, record => [record]
  | _ + 1, [], record => [record]
  | steps + 1, character :: rest, record =>
      let left := character :: rest
      if separator.reverse.isPrefixOf left then
        let left := left.drop separator.length
        if before then (separator ++ record) :: backward separator before steps left []
        else record :: backward separator before steps left separator
      else backward separator before steps rest (character :: record)

def lastMatch? (regex : Regex) (text : Array Char) (limit : Nat) : Nat → Option Regex.Match
  | 0 => none
  | start + 1 =>
      match regex.matchAt? { text := text.extract 0 limit } start with
      | some found => some found
      | none => lastMatch? regex text limit start

/-- The records of a text from the last one on, for matches of an expression as separators. The last
record ends at a place, and the search starts before another one. -/
def backwardMatches (regex : Regex) (before : Bool) (text : Array Char) :
    Nat → Nat → Nat → List Script
  | 0, stop, _ => [(text.extract 0 stop).toList]
  | steps + 1, stop, limit =>
      match lastMatch? regex text limit limit with
      | none => [(text.extract 0 stop).toList]
      | some found =>
          let cut := if before then found.start else found.stop
          (text.extract cut stop).toList ::
            backwardMatches regex before text steps cut found.start

def tac : Utility := fun given =>
  Grammar.run
    { name := "tac", flags := "br", valued := "s"
      long := [("before", 'b'), ("regex", 'r'), ("separator", 's')] } given fun arguments => do
      let separator := (arguments.value? 's').getD ['\n']
      let isBefore := arguments.has 'b'
      let cut ← if arguments.has 'r' then
          if separator.isEmpty then return ← fail "tac" "separator cannot be empty".toList
          match Regex.parse { simpleOperators := true } separator with
          | .error reason => return ← fail "tac" reason.toList
          | .ok regex =>
              pure fun (text : Script) =>
                backwardMatches regex isBefore text.toArray (text.length + 1) text.length text.length
        else
          let separator := if separator.isEmpty then [Char.ofNat 0] else separator
          pure fun (text : Script) =>
            backward separator isBefore (text.length + 1) text.reverse []
      let operands := if arguments.operands.isEmpty then [['-']] else arguments.operands
      forEachOperand operands fun path => do
        match ← textOf path with
        | .ok text =>
            print (cut text).flatten
            return 0
        | .error .isDirectory => fail "tac" (path ++ ": read error: Invalid argument".toList)
        | .error .badChannel => do
            discard (failBarely "tac" "'standard input': read error".toList .badChannel)
            failBarely "tac" ['-'] .badChannel
        | .error error =>
            fail "tac" ("failed to open ".toList ++ quotePath path ++ " for reading: ".toList ++
              error.words.toList)

def rev : Utility := fun given =>
  Grammar.run
    { name := "rev", flags := "0", helpName := some "rev", long := [("zero", '0')] } given
    fun arguments => do
      let ending := recordEnd (arguments.has '0')
      let operands := if arguments.operands.isEmpty then [['-']] else arguments.operands
      forEachOperand operands fun path => do
        match ← textOf path with
        | .ok text =>
            print ((records ending text).flatMap fun line =>
              let inside := trimRecord ending line
              inside.reverse ++ line.drop inside.length)
            return 0
        | .error error =>
            complain ("rev: cannot open ".toList ++ path ++ ": ".toList ++ error.words.toList)
            return 1

def outputErrorChoices : List (Bool × List String) :=
  [(false, ["warn"]), (false, ["warn-nopipe"]), (true, ["exit"]), (true, ["exit-nopipe"])]

def tee : Utility := fun given =>
  Grammar.run
    { name := "tee", flags := "aip", optional := "ο"
      long := [("append", 'a'), ("ignore-interrupts", 'i'), ("output-error", 'ο')] }
    given fun arguments => do
      let mut exits := false
      for word in arguments.values 'ο' do
        if word.isEmpty then exits := false
        else
          match choice? outputErrorChoices word with
          | some ends => exits := ends
          | none => return ← refuseChoice "tee" "--output-error" outputErrorChoices word
      let mode := if arguments.has 'a' then OpenMode.append else .write
      let mut status := 0
      let mut opened := []
      for path in arguments.operands do
        match ← openAt path mode with
        | .ok index => opened := opened ++ [(path, index)]
        | .error error =>
            status ← failPlainly "tee" path error
            if exits then return status
      match ← takeAllInput with
      | .error error =>
          discard (failBarely "tee" "read error".toList error)
          if error = .badChannel then
            discard (failBarely "tee" "standard input".toList error)
          return 1
      | .ok text =>
          match ← observing (print text) with
          | .ok () => pure ()
          | .error (.outputFailed error) =>
              if error = .brokenPipe then throw (.outputFailed error)
              status ← failBarely "tee" "'standard output'".toList error
              if exits then return status
          | .error interrupt => throw interrupt
          for (path, index) in opened do
            match (← get).opened[index]? with
            | some file =>
                match ← writeTo index file text with
                | .ok () => pure ()
                | .error error =>
                    status ← failPlainly "tee" path error
                    if exits then return status
            | none => pure ()
          return status

end SchemaBuild.Shell.Utility
