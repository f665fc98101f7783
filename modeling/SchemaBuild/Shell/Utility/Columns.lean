import SchemaBuild.Shell.Regex.Matching
import SchemaBuild.Shell.Utility.Lines
import SchemaBuild.Shell.Utility.Quantity

/-!
# Columns

Utilities that take parts of lines, put lines side by side, number them, and change their blanks.
-/

namespace SchemaBuild.Shell.Utility

/-! ## Parts of lines -/

structure NumberRange where
  first : Nat
  last : Option Nat
  deriving DecidableEq

structure RangeReading where
  ranges : List NumberRange := []
  left : Script := []
  hasDash : Bool := false
  digits : Script := []

structure RangeWords where
  numbered : String
  wrongRange : String
  wrongValue : String
  tooLarge : String

def fieldWords : RangeWords :=
  { numbered := "fields are numbered from 1"
    wrongRange := "invalid field range"
    wrongValue := "invalid field value "
    tooLarge := "field number " }

def positionWords : RangeWords :=
  { numbered := "byte/character positions are numbered from 1"
    wrongRange := "invalid byte or character range"
    wrongValue := "invalid byte/character position "
    tooLarge := "byte/character offset " }

namespace RangeReading

def close (words : RangeWords) (reading : RangeReading) : Except Script RangeReading :=
  let value := ofDigits 10 reading.digits
  let first := if reading.left.isEmpty then 1 else ofDigits 10 reading.left
  let add := fun (range : NumberRange) => Except.ok { ranges := range :: reading.ranges }
  if !reading.hasDash then
    if value = 0 then .error words.numbered.toList else add ⟨value, some value⟩
  else if reading.left.isEmpty && reading.digits.isEmpty then
    .error "invalid range with no endpoint: -".toList
  else if reading.digits.isEmpty then add ⟨first, none⟩
  else if value < first then .error "invalid decreasing range".toList
  else add ⟨first, some value⟩

def read (words : RangeWords) (reading : RangeReading) : Script → Except Script (List NumberRange)
  | [] => do return (← reading.close words).ranges
  | character :: rest =>
      if character = '-' then
        if reading.hasDash then .error words.wrongRange.toList
        else if !reading.digits.isEmpty && ofDigits 10 reading.digits = 0 then
          .error words.numbered.toList
        else
          read words { reading with left := reading.digits, digits := [], hasDash := true } rest
      else if character = ',' || isBlank character then do
        read words (← reading.close words) rest
      else if character.isDigit then
        let digits := reading.digits ++ [character]
        if Quantity.greatest ≤ ofDigits 10 digits then
          let number := digits ++ rest.takeWhile Char.isDigit
          .error (words.tooLarge.toList ++ quote number ++ " is too large".toList)
        else read words { reading with digits } rest
      else .error (words.wrongValue.toList ++ quote (character :: rest))

end RangeReading

def joinRanges : List NumberRange → List NumberRange
  | first :: second :: rest =>
      match first.last with
      | none => [first]
      | some last =>
          if second.first ≤ last then
            joinRanges ({ first with last := second.last.map (max last) } :: rest)
          else first :: joinRanges (second :: rest)
  | ranges => ranges
termination_by ranges => ranges.length

def complementRanges (next : Nat) : List NumberRange → List NumberRange
  | [] => [⟨next, none⟩]
  | range :: rest =>
      let before := if next < range.first then [⟨next, some (range.first - 1)⟩] else []
      match range.last with
      | none => before
      | some last => before ++ complementRanges (last + 1) rest

def rangesOf (words : RangeWords) (complement : Bool) (text : Script) :
    Except Script (List NumberRange) := do
  let ranges ← RangeReading.read words {} text
  let sorted := joinRanges (ranges.mergeSort fun left right => left.first ≤ right.first)
  return if complement then complementRanges 1 sorted else sorted

def itemsIn {α : Type} (ranges : List NumberRange) (items : List α) : List (List α) :=
  ranges.map fun range =>
    (match range.last with
      | some last => items.take last
      | none => items).drop (range.first - 1)

structure Cutting where
  ranges : List NumberRange
  delimiter : Option Char := none
  joiner : Option Script := none
  onlyDelimited : Bool := false
  ending : Char := '\n'

def Cutting.cutRecord (cutting : Cutting) (record : Script) : Script :=
  match cutting.delimiter with
  | some delimiter =>
      if !record.contains delimiter then
        if cutting.onlyDelimited then [] else record ++ [cutting.ending]
      else
        let fields := (itemsIn cutting.ranges (record.splitOn delimiter)).flatten
        (cutting.joiner.getD [delimiter]).intercalate fields ++ [cutting.ending]
  | none =>
      let parts := (itemsIn cutting.ranges record).filter fun part => !part.isEmpty
      (cutting.joiner.getD []).intercalate parts ++ [cutting.ending]

def Cutting.cutText (cutting : Cutting) (text : Script) : Script :=
  if cutting.delimiter = some cutting.ending then
    if text.isEmpty then [] else cutting.cutRecord (trimRecord cutting.ending text)
  else (plainRecords cutting.ending text).flatMap cutting.cutRecord

def cut : Utility := fun given =>
  Grammar.run
    { name := "cut", flags := "snzκ", valued := "bcdfο"
      long := [("bytes", 'b'), ("characters", 'c'), ("fields", 'f'), ("delimiter", 'd'),
        ("only-delimited", 's'), ("output-delimiter", 'ο'), ("complement", 'κ'),
        ("zero-terminated", 'z')] } given fun arguments => do
      let refuse := failUsage "cut"
      let lists := arguments.options.filter fun option => ['b', 'c', 'f'].contains option.1
      let delimiters := arguments.values 'd'
      if 1 < lists.length then return ← refuse "only one list may be specified".toList
      if delimiters.any fun delimiter => 1 < delimiter.length then
        return ← refuse "the delimiter must be a single character".toList
      match lists with
      | [] => refuse "you must specify a list of bytes, characters, or fields".toList
      | (letter, list) :: _ =>
          let cutsFields := letter = 'f'
          if !cutsFields && !delimiters.isEmpty then
            return ← refuse
              "an input delimiter may be specified only when operating on fields".toList
          if !cutsFields && arguments.has 's' then
            return ← refuse ("suppressing non-delimited lines makes sense\n".toList ++
              "\tonly when operating on fields".toList)
          match rangesOf (if cutsFields then fieldWords else positionWords) (arguments.has 'κ')
              list with
          | .error reason => refuse reason
          | .ok ranges =>
              let delimiter := ((arguments.value? 'd').getD ['\t']).headD (Char.ofNat 0)
              let joiner := (arguments.value? 'ο').map fun joiner =>
                if joiner.isEmpty then [Char.ofNat 0] else joiner
              let cutting : Cutting :=
                { ranges, joiner
                  delimiter := if cutsFields then some delimiter else none
                  onlyDelimited := arguments.has 's'
                  ending := recordEnd (arguments.has 'z') }
              filterTexts "cut" arguments.operands fun _ text => print (cutting.cutText text)

/-! ## Lines side by side -/

def delimiterList : Script → Option (List Script)
  | [] => some []
  | ['\\'] => none
  | '\\' :: letter :: rest =>
      let delimiter := match letter with
        | '0' => []
        | 'b' => ['\x08']
        | 'f' => ['\x0c']
        | 'n' => ['\n']
        | 'r' => ['\r']
        | 't' => ['\t']
        | 'v' => ['\x0b']
        | letter => [letter]
      (delimiterList rest).map (delimiter :: ·)
  | character :: rest => (delimiterList rest).map ([character] :: ·)

def joinWith (delimiters : List Script) (items : List Script) : Script :=
  ((List.range items.length).zip items).flatMap fun (index, item) =>
    if index = 0 then item
    else delimiters.getD ((index - 1) % max delimiters.length 1) [] ++ item

def deal (count : Nat) (items : List Script) : List (List Script) :=
  (List.range count).map fun reader =>
    ((List.range items.length).zip items).filterMap fun (index, item) =>
      if index % max count 1 = reader then some item else none

def paste : Utility := fun given =>
  Grammar.run
    { name := "paste", flags := "sz", valued := "d"
      long := [("serial", 's'), ("delimiters", 'd'), ("zero-terminated", 'z')] } given
    fun arguments => do
      let operands := if arguments.operands.isEmpty then [['-']] else arguments.operands
      let ending := recordEnd (arguments.has 'z')
      let list := (arguments.value? 'd').getD ['\t']
      match delimiterList list with
      | none =>
          fail "paste" ("delimiter list ends with an unescaped backslash: ".toList ++
            list)
      | some delimiters =>
          let delimiters := if delimiters.isEmpty then [[]] else delimiters
          let inputs := (operands.filter (· = ['-'])).length
          let input ← if 0 < inputs then do
              pure (plainRecords ending ((← takeAllInput).toOption.getD []))
            else pure []
          let isSerial := arguments.has 's'
          let mut dealt := if isSerial then input :: List.replicate inputs [] else deal inputs input
          let mut columns := []
          let mut status := 0
          for path in operands do
            if path = ['-'] then
              columns := columns ++ [dealt.headD []]
              dealt := dealt.drop 1
            else
              match ← readFile path with
              | .ok text => columns := columns ++ [plainRecords ending text]
              | .error error =>
                  status ← failPlainly "paste" path error
                  -- Of a directory there is nothing to read, and what is missing ends the work.
                  if error = .isDirectory then columns := columns ++ [[]]
                  else unless isSerial do return status
          if isSerial then
            for column in columns do print (joinWith delimiters column ++ [ending])
          else
            let height := columns.foldl (fun height column => max height column.length) 0
            for row in List.range height do
              print (joinWith delimiters (columns.map fun column => column.getD row []) ++ [ending])
          return status

/-! ## Numbers of lines -/

inductive Numbering where
  | all
  | full
  | none
  | matching (regex : Regex)

def numbering? (text : Script) : Except (Option String) Numbering :=
  match text with
  | 'a' :: _ => .ok .all
  | 't' :: _ => .ok .full
  | 'n' :: _ => .ok .none
  | 'p' :: pattern =>
      match Regex.parse {} pattern with
      | .ok regex => .ok (.matching regex)
      | .error reason => .error (some reason)
  | _ => .error Option.none

structure LineNumbering where
  header : Numbering := .none
  body : Numbering := .full
  footer : Numbering := .none
  start : Int := 1
  increment : Int := 1
  width : Nat := 6
  separator : Script := ['\t']
  alignment : String := "rn"
  blankCount : Nat := 1
  goesOn : Bool := false
  mark : Script := ['\\', ':']

structure NumberingState where
  current : Numbering
  number : Int
  blanks : Nat := 0

namespace LineNumbering

def section? (numbering : LineNumbering) (line : Script) : Option Numbering :=
  let mark := numbering.mark
  if mark.length < 2 then Option.none
  else if line = mark ++ mark ++ mark then some numbering.header
  else if line = mark ++ mark then some numbering.body
  else if line = mark then some numbering.footer
  else Option.none

def numberText (numbering : LineNumbering) (number : Int) : Script :=
  let digits := (toString number).toList
  let filling := numbering.width - digits.length
  match numbering.alignment with
  | "ln" => digits ++ List.replicate filling ' '
  | "rz" =>
      if number < 0 then '-' :: List.replicate filling '0' ++ digits.drop 1
      else List.replicate filling '0' ++ digits
  | _ => List.replicate filling ' ' ++ digits

def numbered (numbering : LineNumbering) (state : NumberingState) (line : Script) :
    Script × NumberingState :=
  match numbering.section? line with
  | some next =>
      ([], { state with
        current := next
        number := if numbering.goesOn then state.number else numbering.start })
  | none =>
      let withNumber := (numbering.numberText state.number ++ numbering.separator ++ line,
        { state with number := state.number + numbering.increment })
      let without :=
        List.replicate (numbering.width + numbering.separator.length) ' ' ++ line
      match state.current with
      | .none => (without, state)
      | .full => if line.isEmpty then (without, state) else withNumber
      | .matching regex =>
          if regex.matchesIn { text := line.toArray } then withNumber else (without, state)
      | .all =>
          if numbering.blankCount ≤ 1 then withNumber
          else if !line.isEmpty || state.blanks + 1 = numbering.blankCount then
            (withNumber.1, { withNumber.2 with blanks := 0 })
          else (without, { state with blanks := state.blanks + 1 })

end LineNumbering

def boundedNumber (low high : Int) (text : Script) : Except String Int :=
  let (negative, digits) := match text with
    | '-' :: digits => (true, digits)
    | '+' :: digits => (false, digits)
    | digits => (false, digits)
  match number? digits with
  | none => .error ""
  | some number =>
      let value : Int := if negative then -number else number
      if value < -2147483648 || 2147483647 < value then
        .error ": Value too large for defined data type"
      else if value < low || high < value then .error ": Numerical result out of range"
      else .ok value

def numberingOf (options : List (Char × Script)) : ExceptT Nat Running LineNumbering :=
  options.foldlM (fun numbering (letter, text) => do
    let style := fun (what : String) => do
      match numbering? text with
      | .ok style => return style
      | .error Option.none =>
          throw (← failUsage "nl" ("invalid ".toList ++ what.toList ++
            " numbering style: ".toList ++ quote text))
      | .error (some reason) => throw (← fail "nl" reason.toList)
    let number := fun (low : Int) (what : String) => do
      match boundedNumber low 9223372036854775807 text with
      | .ok number => return number
      | .error reason =>
          throw (← fail "nl" ("invalid ".toList ++ what.toList ++ ": ".toList ++ quote text ++
            reason.toList))
    match letter with
    | 'h' => return { numbering with header := ← style "header" }
    | 'b' => return { numbering with body := ← style "body" }
    | 'f' => return { numbering with footer := ← style "footer" }
    | 'v' => return { numbering with start := ← number (-2147483648) "starting line number" }
    | 'i' => return { numbering with increment := ← number (-2147483648) "line number increment" }
    | 'l' =>
        return { numbering with blankCount := (← number 1 "line number of blank lines").toNat }
    | 'w' => return { numbering with width := (← number 1 "line number field width").toNat }
    | 's' => return { numbering with separator := text }
    | 'p' => return { numbering with goesOn := true }
    | 'n' =>
        let name := String.ofList text
        if ["ln", "rn", "rz"].contains name then return { numbering with alignment := name }
        else throw (← failUsage "nl" ("invalid line numbering format: ".toList ++ quote text))
    | 'd' =>
        return { numbering with mark := if text.length = 1 then text ++ [':'] else text }
    | _ => return numbering) {}

def nl : Utility := fun given =>
  Grammar.run
    { name := "nl", flags := "p", valued := "bwsvinfhdl"
      long := [("header-numbering", 'h'), ("body-numbering", 'b'), ("footer-numbering", 'f'),
        ("starting-line-number", 'v'), ("line-increment", 'i'), ("no-renumber", 'p'),
        ("join-blank-lines", 'l'), ("number-separator", 's'), ("number-width", 'w'),
        ("number-format", 'n'), ("section-delimiter", 'd')] } given fun arguments => do
      match ← (numberingOf arguments.options).run with
      | .error status => return status
      | .ok numbering =>
          let mut state : NumberingState := { current := numbering.body, number := numbering.start }
          let mut status := 0
          for path in (if arguments.operands.isEmpty then [['-']] else arguments.operands) do
            match ← textOf path with
            | .error error => status ← failPlainly "nl" path error
            | .ok text =>
                for line in plainLines text do
                  let (shown, next) := numbering.numbered state line
                  printLine shown
                  state := next
          return status

/-! ## Broken lines -/

def columnAfter (countsBytes : Bool) (column : Nat) (character : Char) : Nat :=
  if countsBytes then column + 1
  else match character with
    | '\x08' => column - 1
    | '\r' => 0
    | '\t' => column + (8 - column % 8)
    | _ => column + 1

/-- Break a text at a width, after the last blank if that is asked for. What stands on the line so
far is given backwards. -/
def foldText (width : Nat) (countsBytes atBlanks : Bool) : Nat → Script → Nat → Script → Script
  | 0, line, _, rest => line.reverse ++ rest
  | _ + 1, line, _, [] => line.reverse
  | steps + 1, line, column, character :: rest =>
      let next := columnAfter countsBytes column character
      let again := foldText width countsBytes atBlanks steps
      if character = '\n' then line.reverse ++ '\n' :: again [] 0 rest
      else if next ≤ width then again (character :: line) next rest
      else
        let word := line.takeWhile fun character => !isBlank character
        let kept := line.drop word.length
        if atBlanks && !kept.isEmpty then
          let column := word.reverse.foldl (columnAfter countsBytes) 0
          kept.reverse ++ '\n' :: again word column (character :: rest)
        else if line.isEmpty then again [character] next rest
        else line.reverse ++ '\n' :: again [] 0 (character :: rest)

def fold : Utility := fun given =>
  Grammar.run
    { name := "fold", flags := "bs", valued := "w", optional := "0123456789"
      long := [("bytes", 'b'), ("spaces", 's'), ("width", 'w')] } given fun arguments => do
      let mut width := 80
      for (letter, value) in arguments.options do
        let text := if letter.isDigit then letter :: value else value
        if letter = 'w' || letter.isDigit then
          match Quantity.read "" false text with
          | .ok 0 =>
              return ← fail "fold" ("invalid number of columns: ".toList ++ quote text ++
                ": Numerical result out of range".toList)
          | .ok number => width := number
          | .error fault => return ← refuseQuantity "fold" "invalid number of columns" text fault
      let limit := width
      filterTexts "fold" arguments.operands fun _ text =>
        print
          (foldText limit (arguments.has 'b') (arguments.has 's') (3 * text.length + 3) [] 0 text)

/-! ## Tabs -/

structure TabStops where
  stops : List Nat := []
  multiples : Option Nat := none
  distance : Option Nat := none

def TabStops.next? (tabs : TabStops) (column : Nat) : Option Nat :=
  let after := fun (size : Nat) (start : Nat) => column + (size - (column - start) % size)
  match tabs.stops, tabs.multiples, tabs.distance with
  | [], none, none => some (after 8 0)
  | [size], none, none => some (after size 0)
  | stops, multiples, distance =>
      match stops.find? (column < ·) with
      | some stop => some stop
      | none =>
          match multiples, distance with
          | some size, _ => some (after size 0)
          | none, some size => some (after size (stops.getLastD 0))
          | none, none => none

structure TabReading where
  tabs : TabStops := {}
  digits : Script := []
  mark : Option Char := none

namespace TabReading

def close (reading : TabReading) : Except Script TabReading :=
  let value := ofDigits 10 reading.digits
  let tabs := reading.tabs
  if reading.digits.isEmpty then .ok reading
  else
    match reading.mark with
    | some '/' =>
        if tabs.multiples.isSome then
          .error "'/' specifier only allowed with the last value".toList
        else .ok { reading with tabs := { tabs with multiples := some value }, digits := [] }
    | some _ =>
        if tabs.distance.isSome then
          .error "'+' specifier only allowed with the last value".toList
        else .ok { reading with tabs := { tabs with distance := some value }, digits := [] }
    | none =>
        .ok { reading with tabs := { tabs with stops := tabs.stops ++ [value] }, digits := [] }

def read (reading : TabReading) : Script → Except Script TabReading
  | [] => reading.close
  | character :: rest =>
      if character = ',' || isBlank character then do read (← reading.close) rest
      else if character = '/' || character = '+' then
        if reading.digits.isEmpty then read { reading with mark := some character } rest
        else
          .error ('\'' :: character :: "' specifier not at start of number: ".toList ++
            quote (character :: rest))
      else if character.isDigit then
        let digits := reading.digits ++ [character]
        if Quantity.greatest < ofDigits 10 digits then
          .error ("tab stop is too large ".toList ++ quote (digits ++ rest.takeWhile Char.isDigit))
        else read { reading with digits } rest
      else
        .error ("tab size contains invalid character(s): ".toList ++ quote (character :: rest))

end TabReading

def tabStops (lists : List Script) : Except Script TabStops := do
  let reading ← lists.foldlM (fun (reading : TabReading) list =>
    TabReading.read { tabs := reading.tabs } list) {}
  let stops := reading.tabs.stops
  if stops.contains 0 then .error "tab size cannot be 0".toList
  else if !(stops.zip (stops.drop 1)).all fun (first, second) => first < second then
    .error "tab sizes must be ascending".toList
  else if reading.tabs.multiples.isSome && reading.tabs.distance.isSome then
    .error "'/' specifier is mutually exclusive with '+'".toList
  else
    let positive := fun (size : Option Nat) => if size = some 0 then none else size
    return { reading.tabs with
      multiples := positive reading.tabs.multiples
      distance := positive reading.tabs.distance }

def tabLists (arguments : Arguments) : List Script :=
  arguments.options.filterMap fun (letter, value) =>
    if letter = 't' then some value
    else if letter.isDigit then some (letter :: value)
    else none

def expandTabs (tabs : TabStops) (everywhere : Bool) : Bool → Nat → Script → Script
  | _, _, [] => []
  | converts, column, character :: rest =>
      if character = '\n' then '\n' :: expandTabs tabs everywhere true 0 rest
      else if !converts then character :: expandTabs tabs everywhere false column rest
      else
        let goesOn := everywhere || isBlank character
        if character = '\t' then
          let next := (tabs.next? column).getD (column + 1)
          List.replicate (next - column) ' ' ++ expandTabs tabs everywhere goesOn next rest
        else
          let next := if character = '\x08' then column - 1 else column + 1
          character :: expandTabs tabs everywhere goesOn next rest

def expand : Utility := fun given =>
  Grammar.run
    { name := "expand", flags := "i", valued := "t", optional := "0123456789"
      long := [("tabs", 't'), ("initial", 'i')] } given fun arguments => do
      match tabStops (tabLists arguments) with
      | .error reason => fail "expand" reason
      | .ok tabs =>
          filterTexts "expand" arguments.operands fun _ text =>
            print (expandTabs tabs (!arguments.has 'i') true 0 text)

structure Unexpanding where
  converts : Bool := true
  column : Nat := 0
  blankBeforeStop : Bool := false
  afterBlank : Bool := true
  pending : Script := []

namespace Unexpanding

def flushed (state : Unexpanding) : Script :=
  if 1 < state.pending.length && state.blankBeforeStop then '\t' :: state.pending.drop 1
  else state.pending

def emit (everywhere isBlank : Bool) (state : Unexpanding) (character : Char) :
    Unexpanding × Script :=
  ({ state with
      converts := state.converts && (everywhere || isBlank)
      pending := []
      blankBeforeStop := if state.pending.isEmpty then state.blankBeforeStop else false
      afterBlank := isBlank },
    state.flushed ++ [character])

def step (tabs : TabStops) (everywhere : Bool) (state : Unexpanding) (character : Char) :
    Unexpanding × Script :=
  if !state.converts then (state, [character])
  else if isBlank character then
    match tabs.next? state.column with
    | none => emit everywhere true { state with converts := false } character
    | some next =>
        if character = '\t' then
          let pending := if state.pending.isEmpty then [] else '\t' :: state.pending.drop 1
          let kept := if state.blankBeforeStop then pending.take 1 else []
          emit everywhere true { state with column := next, pending := kept } character
        else
          let column := state.column + 1
          if state.afterBlank && column = next then
            let pending := if state.pending.isEmpty then ['\t'] else '\t' :: state.pending.drop 1
            let kept := if state.blankBeforeStop then pending.take 1 else []
            emit everywhere true { state with column, pending := kept } '\t'
          else
            ({ state with
                column
                blankBeforeStop := state.blankBeforeStop || column = next
                pending := state.pending ++ [character]
                afterBlank := true }, [])
  else
    let column := if character = '\x08' then state.column - 1 else state.column + 1
    emit everywhere false { state with column } character

end Unexpanding

def unexpandLine (tabs : TabStops) (everywhere : Bool) (line : Script) : Script :=
  let (state, shown) := line.foldl (fun (state, shown) character =>
    let (next, more) := Unexpanding.step tabs everywhere state character
    (next, more.reverse ++ shown)) (({} : Unexpanding), ([] : Script))
  shown.reverse ++ state.flushed

def unexpand : Utility := fun given =>
  Grammar.run
    { name := "unexpand", flags := "aφ", valued := "t", optional := "0123456789"
      long := [("tabs", 't'), ("all", 'a'), ("first-only", 'φ')] } given fun arguments => do
      match tabStops (tabLists arguments) with
      | .error reason => fail "unexpand" reason
      | .ok tabs =>
          let everywhere := (arguments.has 'a' || arguments.has 't') && !arguments.has 'φ'
          filterTexts "unexpand" arguments.operands fun _ text =>
            print ((lines text).flatMap (unexpandLine tabs everywhere))

end SchemaBuild.Shell.Utility
