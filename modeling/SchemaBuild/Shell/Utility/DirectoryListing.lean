import SchemaBuild.Shell.Utility.FileFacts
import SchemaBuild.Shell.Utility.Quantity
import SchemaBuild.Shell.Version

/-!
# Listing directories

The utilities that show what is in directories: one name a line, in columns, or with all that is
known of each
file. -/

namespace SchemaBuild.Shell.Utility

namespace Listing

/-! ## Choices -/

inductive Shape where
  | single
  | long
  | columns
  | across
  | commas
  deriving DecidableEq

inductive Order where
  | name
  | size
  | time
  | extension
  | version
  | width
  | unsorted
  deriving DecidableEq

inductive Marks where
  | none
  | slash
  | kinds
  | all
  deriving DecidableEq

inductive Quoting where
  | literal
  | shell
  | shellAlways
  | shellEscape
  | shellEscapeAlways
  | text
  | textMaybe
  | escape
  | locale
  deriving DecidableEq

inductive Hidden where
  | dots
  | almostNone
  | none
  deriving DecidableEq

inductive Following where
  | never
  | directories
  | operands
  | always
  deriving DecidableEq

inductive Unit where
  | blocks (size : Nat) (letter : Script)
  | readable (base : Nat)

structure Showing where
  shape : Shape := .single
  order : Order := .name
  isReversed : Bool := false
  marks : Marks := .none
  quoting : Quoting := .literal
  masks : Bool := false
  hidden : Hidden := .dots
  ignored : List Script := []
  hides : List Script := []
  asFiles : Bool := false
  isRecursive : Bool := false
  following : Option Following := .none
  directoriesFirst : Bool := false
  showsOwner : Bool := true
  showsGroup : Bool := true
  showsAuthor : Bool := false
  isNumeric : Bool := false
  showsBlocks : Bool := false
  showsNumber : Bool := false
  sizeUnit : Unit := .blocks 1 []
  blockUnit : Unit := .blocks 1024 []
  timeStyle : Option Script := .none
  width : Nat := 80
  tab : Nat := 8
  ending : Char := '\n'

/-! ## Entries -/

structure Entry where
  name : Script
  node : Node
  goal : Option Node := none
  isLost : Bool := false

def Entry.isDirectory (entry : Entry) : Bool :=
  entry.node.isDirectory || entry.goal.any Node.isDirectory

def escapedText (special : List Char) (name : Script) : Script :=
  name.flatMap fun character =>
    if special.contains character || character = '\\' then ['\\', character]
    else if Quotation.isPrintable character then [character]
    else '\\' :: Quotation.escaped character

def needsText (name : Script) : Bool :=
  name.any fun character => character = '"' || !Quotation.isPrintable character

def shellText (isAlways : Bool) (name : Script) : Script :=
  let plain := name.map fun character => if Quotation.isPrintable character then character else ' '
  let isBare := name.map fun character => if 128 ≤ character.toNat then 'a' else character
  if !isAlways && Quotation.ifNeeded isBare = isBare then name
  else
    let quoted := Quotation.always plain
    if quoted.head? = some '"' then '"' :: name ++ ['"']
    else
      '\'' :: (name.flatMap fun character =>
        if character = '\'' then ['\'', '\\', '\'', '\''] else [character]) ++ ['\'']

def quoted (showing : Showing) (name : Script) : Script :=
  let shown := match showing.quoting with
    | .literal => name
    | .shell => shellText false name
    | .shellAlways => shellText true name
    | .shellEscape => Quotation.ifNeeded name
    | .shellEscapeAlways => Quotation.always name
    | .text => '"' :: escapedText ['"'] name ++ ['"']
    | .textMaybe => if needsText name then '"' :: escapedText ['"'] name ++ ['"'] else name
    | .escape => escapedText [' '] name
    | .locale => '\'' :: escapedText ['\''] name ++ ['\'']
  if showing.masks then
    shown.map fun character => if Quotation.isPrintable character then character else '?'
  else shown

def alignsQuotes (showing : Showing) : Bool :=
  [Quoting.shell, .shellEscape, .textMaybe].contains showing.quoting &&
    match showing.shape with
    | .long => true
    | .columns => showing.width ≠ 0
    | .across => showing.width ≠ 0
    | _ => false

def markOf (files : FileSystem) (marks : Marks) (node : Node) : Script :=
  match marks, node with
  | .none, _ => []
  | _, .directory _ => ['/']
  | .slash, _ => []
  | _, .link _ => ['@']
  | .all, .file id => if (files.storedAt id).executable then ['*'] else []
  | _, _ => []

/-! ## Sizes -/

def readableSize (base bytes : Nat) : Script :=
  let letters := (if base = 1000 then "kMGTPE" else "KMGTPE").toList
  let rec go : List Char → Nat → Script
    | [], _ => (toString bytes).toList
    | letter :: letters, unit =>
        let tenths := (bytes * 10 + unit - 1) / unit
        let whole := (bytes + unit - 1) / unit
        if tenths < 100 then
          (toString (tenths / 10)).toList ++ '.' :: (toString (tenths % 10)).toList ++ [letter]
        else if whole < base || letters.isEmpty then (toString whole).toList ++ [letter]
        else go letters (unit * base)
  if bytes < base then (toString bytes).toList else go letters base

example : readableSize 1024 5000 = "4.9K".toList := by decide +kernel
example : readableSize 1024 10240 = "10K".toList := by decide +kernel
example : readableSize 1000 5000 = "5.0k".toList := by decide +kernel

def Unit.text (unit : Unit) (bytes : Nat) : Script :=
  match unit with
  | .blocks size letter => (toString ((bytes + size - 1) / size)).toList ++ letter
  | .readable base => readableSize base bytes

/-! ## Lines -/

def timeText (style : Option Script) (time : Int) : Script :=
  let isRecent := presentTime - 31556952 / 2 < time && time ≤ presentTime
  let format : Script := match style.map String.ofList with
    | some "full-iso" => "%Y-%m-%d %H:%M:%S.%N %z".toList
    | some "long-iso" => "%Y-%m-%d %H:%M".toList
    | some "iso" => (if isRecent then "%m-%d %H:%M" else "%Y-%m-%d ").toList
    | some text =>
        match text.toList with
        | '+' :: format =>
            -- A second line is for files that are not old.
            let first := format.takeWhile (· ≠ '\n')
            match format.drop first.length with
            | _ :: second => if isRecent then second else first
            | [] => first
        | _ => (if isRecent then "%b %e %H:%M" else "%b %e  %Y").toList
    | none => (if isRecent then "%b %e %H:%M" else "%b %e  %Y").toList
  Calendar.formatted { seconds := time } format

def sizeText (files : FileSystem) (showing : Showing) (entry : Entry) : Script :=
  match entry.node with
  | .device device =>
      let (high, low) := deviceNumbers (.device device)
      (toString high).toList ++ ", ".toList ++ (toString low).toList
  | node => showing.sizeUnit.text (factsOf files node).2.1

def blocksText (files : FileSystem) (showing : Showing) (entry : Entry) : Script :=
  if entry.isLost then ['?'] else showing.blockUnit.text (blockCount files entry.node * 512)

def numberText (entry : Entry) : Script :=
  match entry.node with
  | .file id => (toString (id + 1)).toList
  | _ => ['0']

def widthOf (texts : List Script) : Nat :=
  texts.foldl (fun width text => max width text.length) 0

def frills (files : FileSystem) (showing : Showing) (entries : List Entry) (entry : Entry)
    (isAligned : Bool) : Script :=
  let padded := fun (text : Entry → Script) =>
    padLeft (if isAligned then widthOf (entries.map text) else 0) (text entry) ++ [' ']
  (if showing.showsNumber then padded numberText else []) ++
    if showing.showsBlocks then padded (blocksText files showing) else []

def shownName (files : FileSystem) (showing : Showing) (entries : List Entry) (entry : Entry) :
    Script :=
  let name := quoted showing entry.name
  let isQuoted := fun (entry : Entry) => quoted showing entry.name ≠ entry.name
  let set := alignsQuotes showing && entries.any isQuoted && !isQuoted entry
  (if set then [' '] else []) ++ name ++
    match showing.shape, entry.node with
    | .long, .link _ => []
    | _, node => markOf files showing.marks node

def longLine (files : FileSystem) (showing : Showing) (entries : List Entry) (entry : Entry) :
    Script :=
  let (permissions, _, time) := factsOf files entry.node
  let column := fun (text : Entry → Script) => padLeft (widthOf (entries.map text)) (text entry)
  let links := fun (entry : Entry) =>
    if entry.isLost then ['?'] else (toString (linkCount files entry.node)).toList
  let user := if entry.isLost then ['?'] else if showing.isNumeric then ['0'] else "root".toList
  let size := fun (entry : Entry) => if entry.isLost then ['?'] else sizeText files showing entry
  let mode := if entry.isLost then "l?????????".toList
    else kindLetter entry.node :: permissionText permissions
  let target := match entry.node with
    | .link target =>
        if entry.isLost then []
        else " -> ".toList ++ quoted showing (Bytes.toLatin target) ++
          match entry.goal with
          | some goal => markOf files showing.marks goal
          | none => []
    | _ => []
  let time := if entry.isLost then "           ?".toList else timeText showing.timeStyle time
  frills files showing entries entry true ++ mode ++ ' ' :: column links ++ [' '] ++
    (if showing.showsOwner then user ++ [' '] else []) ++
    (if showing.showsGroup then user ++ [' '] else []) ++
    (if showing.showsAuthor then user ++ [' '] else []) ++
    column size ++ ' ' :: time ++ ' ' :: shownName files showing entries entry ++ target

/-! ## Columns -/

def indent (tab : Nat) : Nat → Nat → Nat → Script
  | 0, _, _ => []
  | steps + 1, start, stop =>
      if stop ≤ start then []
      else if tab ≠ 0 && (start + 1) / tab < stop / tab then
        '\t' :: indent tab steps (start + tab - start % tab) stop
      else ' ' :: indent tab steps (start + 1) stop

def leastColumn : Nat := 3

def columnWidths (isAcross : Bool) (widths : List Nat) (count : Nat) : List Nat :=
  let rows := (widths.length + count - 1) / count
  let placed := widths.zipIdx.map fun (width, place) =>
    let column := if isAcross then place % count else place / rows
    (column, width + if column + 1 = count then 0 else 2)
  (List.range count).map fun column =>
    placed.foldl (fun width entry => if entry.1 = column then max width entry.2 else width)
      leastColumn

def fittingWidths (isAcross : Bool) (limit : Nat) (widths : List Nat) : Nat → List Nat
  | 0 => columnWidths isAcross widths 1
  | 1 => columnWidths isAcross widths 1
  | count + 1 =>
      let columns := columnWidths isAcross widths (count + 1)
      if columns.sum < limit then columns else fittingWidths isAcross limit widths count

def row (tab : Nat) : Nat → List Nat → List (Script × Nat) → Script
  | _, _, [] => []
  | _, _, [(text, _)] => text
  | start, width :: widths, (text, shown) :: rest =>
      text ++ indent tab (width + 1) (start + shown) (start + width) ++
        row tab (start + width) widths rest
  | start, [], (text, _) :: rest => text ++ row tab start [] rest

def seenWidth (text : Script) : Nat :=
  (text.filter Quotation.isPrintable).length

def inColumns (showing : Showing) (isAcross : Bool) (texts : List Script) : List Script :=
  let limit := (showing.width + leastColumn - 1) / leastColumn
  let widths := texts.map seenWidth
  let columns := fittingWidths isAcross showing.width widths (min texts.length (max 1 limit))
  let count := columns.length
  let rows := (texts.length + count - 1) / count
  let placed := (texts.zip widths).zipIdx
  (List.range rows).map fun index =>
    row showing.tab 0 columns ((placed.filter fun entry =>
      if isAcross then entry.2 / count = index else entry.2 % rows = index).map (·.1))

def separated (separator : Char) (showing : Showing) (texts : List Script) : Script :=
  let (shown, _) := texts.foldl (fun ((shown, place) : Script × Nat) text =>
    let width := seenWidth text
    if shown.isEmpty && place = 0 then (text, width)
    else if showing.width = 0 || place + width + 2 < showing.width then
      (shown ++ separator :: ' ' :: text, place + 2 + width)
    else (shown ++ separator :: showing.ending :: text, width)) ([], 0)
  shown ++ [showing.ending]

/-! ## Listings -/

def compareEntries (files : FileSystem) (order : Order) (left right : Entry) : Ordering :=
  let facts := fun (entry : Entry) => factsOf files entry.node
  let names := compareOfLessAndEq left.name right.name
  let ending := fun (entry : Entry) =>
    if entry.name.contains '.' then '.' :: (entry.name.reverse.takeWhile (· ≠ '.')).reverse else []
  match order with
  | .name => names
  | .size => (compare (facts right).2.1 (facts left).2.1).then names
  | .time => (compare (facts right).2.2 (facts left).2.2).then names
  | .extension => (compareOfLessAndEq (ending left) (ending right)).then names
  | .version => (Version.compareNames left.name right.name).then names
  | .width => (compare (seenWidth left.name) (seenWidth right.name)).then names
  | .unsorted => .eq

def ordered (files : FileSystem) (showing : Showing) (entries : List Entry) : List Entry :=
  let sorted := entries.mergeSort fun left right =>
    compareEntries files showing.order left right ≠ .gt
  let sorted := if showing.isReversed && showing.order ≠ .unsorted then sorted.reverse else sorted
  if showing.directoriesFirst then
    sorted.filter Entry.isDirectory ++ sorted.filter fun entry => !entry.isDirectory
  else sorted

def entriesText (files : FileSystem) (showing : Showing) (entries : List Entry) : Script :=
  let entries := ordered files showing entries
  let cell := fun (isAligned : Bool) (entry : Entry) =>
    frills files showing entries entry isAligned ++ shownName files showing entries entry
  let lines := fun (texts : List Script) => texts.flatMap (· ++ [showing.ending])
  if entries.isEmpty then []
  else
    match showing.shape with
    | .long => lines (entries.map (longLine files showing entries))
    | .single => lines (entries.map (cell true))
    | .commas => separated ',' showing (entries.map (cell false))
    | .columns =>
        if showing.width = 0 then separated ' ' showing (entries.map (cell false))
        else lines (inColumns showing false (entries.map (cell true)))
    | .across =>
        if showing.width = 0 then separated ' ' showing (entries.map (cell false))
        else lines (inColumns showing true (entries.map (cell true)))

def isLeftOut (showing : Showing) (name : Script) : Bool :=
  let accepts := fun (pattern : Script) =>
    (name.head? ≠ some '.' || pattern.head? = some '.') && (Pattern.ofText pattern).accepts name
  (showing.hidden = .dots && name.head? = some '.') || showing.ignored.any accepts ||
    showing.hidden = .dots && showing.hides.any accepts

def needsFacts (showing : Showing) : Bool :=
  showing.shape = .long || showing.showsBlocks || showing.order = .size || showing.order = .time

def entryAt (files : FileSystem) (showing : Showing) (path : Script) (name : Script) (node : Node) :
    Entry × Bool :=
  match node with
  | .link _ =>
      let goal := match files.locate true (Bytes.ofLatin path) with
        | .ok (.node _ goal) => some goal
        | _ => none
      if showing.following = some .always then
        match goal with
        | some goal => ({ name, node := goal }, false)
        | none => ({ name, node, isLost := needsFacts showing }, needsFacts showing)
      else ({ name, node, goal }, false)
  | node => ({ name, node }, false)

def entriesOf (files : FileSystem) (showing : Showing) (path : Script) (location : Location)
    (directory : Directory) : List Entry × List Script :=
  let named := directory.toList.map fun entry => (Bytes.toLatin entry.1, entry.2)
  let found := (named.filter fun entry => !isLeftOut showing entry.1).map fun (name, node) =>
    let inner := below path name
    (inner, entryAt files showing inner name node)
  let above := match files.node? location.dropLast with
    | some node => node
    | none => .directory directory
  let dots : List Entry := if showing.hidden = .none then
      [{ name := ['.'], node := .directory directory }, { name := ['.', '.'], node := above }]
    else []
  (dots ++ found.map (·.2.1), (found.filter (·.2.2)).map (·.1))

def depthLimit : Nat := 1000

def directoriesWithin (files : FileSystem) (showing : Showing) :
    Nat → Script → Location → Directory → List (Script × Location × Directory)
  | 0, _, _, _ => []
  | depth + 1, path, location, directory =>
      (path, location, directory) :: if !showing.isRecursive then [] else
        let plain := { showing with hidden := if showing.hidden = .none then .almostNone
          else showing.hidden }
        let (entries, _) := entriesOf files plain path location directory
        (ordered files showing entries).flatMap fun entry =>
          match entry.node with
          | .directory inner =>
              directoriesWithin files showing depth (below path entry.name)
                (location ++ [Bytes.ofLatin entry.name]) inner
          | _ => []

inductive Operand where
  | file (entry : Entry)
  | directory (path : Script) (location : Location) (entries : Directory)

def operandAt (showing : Showing) (path : Script) : Running (Except FileError Operand) := do
  let files := (← get).files
  let following := showing.following.getD
    (if showing.asFiles || showing.marks = .all || showing.shape = .long then .never
      else .directories)
  let place := Bytes.ofLatin path
  let entry := fun (location : Location) (node : Node) =>
    match node with
    | .directory entries =>
        if showing.asFiles then
          Operand.file { name := path, node := .directory entries }
        else .directory path location entries
    | node => .file (entryAt files { showing with following := none } path path node).1
  let direct := files.locate false place
  let found := match following with
    | .never => direct
    | .directories =>
        match files.locate true place with
        | .ok (.node location (.directory entries)) => .ok (.node location (.directory entries))
        | _ => direct
    | _ => files.locate true place
  match found with
  | .ok (.node location node) => return .ok (entry location node)
  | .ok (.vacant _ _) => return .error .notFound
  | .error error => return .error error

/-! ## Options -/

def shapes : List (Shape × List String) :=
  [(.long, ["verbose", "long"]), (.commas, ["commas"]), (.across, ["horizontal", "across"]),
    (.columns, ["vertical"]), (.single, ["single-column"])]

def orders : List (Order × List String) :=
  [(.unsorted, ["none"]), (.time, ["time"]), (.size, ["size"]), (.extension, ["extension"]),
    (.version, ["version"]), (.width, ["width"])]

def times : List (Nat × List String) :=
  [(0, ["atime", "access", "use"]), (1, ["ctime", "status"]), (2, ["mtime", "modification"]),
    (3, ["birth", "creation"])]

def markStyles : List (Marks × List String) :=
  [(.none, ["none"]), (.slash, ["slash"]), (.kinds, ["file-type"]), (.all, ["classify"])]

def quotings : List (Quoting × List String) :=
  [(.literal, ["literal"]), (.shell, ["shell"]), (.shellAlways, ["shell-always"]),
    (.shellEscape, ["shell-escape"]), (.shellEscapeAlways, ["shell-escape-always"]),
    (.text, ["c"]), (.textMaybe, ["c-maybe"]), (.escape, ["escape"]), (.locale, ["locale"]),
    (.text, ["clocale"])]

def occasions : List (Bool × List String) :=
  [(true, ["always", "yes", "force"]), (false, ["never", "no", "none"]),
    (false, ["auto", "tty", "if-tty"])]

def choose {α : Type} (name option : String) (choices : List (α × List String)) (word : Script) :
    Running (Except Nat α) := do
  match choice? choices word with
  | some chosen => return .ok chosen
  | none =>
      return .error (← refuseChoice name option choices word)

def unit? (text : Script) : Except QuantityFault Unit :=
  match String.ofList text with
  | "human-readable" => .ok (.readable 1024)
  | "si" => .ok (.readable 1000)
  | _ =>
      (Quantity.read "KkMGTPEZY" false text).bind fun size =>
        if size = 0 then .error .invalid
        else .ok (.blocks size (if (text.head?).any Char.isDigit then [] else text))

def numberIn (name what : String) (text : Script) : Running (Except Nat Nat) := do
  match Quantity.read "" true text with
  | .ok number => return .ok number
  | .error .tooLarge => return .ok 0
  | .error _ =>
      discard (fail name (what.toList ++ ": ".toList ++ quote text))
      return .error 2

def put (name : String) (showing : Showing) (letter : Char) (value : Script) :
    Running (Except Nat Showing) := do
  let set := fun (changed : Showing) => return Except.ok changed
  match letter with
  | 'a' => set { showing with hidden := .none }
  | 'A' => set { showing with hidden := .almostNone }
  | 'b' => set { showing with quoting := .escape }
  | 'B' => set { showing with ignored := "*~".toList :: ".*~".toList :: showing.ignored }
  | 'C' => set { showing with shape := .columns }
  | 'd' => set { showing with asFiles := true }
  | 'f' =>
      set { showing with
        hidden := .none
        order := .unsorted
        shape := if showing.shape = .long then .single else showing.shape
        showsBlocks := false }
  | 'F' => set { showing with marks := .all }
  | 'λ' =>
      if value.isEmpty then set { showing with marks := .all }
      else
        match ← choose name "--classify" occasions value with
        | .ok isOn => set { showing with marks := if isOn then .all else showing.marks }
        | .error status => return .error status
  | 'κ' => set { showing with marks := .kinds }
  | 'g' => set { showing with shape := .long, showsOwner := false }
  | 'G' => set { showing with showsGroup := false }
  | 'h' => set { showing with sizeUnit := .readable 1024, blockUnit := .readable 1024 }
  | 'σ' => set { showing with sizeUnit := .readable 1000, blockUnit := .readable 1000 }
  | 'H' => set { showing with following := some .operands }
  | 'δ' => set { showing with following := some .directories }
  | 'i' => set { showing with showsNumber := true }
  | 'I' => set { showing with ignored := value :: showing.ignored }
  | 'η' => set { showing with hides := value :: showing.hides }
  | 'k' => set showing
  | 'l' => set { showing with shape := .long }
  | 'L' => set { showing with following := some .always }
  | 'm' => set { showing with shape := .commas }
  | 'n' => set { showing with shape := .long, isNumeric := true }
  | 'N' => set { showing with quoting := .literal }
  | 'o' => set { showing with shape := .long, showsGroup := false }
  | 'p' => set { showing with marks := .slash }
  | 'q' => set { showing with masks := true }
  | 'ζ' => set { showing with masks := false }
  | 'Q' => set { showing with quoting := .text }
  | 'r' => set { showing with isReversed := true }
  | 'R' => set { showing with isRecursive := true }
  | 's' => set { showing with showsBlocks := true }
  | 'S' => set { showing with order := .size }
  | 't' => set { showing with order := .time }
  | 'U' => set { showing with order := .unsorted }
  | 'v' => set { showing with order := .version }
  | 'X' => set { showing with order := .extension }
  | 'x' => set { showing with shape := .across }
  | '1' => set { showing with shape := if showing.shape = .long then .long else .single }
  | 'φ' => set { showing with shape := .long, timeStyle := some "full-iso".toList }
  | 'γ' => set { showing with directoriesFirst := true }
  | 'α' => set { showing with showsAuthor := true }
  | '0' =>
      set { showing with
        ending := Char.ofNat 0
        quoting := .literal
        masks := false
        shape := if showing.shape = .long then .long else .single }
  | 'w' =>
      return (← numberIn name "invalid line width" value).map fun width => { showing with width }
  | 'T' => return (← numberIn name "invalid tab size" value).map fun tab => { showing with tab }
  | 'μ' =>
      return (← choose name "--format" shapes value).map fun shape => { showing with shape }
  | 'ο' => return (← choose name "--sort" orders value).map fun order => { showing with order }
  | 'τ' => return (← choose name "--time" times value).map fun _ => showing
  | 'ι' =>
      return (← choose name "--indicator-style" markStyles value).map fun marks =>
        { showing with marks }
  | 'θ' =>
      return (← choose name "--quoting-style" quotings value).map fun quoting =>
        { showing with quoting }
  | 'χ' =>
      if value.isEmpty then set showing
      else return (← choose name "--color" occasions value).map fun _ => showing
  | 'υ' =>
      if value.isEmpty then set showing
      else return (← choose name "--hyperlink" occasions value).map fun _ => showing
  | 'ψ' => set { showing with timeStyle := some value }
  | 'β' =>
      match unit? value with
      | .ok unit => set { showing with sizeUnit := unit, blockUnit := unit }
      | .error fault =>
          discard (refuseOption name "--block-size" value fault)
          return .error 2
  | _ => set showing

def putAll (name : String) : Showing → List (Char × Script) → Running (Except Nat Showing)
  | showing, [] => return .ok showing
  | showing, (letter, value) :: rest => do
      match ← put name showing letter value with
      | .ok showing => putAll name showing rest
      | .error status => return .error status

def plainStyle (style : Script) : Option Script :=
  let mark := "posix-".toList
  if mark.isPrefixOf style then none else some style

def checkStyle (name : String) (showing : Showing) : Running (Except Nat Showing) := do
  match showing.shape, showing.timeStyle with
  | .long, some style =>
      let known := ["full-iso", "long-iso", "iso", "locale"].map String.toList
      match plainStyle style with
      | none => return .ok { showing with timeStyle := none }
      | some style =>
          match decide (style.head? = some '+'), known.filter fun word => style.isPrefixOf word with
          | true, _ => return .ok showing
          | false, [word] => return .ok { showing with timeStyle := some word }
          | false, words =>
              if words.contains style then return .ok showing
              discard (fail name ("invalid argument ".toList ++ quote style ++
                " for 'time style'".toList))
              complain "Valid arguments are:".toList
              for word in ["full-iso", "long-iso", "iso", "locale"] do
                complain ("  - [posix-]" ++ word).toList
              complain "  - +FORMAT (e.g., +%H:%M) for a 'date'-style format".toList
              pointToHelp name
              return .error 2
  | _, _ => return .ok showing

def widthFrom (name : String) (showing : Showing) (isGiven : Bool) : Running Showing := do
  let isWide := [Shape.columns, .across, .commas].contains showing.shape
  match valueOf? "COLUMNS".toList (← environment).exports with
  | some text =>
      if isGiven || !isWide || text.isEmpty then return showing
      match Quantity.read "" true text with
      | .ok width => return { showing with width }
      | .error .tooLarge => return { showing with width := 0 }
      | .error _ =>
          discard (fail name ("ignoring invalid width in environment variable COLUMNS: ".toList ++
            quote text))
          return showing
  | none => return showing

def grammar (name : String) : Grammar :=
  { name := name, flags := "abcdfghiklmnopqrstuvxABCDFGHLNQRSUXZ10κσδζφγα"
    valued := "wITημοτιθψβ", optional := "χυλ", failure := 2
    long := [("all", 'a'), ("escape", 'b'), ("directory", 'd'), ("dired", 'D'), ("full-time", 'φ'),
      ("group-directories-first", 'γ'), ("human-readable", 'h'), ("inode", 'i'),
      ("kibibytes", 'k'), ("numeric-uid-gid", 'n'), ("no-group", 'G'), ("hide-control-chars", 'q'),
      ("reverse", 'r'), ("size", 's'), ("width", 'w'), ("almost-all", 'A'), ("ignore-backups", 'B'),
      ("classify", 'λ'), ("file-type", 'κ'), ("si", 'σ'),
      ("dereference-command-line", 'H'), ("dereference-command-line-symlink-to-dir", 'δ'),
      ("hide", 'η'), ("ignore", 'I'), ("indicator-style", 'ι'), ("dereference", 'L'),
      ("literal", 'N'), ("quote-name", 'Q'), ("quoting-style", 'θ'), ("recursive", 'R'),
      ("format", 'μ'), ("show-control-chars", 'ζ'), ("sort", 'ο'), ("tabsize", 'T'),
      ("time", 'τ'), ("time-style", 'ψ'), ("zero", '0'), ("color", 'χ'), ("hyperlink", 'υ'),
      ("block-size", 'β'), ("context", 'Z'), ("author", 'α')] }

def totalText (files : FileSystem) (showing : Showing) (entries : List Entry) : Script :=
  if showing.shape = .long || showing.showsBlocks then
    let blocks := entries.foldl (fun blocks entry =>
      if entry.isLost then blocks else blocks + blockCount files entry.node) 0
    "total ".toList ++ showing.blockUnit.text (blocks * 512) ++ [showing.ending]
  else []

def list (name : String) (showing : Showing) (operands : List Script) : Running Nat := do
  let isTitled := 1 < operands.length || showing.isRecursive
  let operands := if operands.isEmpty then [['.']] else operands
  let mut status := 0
  let mut entries : List Entry := []
  let mut directories : List (Entry × Location × Directory) := []
  for path in operands do
    match ← operandAt showing path with
    | .error error =>
        discard (failAt name "cannot access " path error)
        status := 2
    | .ok (.file entry) => entries := entries ++ [entry]
    | .ok (.directory path location inner) =>
        directories :=
          directories ++ [({ name := path, node := .directory inner }, location, inner)]
  let files := (← get).files
  print (entriesText files showing entries)
  let tops := (ordered files { showing with directoriesFirst := false }
      (directories.map (·.1))).filterMap fun top =>
    directories.find? fun entry => entry.1.name = top.name
  let all := tops.flatMap fun (top, location, inner) =>
    directoriesWithin files showing depthLimit top.name location inner
  for ((path, location, inner), index) in all.zipIdx do
    if 0 < index || !entries.isEmpty then print [showing.ending]
    if isTitled then print (quoted showing path ++ ':' :: [showing.ending])
    let (shown, lost) := entriesOf files showing path location inner
    for path in lost do
      discard (failAt name "cannot access " path .notFound)
      status := max status 1
    print (totalText files showing shown)
    print (entriesText files showing shown)
  return status

end Listing

def listing (name : String) (usual : Listing.Showing) : Utility := fun given =>
  (Listing.grammar name).run given fun arguments => do
    let style := valueOf? "TIME_STYLE".toList (← environment).exports
    match ← Listing.putAll name { usual with timeStyle := style } arguments.options with
    | .error status => return status
    | .ok showing =>
        match ← Listing.checkStyle name showing with
        | .error status => return status
        | .ok showing =>
            let showing ← Listing.widthFrom name showing (arguments.has 'w')
            Listing.list name showing arguments.operands

def ls : Utility := listing "ls" {}

def dir : Utility := listing "dir" { shape := .columns, quoting := .escape }

def vdir : Utility := listing "vdir" { shape := .long, quoting := .escape }

end SchemaBuild.Shell.Utility
