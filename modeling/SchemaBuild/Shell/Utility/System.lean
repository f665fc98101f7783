import SchemaBuild.Shell.Builtin.Control
import SchemaBuild.Shell.Builtin.Input
import SchemaBuild.Shell.Utility.Directories

/-!
# The system

Utilities that tell about the system and its user, and that make files of a kind.
-/

namespace SchemaBuild.Shell.Utility

/-! ## Facts -/

def uname : Utility := fun given =>
  Grammar.run
    { name := "uname", flags := "asnrvmpio"
      long := [("all", 'a'), ("kernel-name", 's'), ("machine", 'm')] } given fun arguments => do
      match arguments.operands with
      | extra :: _ => return ← failUsage "uname" ("extra operand ".toList ++ quote extra)
      | [] => pure ()
      let facts := [('s', "Linux"), ('n', "localhost"), ('r', "6.1.0"), ('v', "#1 SMP"),
        ('m', "x86_64"), ('o', "GNU/Linux")]
      let isPlain := arguments.options.isEmpty
      let shown := facts.filter fun (letter, _) =>
        arguments.has 'a' || arguments.has letter || isPlain && letter = 's'
      printLine (" ".intercalate (shown.map (·.2))).toList
      return 0

def telling (name text : String) : Utility := fun given =>
  Grammar.run { name := name } given fun arguments => do
    match arguments.operands with
    | extra :: _ => failUsage name ("extra operand ".toList ++ quote extra)
    | [] =>
        printLine text.toList
        return 0

def pwd : Utility := fun given =>
  Grammar.run { name := "pwd", flags := "LP", long := [("logical", 'L'), ("physical", 'P')] } given
    fun arguments => do
      unless arguments.operands.isEmpty do
        discard (fail "pwd" "ignoring non-option arguments".toList)
      Builtin.pwd (arguments.options.map fun option => ['-', option.1])

def kill : Utility := fun given => do
  let isSignal := fun (word : Script) => word.head? = some '-' && 1 < word.length
  match given.find? fun word => !isSignal word && (number? word).isNone with
  | some word =>
      if given.any isSignal then Builtin.kill given
      else fail "kill" ("failed to parse argument: ".toList ++ quote word)
  | none => Builtin.kill given

def sync : Utility := fun given =>
  Grammar.run { name := "sync", flags := "df", long := [("data", 'd'), ("file-system", 'f')] } given
    fun arguments =>
      forEachOperand arguments.operands fun path => do
        match ← nodeAt? true path with
        | .ok _ => return 0
        | .error error => failAt "sync" "error opening " path error

def id : Utility := fun given =>
  Grammar.run
    { name := "id", flags := "ugGnrz"
      long := [("user", 'u'), ("group", 'g'), ("groups", 'G'), ("name", 'n'), ("real", 'r')] } given
    fun arguments => do
      let operands := if arguments.operands.isEmpty then ["root".toList] else arguments.operands
      forEachOperand operands fun user => do
        if user = "root".toList || user = ['0'] then
          printLine (if (arguments.lastOf? "ugG").isSome then
              (if arguments.has 'n' then "root" else "0")
            else "uid=0(root) gid=0(root) groups=0(root)").toList
          return 0
        else fail "id" (quote user ++ ": no such user".toList)

def groups : Utility := fun given => do
  if given.isEmpty then
    printLine "root".toList
    return 0
  forEachOperand given fun user => do
    if user = "root".toList then
      printLine "root : root".toList
      return 0
    else fail "groups" (quote user ++ ": no such user".toList)

def logname : Utility := fun _ =>
  fail "logname" "no login name".toList

def tty : Utility := fun given =>
  Grammar.run { name := "tty", flags := "s", long := [("silent", 's'), ("quiet", 's')], failure := 2 }
    given fun arguments => do
      match arguments.operands with
      | extra :: _ =>
          discard (failUsage "tty" ("extra operand ".toList ++ quote extra))
          return 2
      | [] =>
          unless arguments.has 's' do printLine "not a tty".toList
          return 1

/-! ## Making files -/

def nameLetters : Nat → Nat → Script
  | 0, _ => []
  | count + 1, number =>
      Char.ofNat ('a'.toNat + number % 26) :: nameLetters count (number / 26 * 7 + number + 11)

def mktemp : Utility := fun given =>
  Grammar.run
    { name := "mktemp", flags := "duqt", valued := "p"
      long := [("directory", 'd'), ("dry-run", 'u'), ("quiet", 'q'), ("tmpdir", 'p')] } given
    fun arguments => do
      if 1 < arguments.operands.length then
        return ← failUsage "mktemp" "too many templates".toList
      let template := arguments.operands.headD "tmp.XXXXXXXXXX".toList
      let marks := (template.reverse.takeWhile (· = 'X')).length
      if marks < 3 then
        return ← fail "mktemp" ("too few X's in template ".toList ++ quote template)
      let state ← get
      let letters := nameLetters marks (state.nextProcess * 31 + state.opened.size)
      let name := template.take (template.length - marks) ++ letters
      let directory := (state.environment.value? "TMPDIR".toList).getD "/tmp".toList
      let path := match arguments.value? 'p' with
        | some directory => below directory name
        | none =>
            if arguments.operands.isEmpty || arguments.has 't' then below directory name else name
      let result ← if arguments.has 'u' then pure (Except.ok ())
        else if arguments.has 'd' then tryDirectory 0o700 path
        else replaceFile path []
      if result matches .ok () then
        discard (changeFiles fun files => files.changePermissions (Bytes.ofLatin path) fun mode =>
          mode &&& 0o700)
      match result with
      | .ok () =>
          printLine path
          return 0
      | .error error =>
          let kind := if arguments.has 'd' then "directory" else "file"
          failAt "mktemp" ("failed to create " ++ kind ++ " via template ") template error

def size? (text : Script) : Option Nat :=
  let digits := text.takeWhile Char.isDigit
  let unit := match String.ofList (text.drop digits.length) with
    | "" => some 1
    | "K" => some 1024
    | "k" => some 1024
    | "KB" => some 1000
    | "M" => some 1048576
    | "MB" => some 1000000
    | _ => none
  if digits.isEmpty then none else unit.map fun unit => ofDigits 10 digits * unit

def truncate : Utility := fun given =>
  Grammar.run
    { name := "truncate", flags := "co", valued := "sr"
      long := [("size", 's'), ("no-create", 'c'), ("reference", 'r')] } given fun arguments => do
      match arguments.value? 's' with
      | none => failUsage "truncate" "you must specify either '--size' or '--reference'".toList
      | some text =>
          let (sign, digits) := match text with
            | '+' :: rest => (some true, rest)
            | '-' :: rest => (some false, rest)
            | rest => (none, rest)
          match size? digits with
          | none => failUsage "truncate" ("Invalid number: ".toList ++ quote text)
          | some size =>
              if arguments.operands.isEmpty then
                failUsage "truncate" "missing file operand".toList
              else
                forEachOperand arguments.operands fun path => do
                  let old := match ← readFile path with
                    | .ok old => old
                    | .error _ => []
                  let length := match sign with
                    | some true => old.length + size
                    | some false => old.length - size
                    | none => size
                  let new := old.take length ++
                    List.replicate (length - old.length) (Char.ofNat 0)
                  match ← replaceFile path new with
                  | .ok () => return 0
                  | .error error => failAt "truncate" "cannot open " path error

def addLink : Utility := fun given => Grammar.run { name := "link" } given fun arguments => do
  match arguments.operands with
  | [source, target] =>
      match ← changeFiles fun files =>
          files.addName false (Bytes.ofLatin source) (Bytes.ofLatin target) with
      | .ok () => return 0
      | .error error =>
          fail "link" ("cannot create link ".toList ++ quotePath target ++ " to ".toList ++
            quotePath source ++ ": ".toList ++ error.words.toList)
  | [] => failUsage "link" "missing operand".toList
  | [operand] => failUsage "link" ("missing operand after ".toList ++ quote operand)
  | _ :: _ :: extra :: _ => failUsage "link" ("extra operand ".toList ++ quote extra)

def namedOperand? (given : List Script) (name : String) : Option Script :=
  given.findSome? fun word =>
    let start := name.toList ++ ['=']
    if start.isPrefixOf word then some (word.drop start.length) else none

def copyOperands : List String :=
  ["if", "of", "bs", "ibs", "obs", "cbs", "count", "skip", "seek", "conv", "status", "iflag",
    "oflag", "iseek", "oseek"]

def dd : Utility := fun given => do
  let grammar : Grammar := { name := "dd" }
  match grammar.read given with
  | .error _ => return ← grammar.run given fun _ => return 0
  | .ok _ => pure ()
  match given.find? fun word => !copyOperands.any fun name =>
      (name.toList ++ ['=']).isPrefixOf word with
  | some word => return ← failUsage "dd" ("unrecognized operand ".toList ++ quote word)
  | none => pure ()
  let numberOf := fun (name : String) (usual : Nat) =>
    ((namedOperand? given name).bind size?).getD usual
  let block := numberOf "bs" (numberOf "ibs" 512)
  let source ← match namedOperand? given "if" with
    | some path => do
        match ← readFile path with
        | .ok text => pure (Except.ok text)
        | .error error => do
            discard (failAt "dd" "failed to open " path error)
            pure (.error error)
    | none => takeAllInput
  match source with
  | .error _ => return 1
  | .ok text =>
      let text := text.drop (numberOf "skip" 0 * block)
      let text := match (namedOperand? given "count").bind size? with
        | some count => text.take (count * block)
        | none => text
      let status ← match namedOperand? given "of" with
        | some path => do
            match ← replaceFile path text with
            | .ok () => pure 0
            | .error error => failAt "dd" "failed to open " path error
        | none => do
            print text
            pure 0
      unless namedOperand? given "status" = some "none".toList do
        let records := (toString (text.length / block) ++ "+" ++
          (if text.length % block = 0 then "0" else "1")).toList
        complain (records ++ " records in".toList)
        complain (records ++ " records out".toList)
      return status

end SchemaBuild.Shell.Utility
