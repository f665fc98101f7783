import SchemaBuild.Shell.Sed.Editing

/-!
# The editor of lines

The utility that edits lines by a script, either from input to output or in files.
-/

namespace SchemaBuild.Shell.Utility

def linesEndedBy (ending : Char) (file text : Script) : List Sed.Line :=
  match text.splitOn ending with
  | [] => []
  | parts =>
      let last := parts.getLastD []
      (parts.dropLast.map fun part => ⟨part, true, file⟩) ++
        (if last.isEmpty then [] else [⟨last, false, file⟩])

structure ScriptPart where
  file : Option Script := none
  text : Script

/-- A place in the parts of a script, in words. Expressions are told by their numbers, of which the
next one is given, and files by their names. -/
def placeWords (number : Nat) : List ScriptPart → Nat → Script
  | [], _ => []
  | part :: parts, place =>
      if part.text.length < place && !parts.isEmpty then
        placeWords (if part.file.isNone then number + 1 else number) parts
          (place - (part.text.length + 1))
      else
        match part.file with
        | none =>
            "-e expression #".toList ++ (toString number).toList ++ ", char ".toList ++
              (toString place).toList
        | some file =>
            let line := ((part.text ++ ['\n']).take place).count '\n' + 1
            "file ".toList ++ file ++ " line ".toList ++ (toString line).toList

def endWords (parts : List ScriptPart) : Script :=
  let expressions := (parts.filter (·.file.isNone)).length
  match parts.getLast? with
  | some part =>
      match part.file with
      | some _ => placeWords 1 [part] (part.text.length + 1)
      | none => placeWords expressions [part] 0
  | none => []

def scriptParts (arguments : Arguments) : Running (Except Script (List ScriptPart)) :=
  arguments.options.foldlM (fun parts (letter, value) => do
    match parts, letter with
    | .error reason, _ => return .error reason
    | .ok parts, 'e' => return .ok (parts ++ [{ text := value }])
    | .ok parts, 'f' =>
        match ← textOf value with
        | .ok text => return .ok (parts ++ [{ file := some value, text := trimLine text }])
        | .error error =>
            return .error ("couldn't open file ".toList ++ value ++ ": ".toList ++
              error.words.toList)
    | .ok parts, _ => return .ok parts) (.ok [])

def backupPath (path suffix : Script) : Script :=
  let name := lastName path
  let kept := if suffix.contains '*' then suffix.flatMap fun character =>
      if character = '*' then name else [character]
    else name ++ suffix
  if kept.contains '/' then kept else path.take (path.length - name.length) ++ kept

def replaceByNew (path text : Script) : Running (Except FileError Unit) := do
  let place := Bytes.ofLatin path
  let files := (← get).files
  let permissions := match ← nodeAt? true path with
    | .ok (.file id) => (files.storedAt id).permissions
    | _ => 0o644
  changeFiles fun files => do
    let files ← files.unlink place
    let files ← files.replace place (.bytes (Bytes.ofLatin text))
    files.changeAt place fun file => { file with permissions := permissions }

def writeOutputs (written : List (Script × Sed.Output)) : Running Unit := do
  for (path, output) in written do
    unless path = "/dev/stdout".toList || path = "/dev/stderr".toList do
      discard (replaceFile path output.text)

def editInPlace (manner : Sed.Manner) (commands : Array Sed.Command) (suffix : Script)
    (editor : Sed.Editor) : List Script → Running (Nat × Sed.Editor)
  | [] => return (0, editor)
  | path :: paths => do
      match ← textOf path, ← nodeAt? true path with
      | .ok text, .ok (.file _) =>
          let lines := linesEndedBy manner.ending path text
          let (status, after) ← (Sed.runLines manner commands Sed.commandLimit false).run
            { editor with lines := lines, number := 0, output := {} }
          unless suffix.isEmpty do discard (replaceFile (backupPath path suffix) text)
          let rest := after.lines.flatMap fun line =>
            line.text ++ if line.isEnded then [manner.ending] else []
          match ← replaceByNew path (after.output.text ++ rest) with
          | .ok () => pure ()
          | .error error =>
              discard (fail "sed" ("couldn't edit ".toList ++ path ++ ": ".toList ++
                error.words.toList))
          match status with
          | some status => return (status, after)
          | none => editInPlace manner commands suffix after paths
      | .error error, _ =>
          if error = .isDirectory then
            discard (fail "sed" ("couldn't edit ".toList ++ path ++ ": not a regular file".toList))
            let (_, after) ← editInPlace manner commands suffix editor paths
            return (4, after)
          else
            discard (fail "sed" ("can't read ".toList ++ path ++ ": ".toList ++
              error.words.toList))
            let (status, after) ← editInPlace manner commands suffix editor paths
            return (max 2 status, after)
      | .ok _, _ =>
          discard (fail "sed" ("couldn't edit ".toList ++ path ++ ": not a regular file".toList))
          let (_, after) ← editInPlace manner commands suffix editor paths
          return (4, after)

def operandLines (ending : Char) (operands : List Script) : Running (List (List Sed.Line) × Nat) :=
  operands.foldlM (fun (lines, status) path => do
    match ← textOf path with
    | .ok text => return (lines ++ [linesEndedBy ending path text], status)
    | .error .isDirectory =>
        discard (fail "sed" ("read error on ".toList ++ path ++ ": Is a directory".toList))
        return (lines, 4)
    | .error error =>
        discard (fail "sed" ("can't read ".toList ++ path ++ ": ".toList ++ error.words.toList))
        return (lines, max 2 status)) ([], 0)

def editLists (manner : Sed.Manner) (commands : Array Sed.Command) :
    Sed.Editor → List (List Sed.Line) → Running (Option Nat × Sed.Editor)
  | editor, [] => return (none, editor)
  | editor, lines :: others => do
      let (status, after) ← (Sed.runLines manner commands Sed.commandLimit false).run
        { editor with lines := lines, number := 0 }
      match status with
      | some status => return (some status, after)
      | none => editLists manner commands after others

def edit (arguments : Arguments) (manner : Sed.Manner) (scriptEnd : Script)
    (commands : Array Sed.Command)
    (operands : List Script) : Running Nat := do
  let targets := Sed.targets commands
  let editor : Sed.Editor :=
    { written := targets.map fun path => (path, {})
      active := Sed.startRanges commands
      scriptEnd := scriptEnd }
  match arguments.value? 'i' with
  | some suffix =>
      if operands.isEmpty then
        discard (fail "sed" "no input files".toList)
        return 4
      let (status, after) ← editInPlace manner commands suffix editor operands
      writeOutputs after.written
      return status
  | none =>
      let (lists, status) ← operandLines manner.ending
        (if operands.isEmpty then [['-']] else operands)
      let lists := if arguments.has 's' then lists else [lists.flatten]
      let (ended, after) ← editLists manner commands editor lists
      writeOutputs after.written
      print after.output.text
      return ended.getD status

def sedUsage (name : Script) : Script :=
  "Usage: ".toList ++ name ++ ("\n".intercalate [
    " [OPTION]... \x7bscript-only-if-no-other-script\x7d [input-file]...",
    "",
    "  -n, --quiet, --silent",
    "                 suppress automatic printing of pattern space",
    "      --debug",
    "                 annotate program execution",
    "  -e script, --expression=script",
    "                 add the script to the commands to be executed",
    "  -f script-file, --file=script-file",
    "                 add the contents of script-file to the commands to be executed",
    "  --follow-symlinks",
    "                 follow symlinks when processing in place",
    "  -i[SUFFIX], --in-place[=SUFFIX]",
    "                 edit files in place (makes backup if SUFFIX supplied)",
    "  -l N, --line-length=N",
    "                 specify the desired line-wrap length for the \x60l' command",
    "  --posix",
    "                 disable all GNU extensions.",
    "  -E, -r, --regexp-extended",
    "                 use extended regular expressions in the script",
    "                 (for portability use POSIX -E).",
    "  -s, --separate",
    "                 consider files as separate rather than as a single,",
    "                 continuous long stream.",
    "      --sandbox",
    "                 operate in sandbox mode (disable e/r/w commands).",
    "  -u, --unbuffered",
    "                 load minimal amounts of data from the input files and flush",
    "                 the output buffers more often",
    "  -z, --null-data",
    "                 separate lines by NUL characters",
    "      --help     display this help and exit",
    "      --version  output version information and exit",
    "",
    "If no -e, --expression, -f, or --file option is given, then the first",
    "non-option argument is taken as the sed script to interpret.  All",
    "remaining arguments are names of input files; if no input files are",
    "specified, then the standard input is read.",
    "",
    "GNU sed home page: <https://www.gnu.org/software/sed/>.",
    "General help using GNU software: <https://www.gnu.org/gethelp/>."]).toList

def settleInPlace (given : List Script) : List Script :=
  given.flatMap fun word =>
    match word with
    | '-' :: 'i' :: suffix => ["--in-place=".toList ++ suffix]
    | '-' :: letter :: 'i' :: suffix =>
        if "nErsuz".toList.contains letter then [['-', letter], "--in-place=".toList ++ suffix]
        else [word]
    | word => if word = "--in-place".toList then ["--in-place=".toList] else [word]

def sed : Utility := fun given => do
  let grammar : Grammar :=
    { name := "sed", flags := "nErsuz", valued := "efil"
      long := [("quiet", 'n'), ("silent", 'n'), ("expression", 'e'), ("file", 'f'),
        ("in-place", 'i'), ("line-length", 'l'), ("regexp-extended", 'E'), ("separate", 's'),
        ("unbuffered", 'u'), ("null-data", 'z'), ("posix", 'u'), ("sandbox", 'u'),
        ("debug", 'u'), ("follow-symlinks", 'u')] }
  match grammar.read (settleInPlace given) with
  | .error fault =>
      discard (fail "sed" fault.words)
      complain (sedUsage (← calledAs "sed"))
      return 1
  | .ok arguments =>
      match ← scriptParts arguments with
      | .error reason =>
          discard (fail "sed" reason)
          return 1
      | .ok parts =>
          let isGiven := arguments.has 'e' || arguments.has 'f'
          if !isGiven && arguments.operands.isEmpty then
            complain (sedUsage (← calledAs "sed"))
            return 1
          let parts := if isGiven then parts else [{ text := arguments.operands.headD [] }]
          let operands := if isGiven then arguments.operands else arguments.operands.drop 1
          let text := ['\n'].intercalate (parts.map (·.text))
          let extended := arguments.has 'E' || arguments.has 'r'
          match Sed.parse extended text with
          | .error fault =>
              if fault.reason.startsWith "character class" then
                discard (fail "sed" fault.reason.toList)
                return 4
              let place := if fault.reason.startsWith "unmatched" then endWords parts
                else placeWords 1 parts (text.length - fault.left)
              discard (fail "sed" (place ++ ": ".toList ++ fault.reason.toList))
              return 1
          | .ok commands =>
              match Sed.missingLabel? commands with
              | some name =>
                  discard (fail "sed" ("can't find label for jump to \x60".toList ++ name ++
                    ['\'']))
                  return 4
              | none =>
                  let silent := arguments.has 'n' || "#n\n".toList.isPrefixOf (text ++ ['\n'])
                  edit arguments
                    { silent, ending := recordEnd (arguments.has 'z') }
                    (endWords parts) commands operands

end SchemaBuild.Shell.Utility
