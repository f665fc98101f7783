import SchemaBuild.Shell.Decision
import SchemaBuild.Shell.Quotation

/-!
# Utilities

What the small programs of a system have in common: arguments are options and operands, and every
operand that fails is reported, while the others are still taken care of.
-/

namespace SchemaBuild.Shell

abbrev Utility := List Script → Running Nat

abbrev Start := List Script → Running (Except FileError ExitStatus)

namespace Utility

/-! ## Messages -/

def quote (text : Script) : Script :=
  Quotation.plain text

def quotePath (path : Script) : Script :=
  Quotation.always path

def calledAs (name : String) : Running Script := do
  let called := (← environment).calledName
  return if called.isEmpty then name.toList else called

def fail (name : String) (text : Script) : Running Nat := do
  complain ((← calledAs name) ++ ": ".toList ++ text)
  return 1

def helpPointer (name : Script) : Script :=
  "Try ".toList ++ quote (name ++ " --help".toList) ++ " for more information.".toList

def pointToHelp (name : String) : Running Unit := do
  complain (helpPointer (← calledAs name))

def failUsage (name : String) (text : Script) : Running Nat := do
  discard (fail name text)
  pointToHelp name
  return 1

def failAt (name deed : String) (path : Script) (error : FileError) : Running Nat :=
  fail name (deed.toList ++ quotePath path ++ ": ".toList ++ error.words.toList)

def failPlainly (name : String) (path : Script) (error : FileError) : Running Nat :=
  fail name (Quotation.ifNeeded path ++ ": ".toList ++ error.words.toList)

def failBarely (name : String) (path : Script) (error : FileError) : Running Nat :=
  fail name (path ++ ": ".toList ++ error.words.toList)

def refuseTop (name : String) (path : Script) : Running Nat := do
  let same := if path = ['/'] then [] else " (same as ".toList ++ quotePath ['/'] ++ [')']
  discard (fail name ("it is dangerous to operate recursively on ".toList ++ quotePath path ++ same))
  fail name "use --no-preserve-root to override this failsafe".toList

/-! ## Arguments -/

structure Grammar where
  name : String
  flags : String := ""
  valued : String := ""
  /-- Letters whose value may be missing. It is given together with the option. -/
  optional : String := ""
  /-- Options that are spelled out, each with the letter it stands for. Arguments consist of bytes,
  so an option that can only be spelled out stands for a character beyond them. -/
  long : List (String × Char) := []
  failure : Nat := 1
  inOrder : Bool := false
  takesNegatives : Bool := false
  helpName : Option String := none
  usage : Option String := none
  namesHelp : Bool := false

structure Arguments where
  options : List (Char × Script) := []
  operands : List Script := []

namespace Arguments

def has (arguments : Arguments) (letter : Char) : Bool :=
  arguments.options.any fun option => option.1 = letter

def value? (arguments : Arguments) (letter : Char) : Option Script :=
  (arguments.options.reverse.find? fun option => option.1 = letter).map (·.2)

def values (arguments : Arguments) (letter : Char) : List Script :=
  (arguments.options.filter fun option => option.1 = letter).map (·.2)

def lastOf? (arguments : Arguments) (letters : String) : Option Char :=
  (arguments.options.reverse.find? fun option => letters.toList.contains option.1).map (·.1)

def option (letter : Char) (value : Script) (arguments : Arguments) : Arguments :=
  { arguments with options := (letter, value) :: arguments.options }

end Arguments

namespace Grammar

inductive Fault where
  | unknownLetter (letter : Char)
  | unknownOption (text : Script)
  | ambiguous (text : Script) (choices : List String)
  | missingLetterValue (letter : Char)
  | missingValue (text : Script)
  | needlessValue (text : Script)

def Fault.words : Fault → Script
  | .unknownLetter letter => "invalid option -- ".toList ++ quote [letter]
  | .unknownOption text => "unrecognized option ".toList ++ quote text
  | .ambiguous text choices =>
      "option ".toList ++ quote text ++ " is ambiguous; possibilities:".toList ++
        choices.flatMap fun choice => ' ' :: quote ('-' :: '-' :: choice.toList)
  | .missingLetterValue letter => "option requires an argument -- ".toList ++ quote [letter]
  | .missingValue text => "option ".toList ++ quote text ++ " requires an argument".toList
  | .needlessValue text => "option ".toList ++ quote text ++ " doesn't allow an argument".toList

def cluster (grammar : Grammar) : List Char → Except Fault (List (Char × Script) × Option Char)
  | [] => .ok ([], none)
  | letter :: letters => do
      if grammar.valued.toList.contains letter then
        if letters.isEmpty then .ok ([], some letter) else .ok ([(letter, letters)], none)
      else if grammar.optional.toList.contains letter then .ok ([(letter, letters)], none)
      else if grammar.flags.toList.contains letter then
        let (others, last) ← grammar.cluster letters
        .ok ((letter, []) :: others, last)
      else .error (.unknownLetter letter)

def longOption (grammar : Grammar) (text : Script) : Except Fault (String × Char) :=
  let spelled := text.takeWhile (· ≠ '=')
  match grammar.long.find? fun entry => entry.1.toList = spelled with
  | some entry => .ok entry
  | none =>
      match grammar.long.filter fun entry => spelled.isPrefixOf entry.1.toList with
      | [] => .error (.unknownOption ('-' :: '-' :: text))
      | entry :: others =>
          if others.all fun other => other.2 = entry.2 then .ok entry
          else .error (.ambiguous ('-' :: '-' :: text) (entry.1 :: others.map (·.1)))

def read (grammar : Grammar) : List Script → Except Fault Arguments
  | [] => .ok {}
  | ['-', '-'] :: rest => .ok { operands := rest }
  | ('-' :: '-' :: text) :: rest => do
      let (name, letter) ← grammar.longOption text
      let wantsValue := grammar.valued.toList.contains letter
      match text.dropWhile (· ≠ '='), rest with
      | _ :: value, rest =>
          if wantsValue || grammar.optional.toList.contains letter then
            return (← grammar.read rest).option letter value
          else .error (.needlessValue ("--" ++ name).toList)
      | [], value :: rest =>
          if wantsValue then return (← grammar.read rest).option letter value
          else return (← grammar.read (value :: rest)).option letter []
      | [], [] =>
          if wantsValue then .error (.missingValue ("--" ++ name).toList)
          else return Arguments.option letter [] {}
  | ('-' :: letter :: letters) :: rest => do
      if grammar.takesNegatives && (letter = '.' || letter.isDigit) then
        return { operands := ('-' :: letter :: letters) :: rest }
      let (options, last) ← grammar.cluster (letter :: letters)
      match last, rest with
      | none, rest =>
          let others ← grammar.read rest
          return { others with options := options ++ others.options }
      | some last, value :: rest =>
          let others ← grammar.read rest
          return { others with options := options ++ (last, value) :: others.options }
      | some last, [] => .error (.missingLetterValue last)
  | operand :: rest => do
      if grammar.inOrder then return { operands := operand :: rest }
      let others ← grammar.read rest
      return { others with operands := operand :: others.operands }

def run (grammar : Grammar) (given : List Script) (work : Arguments → Running Nat) :
    Running Nat := do
  match grammar.read given with
  | .ok arguments => work arguments
  | .error fault =>
      discard (fail grammar.name fault.words)
      let name ← match grammar.helpName with
        | some name => pure name.toList
        | none => calledAs grammar.name
      match grammar.usage with
      | some usage => complain usage.toList
      | none => pure ()
      if grammar.namesHelp then discard (fail grammar.name (helpPointer name))
      else complain (helpPointer name)
      return grammar.failure

end Grammar

def choice? {α : Type} (choices : List (α × List String)) (word : Script) : Option α :=
  let spelled := choices.flatMap fun (meaning, names) => names.map fun name => (meaning, name)
  match spelled.find? fun entry => entry.2.toList = word with
  | some entry => some entry.1
  | none =>
      match choices.filter fun entry => entry.2.any fun name => word.isPrefixOf name.toList with
      | [entry] => some entry.1
      | _ => none

def refuseChoice {α : Type} (name option : String) (choices : List (α × List String))
    (word : Script) : Running Nat := do
  let isAmbiguous := choices.any fun entry => entry.2.any fun name => word.isPrefixOf name.toList
  discard (fail name ((if isAmbiguous then "ambiguous" else "invalid").toList ++
    " argument ".toList ++ quote word ++ " for ".toList ++ quote option.toList))
  complain "Valid arguments are:".toList
  for (_, names) in choices do
    complain ("  - ".toList ++ ", ".toList.intercalate (names.map fun name => quote name.toList))
  pointToHelp name
  return 1

/-! ## Operands -/

def forEachOperand (operands : List Script) (work : Script → Running Nat) : Running Nat :=
  operands.foldlM (fun status operand => do return max status (← work operand)) 0

def forOperands (name : String) (operands : List Script) (work : Script → Running Nat) :
    Running Nat := do
  if operands.isEmpty then failUsage name "missing operand".toList
  else forEachOperand operands work

def number? (digits : Script) : Option Nat :=
  if digits.isEmpty || !digits.all Char.isDigit then none else some (ofDigits 10 digits)

/-! ## Questions -/

def confirm (name : String) (question : Script) : Running Bool := do
  discard (write 2 ((← calledAs name) ++ ": ".toList ++ question ++ "? ".toList))
  match ← takeFrom 0 fun text => (text.takeWhile (· ≠ '\n')).length + 1 with
  | .ok (first :: _) => return first = 'y' || first = 'Y'
  | _ => return false

/-! ## Channels -/

def withChannel {α : Type} (channel index : Nat) (action : Running α) : Running α :=
  isolated (fun environment =>
    { environment with
      channels := (channel, index) ::
        environment.channels.filter fun entry => entry.1 ≠ channel }) action

/-! ## Texts -/

def isSpace (character : Char) : Bool :=
  [' ', '\t', '\n', '\r', '\x0b', '\x0c'].contains character

def padLeft (width : Nat) (text : Script) : Script :=
  List.replicate (width - text.length) ' ' ++ text

def textOf (path : Script) : Running (Except FileError Script) := do
  if path = ['-'] then takeAllInput else readFile path

def filterTexts (name : String) (operands : List Script) (work : Script → Script → Running Unit) :
    Running Nat := do
  let operands := if operands.isEmpty then [['-']] else operands
  forEachOperand operands fun path => do
    match ← textOf path with
    | .ok text =>
        work path text
        return 0
    | .error error => failPlainly name path error

def records (ending : Char) (text : Script) : List Script :=
  match text.splitOn ending with
  | [] => []
  | parts =>
      let last := parts.getLastD []
      (parts.dropLast.map (· ++ [ending])) ++ (if last.isEmpty then [] else [last])

def trimRecord (ending : Char) (record : Script) : Script :=
  if record.getLast? = some ending then record.dropLast else record

def plainRecords (ending : Char) (text : Script) : List Script :=
  (records ending text).map (trimRecord ending)

def recordEnd (zeroEnds : Bool) : Char :=
  if zeroEnds then Char.ofNat 0 else '\n'

def lines (text : Script) : List Script :=
  records '\n' text

def trimLine (line : Script) : Script :=
  trimRecord '\n' line

def plainLines (text : Script) : List Script :=
  plainRecords '\n' text

/-! ## Paths -/

def lastName (path : Script) : Script :=
  match (path.splitOn '/').filter fun name => !name.isEmpty with
  | [] => if path.isEmpty then [] else ['/']
  | names => names.getLastD []

def dropSlashes (path : Script) : Script :=
  (path.reverse.dropWhile (· = '/')).reverse

def parentPath (path : Script) : Script :=
  let trimmed := dropSlashes path
  if trimmed.isEmpty then (if path.isEmpty then ['.'] else ['/'])
  else if !trimmed.contains '/' then ['.']
  else
    let parent := dropSlashes (trimmed.take (trimmed.length - (lastName trimmed).length))
    if parent.isEmpty then ['/'] else parent

def below (path name : Script) : Script :=
  if path.getLast? = some '/' then path ++ name else path ++ '/' :: name

example : parentPath "a/b/".toList = "a".toList := by decide +kernel
example : parentPath "a".toList = ".".toList := by decide +kernel
example : parentPath "/a".toList = "/".toList := by decide +kernel
example : lastName "a/b//".toList = "b".toList := by decide +kernel

end Utility

end SchemaBuild.Shell
