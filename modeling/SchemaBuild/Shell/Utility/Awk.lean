import SchemaBuild.Shell.Awk.Evaluation

/-!
# The processor of records

The utility that runs a program on the records of its input.
-/

namespace SchemaBuild.Shell.Utility

structure AwkArguments where
  separator : Option Script := none
  settings : List Script := []
  programs : List Script := []
  operands : List Script := []
  vacuous : List Script := []
  needsHelp : Bool := false

def awkManners : List String :=
  ["dump", "exec", "help", "interactive", "posix", "posix_space", "random", "sprintf",
    "traditional", "usage", "version"]

def awkManner? (word : Script) : Option String :=
  awkManners.find? fun manner => !word.isEmpty && word.isPrefixOf manner.toList

def awkArguments : List Script → Except Script AwkArguments
  | [] => .ok {}
  | ['-', '-'] :: rest => .ok { operands := rest }
  | ['-'] :: rest => .ok { operands := ['-'] :: rest }
  | ('-' :: '-' :: word) :: rest =>
      match awkManners.find? fun manner => manner.toList = word with
      | some "help" => .ok { needsHelp := true }
      | some "usage" => .ok { needsHelp := true }
      | some _ => awkArguments rest
      | none => .error ("not an option: --".toList ++ word)
  | ('-' :: letter :: value) :: rest => do
      let put := fun (value : Script) (arguments : AwkArguments) =>
        match letter with
        | 'F' => { arguments with separator := arguments.separator.or (some value) }
        | 'v' => { arguments with settings := value :: arguments.settings }
        | 'f' => { arguments with programs := value :: arguments.programs }
        | _ =>
            match awkManner? (value.takeWhile (· ≠ '=')) with
            | some "exec" =>
                match arguments.operands with
                | path :: operands =>
                    { arguments with programs := path :: arguments.programs, operands := operands }
                | [] => arguments
            | some manner =>
                { arguments with
                  needsHelp := arguments.needsHelp || manner = "help" || manner = "usage" }
            | none => { arguments with vacuous := value :: arguments.vacuous }
      if !(['F', 'v', 'f', 'W'].contains letter) then
        .error ("not an option: -".toList ++ letter :: value)
      else
        match value, rest with
        | [], value :: rest => return put value (← awkArguments rest)
        | [], [] => .error ("option -".toList ++ letter :: " lacks argument".toList)
        | value, rest => return put value (← awkArguments rest)
  | operands => .ok { operands := operands }

def awkUsage : List String :=
  ["Usage: mawk [Options] [Program] [file ...]",
    "",
    "Program:",
    "    The -f option value is the name of a file containing program text.",
    "    If no -f option is given, a \"--\" ends option processing; the following",
    "    parameters are the program text.",
    "",
    "Options:",
    "    -f program-file  Program  text is read from file instead of from the",
    "                     command-line.  Multiple -f options are accepted.",
    "    -F value         sets the field separator, FS, to value.",
    "    -v var=value     assigns value to program variable var.",
    "    --               unambiguous end of options.",
    "",
    "    Implementation-specific options are prefixed with \"-W\".  They can be",
    "    abbreviated:",
    "",
    "    -W version       show version information and exit.",
    "    -W compat        pre-POSIX 2001.",
    "    -W dump          show assembler-like listing of program and exit.",
    "    -W help          show this message and exit.",
    "    -W interactive   set unbuffered output, line-buffered input.",
    "    -W exec file     use file as program as well as last option.",
    "    -W posix         stricter POSIX checking.",
    "    -W random=number set initial random seed.",
    "    -W sprintf=number adjust size of sprintf buffer.",
    "    -W usage         show this message and exit."]

def awkSeparator (text : Script) : Script :=
  if text = ['t'] then ['t'] else Awk.unescaped (text.length + 1) text

def awkMachine (name : Script) (environment : Environment) (program : Awk.Program)
    (operands : List Script) :
    Awk.Machine :=
  let texts := [("FS", " "), ("OFS", " "), ("ORS", "\n"), ("RS", "\n"), ("SUBSEP", "\x1c"),
    ("CONVFMT", "%.6g"), ("OFMT", "%.6g"), ("FILENAME", "")]
  let numbers := [("NR", 0), ("FNR", 0), ("RSTART", 0), ("RLENGTH", -1)]
  let given := name :: operands
  let indices := (List.range given.length).map fun index => (toString index).toList
  { functions := program.functions
    arrays := #[
      (indices.zip (given.map Awk.Value.input)).reverse,
      environment.exports.map fun (name, value) => (name, .input value)]
    globals :=
      (texts.map fun (name, text) => (name.toList, .scalar (.text text.toList))) ++
        (numbers.map fun (name, number) => (name.toList, .scalar (.number number))) ++
        [("ARGC".toList, .scalar (.number (Float.ofNat given.length))),
          ("ARGV".toList, .array 0), ("ENVIRON".toList, .array 1)] }

def runAwk (start : Start) (arguments : AwkArguments) (program : Awk.Program) :
    Awk.Awking Nat := do
  match arguments.separator with
  | some separator => Awk.setGlobal "FS" (.text (awkSeparator separator))
  | none => pure ()
  for setting in arguments.settings do
    match Awk.operandSetting? setting with
    | some (name, value) => Awk.setValue name (.input value)
    | none => throw (.failure ("improper assignment: -v ".toList ++ setting))
  Awk.run start program

def awk (start : Start) : Utility := fun given => do
  let name ← calledAs "awk"
  let tell := fun (reason : Script) => complain (name ++ ": ".toList ++ reason)
  let refuse := fun (reason : Script) => do
    tell reason
    return misuse
  if given.isEmpty then
    for line in awkUsage do complain line.toList
    return 0
  match awkArguments given with
  | .error reason => refuse reason
  | .ok arguments =>
      if arguments.needsHelp then
        for line in awkUsage do printLine line.toList
        return 0
      for manner in arguments.vacuous do
        tell ("vacuous option: -W \"".toList ++ manner ++ ['"'])
      let mut texts := []
      for path in arguments.programs do
        match ← textOf path with
        | .ok text => texts := texts ++ [text]
        | .error error =>
            return ← refuse (Awk.because ("cannot open \"".toList ++ path ++ ['"']) error)
      let isGiven := arguments.programs.isEmpty
      if isGiven && (arguments.operands.headD ['-'] = ['-']) then return 0
      let text := if isGiven then arguments.operands.headD [] else ['\n'].intercalate texts
      let operands := if isGiven then arguments.operands.drop 1 else arguments.operands
      let source := match arguments.programs with
        | [] => []
        | path :: _ => path ++ ": ".toList
      match Awk.parse source text with
      | .error reasons =>
          for reason in reasons do tell reason
          return misuse
      | .ok program =>
          let machine := awkMachine name (← environment) program operands
          let (result, machine) ← (runAwk start arguments program).run machine
          let status ← match result with
            | .ok status => pure status
            | .error (.fault reason) =>
                let shown := fun (name : String) =>
                  (machine.global name).toText "%.6g".toList
                tell ("run time error: ".toList ++ reason)
                complain ("\tFILENAME=\"".toList ++ shown "FILENAME" ++ "\" FNR=".toList ++
                  shown "FNR" ++ " NR=".toList ++ shown "NR")
                pure misuse
            | .error (.failure reason) => refuse reason
            | .error _ => pure 0
          let unwritten ← Awk.closeAll start machine
          for reason in unwritten do tell reason
          return if unwritten.isEmpty then status else misuse

end SchemaBuild.Shell.Utility
