/-!
# Reading arguments

The arguments of a command are options and positional arguments in any order. A value stands in
the same argument as its option, after an equals sign, or is the next argument, which then must
not look like an option itself. Two dashes alone end the options. Asking for help or for the
version ends the reading at once, so what comes after it cannot be wrong.
-/

namespace SchemaBuild.CommandLine

inductive OptionKind where
  /-- No value. It may be given once. -/
  | switch
  /-- A value. It may be given once. -/
  | single
  /-- A value each time that it is given. -/
  | many
  deriving DecidableEq, Repr

structure OptionRule where
  name : String
  kind : OptionKind
  /-- Whether the next argument is its value whatever it looks like. -/
  takesAnything : Bool := false
  deriving DecidableEq, Repr

structure CommandRule where
  name : String
  options : List OptionRule
  /-- The names of its positional arguments. -/
  positionals : List String := []
  /-- The names of the commands that may follow. -/
  commands : List String := []

inductive Stop where
  | help
  | version
  | unexpected (argument : String)
  | missingValue (option : String)
  | needlessValue (option : String)
  | repeated (option : String)
  | missing (what : String)
  deriving DecidableEq, Repr

structure Given where
  switches : List String := []
  /-- Options with their values, in the order in which they are given. -/
  values : List (String × String) := []
  positionals : List String := []
  deriving DecidableEq, Repr

namespace Given

def has (given : Given) (name : String) : Bool :=
  given.switches.contains name

def all (given : Given) (name : String) : List String :=
  given.values.filterMap fun entry => if entry.1 = name then some entry.2 else none

def value? (given : Given) (name : String) : Option String :=
  (given.all name).head?

def need (what : String) : Option String → Except Stop String
  | some value => .ok value
  | none => .error (.missing what)

end Given

structure Reading where
  given : Given := {}
  /-- The last option, with the value that was found in the next argument. -/
  waiting : Option (OptionRule × Option String) := none
  /-- Whether two dashes ended the options. -/
  optionsEnded : Bool := false

namespace Reading

def accept (reading : Reading) (rule : OptionRule) (value : String) : Except Stop Reading :=
  if rule.kind = .single && (reading.given.value? rule.name).isSome then
    .error (.repeated rule.name)
  else
    .ok { reading with
      given := { reading.given with values := reading.given.values ++ [(rule.name, value)] } }

/-- Take the option that waits into account. It needs a value by now. -/
def settle (reading : Reading) : Except Stop Reading :=
  let settled := { reading with waiting := none }
  match reading.waiting with
  | none => .ok settled
  | some (rule, none) => .error (.missingValue rule.name)
  | some (rule, some value) => settled.accept rule value

def lacking? (reading : Reading) : Option OptionRule :=
  match reading.waiting with
  | some (rule, none) => some rule
  | _ => none

def turnOn (reading : Reading) (name : String) : Except Stop Reading :=
  if reading.given.has name then .error (.repeated name)
  else
    .ok { reading with
      given := { reading.given with switches := reading.given.switches ++ [name] } }

def place (reading : Reading) (rule : CommandRule) (argument : String) :
    Except Stop Reading := do
  let reading ← reading.settle
  if reading.given.positionals.length < rule.positionals.length then
    .ok { reading with
      given := { reading.given with positionals := reading.given.positionals ++ [argument] } }
  else .error (.unexpected argument)

def long (reading : Reading) (rule : CommandRule) (text : List Char) : Except Stop Reading := do
  let name := String.ofList (text.takeWhile (· ≠ '='))
  let value? := match text.dropWhile (· ≠ '=') with
    | _ :: value => some (String.ofList value)
    | [] => none
  let stop := if name = "help" then some Stop.help else if name = "version" then some .version
    else none
  match stop, rule.options.find? fun option => option.name = name with
  | some stop, _ =>
      if value?.isSome then .error (.needlessValue name)
      else do
        discard reading.settle
        .error stop
  | none, none => .error (.unexpected ("--" ++ name))
  | none, some option =>
      match option.kind, value? with
      | .switch, some _ => .error (.needlessValue name)
      | .switch, none => do (← reading.settle).turnOn name
      | _, some value => do (← reading.settle).accept option value
      | _, none => do .ok { ← reading.settle with waiting := some (option, none) }

/-- Read options of one letter, after their dash. Each of them ends the reading. -/
def short (reading : Reading) (letters : List Char) : Except Stop Reading := do
  match letters with
  | 'h' :: _ =>
      discard reading.settle
      .error .help
  | 'V' :: _ =>
      discard reading.settle
      .error .version
  | _ => .error (.unexpected ("-" ++ String.ofList letters))

/-- Take an argument that is no option: it is the value that the last option lacks, or stands at
the next position. -/
def plain (reading : Reading) (rule : CommandRule) (argument : String) : Except Stop Reading :=
  match reading.lacking? with
  | some option => .ok { reading with waiting := some (option, some argument) }
  | none => reading.place rule argument

def step (reading : Reading) (rule : CommandRule) (argument : String) : Except Stop Reading :=
  if reading.optionsEnded then reading.place rule argument
  else if reading.lacking?.any fun option => option.takesAnything then reading.plain rule argument
  else
    match argument.toList with
    | ['-', '-'] => .ok { reading with optionsEnded := true }
    | '-' :: '-' :: text => reading.long rule text
    | '-' :: letter :: letters => reading.short (letter :: letters)
    | _ => reading.plain rule argument

/-- Read arguments up to the name of a command that may follow. That name is found where no value
is lacking. -/
def run (rule : CommandRule) :
    Reading → List String → Except Stop (Reading × Option (String × List String))
  | reading, [] => .ok (reading, none)
  | reading, argument :: arguments =>
      if !reading.optionsEnded && reading.lacking?.isNone && rule.commands.contains argument then
        .ok (reading, some (argument, arguments))
      else
        match reading.step rule argument with
        | .ok reading => run rule reading arguments
        | .error stop => .error stop

def complete (rule : CommandRule) (arguments : List String) : Except Stop Given := do
  let (reading, _) ← run rule {} arguments
  return (← reading.settle).given

end Reading

end SchemaBuild.CommandLine
