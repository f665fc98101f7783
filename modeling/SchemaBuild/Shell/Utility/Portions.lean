import SchemaBuild.Shell.Utility.Quantity

/-!
# Portions

Utilities that print the start or the end of texts.
-/

namespace SchemaBuild.Shell.Utility

structure Portion where
  characters : Bool := false
  count : Nat := 10
  leavesOut : Bool := false
  ending : Char := '\n'

namespace Portion

def taken (portion : Portion) (units : Nat) : Nat :=
  if portion.leavesOut then units - portion.count else min portion.count units

def startLength (portion : Portion) (text : Script) : Nat :=
  if portion.characters then portion.taken text.length
  else
    let all := records portion.ending text
    (all.take (portion.taken all.length)).flatten.length

def endOf (portion : Portion) (text : Script) : Script :=
  if portion.characters then text.drop (text.length - portion.taken text.length)
  else
    let all := records portion.ending text
    (all.drop (all.length - portion.taken all.length)).flatten

end Portion

/-- Take the start of an input, so long as a function tells. Of a file no more is taken than that,
while a pipe is emptied. -/
def takeStart (length : Script → Nat) : Running (Except FileError Script) := do
  match (← get).openFile? 0 with
  | some (_, { endpoint := .file _, .. }) => takeFrom 0 length
  | _ =>
      match ← takeAllInput with
      | .ok text => return .ok (text.take (length text))
      | .error error => return .error error

def printPortions (name : String) (arguments : Arguments)
    (portion : Script → Running (Except FileError Script)) : Running Nat := do
  let operands := if arguments.operands.isEmpty then [['-']] else arguments.operands
  let isTitled := match arguments.lastOf? "qv" with
    | some 'v' => true
    | some _ => false
    | none => 1 < operands.length
  let mut status := 0
  let mut isFirst := true
  for path in operands do
    let title := fun (isFirst : Bool) => do
      if isTitled then
        let shown := if path = ['-'] then "standard input".toList else path
        print ((if isFirst then [] else ['\n']) ++ "==> ".toList ++ shown ++ " <==\n".toList)
    match ← portion path with
    | .ok text =>
        title isFirst
        isFirst := false
        print text
    | .error .isDirectory =>
        title isFirst
        isFirst := false
        status ← fail name ("error reading ".toList ++ quotePath path ++ ": Is a directory".toList)
    | .error error =>
        status ← fail name ("cannot open ".toList ++ quotePath path ++ " for reading: ".toList ++
          error.words.toList)
  return status

def refuseCount (name : String) (characters : Bool) (text : Script) (fault : QuantityFault) :
    Running Nat :=
  refuseQuantity name ("invalid number of " ++ if characters then "bytes" else "lines") text
    (if fault = .tooLarge then .tooLarge else .invalid)

def portionOf (arguments : Arguments) (leaving : Char) :
    Except (Bool × Script × QuantityFault) Portion :=
  let ending := recordEnd (arguments.has 'z')
  match arguments.lastOf? "nc" with
  | none => .ok { ending }
  | some letter =>
      let text := (arguments.value? letter).getD []
      let characters := letter = 'c'
      let (sign, digits) := match text with
        | '-' :: digits => (some '-', digits)
        | '+' :: digits => (some '+', digits)
        | digits => (none, digits)
      match Quantity.read countUnits false digits with
      | .ok count => .ok { characters, count, leavesOut := sign = some leaving, ending }
      | .error fault => .error (characters, text, fault)

/-! ## Starts -/

def headLetters (digits : Script) : Script → Except Char (List Script)
  | [] => .ok []
  | 'q' :: rest => do return ['-', 'q'] :: (← headLetters digits rest)
  | 'v' :: rest => do return ['-', 'v'] :: (← headLetters digits rest)
  | 'z' :: rest => do return ['-', 'z'] :: (← headLetters digits rest)
  | 'l' :: rest => do return ['-', 'n'] :: digits :: (← headLetters digits rest)
  | 'c' :: rest => do return ['-', 'c'] :: digits :: (← headLetters digits rest)
  | letter :: rest => do
      if ['b', 'k', 'm'].contains letter then
        return ['-', 'c'] :: (digits ++ [letter]) :: (← headLetters digits rest)
      else .error letter

def spellHead : List Script → Except Char (List Script)
  | ('-' :: digit :: rest) :: others =>
      if digit.isDigit then do
        let digits := (digit :: rest).takeWhile Char.isDigit
        let letters ← headLetters digits ((digit :: rest).drop digits.length)
        return ['-', 'n'] :: digits :: letters ++ others
      else .ok (('-' :: digit :: rest) :: others)
  | given => .ok given

def digitLetters : String := "0123456789"

def head : Utility := fun given => do
  let refuse := fun (letter : Char) =>
    failUsage "head" ("invalid trailing option -- ".toList ++ [letter])
  match spellHead given with
  | .error letter => refuse letter
  | .ok spelled =>
      Grammar.run
        { name := "head", flags := "qvz", valued := "nc", optional := digitLetters
          long := [("bytes", 'c'), ("lines", 'n'), ("quiet", 'q'), ("silent", 'q'),
            ("verbose", 'v'), ("zero-terminated", 'z')] } spelled fun arguments => do
          match arguments.lastOf? digitLetters with
          | some digit => return ← refuse digit
          | none => pure ()
          match portionOf arguments '-' with
          | .error (characters, text, fault) =>
              let number := if text.head? = some '-' then text.drop 1 else text
              refuseCount "head" characters number fault
          | .ok portion =>
              printPortions "head" arguments fun path => do
                if path = ['-'] then takeStart portion.startLength
                else
                  match ← readFile path with
                  | .ok text => return .ok (text.take (portion.startLength text))
                  | .error error => return .error error

/-! ## Ends -/

/-- Give a number with a sign alone, which may be followed by what it counts, the form that it has
as an option. There may be one operand besides it. -/
def spellTail (given : List Script) : List Script :=
  let isAlone := match given with
    | [_] => true
    | [_, operand] => operand = ['-'] || operand = ['-', '-'] || operand.head? ≠ some '-'
    | [_, ['-', '-'], _] => true
    | _ => false
  match given with
  | (sign :: rest) :: others =>
      let digits := rest.takeWhile Char.isDigit
      let after := rest.drop digits.length
      let (letter, unit, after) := match after with
        | 'b' :: after => ('c', 512, after)
        | 'c' :: after => ('c', 1, after)
        | 'l' :: after => ('n', 1, after)
        | after => ('n', 1, after)
      let follows := after = ['f']
      let isCount := (sign = '+' || sign = '-' && !digits.isEmpty) && (after.isEmpty || follows)
      if isAlone && isCount then
        let count := (if digits.isEmpty then 10 else ofDigits 10 digits) * unit
        let number := (toString count).toList
        ['-', letter] :: (if sign = '+' then '+' :: number else number) :: others
      else given
  | given => given

def tail : Utility := fun given =>
  Grammar.run
    { name := "tail", flags := "qvzfFρ", valued := "ncsμπ", optional := "φ" ++ digitLetters
      long := [("bytes", 'c'), ("follow", 'φ'), ("lines", 'n'), ("max-unchanged-stats", 'μ'),
        ("pid", 'π'), ("quiet", 'q'), ("retry", 'ρ'), ("silent", 'q'), ("sleep-interval", 's'),
        ("verbose", 'v'), ("zero-terminated", 'z')] } (spellTail given) fun arguments => do
      match arguments.options.find? fun option => digitLetters.toList.contains option.1 with
      | some (digit, _) =>
          return ← fail "tail" ("option used in invalid context -- ".toList ++ [digit])
      | none => pure ()
      match portionOf arguments '+' with
      | .error (characters, text, fault) =>
          let number := if text.head? = some '-' then text.drop 1 else text
          refuseCount "tail" characters number fault
      | .ok portion =>
          match arguments.value? 's' with
          | some text =>
              if text.isEmpty || text.any fun character => !character.isDigit && character ≠ '.' then
                return ← fail "tail" ("invalid number of seconds: ".toList ++ quote text)
          | none => pure ()
          unless arguments.has 'f' || arguments.has 'F' || arguments.has 'φ' do
            if arguments.has 'ρ' then
              discard (fail "tail"
                "warning: --retry ignored; --retry is useful only when following".toList)
            if arguments.has 'π' then
              discard (fail "tail"
                "warning: PID ignored; --pid=PID is useful only when following".toList)
          -- What is left out from the start is counted up to the first unit that is printed.
          let portion := if portion.leavesOut then { portion with count := portion.count - 1 }
            else portion
          printPortions "tail" arguments fun path => do
            match ← textOf path with
            | .ok text => return .ok (portion.endOf text)
            | .error error => return .error error

end SchemaBuild.Shell.Utility
