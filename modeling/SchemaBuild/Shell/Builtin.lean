import SchemaBuild.Shell.Expansion
import SchemaBuild.Shell.Signal

/-!
# What a shell can do itself

Commands that change the shell which runs them. They get their arguments and end with a status. An
error stops them, and the script with them if the command is a special one.
-/

namespace SchemaBuild.Shell

abbrev Builtin := List Script → Running Nat

namespace Builtin

def options (flags valued : String) : List Script → Running (List (Char × Script) × List Script)
  | [] => return ([], [])
  | ['-', '-'] :: rest => return ([], rest)
  | ('-' :: letter :: letters) :: rest => do
      let (taken, missing) ← cluster (letter :: letters)
      match missing, rest with
      | none, rest =>
          let (others, operands) ← options flags valued rest
          return (taken ++ others, operands)
      | some letter, value :: rest =>
          let (others, operands) ← options flags valued rest
          return (taken ++ (letter, value) :: others, operands)
      | some letter, [] => abort ("No arg for -".toList ++ letter :: " option".toList)
  | operands => return ([], operands)
where
  cluster : List Char → Running (List (Char × Script) × Option Char)
    | [] => return ([], none)
    | letter :: letters => do
        if valued.toList.contains letter then
          return if letters.isEmpty then ([], some letter) else ([(letter, letters)], none)
        else if flags.toList.contains letter then
          let (others, missing) ← cluster letters
          return ((letter, []) :: others, missing)
        else abort ("Illegal option -".toList ++ [letter])

def greatest : Nat := 2147483647

def number (text : Script) : Running Nat := do
  let value := ofDigits 10 text
  if text.isEmpty || !text.all Char.isDigit || greatest < value then
    abort ("Illegal number: ".toList ++ text)
  else return value

def quoted (text : Script) : Script :=
  if text.contains '\'' then
    -- Marks inside are put between double quotes.
    let parts := text.splitBy fun left right => (left = '\'') = (right = '\'')
    parts.flatMap fun part =>
      if part.head? = some '\'' then '"' :: part ++ ['"'] else '\'' :: part ++ ['\'']
  else '\'' :: text ++ ['\'']

def assignmentOf (word : Script) : Script × Option Script :=
  match word.dropWhile (· ≠ '=') with
  | _ :: value => (word.takeWhile (· ≠ '='), some value)
  | [] => (word, none)

def statusOf : ExitStatus → Nat
  | .code code => code
  | .signal number => 128 + number

end Builtin

end SchemaBuild.Shell
