import SchemaBuild.Shell.Format
import SchemaBuild.Shell.Utility.Dump
import SchemaBuild.Shell.Utility.Lines

/-!
# Printing

Utilities that print something of their own.
-/

namespace SchemaBuild.Shell.Utility

/-! ## Texts -/

def echo : Utility := fun given => do
  print (Format.echoWithOptions true false given)
  return 0

def printFormat (style : Format.Style) (refuse : Script → Running Unit) (given : List Script) :
    Running Nat := do
  match given with
  | [] =>
      refuse "usage: printf format [arg ...]".toList
      return misuse
  | format :: values =>
      let printed := Format.printf style format values
      print printed.text
      for fault in printed.faults do refuse fault
      match printed.failure with
      | some failure =>
          refuse failure
          return misuse
      | none => return if printed.faults.isEmpty then 0 else 1

def printf : Utility := fun given => do
  match if given.head? = some ['-', '-'] then given.drop 1 else given with
  | [] => failUsage "printf" "missing operand".toList
  | format :: values =>
      let status ← printFormat Format.programStyle
        (fun reason => discard (fail "printf" reason)) (format :: values)
      let printed := Format.printf Format.programStyle format values
      match printed.arguments with
      | extra :: _ =>
          unless printed.converts || printed.stopped || printed.failure.isSome do
            discard (fail "printf" ("warning: ignoring excess arguments, starting with ".toList ++
              quote extra))
      | [] => pure ()
      return min 1 status

def yes : Utility := fun given => do
  let line := (if given.isEmpty then ['y'] else [' '].intercalate given) ++ ['\n']
  repeatLine line (Pipe.room {} |>.getD 0)
where
  repeatLine (line : Script) : Nat → Running Nat
    | 0 => throw .exhausted
    | rounds + 1 => do
        print line
        repeatLine line rounds

/-! ## Names -/

def dirname : Utility := fun given =>
  Grammar.run { name := "dirname", flags := "z", long := [("zero", 'z')] } given fun arguments =>
    forOperands "dirname" arguments.operands fun path => do
      print (parentPath path ++ [if arguments.has 'z' then Char.ofNat 0 else '\n'])
      return 0

def withoutEnding (ending name : Script) : Script :=
  if ending.isSuffixOf name && ending.length < name.length then
    name.take (name.length - ending.length)
  else name

def basename : Utility := fun given =>
  Grammar.run
    { name := "basename", flags := "az", valued := "s", inOrder := true
      long := [("multiple", 'a'), ("suffix", 's'), ("zero", 'z')] } given fun arguments => do
      let ending := [if arguments.has 'z' then Char.ofNat 0 else '\n']
      let shown := fun (suffix path : Script) =>
        print (withoutEnding suffix (lastName path) ++ ending)
      let isMany := arguments.has 'a' || arguments.has 's'
      match arguments.operands with
      | [] => failUsage "basename" "missing operand".toList
      | path :: rest =>
          if isMany then
            for path in path :: rest do shown ((arguments.value? 's').getD []) path
            return 0
          else
            match rest with
            | _ :: extra :: _ => failUsage "basename" ("extra operand ".toList ++ quote extra)
            | rest =>
                shown (rest.headD []) path
                return 0

/-! ## Waiting -/

def isDuration (text : Script) : Bool :=
  match text.dropWhile fun character => character.isDigit || character = '.' with
  | [] => !text.isEmpty
  | [unit] => ['s', 'm', 'h', 'd'].contains unit && 1 < text.length
  | _ => text = "infinity".toList

def sleep : Utility := fun given =>
  Grammar.run { name := "sleep" } given fun arguments => do
    if arguments.operands.isEmpty then failUsage "sleep" "missing operand".toList
    else
      match arguments.operands.filter fun text => !isDuration text with
      | [] => return 0
      | wrong =>
          for text in wrong do
            discard (fail "sleep" ("invalid time interval ".toList ++ quote text))
          pointToHelp "sleep"
          return 1

end SchemaBuild.Shell.Utility
