import SchemaBuild.Text.Bytes

/-!
# Shell commands

Schema compilers may be shell scripts. These are the commands of the shell: simple commands with
assignments and redirections, pipelines, lists, the compound commands, and functions. Commands
inside of words are read together with the words. All text is held with one character per byte.

There are two dialects. The plain one is what the standard shell understands; the extended one
adds arrays, conditions between double brackets, arithmetic commands and more ways to expand a
parameter.
-/

namespace SchemaBuild.Shell

abbrev Script := List Char

inductive Dialect where
  | plain
  | extended
  deriving DecidableEq, Repr

inductive OpenMode where
  | read
  | write
  | overwrite
  | append
  | readWrite
  deriving DecidableEq, Repr

inductive ReplaceScope where
  | first
  | every
  | atStart
  | atEnd
  deriving DecidableEq, Repr

mutual

inductive Part where
  | text (quoted : Bool) (text : Script)
  | parameter (quoted : Bool) (name : Script) (subscript : Option (List Part))
      (use : ParameterUse)
  | command (quoted : Bool) (body : Command)
  | arithmetic (quoted : Bool) (expression : List Part)
  | process (writes : Bool) (body : Command)

inductive ParameterUse where
  | value
  | length
  | orElse (colon : Bool) (word : List Part)
  | orAssign (colon : Bool) (word : List Part)
  | orFail (colon : Bool) (word : List Part)
  | ifSet (colon : Bool) (word : List Part)
  | trim (atEnd : Bool) (longest : Bool) (pattern : List Part)
  | replace (scope : ReplaceScope) (pattern : List Part) (word : List Part)
  | slice (offset : List Part) (length : Option (List Part))
  | changeCase (upper : Bool) (every : Bool)
  | indirect
  | invalid

inductive Redirect where
  | file (channel : Nat) (mode : OpenMode) (path : List Part)
  | duplicate (channel : Nat) (output : Bool) (source : List Part)
  | here (channel : Nat) (body : List Part)
  | both (appends : Bool) (path : List Part)

inductive Assignment where
  | one (name : Script) (subscript : Option (List Part)) (appends : Bool) (value : List Part)
  | many (name : Script) (appends : Bool) (values : List (Option (List Part) × List Part))

inductive Condition where
  | word (word : List Part)
  | unary (operator : Script) (word : List Part)
  | binary (operator : Script) (left right : List Part)
  | negation (condition : Condition)
  | both (first second : Condition)
  | either (first second : Condition)

inductive Command where
  | simple (line : Nat) (assignments : List Assignment) (words : List (List Part))
      (redirects : List Redirect)
  | pipeline (stages : List Command)
  | negate (command : Command)
  | andThen (first second : Command)
  | orElse (first second : Command)
  | sequence (commands : List Command)
  | background (command : Command)
  | subshell (line : Nat) (body : Command) (redirects : List Redirect)
  | branch (condition yes no : Command)
  | loop (wanted : Bool) (condition body : Command)
  | forEach (line : Nat) (name : Script) (words : Option (List (List Part))) (body : Command)
  | forCount (start test step : List Part) (body : Command)
  /-- Run the first command that has a pattern which matches the word. The text at the end of an
  arm tells how to go on after it. -/
  | choose (line : Nat) (word : List Part) (arms : List (List (List Part) × Command × String))
  | define (name : Script) (body : Command)
  | redirected (line : Nat) (body : Command) (redirects : List Redirect)
  | condition (line : Nat) (condition : Condition)
  | arithmetic (line : Nat) (expression : List Part)

end

instance : Inhabited Command := ⟨.sequence []⟩

abbrev Word := List Part

namespace Word

def literal (word : Word) : Script :=
  word.flatMap fun
    | .text _ text => text
    | _ => []

def plain? : Word → Option Script
  | [.text false text] => some text
  | _ => none

def join : Word → Word
  | .text quoted first :: rest =>
      match join rest with
      | .text other second :: parts =>
          if quoted = other then .text quoted (first ++ second) :: parts
          else .text quoted first :: .text other second :: parts
      | parts => .text quoted first :: parts
  | part :: rest => part :: join rest
  | [] => []

end Word

end SchemaBuild.Shell
