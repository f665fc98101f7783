import SchemaBuild.Shell.Utility.Nodes

/-!
# Removing

Files are removed by their names, and directories with all that is in them. Before anything is
removed there may be a question.
-/

namespace SchemaBuild.Shell.Utility

structure Removal where
  recursive : Bool := false
  ignoresMissing : Bool := false
  directories : Bool := false
  verbose : Bool := false
  asks : Bool := false
  sparesNothing : Bool := false

structure Removed where
  status : Nat := 0
  isBlocked : Bool := false

namespace Removal

def refuse (path : Script) (error : FileError) : Running Removed := do
  return ⟨← failAt "rm" "cannot remove " path error, true⟩

def excise (removal : Removal) (isDirectory : Bool) (path : Script) : Running Removed := do
  let place := Bytes.ofLatin path
  match ← changeFiles fun files =>
      if isDirectory then files.removeDirectory place else files.unlink place with
  | .ok () =>
      if removal.verbose then
        printLine ((if isDirectory then "removed directory " else "removed ").toList ++
          quotePath path)
      return {}
  | .error error =>
      let isMissing := [.notFound, .notDirectory, .invalid].contains error
      if removal.ignoresMissing && isMissing then return {} else refuse path error

def agrees (removal : Removal) (deed : String) (path : Script) (node : Node) : Running Bool := do
  if !removal.asks then return true
  confirm "rm" ((deed ++ kindWords (← get).files node ++ " ").toList ++ quotePath path)

def isPlain (removal : Removal) : Bool :=
  !removal.verbose && !removal.asks

def removeWithin (removal : Removal) : Nat → Script → Running Removed
  | 0, path => refuse path .notEmpty
  | depth + 1, path => do
      match ← findAt false path with
      | .error error => if removal.asks then refuse path error else removal.excise false path
      | .ok ⟨_, .directory entries⟩ =>
          let names := entries.toList.map fun entry => Bytes.toLatin entry.1
          if removal.isPlain then
            match ← onFiles (FileOperation.removeTree (Bytes.ofLatin path)) with
            | .ok () => return {}
            | .error error =>
                if removal.ignoresMissing && error = .notDirectory then return {}
                else refuse path error
          else if names.isEmpty then
            unless ← removal.agrees "remove " path (.directory entries) do return {}
            removal.excise true path
          else
            unless ← removal.agrees "descend into " path (.directory entries) do
              return { isBlocked := true }
            let within ← names.foldlM (fun (all : Removed) name => do
              let one ← removal.removeWithin depth (below path name)
              return ⟨max all.status one.status, all.isBlocked || one.isBlocked⟩) {}
            if within.isBlocked then return within
            unless ← removal.agrees "remove " path (.directory entries) do return within
            let last ← removal.excise true path
            return ⟨max within.status last.status, last.isBlocked⟩
      | .ok ⟨_, node⟩ =>
          unless ← removal.agrees "remove " path node do return {}
          removal.excise false path

def depthLimit : Nat := 1000

def remove (removal : Removal) (path : Script) : Running Nat := do
  match ← findAt false path with
  | .ok ⟨location, .directory entries⟩ =>
      let removesIt := removal.recursive || removal.directories && entries.isEmpty
      if !removesIt then
        failAt "rm" "cannot remove " path (if removal.directories then .notEmpty else .isDirectory)
      else if [['.'], ['.', '.']].contains (lastName path) then
        fail "rm" ("refusing to remove '.' or '..' directory: skipping ".toList ++ quotePath path)
      else if removal.recursive && location.isEmpty && !removal.sparesNothing then
        refuseTop "rm" path
      else return (← removal.removeWithin depthLimit path).status
  | _ => return (← removal.removeWithin depthLimit path).status

end Removal

inductive Asking where
  | never
  | once
  | always
  deriving DecidableEq

def askingChoices : List (Asking × List String) :=
  [(.never, ["never", "no", "none"]), (.once, ["once"]), (.always, ["always", "yes"])]

def askingOf : List (Char × Script) → Except Script (Option Asking × Bool)
  | [] => .ok (none, false)
  | (letter, word) :: earlier => do
      match letter with
      | 'f' => .ok (some .never, true)
      | 'i' => .ok (some .always, false)
      | 'I' => .ok (some .once, false)
      | 'ι' =>
          if word.isEmpty then .ok (some .always, false)
          else
            match choice? askingChoices word with
            | none => .error word
            | some .never => do
                let (_, ignoresMissing) ← askingOf earlier
                .ok (some .never, ignoresMissing)
            | some asking => .ok (some asking, false)
      | _ => askingOf earlier

def rm : Utility := fun given =>
  Grammar.run
    { name := "rm", flags := "rRfidIvωπ", optional := "ιρ"
      long := [("dir", 'd'), ("force", 'f'), ("interactive", 'ι'), ("no-preserve-root", 'π'),
        ("one-file-system", 'ω'), ("preserve-root", 'ρ'), ("recursive", 'r'), ("verbose", 'v')] }
    given fun arguments => do
      for word in arguments.values 'ι' do
        if !word.isEmpty && (choice? askingChoices word).isNone then
          return ← refuseChoice "rm" "--interactive" askingChoices word
      let (asking, ignoresMissing) :=
        (askingOf arguments.options.reverse).toOption.getD (none, false)
      let removal : Removal :=
        { recursive := arguments.has 'r' || arguments.has 'R'
          ignoresMissing := ignoresMissing
          directories := arguments.has 'd'
          verbose := arguments.has 'v'
          asks := asking = some .always
          sparesNothing := arguments.lastOf? "πρ" = some 'π' }
      let operands := arguments.operands
      if operands.isEmpty && ignoresMissing then return 0
      if asking = some .once && (removal.recursive || 3 < operands.length) then
        let number := (toString operands.length).toList
        let noun := (if operands.length = 1 then " argument" else " arguments").toList
        let manner := (if removal.recursive then " recursively" else "").toList
        unless ← confirm "rm" ("remove ".toList ++ number ++ noun ++ manner) do return 0
      forOperands "rm" operands removal.remove

def unlink : Utility := fun given => Grammar.run { name := "unlink" } given fun arguments => do
  match arguments.operands with
  | [path] =>
      match ← changeFiles fun files => files.unlink (Bytes.ofLatin path) with
      | .ok () => return 0
      | .error error => failAt "unlink" "cannot unlink " path error
  | [] => failUsage "unlink" "missing operand".toList
  | _ :: extra :: _ => failUsage "unlink" ("extra operand ".toList ++ quote extra)

end SchemaBuild.Shell.Utility
