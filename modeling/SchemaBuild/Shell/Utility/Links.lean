import SchemaBuild.Shell.Utility.Backups
import SchemaBuild.Shell.Utility.CanonicalPath

/-!
# Links

A symbolic link leads to a path. Any other link is one more name of a file.
-/

namespace SchemaBuild.Shell.Utility

structure Linking where
  symbolic : Bool := false
  forced : Bool := false
  asks : Bool := false
  tryDirectories : Bool := false
  logical : Bool := false
  relative : Bool := false
  verbose : Bool := false
  backup : Option Backup := none
  opened : Option Script := none

namespace Linking

def attempt (linking : Linking) (source target : Script) : Running (Except FileError Unit) :=
  if linking.symbolic then
    changeFiles fun files => files.makeLink (Bytes.ofLatin source) (Bytes.ofLatin target)
  else
    changeFiles fun files =>
      files.addName linking.logical (Bytes.ofLatin source) (Bytes.ofLatin target)

def attemptFirst (linking : Linking) (source target : Script) :
    Running (Option (Except FileError Unit)) := do
  if linking.symbolic && linking.relative then return none
  return some (← linking.attempt source target)

def replace (linking : Linking) (source target : Script) : Running (Except FileError Unit) := do
  let files := (← get).files
  discard (changeFiles fun files => files.unlink (Bytes.ofLatin target))
  let result ← linking.attempt source target
  if result matches .error _ then modify fun state => { state with files := files }
  return result

def relativeSource (source target : Script) : Running Script := do
  let canonical : Canonical := { existing := .nothing }
  match ← canonical.find (parentPath target), ← canonical.find source with
  | .ok start, .ok goal => return relativePath start goal
  | _, _ => return source

def refuse (linking : Linking) (source target : Script) (error : FileError) : Running Nat :=
  let (deed, arrow) := if linking.symbolic then ("failed to create symbolic link ", " -> ")
    else ("failed to create hard link ", " => ")
  let tellsBoth := if linking.symbolic then error = .nameTooLong || source.isEmpty
    else error ≠ .exists && error ≠ .noSpace
  let named := if tellsBoth then arrow.toList ++ quotePath source else []
  fail "ln" (deed.toList ++ quotePath target ++ named ++ ": ".toList ++ error.words.toList)

def announce (linking : Linking) (source target : Script) (kept : Option Script) :
    Running Unit := do
  if linking.verbose then
    let backup := match kept with
      | some path => quotePath path ++ " ~ ".toList
      | none => []
    printLine (backup ++ quotePath target ++ (if linking.symbolic then " -> " else " => ").toList ++
      quotePath source)

def replacesSource (linking : Linking) (source target : Script) (old : Found) : Running Bool := do
  let isAsked := linking.forced || !linking.symbolic && linking.backup.isSome
  if !isAsked || linking.symbolic && linking.backup.isSome then return false
  match ← findAt (linking.symbolic || linking.logical) source with
  | .error _ => return false
  | .ok found =>
      if found.identity ≠ old.identity then return false
      return linkCount (← get).files found.node = 1 || (← namesSame linking.opened source target)

abbrev Made := List (Option (Location × LastName) × Identity)

/-- Make a link, for which there was an attempt already or not. The links that were made before must
not be replaced. -/
def make (linking : Linking) (source target : Script) (made : Made)
    (tried : Option (Except FileError Unit)) : Running (Nat × Made) := do
  let tried ← match tried with
    | some result => pure (some result)
    | none => linking.attemptFirst source target
  if let some (.ok ()) := tried then return ← finish source none
  if !linking.symbolic then
    match ← findAt linking.logical source with
    | .error error => return (← failAt "ln" "failed to access " source error, made)
    | .ok found =>
        if found.isDirectory && !linking.tryDirectories then
          return (← fail "ln" (Quotation.ifNeeded source ++
            ": hard link not allowed for directory".toList), made)
  let origin := source
  let source ← if linking.relative then relativeSource source target else pure source
  let result ← match tried with
    | some result => pure result
    | none => linking.attempt source target
  match result, linking.forced || linking.asks || linking.backup.isSome with
  | .ok (), _ => finish source none
  | .error error, false => return (← linking.refuse source target error, made)
  | .error error, true =>
      match ← findAt false target with
      | .error .notFound => return (← linking.refuse source target error, made)
      | .error reason => return (← failAt "ln" "failed to access " target reason, made)
      | .ok old =>
          if old.isDirectory then
            return (← fail "ln" (Quotation.ifNeeded target ++
              ": cannot overwrite directory".toList), made)
          if made.contains (← entryAt target, old.identity) then
            return (← fail "ln" ("will not overwrite just-created ".toList ++ quotePath target ++
              " with ".toList ++ quotePath source), made)
          if ← linking.replacesSource origin target old then
            return (← fail "ln" (quotePath source ++ " and ".toList ++ quotePath target ++
              " are the same file".toList), made)
          if error ≠ .exists then return (← linking.refuse source target error, made)
          if linking.asks then
            unless ← confirm "ln" ("replace ".toList ++ quotePath target) do return (1, made)
          match linking.backup with
          | none =>
              match ← linking.replace source target with
              | .ok () => finish source none
              | .error error => return (← linking.refuse source target error, made)
          | some backup =>
              let kept ← backup.pathFor target
              match ← changeFiles fun files =>
                  files.rename (Bytes.ofLatin target) (Bytes.ofLatin kept) with
              | .error error => return (← failAt "ln" "cannot backup " target error, made)
              | .ok () =>
                  match ← linking.replace source target with
                  | .ok () => finish source (some kept)
                  | .error error =>
                      discard (changeFiles fun files =>
                        files.rename (Bytes.ofLatin kept) (Bytes.ofLatin target))
                      return (← linking.refuse source target error, made)
where
  finish (source : Script) (kept : Option Script) : Running (Nat × Made) := do
    linking.announce source target kept
    match ← findAt false target with
    | .ok found => return (0, (← entryAt target, found.identity) :: made)
    | .error _ => return (0, made)

def makeIn (linking : Linking) (directory : Script) (sources : List Script) : Running Nat := do
  let guards := 1 < sources.length && linking.forced && !linking.symbolic &&
    !linking.backup.any fun backup => backup.kind = .numbered
  let (status, _) ← sources.foldlM (fun (status, made) source => do
    let target := below directory (lastName source)
    let (one, made) ← { linking with opened := some directory }.make source target
      (if guards then made else []) none
    return (max status one, made)) (0, [])
  return status

end Linking

def checkDirectoryOption (name : String) (directory : Script) : Running (Option Nat) := do
  match ← findAt true directory with
  | .error error => return some (← failAt name "failed to access " directory error)
  | .ok found =>
      if found.isDirectory then return none
      else
        return some (← fail name
          ("target ".toList ++ quotePath directory ++ " is not a directory".toList))

def ln : Utility := fun given =>
  Grammar.run
    { name := "ln", flags := "bdfinrsvFLPT", valued := "tS", optional := "β"
      long := backupOptions ++ [("directory", 'd'), ("no-dereference", 'n'),
        ("no-target-directory", 'T'), ("force", 'f'), ("interactive", 'i'), ("target-directory", 't'),
        ("logical", 'L'), ("physical", 'P'), ("relative", 'r'), ("symbolic", 's'),
        ("verbose", 'v')] } given fun arguments => do
    if 1 < (arguments.values 't').length then
      return ← fail "ln" "multiple target directories specified".toList
    let option := arguments.value? 't'
    if let some directory := option then
      if let some status ← checkDirectoryOption "ln" directory then return status
    let operands := arguments.operands
    if operands.isEmpty then return ← failUsage "ln" "missing file operand".toList
    if arguments.has 'r' && !arguments.has 's' then
      return ← fail "ln" "cannot do --relative without --symbolic".toList
    let followsLast := !arguments.has 'n'
    let linking : Linking :=
      { symbolic := arguments.has 's'
        forced := arguments.lastOf? "fi" = some 'f'
        asks := arguments.lastOf? "fi" = some 'i'
        tryDirectories := arguments.has 'd' || arguments.has 'F'
        logical := arguments.lastOf? "LP" = some 'L'
        relative := arguments.has 'r'
        verbose := arguments.has 'v' }
    let withBackup := fun (work : Linking → Running Nat) => do
      match ← backupOf "ln" arguments with
      | .error status => return status
      | .ok backup => work { linking with backup }
    let toLast := fun (tried : Option (Except FileError Unit)) =>
      withBackup fun linking => do
        return (← linking.make (operands.headD []) (operands.getLastD []) [] tried).1
    let last := operands.getLastD []
    match arguments.has 'T', option, operands with
    | true, some _, _ =>
        fail "ln" "cannot combine --target-directory and --no-target-directory".toList
    | true, none, [source] =>
        failUsage "ln" ("missing destination file operand after ".toList ++ quotePath source)
    | true, none, [_, _] => toLast none
    | true, none, _ => failUsage "ln" ("extra operand ".toList ++ quotePath (operands.getD 2 []))
    | false, some directory, _ =>
        match ← directoryAt followsLast directory with
        | .ok () => withBackup (·.makeIn directory operands)
        | .error error => failAt "ln" "target " directory error
    | false, none, [_] => withBackup (·.makeIn ['.'] operands)
    | false, none, [source, target] =>
        let tried ← linking.attemptFirst source target
        let isOpen := match tried with
          | none => true
          | some (.error error) => [.exists, .notDirectory, .invalid].contains error
          | some (.ok ()) => false
        if isOpen && (← directoryAt followsLast target) matches .ok () then
          withBackup (·.makeIn target [source])
        else toLast tried
    | false, none, _ =>
        match ← directoryAt followsLast last with
        | .ok () => withBackup (·.makeIn last operands.dropLast)
        | .error error => failAt "ln" "target " last error

end SchemaBuild.Shell.Utility
