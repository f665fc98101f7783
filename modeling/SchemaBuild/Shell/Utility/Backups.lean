import SchemaBuild.Shell.Utility.Nodes

/-!
# Backups

What is about to be replaced can be kept under another name: with a suffix, or with a number that
grows.
-/

namespace SchemaBuild.Shell.Utility

inductive BackupKind where
  | simple
  | existing
  | numbered
  deriving DecidableEq

def backupChoices : List (Option BackupKind × List String) :=
  [(none, ["none", "off"]), (some .simple, ["simple", "never"]),
    (some .existing, ["existing", "nil"]), (some .numbered, ["numbered", "t"])]

structure Backup where
  kind : BackupKind
  suffix : Script

def backupOptions : List (String × Char) :=
  [("backup", 'β'), ("suffix", 'S')]

def backupSuffix (arguments : Arguments) : Running Script := do
  let usual := (← environment).value? "SIMPLE_BACKUP_SUFFIX".toList
  let named := match arguments.value? 'S' with
    | some suffix => some suffix
    | none => usual
  match named with
  | some suffix => return if suffix.isEmpty || suffix.contains '/' then ['~'] else suffix
  | none => return ['~']

def backupOf (name : String) (arguments : Arguments) : Running (Except Nat (Option Backup)) := do
  if !arguments.has 'b' && !arguments.has 'β' && !arguments.has 'S' then return .ok none
  let suffix ← backupSuffix arguments
  let given := (arguments.values 'β').reverse.headD []
  let usual := ((← environment).value? "VERSION_CONTROL".toList).getD []
  let (word, context) := if given.isEmpty then (usual, "$VERSION_CONTROL")
    else (given, "backup type")
  if word.isEmpty then return .ok (some ⟨.existing, suffix⟩)
  match choice? backupChoices word with
  | some kind => return .ok (kind.map fun kind => ⟨kind, suffix⟩)
  | none => return .error (← refuseChoice name context backupChoices word)

def backupNumber? (base name : Script) : Option Nat :=
  let start := base ++ ".~".toList
  if start.isPrefixOf name && name.getLast? = some '~' && start.length < name.length then
    let digits := (name.drop start.length).dropLast
    if digits.head? = some '0' then none else number? digits
  else none

def Backup.pathFor (backup : Backup) (path : Script) : Running Script := do
  let base := lastName path
  let files := (← get).files
  let names : List Script := match files.list (Bytes.ofLatin (parentPath path)) with
    | .ok entries => entries.toList.map fun entry => Bytes.toLatin entry.1
    | .error _ => []
  let highest := (names.filterMap (backupNumber? base)).foldl max 0
  if backup.kind = .numbered || backup.kind = .existing && 0 < highest then
    return dropSlashes path ++ ".~".toList ++ (toString (highest + 1)).toList ++ ['~']
  else return dropSlashes path ++ backup.suffix

end SchemaBuild.Shell.Utility
