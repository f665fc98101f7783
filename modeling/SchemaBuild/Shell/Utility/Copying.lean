import SchemaBuild.Shell.Utility.Backups
import SchemaBuild.Shell.Utility.FileFacts
import SchemaBuild.Shell.Utility.Modes

/-!
# Copying

How files, links and directories are brought to another place, and what is done about what is there
already. Everything that is copied by one command is remembered, so that nothing is copied twice or
over what was just made.
-/

namespace SchemaBuild.Shell.Utility

/-! ## Options -/

inductive Dereference where
  | never
  | operands
  | always
  deriving DecidableEq

inductive Conflict where
  | unspecified
  | replace
  | keep
  | skip
  | ask
  deriving DecidableEq

structure CopyOptions where
  name : String
  dereference : Dereference := .always
  backup : Option Backup := none
  conflict : Conflict := .unspecified
  removesFirst : Bool := false
  removesAfter : Bool := false
  hardLinks : Bool := false
  symbolicLinks : Bool := false
  recursive : Bool := false
  onlyNewer : Bool := false
  copiesData : Bool := true
  verbose : Bool := false
  keepsMode : Bool := false
  keepsTimes : Bool := false
  keepsLinks : Bool := false
  dropsMode : Bool := false
  asRegular : Bool := true
  shares : Bool := false
  mode : Option Nat := none

abbrev KnownEntry := Option (Location × LastName) × Identity

structure CopyRecord where
  guardsSources : Bool := false
  guardsTargets : Bool := false
  sources : List KnownEntry := []
  targets : List KnownEntry := []
  copied : List (Identity × Script) := []
  made : Array Identity := #[]
  opened : Option Script := none
  topSource : Script := []
  topTarget : Script := []

abbrev Copier := StateT CopyRecord Running

structure CopyOutcome where
  isDone : Bool
  intoSelf : Bool := false

namespace CopyOptions

def refuse (options : CopyOptions) (text : Script) : Copier CopyOutcome := do
  discard (fail options.name text)
  return ⟨false, false⟩

def refuseAt (options : CopyOptions) (deed : String) (path : Script) (error : FileError) :
    Copier CopyOutcome :=
  options.refuse (deed.toList ++ quotePath path ++ ": ".toList ++ error.words.toList)

def announce (options : CopyOptions) (intro : String) (source target : Script)
    (kept : Option Script) : Copier Unit := do
  if options.verbose then
    let backup := match kept with
      | some path => " (backup: ".toList ++ quotePath path ++ [')']
      | none => []
    printLine (intro.toList ++ quotePath source ++ " -> ".toList ++ quotePath target ++ backup)

def follows (options : CopyOptions) (isOperand : Bool) : Bool :=
  options.dereference = .always || options.dereference = .operands && isOperand

/-! ## What is there already -/

def mayReplace (options : CopyOptions) (moves : Bool) (source target : Script) (old new : Found) :
    Copier (Bool × Bool) := do
  let files := (← getThe State).files
  let same := old.identity = new.identity
  if same && options.hardLinks then return (true, true)
  let sameName ← namesSame (← get).opened source target
  if options.dereference = .never then
    if old.isLink && new.isLink then return (!sameName, false)
    decide files sameName same old new
  else
    if !same then return (true, false)
    match ← findAt false source, ← findAt false target with
    | .ok oldLink, .ok newLink =>
        if oldLink.isLink && newLink.isLink && options.removesFirst then return (true, false)
        decide files sameName (oldLink.identity = newLink.identity) oldLink newLink
    | _, _ => return (true, false)
where
  decide (files : FileSystem) (sameName sameLink : Bool) (oldLink newLink : Found) :
      Copier (Bool × Bool) := do
    if options.backup.isSome then
      if sameLink then return (!sameName, false)
      let dangles := !moves && options.dereference ≠ .never && oldLink.isLink && !newLink.isLink
      return (!dangles, false)
    if moves || options.removesFirst then
      if newLink.isLink then return (true, false)
      if sameLink && 1 < linkCount files newLink.node && !sameName then return (!moves, false)
    if !oldLink.isLink && !newLink.isLink then
      if oldLink.identity ≠ newLink.identity then return (true, false)
      if options.hardLinks then return (true, true)
    if moves && old.isLink && 1 < linkCount files newLink.node then
      match ← findAt true source with
      | .ok found =>
          let entry ← entryAt target
          let isIt := match entry, found.location.getLast? with
            | some (directory, .name name), some last =>
                directory = found.location.dropLast && name = last
            | _, _ => false
          return (!isIt, false)
      | .error _ => pure ()
    if options.symbolicLinks && newLink.isLink then return (true, false)
    if options.dereference = .never then
      match ← findAt true source, ← findAt true target with
      | .ok first, .ok second =>
          if first.identity ≠ second.identity then return (true, false)
          if options.hardLinks then return (true, !newLink.isLink)
      | _, _ => return (true, false)
    return (false, false)

def isOutdated (source target : Found) : Running Bool := do
  let files := (← get).files
  return (factsOf files source.node).2.2 ≤ (factsOf files target.node).2.2

def losesSource (options : CopyOptions) (source target : Script) (found : Found) :
    Running Bool := do
  match options.backup with
  | none => return false
  | some backup =>
      if backup.kind = .numbered || lastName source ≠ lastName target ++ backup.suffix then
        return false
      match ← findAt true (dropSlashes target ++ backup.suffix) with
      | .ok other => return other.identity = found.identity
      | .error _ => return false

def setAside (options : CopyOptions) (backup : Backup) (target : Script) :
    Copier (Except CopyOutcome (Option Script)) := do
  let kept ← backup.pathFor target
  match ← changeFiles fun files => files.rename (Bytes.ofLatin target) (Bytes.ofLatin kept) with
  | .ok () => return .ok (some kept)
  | .error .notFound => return .ok none
  | .error error => return .error (← options.refuseAt "cannot backup " target error)

def removeOld (options : CopyOptions) (target : Script) : Copier (Option CopyOutcome) := do
  match ← changeFiles fun files => files.unlink (Bytes.ofLatin target) with
  | .ok () =>
      if options.verbose then printLine ("removed ".toList ++ quotePath target)
      return none
  | .error .notFound => return none
  | .error error => return some (← options.refuseAt "cannot remove " target error)

/-- Check what is there already and get it out of the way as far as that is asked for. Gives the
outcome if nothing more is to be done, and otherwise whether the place is free and what was kept. -/
def clearPlace (options : CopyOptions) (moves isOperand : Bool) (source target : Script)
    (found old : Found) : Copier (Except CopyOutcome (Bool × Option Script)) := do
  let (mayReplace, isDone) ← if options.conflict = .keep || options.conflict = .skip then
      pure (true, false)
    else options.mayReplace moves source target found old
  unless mayReplace do
    return .error (← options.refuse (quotePath source ++ " and ".toList ++ quotePath target ++
      " are the same file".toList))
  if options.onlyNewer && !found.isDirectory && (← isOutdated found old) then
    return .error ⟨true, false⟩
  if moves || !found.isDirectory then
    match options.conflict with
    | .keep =>
        return .error (← options.refuse ("not replacing ".toList ++ quotePath target))
    | .skip => return .error ⟨true, false⟩
    | .ask =>
        unless ← confirm options.name ("overwrite ".toList ++ quotePath target) do
          return .error ⟨false, false⟩
    | _ => pure ()
  if isDone then return .error ⟨true, false⟩
  let replacesAny := moves && options.backup.isSome
  if !old.isDirectory then
    if found.isDirectory && !replacesAny then
      return .error (← options.refuse ("cannot overwrite non-directory ".toList ++
        quotePath target ++ " with directory ".toList ++ quotePath source))
    let isNumbered := options.backup.any fun backup => backup.kind = .numbered
    if isOperand && !isNumbered && (← get).targets.contains (← entryAt target, old.identity) then
      return .error (← options.refuse ("will not overwrite just-created ".toList ++
        quotePath target ++ " with ".toList ++ quotePath source))
  else if !found.isDirectory && !replacesAny then
    return .error (← options.refuse ("cannot overwrite directory ".toList ++ quotePath target ++
      " with non-directory".toList))
  let isDots := [['.'], ['.', '.']].contains (lastName source)
  match options.backup, !isDots && (moves || !old.isDirectory) with
  | some backup, true =>
      if ← options.losesSource source target found then
        return .error (← options.refuse ("backing up ".toList ++ quotePath target ++
          " might destroy source;  ".toList ++ quotePath source ++
          (if moves then " not moved" else " not copied").toList))
      match ← options.setAside backup target with
      | .error outcome => return .error outcome
      | .ok kept => return .ok (true, kept)
  | _, _ =>
      let files := (← getThe State).files
      let isShared := options.keepsLinks && 1 < linkCount files old.node
      let isSpecial := options.dereference = .never && !found.isFile
      if !old.isDirectory && !moves &&
          (options.removesFirst || options.copiesData && (isShared || isSpecial)) then
        match ← options.removeOld target with
        | some outcome => return .error outcome
        | none => return .ok (true, none)
      else return .ok (false, none)

/-! ## Moving -/

def tryMove (replaces : Bool) (source target : Script) : Running (Except FileError Unit) :=
  changeFiles fun files => files.rename (Bytes.ofLatin source) (Bytes.ofLatin target) replaces

def rememberTarget (target : Script) : Copier Unit := do
  if let .ok found ← findAt false target then
    let entry : KnownEntry := (← entryAt target, found.identity)
    modify fun record => { record with targets := entry :: record.targets }

def move (options : CopyOptions) (source target : Script)
    (tried : Option (Except FileError Unit)) : Copier CopyOutcome := do
  let place := if target.isEmpty then ['.'] else target
  let tried ← match tried with
    | some result => pure result
    | none => tryMove false source place
  match tried, options.conflict with
  | .ok (), _ => finish none
  | .error .exists, .keep => options.refuse ("not replacing ".toList ++ quotePath target)
  | .error .exists, .skip => return ⟨true, false⟩
  | .error first, _ =>
      match ← findAt false source with
      | .error error => options.refuseAt "cannot stat " source error
      | .ok found =>
          match ← findAt false place with
          | .error .notFound => failed first
          | .error error => options.refuseAt "cannot stat " target error
          | .ok old =>
              match ← options.clearPlace true true source target found old with
              | .error outcome => return outcome
              | .ok (_, kept) =>
                  match ← tryMove true source place with
                  | .ok () => finish kept
                  | .error error => failed error
where
  finish (kept : Option Script) : Copier CopyOutcome := do
    options.announce "renamed " source target kept
    rememberTarget target
    return ⟨true, false⟩
  failed (error : FileError) : Copier CopyOutcome :=
    if error = .invalid then
      options.refuse ("cannot move ".toList ++ quotePath source ++
        " to a subdirectory of itself, ".toList ++ quotePath target)
    else if [.exists, .isDirectory, .notEmpty, .noSpace].contains error then
      options.refuseAt "cannot overwrite " target error
    else
      options.refuse ("cannot move ".toList ++ quotePath source ++ " to ".toList ++
        quotePath target ++ ": ".toList ++ error.words.toList)

/-! ## Copying files -/

def makeSymbolic (options : CopyOptions) (text target : Script) :
    Running (Except FileError Unit) := do
  let make := changeFiles fun files =>
    files.makeLink (Bytes.ofLatin text) (Bytes.ofLatin target)
  match ← make with
  | .error .exists =>
      if options.removesAfter then
        match ← changeFiles fun files => files.unlink (Bytes.ofLatin target) with
        | .ok () => make
        | .error error => return .error error
      else return .error .exists
  | result => return result

def makeHard (options : CopyOptions) (follow replaces tells : Bool) (source target : Script) :
    Copier CopyOutcome := do
  let make : Running (Except FileError Unit) := changeFiles fun files =>
    files.addName follow (Bytes.ofLatin source) (Bytes.ofLatin target)
  let result ← match ← make with
    | .error .exists =>
        if replaces then
          match ← changeFiles fun files => files.unlink (Bytes.ofLatin target) with
          | .ok () =>
              if tells && options.verbose then printLine ("removed ".toList ++ quotePath target)
              make
          | .error error => pure (.error error)
        else pure (.error .exists)
    | result => pure result
  match result with
  | .ok () => return ⟨true, false⟩
  | .error error =>
      options.refuse ("cannot create hard link ".toList ++ quotePath target ++ " to ".toList ++
        quotePath source ++ ": ".toList ++ error.words.toList)

def copyPermissions (options : CopyOptions) (mask permissions : Nat) (old : Option Nat) : Nat :=
  if options.keepsMode then permissions
  else
    match options.mode, old with
    | some mode, _ => mode
    | none, some old => old
    | none, none =>
        if options.dropsMode then without 0o666 mask else without (permissions &&& 0o777) mask

def fill (options : CopyOptions) (target : Script) (file : StoredFile) (isNew : Bool) :
    Copier CopyOutcome := do
  let mask := (← environment).mask
  match ← findAt true target with
  | .ok ⟨_, .file id⟩ =>
      modifyThe State fun state => { state with files := state.files.changeFile id fun old =>
        { content := if options.copiesData then file.content else old.content
          permissions := options.copyPermissions mask file.permissions
            (if isNew then none else some old.permissions)
          time := if options.keepsTimes then file.time else presentTime } }
      return ⟨true, false⟩
  | _ =>
      match ← openAt target .overwrite with
      | .error error => options.refuseAt "cannot create regular file " target error
      | .ok index =>
          match (← getThe State).opened[index]? with
          | none => return ⟨true, false⟩
          | some opened =>
              match ← writeTo index opened (Bytes.toLatin file.content.toBytes) with
              | .ok () => return ⟨true, false⟩
              | .error error => options.refuseAt "error writing " target error

def sourceFile (source : Script) : Running (Except FileError StoredFile) := do
  match ← findAt true source with
  | .ok ⟨_, .file id⟩ => return .ok ((← get).files.storedAt id)
  | .ok found =>
      let permissions := permissionsOf (← get).files found.node
      match ← readFile source with
      | .ok text => return .ok { content := .bytes (Bytes.ofLatin text), permissions }
      | .error error => return .error error
  | .error error => return .error error

/-- Copy what can be read at a source to a place that is free or not. What was there may have been
the source itself. -/
def copyRegular (options : CopyOptions) (source target : Script) (isNew : Bool) :
    Copier CopyOutcome := do
  match ← sourceFile source with
  | .error error => options.refuse ("cannot open ".toList ++ quotePath source ++
      " for reading: ".toList ++ error.words.toList)
  | .ok file =>
      let old ← if isNew then pure (Except.error FileError.notFound) else findAt true target
      match old with
      | .ok ⟨_, .directory _⟩ => options.refuseAt "cannot create regular file " target .isDirectory
      | .ok _ =>
          if options.shares then
            discard (openAt target .overwrite)
            refuseSharing
          else options.fill target file false
      | .error .notFound => create file
      | .error error =>
          if !options.removesAfter then
            options.refuseAt "cannot create regular file " target error
          else
            match ← options.removeOld target with
            | some outcome => return outcome
            | none => create file
where
  refuseSharing : Copier CopyOutcome :=
    options.refuse ("failed to clone ".toList ++ quotePath target ++ " from ".toList ++
      quotePath source ++ ": Operation not supported".toList)
  create (file : StoredFile) : Copier CopyOutcome := do
    match ← findAt false target with
    | .ok ⟨_, .link _⟩ =>
        options.refuse ("not writing through dangling symlink ".toList ++ quotePath target)
    | .ok _ => options.refuseAt "cannot create regular file " target .exists
    | .error _ =>
        match ← openAt target .overwrite with
        | .ok _ =>
            if options.shares then
              discard (changeFiles fun files => files.unlink (Bytes.ofLatin target))
              refuseSharing
            else options.fill target file true
        | .error error =>
            let hasSlash := target.getLast? = some '/'
            options.refuseAt "cannot create regular file " target
              (if error = .isDirectory && hasSlash then .notDirectory else error)

def copyDevice (options : CopyOptions) (target : Script) (node : Node) : Copier CopyOutcome := do
  match ← changeFiles fun files => do
      let slot ← files.slot (Bytes.ofLatin target)
      match slot.last with
      | .name name =>
          if (files.entry? slot.directory name).isSome then .error .exists
          else .ok (files.put slot.directory name node)
      | _ => .error .exists with
  | .ok () => return ⟨true, false⟩
  | .error error => options.refuseAt "cannot create special file " target error

def copyAsLink (options : CopyOptions) (source target : Script) : Copier CopyOutcome := do
  if source.head? ≠ some '/' then
    let files := (← getThe State).files
    let isHere := (← entryAt target).all fun (directory, _) => directory = files.working
    unless isHere do
      return ← options.refuse (Quotation.ifNeeded target ++
        ": can make relative symbolic links only in current directory".toList)
  match ← options.makeSymbolic source target with
  | .ok () => return ⟨true, false⟩
  | .error error =>
      options.refuse ("cannot create symbolic link ".toList ++ quotePath target ++ " to ".toList ++
        quotePath source ++ ": ".toList ++ error.words.toList)

def copyPlain (options : CopyOptions) (isOperand : Bool) (source target : Script) (isNew : Bool)
    (found : Found) : Copier CopyOutcome := do
  if options.symbolicLinks then options.copyAsLink source target
  else if options.hardLinks then
    options.makeHard (options.follows isOperand) (options.removesAfter || options.conflict = .ask)
      false source target
  else
    match found.node with
    | .file _ => options.copyRegular source target isNew
    | .link text =>
        match ← options.makeSymbolic (Bytes.toLatin text) target with
        | .ok () => return ⟨true, false⟩
        | .error error => options.refuseAt "cannot create symbolic link " target error
    | node =>
        if options.asRegular then options.copyRegular source target isNew
        else options.copyDevice target node

/-! ## Copying directories -/

def remember (identity : Identity) (target : Script) : Copier (Option Script) := do
  match (← get).copied.lookup identity with
  | some earlier => return some earlier
  | none =>
      modify fun record => { record with copied := (identity, target) :: record.copied }
      return none

def sameTarget (first second : Script) : Copier Bool := do
  match ← entryAt first, ← entryAt second with
  | some first, some second => return first = second
  | _, _ => return false

def earlierCopy (options : CopyOptions) (isOperand : Bool) (target : Script) (found : Found) :
    Copier (Option Script) := do
  if found.isDirectory then
    if isOperand then remember found.identity target
    else return (← get).copied.lookup found.identity
  else
    let isShared := 1 < linkCount (← getThe State).files found.node
    if options.keepsLinks && (isShared || options.follows isOperand) then
      remember found.identity target
    else return none

def makeCopyDirectory (options : CopyOptions) (source target : Script) (permissions : Nat) :
    Copier (Option CopyOutcome) := do
  let mask := (← environment).mask
  let given := if options.keepsMode then permissions
    else if options.dropsMode then without 0o777 mask
    else without (permissions &&& 0o1777) mask
  match ← changeFiles fun files => files.makeDirectoryWith given (Bytes.ofLatin target) with
  | .error error => return some (← options.refuseAt "cannot create directory " target error)
  | .ok () =>
      if let .ok found ← findAt false target then
        if (← get).made.isEmpty then discard (remember found.identity target)
        modify fun record => { record with made := record.made.push found.identity }
      options.announce "" source target none
      return none

/-- The names in a directory. What leads to the place of the copy comes late, and the directories
that were just made come last, in the order in which they were made. -/
def namesToCopy (found : Found) : Copier (List Script) := do
  let record ← get
  let goal ← findAt true record.topTarget
  match (← getThe State).files.node? found.location with
  | some (.directory entries) =>
      let last := record.made.toList.filterMap fun
        | .place location =>
            if location.dropLast = found.location then location.getLast? else none
        | .file _ => none
      let leads := fun (name : Name) => match goal with
        | .ok goal => (found.location ++ [name]).isPrefixOf goal.location
        | .error _ => false
      let others := (entries.toList.map (·.1)).filter fun name => !last.contains name
      let (late, first) := others.partition leads
      return (first ++ late ++ last).map Bytes.toLatin
  | _ => return []

/-- Copy a directory with all that is in it. How one entry is copied is told by `copyEntry`, which
gets the options below the directory, the directories above the entry, and both paths. -/
def copyTree (copyEntry : CopyOptions → List Identity → Script → Script → Copier CopyOutcome)
    (options : CopyOptions) (ancestors : List Identity) (source target : Script) (found : Found)
    (isNew : Bool) : Copier CopyOutcome := do
  if ancestors.contains found.identity then
    return ← options.refuse ("cannot copy cyclic symbolic link ".toList ++ quotePath source)
  let permissions := permissionsOf (← getThe State).files found.node
  if isNew then
    if let some outcome ← options.makeCopyDirectory source target permissions then
      return outcome
  else if options.keepsMode then
    discard (changeFiles fun files =>
      files.changePermissions (Bytes.ofLatin target) fun _ => permissions)
  let inner := { options with
    dereference := if options.dereference = .operands then .never else options.dereference }
  let names ← namesToCopy found
  names.foldlM (fun (all : CopyOutcome) name => do
    if all.intoSelf then return all
    let one ← copyEntry inner (found.identity :: ancestors) (below source name)
      (below target name)
    return ⟨all.isDone && one.isDone, one.intoSelf⟩) ⟨true, false⟩

def copyWithin : Nat → CopyOptions → Bool → List Identity → Script → Script → Copier CopyOutcome
  | 0, options, _, _, source, _ => options.refuseAt "cannot access " source .nameTooLong
  | depth + 1, options, isOperand, ancestors, source, target => do
      let copyTree := copyTree fun inner => copyWithin depth inner false
      match ← findAt (options.dereference ≠ .never) source with
      | .error error => options.refuseAt "cannot stat " source error
      | .ok found =>
          if found.isDirectory && !options.recursive then
            return ← options.refuse ((if options.name = "install" then "omitting directory "
              else "-r not specified; omitting directory ").toList ++ quotePath source)
          if isOperand && (← get).guardsSources then
            let entry : KnownEntry := (← entryAt source, found.identity)
            if !found.isDirectory && options.backup.isNone && (← get).sources.contains entry then
              discard (fail options.name ("warning: source file ".toList ++ quotePath source ++
                " specified more than once".toList))
              return ⟨true, false⟩
            modify fun record => { record with sources := entry :: record.sources }
          let looksAtLink :=
            !found.isFile && (!options.asRegular || found.isDirectory || found.isLink)
          let keepsLink := looksAtLink || options.symbolicLinks || options.hardLinks ||
            options.backup.isSome || options.removesFirst
          let old ← findAt (!keepsLink) target
          let place ← match old with
            | .ok old => options.clearPlace false isOperand source target found old
            | .error .notFound => pure (.ok (true, none))
            | .error .linkLoop =>
                if options.removesAfter then pure (.ok (false, none))
                else do pure (.error (← options.refuseAt "cannot stat " target .linkLoop))
            | .error error => do pure (.error (← options.refuseAt "cannot stat " target error))
          match place with
          | .error outcome => return outcome
          | .ok (isNew, kept) =>
              if isOperand && options.backup.isNone then
                if let .ok ⟨location, .link text⟩ ← findAt false target then
                  let entry : KnownEntry := (← entryAt target, identityOf location (.link text))
                  if (← get).targets.contains entry then
                    return ← options.refuse ("will not copy ".toList ++ quotePath source ++
                      " through just-created symlink ".toList ++ quotePath target)
              unless found.isDirectory do options.announce "" source target kept
              let outcome ← match ← options.earlierCopy isOperand target found with
                | some earlier =>
                    if !found.isDirectory then
                      return ← options.makeHard (options.follows isOperand) true true earlier target
                    else if ← namesSame (← get).opened source earlier then
                      let record ← get
                      discard (fail options.name ("cannot copy a directory, ".toList ++
                        quotePath record.topSource ++ ", into itself, ".toList ++
                        quotePath record.topTarget))
                      return ⟨false, true⟩
                    else if ← sameTarget target earlier then
                      discard (fail options.name ("warning: source directory ".toList ++
                        quotePath (← get).topSource ++ " specified more than once".toList))
                      return ⟨true, false⟩
                    else if options.follows isOperand then
                      copyTree options ancestors source target found isNew
                    else
                      options.refuse ("will not create hard link ".toList ++ quotePath target ++
                        " to directory ".toList ++ quotePath earlier)
                | none =>
                    if found.isDirectory then
                      copyTree options ancestors source target found isNew
                    else options.copyPlain isOperand source target isNew found
              if outcome.isDone then
                if isOperand && (← get).guardsTargets then rememberTarget target
              else
                if let some path := kept then
                  discard (changeFiles fun files =>
                    files.rename (Bytes.ofLatin path) (Bytes.ofLatin target))
                  if options.verbose then
                    printLine (quotePath path ++ " -> ".toList ++ quotePath target ++
                      " (unbackup)".toList)
              return outcome

def depthLimit : Nat := 1000

def copy (options : CopyOptions) (source target : Script) : Copier CopyOutcome := do
  modify fun record => { record with topSource := source, topTarget := target, made := #[] }
  options.copyWithin depthLimit true [] source target

end CopyOptions

end SchemaBuild.Shell.Utility
