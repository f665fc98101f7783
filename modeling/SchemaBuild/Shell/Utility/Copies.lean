import SchemaBuild.Shell.Utility.Copying
import SchemaBuild.Shell.Utility.Directories

/-!
# Copies and moves

The utilities that bring files and directories to another place.
-/

namespace SchemaBuild.Shell.Utility

/-! ## Two places -/

inductive Destination where
  | directory (path : Script) (sources : List Script)
  | place (source target : Script)

namespace Destination

/-- Find out where operands go. The directory for them is given as an option or as the last operand,
which may have to be the path itself. -/
def find (name optionDeed : String) (isExact : Bool) (arguments : Arguments) :
    Running (Except Nat Destination) := do
  let operands := arguments.operands
  match arguments.value? 't', operands with
  | _, [] => return .error (← failUsage name "missing file operand".toList)
  | none, [operand] =>
      return .error (← failUsage name
        ("missing destination file operand after ".toList ++ quotePath operand))
  | some path, _ =>
      if arguments.has 'T' then
        return .error (← fail name
          "cannot combine --target-directory (-t) and --no-target-directory (-T)".toList)
      match ← directoryAt true path with
      | .ok () => return .ok (.directory path operands)
      | .error error => return .error (← failAt name optionDeed path error)
  | none, source :: target :: others =>
      match isExact, others with
      | true, [] => return .ok (.place source target)
      | true, extra :: _ =>
          return .error (← failUsage name ("extra operand ".toList ++ quotePath extra))
      | false, others =>
          let last := others.getLastD target
          match ← directoryAt true last with
          | .ok () => return .ok (.directory last operands.dropLast)
          | .error error =>
              if others.isEmpty then return .ok (.place source target)
              else return .error (← failAt name "target " last error)

end Destination

def placeIn (directory source : Script) : Script :=
  let name := lastName source
  below directory (if name = ['.', '.'] then ['.'] else name)

def bringAll (record : CopyRecord) (sources : List Script)
    (bring : Script → Copier CopyOutcome) : Running Nat := do
  let work : Copier Nat := sources.foldlM (fun status source => do
    let outcome ← bring source
    return if outcome.isDone && !outcome.intoSelf then status else 1) 0
  work.run' record

def updateChoices : List (Char × List String) :=
  [('a', ["all"]), ('n', ["none"]), ('o', ["older"])]

namespace CopyOptions

def readConflicts (start : CopyOptions) (arguments : Arguments) :
    Running (Except Nat CopyOptions) :=
  arguments.options.foldlM (fun result (letter, value) => do
    match result with
    | .error status => return .error status
    | .ok options =>
        match letter with
        | 'i' => return .ok { options with conflict := .ask }
        | 'n' =>
            return .ok { options with conflict := if options.name = "mv" then .keep else .skip }
        | 'f' =>
            return .ok (if options.name = "mv" then { options with conflict := .replace }
              else options)
        | 'u' => return .ok { options with onlyNewer := true }
        | 'υ' =>
            if value.isEmpty then return .ok { options with onlyNewer := true }
            if options.conflict = .keep then return .ok options
            let conflict : Conflict :=
              if options.conflict = .ask && options.name = "cp" then .ask else .unspecified
            match choice? updateChoices value with
            | some 'a' => return .ok { options with onlyNewer := false, conflict }
            | some 'n' => return .ok { options with onlyNewer := false, conflict := .skip }
            | some _ => return .ok { options with onlyNewer := true, conflict }
            | none => return .error (← refuseChoice options.name "--update" updateChoices value)
        | _ => return .ok options) (.ok start)

end CopyOptions

def placeOptions : List (String × Char) :=
  backupOptions ++ [("debug", 'v'), ("force", 'f'), ("interactive", 'i'), ("no-clobber", 'n'),
    ("no-target-directory", 'T'), ("strip-trailing-slashes", 'σ'), ("target-directory", 't'),
    ("update", 'υ'), ("verbose", 'v'), ("context", 'Z')]

def sourceFor (arguments : Arguments) (source : Script) : Script :=
  if arguments.has 'σ' && !(dropSlashes source).isEmpty then dropSlashes source else source

/-! ## Moves -/

def mv : Utility := fun given =>
  Grammar.run
    { name := "mv", flags := "bfinuvTZσ", valued := "tS", optional := "βυ", long := placeOptions }
    given fun arguments => do
    if 1 < (arguments.values 't').length then
      return ← fail "mv" "multiple target directories specified".toList
    match ← CopyOptions.readConflicts { name := "mv", dereference := .never } arguments with
    | .error status => return status
    | .ok options =>
        let tried ← match arguments.has 'T', arguments.value? 't', arguments.operands with
          | false, none, [source, target] => some <$> CopyOptions.tryMove false source target
          | _, _, _ => pure none
        let isMoved := tried matches some (.ok ())
        match ← Destination.find "mv" "target directory " (isMoved || arguments.has 'T')
            arguments with
        | .error status => return status
        | .ok destination =>
            let asksBackup := ['b', 'β', 'S'].any arguments.has
            if asksBackup && options.conflict = Conflict.keep then
              return ← failUsage "mv"
                "options --backup and --no-clobber are mutually exclusive".toList
            match ← backupOf "mv" arguments with
            | .error status => return status
            | .ok backup =>
                let options := { options with
                  backup
                  verbose := arguments.has 'v'
                  onlyNewer := options.onlyNewer && options.conflict ≠ Conflict.keep }
                match destination with
                | .place source target =>
                    bringAll {} [source] fun source =>
                      options.move (sourceFor arguments source) (sourceFor arguments target) tried
                | .directory directory sources =>
                    bringAll { guardsTargets := 1 < sources.length, opened := some directory } sources
                      fun source =>
                      options.move (sourceFor arguments source) (below directory (lastName source))
                        none

/-! ## Copies -/

def gapChoices : List (Bool × List String) :=
  [(false, ["never"]), (true, ["auto"]), (false, ["always"])]

def sharingChoices : List (Bool × List String) :=
  [(false, ["auto"]), (true, ["always"]), (false, ["never"])]

def checkStorage (option : String) (choices : List (Bool × List String)) (word : Script) :
    Running (Option Nat) := do
  match choice? choices word with
  | some _ => return none
  | none => return some (← refuseChoice "cp" option choices word)

inductive CopiedAttribute where
  | mode
  | times
  | links
  | all
  | context
  | other
  deriving DecidableEq

def attributeChoices : List (CopiedAttribute × List String) :=
  [(.mode, ["mode"]), (.times, ["timestamps"]), (.other, ["ownership"]), (.links, ["links"]),
    (.context, ["context"]), (.other, ["xattr"]), (.all, ["all"])]

namespace CopyOptions

def keep (options : CopyOptions) (isKept : Bool) : CopiedAttribute → CopyOptions
  | .mode => { options with keepsMode := isKept, dropsMode := !isKept }
  | .times => { options with keepsTimes := isKept }
  | .links => { options with keepsLinks := isKept }
  | .all =>
      { options with
        keepsMode := isKept, dropsMode := !isKept, keepsTimes := isKept, keepsLinks := isKept }
  | .context | .other => options

def keepNamed (options : CopyOptions) (isKept : Bool) (option : String) (words : Script) :
    Running (Except Nat CopyOptions) :=
  (words.splitOn ',').foldlM (fun result word => do
    match result with
    | .error status => return .error status
    | .ok options =>
        match choice? attributeChoices word with
        | none => return .error (← refuseChoice options.name option attributeChoices word)
        | some .context =>
            if isKept then
              return .error (← fail options.name
                "cannot preserve security context without an SELinux-enabled kernel".toList)
            else return .ok options
        | some kept => return .ok (options.keep isKept kept)) (.ok options)

def readKept (start : CopyOptions) (arguments : Arguments) : Running (Except Nat CopyOptions) :=
  arguments.options.foldlM (fun result (letter, value) => do
    match result with
    | .error status => return .error status
    | .ok options =>
        let usual := { options with keepsMode := true, keepsTimes := true }
        match letter with
        | 'a' => return .ok { usual with keepsLinks := true }
        | 'd' => return .ok { options with keepsLinks := true }
        | 'p' => return .ok usual
        | 'π' =>
            if value.isEmpty then return .ok usual
            else options.keepNamed true "--preserve" value
        | 'ν' => options.keepNamed false "--no-preserve" value
        | _ => return .ok options) (.ok start)

def sharesAlways (arguments : Arguments) : Bool :=
  match arguments.value? 'φ' with
  | some word => word.isEmpty || choice? sharingChoices word = some true
  | none => false

def read (arguments : Arguments) : Running (Except Nat CopyOptions) := do
  let recursive := ['r', 'R', 'a'].any arguments.has
  let hardLinks := arguments.has 'l'
  let symbolicLinks := arguments.has 's'
  let dereference : Dereference := match arguments.lastOf? "LPHda" with
    | some 'L' => .always
    | some 'H' => .operands
    | some _ => .never
    | none => if recursive && !hardLinks then .never else .always
  let start : CopyOptions :=
    { name := "cp"
      dereference, recursive, hardLinks, symbolicLinks
      removesFirst := arguments.has 'ρ' || arguments.has 'f' && (hardLinks || symbolicLinks)
      removesAfter := arguments.has 'f'
      copiesData := !arguments.has 'α'
      verbose := arguments.has 'v'
      asRegular := !recursive || arguments.has 'κ'
      shares := sharesAlways arguments }
  for _ in arguments.values 'n' do
    discard (fail "cp" ("warning: behavior of -n is non-portable and may change in future; " ++
      "use --update=none instead").toList)
  match ← start.readKept arguments with
  | .error status => return .error status
  | .ok options =>
      match ← options.readConflicts arguments with
      | .error status => return .error status
      | .ok options =>
          let hasGaps := (arguments.value? 'γ').any fun word =>
            choice? gapChoices word = some false
          if hasGaps && options.shares then
            return .error (← failUsage "cp" "--reflink can be used only with --sparse=auto".toList)
          if hardLinks && symbolicLinks then
            return .error (← failUsage "cp" "cannot make both hard and symbolic links".toList)
          match ← backupOf "cp" arguments with
          | .error status => return .error status
          | .ok backup => return .ok { options with backup }

structure WayStep where
  source : Script
  target : Script

def waySteps (directory source : Script) : List WayStep :=
  (namesOnWay source).dropLast.map fun (_, path) => ⟨path, below directory path⟩

/-- Make the directories on the way to the copy of a source as far as they are missing. Tells
whether the copy can be made. -/
def makeWay (options : CopyOptions) : List WayStep → Copier Bool
  | [] => return true
  | step :: steps => do
      let old ← findAt true step.target
      let isKnown := options.keepsMode || options.keepsTimes || (old matches .error _)
      let origin ← findAt true step.source
      let lack? : Option FileError := match origin with
        | .ok ⟨_, .directory _⟩ => none
        | .ok _ => some .notDirectory
        | .error error => some error
      match old, isKnown, lack?, origin with
      | _, true, some error, _ =>
          return (← options.refuseAt "failed to get attributes of " step.source error).isDone
      | .error _, _, _, .ok found =>
          let permissions := permissionsOf (← getThe State).files found.node
          let mask := (← environment).mask
          let given := if options.dropsMode then without 0o777 mask
            else if options.keepsMode then permissions
            else without permissions mask
          match ← changeFiles fun files =>
              files.makeDirectoryWith given (Bytes.ofLatin step.target) with
          | .error error =>
              return (← options.refuseAt "cannot make directory " step.target error).isDone
          | .ok () =>
              if options.verbose then
                printLine (step.source ++ " -> ".toList ++ step.target)
              makeWay options steps
      | .ok old, _, _, _ =>
          if old.isDirectory then makeWay options steps
          else
            return (← options.refuse (quotePath step.target ++
              " exists but is not a directory".toList)).isDone
      | _, _, _, _ => return false

def copyWithWay (options : CopyOptions) (directory source : Script) : Copier CopyOutcome := do
  let path := if (dropSlashes source).isEmpty then source else dropSlashes source
  if ← options.makeWay (waySteps directory path) then options.copy source (below directory path)
  else return ⟨false, false⟩

end CopyOptions

def cp : Utility := fun given =>
  Grammar.run
    { name := "cp", flags := "abdfHilLnprsuvxPRTZακρσω", valued := "tSνγ", optional := "βυπφ"
      long := [("archive", 'a'), ("attributes-only", 'α'), ("copy-contents", 'κ'),
        ("dereference", 'L'), ("link", 'l'), ("no-dereference", 'P'), ("no-preserve", 'ν'),
        ("one-file-system", 'x'), ("parents", 'ω'), ("path", 'ω'), ("preserve", 'π'),
        ("recursive", 'R'), ("reflink", 'φ'), ("remove-destination", 'ρ'), ("sparse", 'γ'),
        ("symbolic-link", 's')] ++ placeOptions } given fun arguments => do
    if let some word := arguments.value? 'γ' then
      if let some status ← checkStorage "--sparse" gapChoices word then return status
    if let some word := arguments.value? 'φ' then
      unless word.isEmpty do
        if let some status ← checkStorage "--reflink" sharingChoices word then return status
    if 1 < (arguments.values 't').length then
      return ← fail "cp" "multiple target directories specified".toList
    match ← CopyOptions.read arguments with
    | .error status => return status
    | .ok options =>
        match ← Destination.find "cp" "target directory " (arguments.has 'T') arguments with
        | .error status => return status
        | .ok (.directory directory sources) =>
            let isGuarded := 1 < sources.length
            let record : CopyRecord :=
              { guardsSources := isGuarded, guardsTargets := isGuarded, opened := some directory }
            bringAll record sources fun source =>
              let source := sourceFor arguments source
              if arguments.has 'ω' then options.copyWithWay directory source
              else options.copy source (placeIn directory source)
        | .ok (.place source target) =>
            if arguments.has 'ω' then
              return ← failUsage "cp" "with --parents, the destination must be a directory".toList
            let isFile := match ← findAt true target with
              | .ok found => found.isFile
              | .error _ => false
            match options.backup, options.removesAfter && source = target && isFile with
            | some backup, true =>
                let target ← backup.pathFor target
                bringAll {} [source] fun source =>
                  { options with backup := none }.copy source target
            | _, _ => bringAll {} [source] fun source => options.copy source target

/-! ## Installing -/

structure Installing where
  copying : CopyOptions
  permissions : Nat
  comparing : Bool := false
  making : DirectoryMaking

def Installing.isThere (installing : Installing) (source target : Script) : Running Bool := do
  match ← findAt false source, ← findAt false target with
  | .ok ⟨_, .file id⟩, .ok ⟨_, .file other⟩ =>
      let files := (← get).files
      let (file, old) := (files.storedAt id, files.storedAt other)
      return installing.permissions &&& 0o7000 = 0 && old.permissions = installing.permissions &&
        file.content.toBytes = old.content.toBytes
  | _, _ => return false

def Installing.install (installing : Installing) (source target : Script) :
    Copier CopyOutcome := do
  if installing.comparing && (← installing.isThere source target) then return ⟨true, false⟩
  let outcome ← installing.copying.copy source target
  if outcome.isDone then
    discard (changeFiles fun files =>
      files.changePermissions (Bytes.ofLatin target) fun _ => installing.permissions)
  return outcome

def Installing.makeAbove (installing : Installing) (path : Script) : Running Bool := do
  let above := dropSlashes ((dropSlashes path).reverse.dropWhile (· ≠ '/')).reverse
  if above.isEmpty then return true
  let working := (← get).files.working
  let result ← goThrough installing.making (namesOnWay above)
  modify fun state => { state with files := { state.files with working := working } }
  match result with
  | none => return true
  | some (path, error) => return (← installing.making.refuse path error) = 0

/-- Make a directory with the permissions that are asked for. One that is there already keeps those
that nobody asked for. -/
def DirectoryMaking.install (making : DirectoryMaking) (path : Script) : Running Nat := do
  let isOld ← isDirectoryAt path
  let status ← makeDirectory making path
  if status = 0 then
    discard (changeFiles fun files => files.changePermissions (Bytes.ofLatin path) fun old =>
      if isOld then without old making.cared ||| making.permissions &&& making.cared
      else making.permissions)
  return status

def install : Utility := fun given =>
  Grammar.run
    { name := "install", flags := "bcCdDpsTvZ", valued := "gmotS", optional := "β"
      long := backupOptions ++ [("compare", 'C'), ("context", 'Z'), ("debug", 'v'),
        ("directory", 'd'), ("group", 'g'), ("mode", 'm'), ("no-target-directory", 'T'),
        ("owner", 'o'), ("preserve-timestamps", 'p'), ("strip", 's'), ("target-directory", 't'),
        ("verbose", 'v')] } given fun arguments => do
    if 1 < (arguments.values 't').length then
      return ← fail "install" "multiple target directories specified".toList
    if arguments.has 'd' && arguments.has 's' then
      return ← fail "install"
        "the strip option may not be used when installing a directory".toList
    if arguments.has 'd' && arguments.has 't' then
      return ← fail "install" "target directory not allowed when installing a directory".toList
    match ← backupOf "install" arguments with
    | .error status => return status
    | .ok backup =>
        if arguments.has 'd' then
          if arguments.operands.isEmpty then
            return ← failUsage "install" "missing file operand".toList
          if arguments.has 'T' then
            if let some extra := arguments.operands[2]? then
              return ← failUsage "install" ("extra operand ".toList ++ quotePath extra)
        let making : DirectoryMaking :=
          { name := "install", deed := "creating", parents := true, verbose := arguments.has 'v'
            permissions := 0o755, mask := 0, wayPermissions := 0o755 }
        if arguments.has 'D' && !arguments.has 'T' then
          if let some directory := arguments.value? 't' then
            if (← directoryAt true directory) matches .error .notFound then
              let status ← makeDirectory making directory
              if status ≠ 0 then return status
        let destination ← if arguments.has 'd' then pure (.ok none)
          else
            let found ← Destination.find "install" "failed to access " (arguments.has 'T') arguments
            pure (found.map some)
        match destination with
        | .error status => return status
        | .ok destination =>
            let mode := (arguments.value? 'm').getD "755".toList
            match ModeChange.ofMode? mode with
            | none => fail "install" ("invalid mode ".toList ++ quote mode)
            | some changes =>
                if arguments.has 'C' && arguments.has 'p' then
                  return ← failUsage "install" ("options --compare (-C) and " ++
                    "--preserve-timestamps are mutually exclusive").toList
                let installing : Installing :=
                  { copying :=
                      { name := "install", backup, removesFirst := true
                        verbose := arguments.has 'v', keepsTimes := arguments.has 'p'
                        mode := some 0o600 }
                    permissions := (ModeChange.applyAll changes false 0 0).1
                    comparing := arguments.has 'C'
                    making }
                match destination with
                | none =>
                    let (permissions, cared) := ModeChange.applyAll changes true 0 0
                    forEachOperand arguments.operands
                      { making with permissions, cared }.install
                | some (.directory directory sources) =>
                    bringAll { guardsTargets := true, opened := some directory } sources
                      fun source =>
                      installing.install source (placeIn directory source)
                | some (.place source target) =>
                    if arguments.has 'D' then
                      unless ← installing.makeAbove target do return 1
                    bringAll {} [source] fun source => installing.install source target

end SchemaBuild.Shell.Utility
