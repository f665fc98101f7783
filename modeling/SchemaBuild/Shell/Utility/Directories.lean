import SchemaBuild.Shell.Utility.Modes

/-!
# Making and removing directories

Directories are made and removed one by one. A path may ask for the directories above one as well.
-/

namespace SchemaBuild.Shell.Utility

/-! ## Making directories -/

def tryDirectory (permissions : Nat) (path : Script) : Running (Except FileError Unit) :=
  changeFiles fun files => files.makeDirectoryWith permissions (Bytes.ofLatin path)

structure DirectoryMaking where
  name : String := "mkdir"
  deed : String := "created"
  parents : Bool := false
  verbose : Bool := false
  permissions : Nat := 0o777
  cared : Nat := 0
  mask : Nat
  wayPermissions : Nat

namespace DirectoryMaking

def newPermissions (making : DirectoryMaking) : Nat :=
  let asked := making.permissions
  let isPlain := (making.cared &&& 0o6000) ||| (asked &&& 0o1000) = 0
  let first := if isPlain then asked else without asked 0o022
  let made := without (first &&& 0o1777) making.mask
  if isPlain && asked &&& making.cared &&& 0o777 = 0 then made
  else if (made ^^^ asked) &&& making.cared ≠ 0 then asked ||| without made making.cared
  else made

def announce (making : DirectoryMaking) (path : Script) : Running Unit := do
  if making.verbose then
    printLine (making.name.toList ++ ": ".toList ++ making.deed.toList ++ " directory ".toList ++
      quotePath path)

def refuse (making : DirectoryMaking) (path : Script) (error : FileError) : Running Nat :=
  failAt making.name "cannot create directory " path error

end DirectoryMaking

/-- The names of a path with the path up to each of them. The first name has the slashes before it,
and the last one those behind it. -/
def namesOnWay (path : Script) : List (Script × Script) :=
  let leading := path.takeWhile (· = '/')
  let parts := (path.drop leading.length).splitOn '/'
  let named := (List.range parts.length).filterMap fun index =>
    let name := parts.getD index []
    if name.isEmpty then none
    else some (name, leading ++ ['/'].intercalate (parts.take (index + 1)))
  match named with
  | [] => [(path, path)]
  | (first, text) :: rest =>
      let all := (leading ++ first, text) :: rest
      let (last, reached) := all.getLastD ([], [])
      all.dropLast ++ [(last ++ path.drop reached.length, path)]

example : namesOnWay "/a//b/".toList =
    [("/a".toList, "/a".toList), ("b/".toList, "/a//b/".toList)] := by decide +kernel

def goInto (name : Script) : Running (Except FileError Unit) := do
  match ← findAt true name with
  | .ok ⟨location, .directory _⟩ =>
      modify fun state => { state with files := { state.files with working := location } }
      return .ok ()
  | .ok _ => return .error .notDirectory
  | .error error => return .error error

/-- Make the directories on the way to another one as far as they are missing, and go through them.
Tells the path of the first that cannot be passed, and why. -/
def goThrough (making : DirectoryMaking) :
    List (Script × Script) → Running (Option (Script × FileError))
  | [] => return none
  | (name, path) :: others => do
      if name = ['.'] then goThrough making others
      else
        let made ← if name = ['.', '.'] then pure none
          else some <$> tryDirectory making.wayPermissions name
        if made matches some (.ok ()) then making.announce path
        match ← goInto name, made with
        | .ok (), _ => goThrough making others
        | .error .notFound, some (.error error) => return some (path, error)
        | .error error, _ => return some (path, error)

/-- Make a directory. If the directories above it are to be made as well, it may be there already.
It is done from one directory to the next, so that the path may have any length. -/
def makeDirectory (making : DirectoryMaking) (path : Script) : Running Nat := do
  let way := if making.parents then namesOnWay path else [(path, path)]
  let working := (← get).files.working
  let status ← make way
  modify fun state => { state with files := { state.files with working := working } }
  return status
where
  make (way : List (Script × Script)) : Running Nat := do
    match ← goThrough making way.dropLast with
    | some (path, error) => making.refuse path error
    | none =>
        let name := (way.getLastD ([], [])).1
        match ← tryDirectory making.newPermissions name with
        | .ok () =>
            making.announce path
            return 0
        | .error error =>
            if !making.parents || error = .notFound then making.refuse path error
            else
              match ← findAt true name with
              | .ok ⟨_, .directory _⟩ => return 0
              | .ok _ => making.refuse path error
              | .error reason =>
                  if error = .exists && reason ≠ .notFound && reason ≠ .notDirectory then
                    failAt making.name "cannot stat " path reason
                  else making.refuse path error

def makeDirectories (making : DirectoryMaking) (paths : List Script) : Running Nat :=
  forEachOperand paths (makeDirectory making)

def mkdir : Utility := fun given =>
  Grammar.run
    { name := "mkdir", flags := "pvZ", valued := "m", optional := "ζ"
      long := [("context", 'ζ'), ("mode", 'm'), ("parents", 'p'), ("verbose", 'v')] } given
    fun arguments => do
      if arguments.operands.isEmpty then
        return ← failUsage "mkdir" "missing operand".toList
      if ((arguments.value? 'ζ').getD []).isEmpty then pure ()
      else discard (fail "mkdir"
        "warning: ignoring --context; it requires an SELinux/SMACK-enabled kernel".toList)
      let mask := (← environment).mask
      let making : DirectoryMaking :=
        { parents := arguments.has 'p', verbose := arguments.has 'v', mask
          wayPermissions := without 0o777 (without mask 0o300) }
      match arguments.value? 'm' with
      | none => makeDirectories making arguments.operands
      | some mode =>
          match ModeChange.ofMode? mode with
          | none => fail "mkdir" ("invalid mode ".toList ++ quote mode)
          | some changes =>
              let (permissions, cared) := ModeChange.applyAll changes true mask 0o777
              makeDirectories { making with permissions, cared, mask := without mask permissions }
                arguments.operands

/-! ## Removing directories -/

structure DirectoryRemoval where
  parents : Bool := false
  verbose : Bool := false
  tolerant : Bool := false

def DirectoryRemoval.attempt (removal : DirectoryRemoval) (path : Script) :
    Running (Except FileError Unit) := do
  if removal.verbose then printLine ("rmdir: removing directory, ".toList ++ quotePath path)
  changeFiles fun files => files.removeDirectory (Bytes.ofLatin path)

def pathsAbove : Nat → Script → List Script
  | 0, _ => []
  | steps + 1, path =>
      let path := if (dropSlashes path).isEmpty then path else dropSlashes path
      if !path.contains '/' then []
      else
        let above := (path.reverse.dropWhile (· ≠ '/')).reverse
        let above := if (dropSlashes above).isEmpty then ['/'] else dropSlashes above
        if above = path then [] else above :: pathsAbove steps above

def DirectoryRemoval.removeAbove (removal : DirectoryRemoval) : List Script → Running Nat
  | [] => return 0
  | path :: paths => do
      match ← removal.attempt path with
      | .ok () => removal.removeAbove paths
      | .error error =>
          if removal.tolerant && error = .notEmpty then return 0
          else failAt "rmdir" "failed to remove directory " path error

def isLinkWithSlash (path : Script) : Running Bool := do
  if path.getLast? ≠ some '/' then return false
  let leads := match ← findAt true path with
    | .ok found => found.isDirectory
    | .error error => error ≠ .notDirectory
  match ← findAt false (dropSlashes path) with
  | .ok found => return leads && found.isLink
  | .error _ => return false

def DirectoryRemoval.remove (removal : DirectoryRemoval) (path : Script) : Running Nat := do
  match ← removal.attempt path with
  | .ok () =>
      if removal.parents then removal.removeAbove (pathsAbove (path.length + 1) path) else return 0
  | .error error =>
      if removal.tolerant && error = .notEmpty then return 0
      else if error = .notDirectory && (← isLinkWithSlash path) then
        fail "rmdir" ("failed to remove ".toList ++ quotePath path ++
          ": Symbolic link not followed".toList)
      else failAt "rmdir" "failed to remove " path error

def rmdir : Utility := fun given =>
  Grammar.run
    { name := "rmdir", flags := "pvι"
      long := [("ignore-fail-on-non-empty", 'ι'), ("path", 'p'), ("parents", 'p'),
        ("verbose", 'v')] } given fun arguments =>
      let removal : DirectoryRemoval :=
        { parents := arguments.has 'p', verbose := arguments.has 'v', tolerant := arguments.has 'ι' }
      forOperands "rmdir" arguments.operands removal.remove

end SchemaBuild.Shell.Utility
