import SchemaBuild.Shell.Utility.Nodes

/-!
# Where paths lead

A path is canonical if it starts at the top and has neither dots nor links in it. It is found name
by name, and it may be asked for although not everything on the way is there.
-/

namespace SchemaBuild.Shell.Utility

/-! ## Canonical paths -/

inductive Existing where
  | all
  | butLast
  | nothing
  deriving DecidableEq

structure Canonical where
  existing : Existing
  keepsLinks : Bool := false

namespace Canonical

def wantsDirectory : List Script → Bool
  | [] => false
  | name :: names =>
      if name.isEmpty || name = ['.'] then names.isEmpty || wantsDirectory names
      else name = ['.', '.']

def linkAt (files : FileSystem) (location : Location) : Except FileError Bytes :=
  match files.locate false (Bytes.ofLatin (pathOf location)) with
  | .ok (.node _ (.link text)) => .ok text
  | .ok (.node _ _) => .error .invalid
  | .ok (.vacant _ _) => .error .notFound
  | .error error => .error error

def lack? (files : FileSystem) (path : Script) : Option FileError :=
  match files.locate true (Bytes.ofLatin path) with
  | .ok (.node _ _) => none
  | .ok (.vacant _ _) => some .notFound
  | .error error => some error

def carefreeLinks : Nat := 20

def stepLimit : Nat := 100000

/-- Walk along names from a location. After some links, it is remembered where there were links and
what was left of the names there. -/
def walk (canonical : Canonical) (files : FileSystem) :
    Nat → Nat → List (Location × List Script) → List Script → Location → Except FileError Location
  | 0, _, _, _, _ => .error .linkLoop
  | _ + 1, _, _, [], location => .ok location
  | steps + 1, links, seen, name :: names, location =>
      if name.isEmpty || name = ['.'] then canonical.walk files steps links seen names location
      else if name = ['.', '.'] then
        canonical.walk files steps links seen names location.dropLast
      else
        let next := location ++ [Bytes.ofLatin name]
        let passed := canonical.walk files steps links seen names next
        match if canonical.keepsLinks then .error .invalid else linkAt files next with
        | .ok text =>
            let isCareful := carefreeLinks ≤ links
            if isCareful && seen.contains (location, name :: names) then
              if canonical.existing = .nothing then passed else .error .linkLoop
            else
              let seen := if isCareful then (location, name :: names) :: seen else seen
              let start := if text.head? = some slashByte then [] else location
              canonical.walk files steps (links + 1) seen
                ((Bytes.toLatin text).splitOn '/' ++ names) start
        | .error reason =>
            let lack := if wantsDirectory names then lack? files (pathOf next ++ ['/'])
              else if canonical.keepsLinks then
                if names.isEmpty then lack? files (pathOf next) else none
              else if reason = .invalid then none else some reason
            match canonical.existing, lack with
            | .nothing, _ | _, none => passed
            | .butLast, some .notFound =>
                if names.all (·.isEmpty) then passed else .error .notFound
            | _, some error => .error error

def find (canonical : Canonical) (path : Script) : Running (Except FileError Location) := do
  if path.isEmpty then return .error .notFound
  let files := (← get).files
  let start := if path.head? = some '/' then [] else files.working
  return canonical.walk files stepLimit 0 [] (path.splitOn '/') start

end Canonical

/-! ## Telling where paths lead -/

def existingBy (arguments : Arguments) (usual : Existing) : Existing :=
  match arguments.lastOf? "fem" with
  | some 'e' => .all
  | some 'm' => .nothing
  | some _ => .butLast
  | none => usual

def readlink : Utility := fun given =>
  Grammar.run
    { name := "readlink", flags := "femnqsvz"
      long := [("canonicalize", 'f'), ("canonicalize-existing", 'e'),
        ("canonicalize-missing", 'm'), ("no-newline", 'n'), ("quiet", 'q'), ("silent", 's'),
        ("verbose", 'v'), ("zero", 'z')] } given fun arguments => do
      let isVerbose := arguments.lastOf? "qsv" = some 'v'
      let isCanonical := (arguments.lastOf? "fem").isSome
      let dropsEnd := arguments.has 'n' && arguments.operands.length = 1
      if arguments.has 'n' && 1 < arguments.operands.length then
        discard (fail "readlink" "ignoring --no-newline with multiple arguments".toList)
      let ending := if dropsEnd then [] else [recordEnd (arguments.has 'z')]
      let failed := fun (path : Script) (error : FileError) =>
        if isVerbose then failPlainly "readlink" path error else return 1
      forOperands "readlink" arguments.operands fun path => do
        if isCanonical then
          match ← Canonical.find { existing := existingBy arguments .butLast } path with
          | .ok location =>
              print (pathOf location ++ ending)
              return 0
          | .error error => failed path error
        else
          match ← nodeAt? false path with
          | .ok (.link target) =>
              print (Bytes.toLatin target ++ ending)
              return 0
          | .ok _ => failed path .invalid
          | .error error => failed path error

def relativePath (start goal : Location) : Script :=
  let rec go : Location → Location → List Script
    | first :: start, second :: goal =>
        if first = second then go start goal
        else (first :: start).map (fun _ => ['.', '.']) ++ (second :: goal).map Bytes.toLatin
    | start, goal => start.map (fun _ => ['.', '.']) ++ goal.map Bytes.toLatin
  match go start goal with
  | [] => ['.']
  | names => ['/'].intercalate names

def realpath : Utility := fun given =>
  Grammar.run
    { name := "realpath", flags := "emLPqsz", valued := "τβ"
      long := [("canonicalize-existing", 'e'), ("canonicalize-missing", 'm'), ("relative-to", 'τ'),
        ("relative-base", 'β'), ("quiet", 'q'), ("strip", 's'), ("no-symlinks", 's'), ("zero", 'z'),
        ("logical", 'L'), ("physical", 'P')] } given fun arguments => do
    let existing := existingBy arguments .butLast
    let manner := arguments.lastOf? "LPs"
    let keepsLinks := manner = some 's' || manner = some 'L'
    let find := fun (path : Script) => do
      match ← Canonical.find { existing, keepsLinks } path with
      | .ok location =>
          if manner = some 'L' then Canonical.find { existing } (pathOf location)
          else return .ok location
      | .error error => return .error error
    if arguments.operands.isEmpty then return ← failUsage "realpath" "missing operand".toList
    let place := fun (letter : Char) => do
      match arguments.value? letter with
      | none => return Except.ok none
      | some path =>
          match ← find path with
          | .ok location =>
              if existing = .all && !(← isDirectoryAt (pathOf location)) then
                return .error (← failPlainly "realpath" path .notDirectory)
              else return .ok (some location)
          | .error error => return .error (← failPlainly "realpath" path error)
    match ← place 'τ', ← place 'β' with
    | .error status, _ => return status
    | _, .error status => return status
    | .ok start?, .ok base? =>
        -- Nothing is relative if the place to start from is not below the base.
        let isOutside := match start?, base? with
          | some start, some base => !base.isPrefixOf start
          | _, _ => false
        let start? := if isOutside then none else start?.or base?
        let base? := if isOutside then none else base?
        forEachOperand arguments.operands fun path => do
          match ← find path with
          | .error error =>
              if arguments.has 'q' then return 1 else failPlainly "realpath" path error
          | .ok location =>
              let shown := match start? with
                | none => pathOf location
                | some start =>
                    if base?.all (·.isPrefixOf location) then relativePath start location
                    else pathOf location
              print (shown ++ [recordEnd (arguments.has 'z')])
              return 0

end SchemaBuild.Shell.Utility
