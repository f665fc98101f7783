import SchemaBuild.Shell.Utility.Nodes

/-!
# Modes

A mode tells how permissions change. It is a number in octal digits, or clauses such as `u+x` that
are divided by commas.
-/

namespace SchemaBuild.Shell.Utility

/-! ## Changes -/

def everyBit : Nat := 0o7777

def without (bits excluded : Nat) : Nat :=
  bits &&& (everyBit - excluded % 0o10000)

inductive ModeSource where
  | given
  | copied
  | runnable
  deriving DecidableEq

structure ModeChange where
  operator : Char
  source : ModeSource := .given
  affected : Nat
  value : Nat
  /-- The bits that are mentioned. Those that make a program run for its owner stay for directories
  unless they are. -/
  mentioned : Nat
  deriving DecidableEq

namespace ModeChange

def userBits? : Char → Option Nat
  | 'u' => some 0o4700
  | 'g' => some 0o2070
  | 'o' => some 0o1007
  | 'a' => some everyBit
  | _ => none

def copiedBits? : Char → Option Nat
  | 'u' => some 0o700
  | 'g' => some 0o070
  | 'o' => some 0o007
  | _ => none

def permissionBits? : Char → Option Nat
  | 'r' => some 0o444
  | 'w' => some 0o222
  | 'x' => some 0o111
  | 'X' => some 0
  | 's' => some 0o6000
  | 't' => some 0o1000
  | _ => none

def united (bits : List Nat) : Nat :=
  bits.foldl (· ||| ·) 0

def isOperator (character : Char) : Bool :=
  ['=', '+', '-'].contains character

def octal? (digits : Script) : Option Nat :=
  let number := ofDigits 8 digits
  if number ≤ everyBit then some number else none

def readChange (affected : Nat) (operator : Char) (text : Script) : Option (ModeChange × Script) :=
  let digits := text.takeWhile isOctalDigit
  let mentioned := fun (value : Nat) => if affected = 0 then value else affected &&& value
  if !digits.isEmpty then
    let rest := text.drop digits.length
    if affected ≠ 0 || !(rest.isEmpty || rest.head? = some ',') then none
    else (octal? digits).map fun value => (⟨operator, .given, everyBit, value, everyBit⟩, rest)
  else
    match text.head?.bind copiedBits? with
    | some value => some (⟨operator, .copied, affected, value, mentioned value⟩, text.drop 1)
    | none =>
        let letters := text.takeWhile fun letter => (permissionBits? letter).isSome
        let value := united (letters.filterMap permissionBits?)
        let source := if letters.contains 'X' then .runnable else .given
        some (⟨operator, source, affected, value, mentioned value⟩, text.drop letters.length)

def readChanges (affected : Nat) : Nat → Script → Option (List ModeChange × Script)
  | 0, _ => none
  | steps + 1, operator :: text => do
      let (change, rest) ← readChange affected operator text
      if rest.head?.any isOperator then
        let (changes, rest) ← readChanges affected steps rest
        some (change :: changes, rest)
      else some ([change], rest)
  | _ + 1, [] => none

def readClauses : Nat → Script → Option (List ModeChange)
  | 0, _ => none
  | steps + 1, text => do
      let users := text.takeWhile fun letter => (userBits? letter).isSome
      let rest := text.drop users.length
      if !rest.head?.any isOperator then none
      let affected := united (users.filterMap userBits?)
      let (changes, rest) ← readChanges affected (rest.length + 1) rest
      match rest with
      | [] => some changes
      | ',' :: rest => do some (changes ++ (← readClauses steps rest))
      | _ => none

def ofMode? (mode : Script) : Option (List ModeChange) :=
  if mode.head?.any isOctalDigit then
    if !mode.all isOctalDigit then none
    else
      (octal? mode).map fun value =>
        let mentioned := if mode.length < 5 then (value &&& 0o7000) ||| 0o777 else everyBit
        [⟨'=', .given, everyBit, value, mentioned⟩]
  else readClauses (mode.length + 1) mode

def apply (change : ModeChange) (isDirectory : Bool) (mask permissions : Nat) : Nat × Nat :=
  let omitted := if isDirectory then without 0o6000 change.mentioned else 0
  let spread := fun (bits : Nat) =>
    bits ||| (if bits &&& 0o444 ≠ 0 then 0o444 else 0) |||
      (if bits &&& 0o222 ≠ 0 then 0o222 else 0) ||| (if bits &&& 0o111 ≠ 0 then 0o111 else 0)
  let value := match change.source with
    | .given => change.value
    | .copied => spread (change.value &&& permissions)
    | .runnable =>
        if isDirectory || permissions &&& 0o111 ≠ 0 then change.value ||| 0o111 else change.value
  let limit := if change.affected = 0 then without everyBit mask else change.affected
  let value := without (value &&& limit) omitted
  match change.operator with
  | '=' =>
      let kept := (if change.affected = 0 then 0 else without everyBit change.affected) ||| omitted
      ((permissions &&& kept) ||| value, without everyBit kept)
  | '+' => (permissions ||| value, value)
  | _ => (without permissions value, value)

def applyAll (changes : List ModeChange) (isDirectory : Bool) (mask permissions : Nat) :
    Nat × Nat :=
  changes.foldl (fun (permissions, cared) change =>
    let (permissions, bits) := change.apply isDirectory mask permissions
    (permissions, cared ||| bits)) (permissions, 0)

end ModeChange

def modeOf? (mask : Nat) (mode : Script) (permissions : Nat) : Option Nat :=
  (ModeChange.ofMode? mode).map fun changes =>
    (ModeChange.applyAll changes false mask permissions).1

example : modeOf? 0o022 "a+x,g-w".toList 0o664 = some 0o755 := by decide +kernel
example : modeOf? 0o022 "+w".toList 0o444 = some 0o644 := by decide +kernel
example : modeOf? 0 "g=u".toList 0o640 = some 0o660 := by decide +kernel

/-! ## Changing permissions -/

structure PermissionChange where
  changes : List ModeChange
  mask : Nat
  recursive : Bool := false
  quiet : Bool := false
  tells : Option Bool := none
  expectsAll : Bool := false

inductive PermissionOutcome where
  | unseen
  | untouched
  | same (permissions : Nat)
  | changed (before after : Nat)

def tellOutcome (path : Script) : PermissionOutcome → Running Unit
  | .unseen => printLine (quotePath path ++ " could not be accessed".toList)
  | .untouched =>
      printLine ("neither symbolic link ".toList ++ quotePath path ++
        " nor referent has been changed".toList)
  | .same permissions =>
      printLine ("mode of ".toList ++ quotePath path ++ " retained as ".toList ++ shown permissions)
  | .changed before after =>
      printLine ("mode of ".toList ++ quotePath path ++ " changed from ".toList ++ shown before ++
        " to ".toList ++ shown after)
where
  shown (permissions : Nat) : Script :=
    permissionDigits permissions ++ " (".toList ++ permissionText permissions ++ [')']

def PermissionChange.tell (change : PermissionChange) (path : Script)
    (outcome : PermissionOutcome) : Running Unit := do
  match change.tells, outcome with
  | some true, outcome => tellOutcome path outcome
  | some false, .changed before after => tellOutcome path (.changed before after)
  | _, _ => pure ()

def PermissionChange.applyTo (change : PermissionChange) (path : Script) (node : Node) :
    Running Nat := do
  let before := permissionsOf (← get).files node
  let after := (ModeChange.applyAll change.changes node.isDirectory change.mask before).1
  discard (changeFiles fun files => files.changePermissions (Bytes.ofLatin path) fun _ => after)
  change.tell path (if before = after then .same after else .changed before after)
  let naive := (ModeChange.applyAll change.changes node.isDirectory 0 before).1
  if change.expectsAll && without after naive ≠ 0 then
    fail "chmod" (Quotation.ifNeeded path ++ ": new permissions are ".toList ++
      permissionText after ++ ", not ".toList ++ permissionText naive)
  else return 0

/-- Change the permissions of what is at a path, and of everything below it if that is asked for.
Links below a directory are left alone. -/
def PermissionChange.run (change : PermissionChange) (path : Script) : Running Nat := do
  let failed := fun (message : Running Nat) => do
    unless change.quiet do discard message
    change.tell path .unseen
    return 1
  match ← nodeAt? true path with
  | .error error =>
      match error, ← nodeAt? false path with
      | .notFound, .ok (.link _) =>
          failed (fail "chmod" ("cannot operate on dangling symlink ".toList ++ quotePath path))
      | _, _ => failed (failAt "chmod" "cannot access " path error)
  | .ok node =>
      let status ← change.applyTo path node
      match change.recursive, node with
      | true, .directory entries =>
          (entries.listing (Bytes.ofLatin (dropSlashes path))).foldlM (fun status (place, node) => do
            let path := Bytes.toLatin place
            match node with
            | .link _ =>
                change.tell path .untouched
                return status
            | node => return max status (← change.applyTo path node)) status
      | _, _ => return status

def isDashedMode : Script → Bool
  | '-' :: letter :: _ => "rwxXstugoa,+=01234567".toList.contains letter
  | _ => false

def chmod : Utility := fun given => do
  let beforeEnd := given.takeWhile (· ≠ ['-', '-'])
  let modes := beforeEnd.filter isDashedMode
  let others := beforeEnd.filter (fun word => !isDashedMode word) ++ given.drop beforeEnd.length
  Grammar.run
    { name := "chmod", flags := "Rvcfαβ", valued := "γ"
      long := [("changes", 'c'), ("recursive", 'R'), ("no-preserve-root", 'α'),
        ("preserve-root", 'β'), ("quiet", 'f'), ("reference", 'γ'), ("silent", 'f'),
        ("verbose", 'v')] } others fun arguments => do
    let dashed := [','].intercalate modes
    let reference := arguments.value? 'γ'
    if reference.isSome && !modes.isEmpty then
      return ← failUsage "chmod" "cannot combine mode and --reference options".toList
    let (mode, paths) := if reference.isSome || !modes.isEmpty then (dashed, arguments.operands)
      else (arguments.operands.headD [], arguments.operands.drop 1)
    if paths.isEmpty then
      if reference.isNone && modes.isEmpty && !arguments.operands.isEmpty then
        return ← failUsage "chmod" ("missing operand after ".toList ++ quote mode)
      else return ← failUsage "chmod" "missing operand".toList
    let changes ← match reference with
      | some path =>
          match ← nodeAt? true path with
          | .error error => return ← failAt "chmod" "failed to get attributes of " path error
          | .ok node => do
              let permissions := permissionsOf (← get).files node
              pure (some [⟨'=', .given, everyBit, permissions, everyBit⟩])
      | none => pure (ModeChange.ofMode? mode)
    match changes with
    | none => failUsage "chmod" ("invalid mode: ".toList ++ quote mode)
    | some changes =>
        let change : PermissionChange :=
          { changes := changes
            mask := (← environment).mask
            recursive := arguments.has 'R'
            quiet := arguments.has 'f'
            tells := (arguments.lastOf? "vc").map (· = 'v')
            expectsAll := !modes.isEmpty }
        forEachOperand paths fun path => do
          if change.recursive && arguments.lastOf? "αβ" = some 'β' &&
              (← get).files.locate true (Bytes.ofLatin path) matches .ok (.node [] _) then
            refuseTop "chmod" path
          else change.run path

end SchemaBuild.Shell.Utility
