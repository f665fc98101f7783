import SchemaBuild.Proofs.FileSystem.Writing

/-!
# Views

Two file systems may number their files differently. What is viewed at a location is what is seen
there, but for the number of a file. File systems that show the same views at the entries where a
program works look alike to it.
-/

namespace SchemaBuild

/-- What is viewed of an entry, without the number of a file. -/
inductive View where
  | file (stored : StoredFile)
  | link (target : Bytes)
  | device (device : Device)
  | directory (permissions : Nat)
  deriving DecidableEq

def Sight.view : Sight → View
  | .file _ stored => .file stored
  | .link target => .link target
  | .device kind => .device kind
  | .directory permissions => .directory permissions

namespace FileSystem

variable {files before after first second firstAfter secondAfter : FileSystem}
  {place location : Location} {names own : List Name} {name : Name}

def view? (files : FileSystem) (location : Location) : Option View :=
  (files.sight? location).map Sight.view

theorem view?_of_node? {node : Node} (found : files.node? place = some node) :
    files.view? place = some (files.sightOf node).view := by
  rw [view?, sight?_of_node? found, Option.map_some]

theorem view?_of_none (none : files.node? place = none) : files.view? place = .none := by
  rw [view?, sight?_eq_none.2 none, Option.map_none]

theorem view?_congr (same : after.sight? place = before.sight? place) :
    after.view? place = before.view? place := by
  rw [view?, view?, same]

theorem node?_none_of_view? (same : second.view? place = first.view? place)
    (none : first.node? place = none) : second.node? place = .none := by
  cases found : second.node? place with
  | none => rfl
  | some node =>
      rw [view?_of_node? found, view?_of_none none] at same
      cases same

theorem file_of_view? {id : FileId} (same : second.view? place = first.view? place)
    (found : first.node? place = some (.file id)) :
    ∃ other, second.node? place = some (.file other) ∧
      second.storedAt other = first.storedAt id := by
  rw [view?_of_node? found] at same
  cases here : second.node? place with
  | none =>
      rw [view?_of_none here] at same
      cases same
  | some node =>
      rw [view?_of_node? here] at same
      cases node with
      | file other =>
          refine ⟨other, rfl, ?_⟩
          simpa [sightOf, Sight.view] using same
      | link | device | directory => cases same

theorem directory_of_view? {entries : Directory} (same : second.view? place = first.view? place)
    (found : first.node? place = some (.directory entries)) :
    ∃ others, second.node? place = some (.directory others) ∧
      others.permissions = entries.permissions := by
  rw [view?_of_node? found] at same
  cases here : second.node? place with
  | none =>
      rw [view?_of_none here] at same
      cases same
  | some node =>
      rw [view?_of_node? here] at same
      cases node with
      | directory others =>
          refine ⟨others, rfl, ?_⟩
          simpa [sightOf, Sight.view] using same
      | link | device | file => cases same

def inheritedFrom : Option View → Nat
  | some (.directory permissions) => permissions &&& 0o2000
  | _ => 0

theorem inheritedPermissions_of_view? (same : second.view? place = first.view? place) :
    second.inheritedPermissions place = first.inheritedPermissions place := by
  have viewed (files : FileSystem) :
      files.inheritedPermissions place = inheritedFrom (files.view? place) := by
    rw [inheritedPermissions]
    cases found : files.node? place with
    | none =>
        rw [view?_of_none found]
        rfl
    | some node =>
        rw [view?_of_node? found]
        cases node <;> rfl
  rw [viewed, viewed, same]

/-! ## Places that look alike -/

/-- What two file systems have at a place, if it is the same but for the number of a file, which has
no other name. -/
inductive SamePlace (first second : FileSystem) (place : Location) : Prop
  | none (inFirst : first.node? place = none) (inSecond : second.node? place = none)
  | file (id other : FileId) (inFirst : first.IsOnlyName place id)
      (inSecond : second.IsOnlyName place other)
      (stored : second.storedAt other = first.storedAt id)
  | directory (entries others : Directory) (inFirst : first.node? place = some (.directory entries))
      (inSecond : second.node? place = some (.directory others))
      (permissions : others.permissions = entries.permissions)

theorem samePlace (same : second.view? place = first.view? place) (unshared : first.Unshared place)
    (alsoUnshared : second.Unshared place) : SamePlace first second place := by
  cases found : first.node? place with
  | none => exact .none found (node?_none_of_view? same found)
  | some node =>
      rcases unshared node found with isDirectory | ⟨id, rfl, only⟩
      · cases node with
        | directory entries =>
            obtain ⟨others, here, permissions⟩ := directory_of_view? same found
            exact .directory entries others found here permissions
        | file | link | device => cases isDirectory
      · obtain ⟨other, here, stored⟩ := file_of_view? same found
        rcases alsoUnshared _ here with isDirectory | ⟨_, isFile, alsoOnly⟩
        · cases isDirectory
        · obtain rfl := Node.file.inj isFile
          exact .file id other only alsoOnly stored

namespace SamePlace

theorem view (same : SamePlace first second place) : second.view? place = first.view? place := by
  cases same with
  | none inFirst inSecond => rw [view?_of_none inFirst, view?_of_none inSecond]
  | file id other inFirst inSecond stored =>
      rw [view?_of_node? inFirst.here, view?_of_node? inSecond.here, sightOf, sightOf, stored]
      rfl
  | directory entries others inFirst inSecond permissions =>
      rw [view?_of_node? inFirst, view?_of_node? inSecond, sightOf, sightOf, permissions]

theorem symm (same : SamePlace first second place) : SamePlace second first place := by
  cases same with
  | none inFirst inSecond => exact .none inSecond inFirst
  | file id other inFirst inSecond stored => exact .file other id inSecond inFirst stored.symm
  | directory entries others inFirst inSecond permissions =>
      exact .directory others entries inSecond inFirst permissions.symm

theorem unshared (same : SamePlace first second place) : first.Unshared place := by
  intro node found
  cases same with
  | none inFirst => rw [inFirst] at found; cases found
  | file id other inFirst => exact inFirst.unshared node found
  | directory entries others inFirst =>
      rw [inFirst] at found
      exact .inl (Option.some.inj found ▸ rfl)

theorem hasDirectory_iff (same : SamePlace first second place) :
    second.HasDirectory place ↔ first.HasDirectory place := by
  cases same with
  | none inFirst inSecond => simp [HasDirectory, inFirst, inSecond]
  | file id other inFirst inSecond => simp [HasDirectory, inFirst.here, inSecond.here]
  | directory entries others inFirst inSecond => simp [HasDirectory, inFirst, inSecond]

theorem leaf_iff (same : SamePlace first second place) :
    (∃ leaf, second.node? place = some leaf ∧ leaf.isDirectory = false) ↔
      ∃ leaf, first.node? place = some leaf ∧ leaf.isDirectory = false := by
  cases same with
  | none inFirst inSecond => simp [inFirst, inSecond]
  | file id other inFirst inSecond =>
      simp [inFirst.here, inSecond.here, Node.isDirectory]
  | directory entries others inFirst inSecond => simp [inFirst, inSecond, Node.isDirectory]

theorem of_vacant (inFirst : first.node? (location ++ [name]) = .none)
    (inSecond : second.node? (location ++ [name]) = .none) (rest : Location) :
    SamePlace first second (location ++ name :: rest) := by
  rw [← List.singleton_append, ← List.append_assoc]
  exact .none (by rw [node?_append, inFirst, Option.bind_none])
    (by rw [node?_append, inSecond, Option.bind_none])

theorem of_file {id other : FileId} (inFirst : first.IsOnlyName (location ++ [name]) id)
    (inSecond : second.IsOnlyName (location ++ [name]) other)
    (stored : second.storedAt other = first.storedAt id) (rest : Location) :
    SamePlace first second (location ++ name :: rest) := by
  cases rest with
  | nil => exact .file id other inFirst inSecond stored
  | cons head tail =>
      rw [← List.singleton_append, ← List.append_assoc]
      exact .none (by rw [node?_append, inFirst.here]; rfl)
        (by rw [node?_append, inSecond.here]; rfl)

theorem of_empty {permissions : Nat}
    (inFirst : first.node? (location ++ [name]) = some (.directory (.empty permissions)))
    (inSecond : second.node? (location ++ [name]) = some (.directory (.empty permissions)))
    (rest : Location) : SamePlace first second (location ++ name :: rest) := by
  cases rest with
  | nil => exact .directory _ _ inFirst inSecond rfl
  | cons head tail =>
      rw [← List.singleton_append, ← List.append_assoc]
      exact .none (by rw [node?_append, inFirst]; rfl) (by rw [node?_append, inSecond]; rfl)

end SamePlace

theorem samePlace_putFile {permissions : Nat} (sound : first.Sound) (otherSound : second.Sound)
    (empty : first.node? location = some (.directory (.empty permissions)))
    (otherEmpty : second.node? location = some (.directory (.empty permissions)))
    (file : StoredFile) (below : Location) :
    SamePlace (first.putFile location name file) (second.putFile location name file)
      (location ++ below) := by
  have kept {files : FileSystem} (sound : files.Sound)
      (empty : files.node? location = some (.directory (.empty permissions))) {place : Location}
      (apart : ¬location ++ [name] <+: place) :
      (files.putFile location name file).sight? place = files.sight? place :=
    sound.sight?_putFile_apart ⟨_, empty⟩ file apart
  cases below with
  | nil =>
      rw [List.append_nil]
      have here {files : FileSystem} (sound : files.Sound)
          (empty : files.node? location = some (.directory (.empty permissions))) :
          ∃ entries, (files.putFile location name file).node? location =
            some (.directory entries) ∧ entries.permissions = permissions := by
        have seen := kept sound empty (not_below_entry location name)
        rw [sight?_of_node? empty] at seen
        exact sight?_eq_directory.1 seen
      obtain ⟨entries, found, same⟩ := here sound empty
      obtain ⟨others, otherFound, otherSame⟩ := here otherSound otherEmpty
      exact .directory entries others found otherFound (otherSame.trans same.symm)
  | cons head rest =>
      by_cases isName : head = name
      · subst isName
        refine .of_file (isOnlyName_putFile sound ⟨_, empty⟩ file)
          (isOnlyName_putFile otherSound ⟨_, otherEmpty⟩ file) ?_ rest
        rw [storedAt_putFile_self, storedAt_putFile_self]
      · have vacant {files : FileSystem} (sound : files.Sound)
            (empty : files.node? location = some (.directory (.empty permissions))) :
            (files.putFile location name file).node? (location ++ [head]) = none := by
          have apart : ¬location ++ [name] <+: location ++ [head] := by
            simpa [List.prefix_append_right_inj] using Ne.symm isName
          rw [← sight?_eq_none, kept sound empty apart, sight?_eq_none, node?_append, empty]
          rfl
        exact .of_vacant (vacant sound empty) (vacant otherSound otherEmpty) rest

inductive SameEnd (top : Location) (first second : FileSystem) :
    Except FileError Place → Except FileError Place → Prop
  | error (error : FileError) : SameEnd top first second (.error error) (.error error)
  | vacant (directory : Location) (name : Name) :
      SameEnd top first second (.ok (.vacant directory name)) (.ok (.vacant directory name))
  | file (place : Location) (within : top <+: place) (id other : FileId)
      (inFirst : first.IsOnlyName place id) (inSecond : second.IsOnlyName place other)
      (stored : second.storedAt other = first.storedAt id) :
      SameEnd top first second (.ok (.node place (.file id))) (.ok (.node place (.file other)))
  | directory (place : Location) (entries others : Directory) :
      SameEnd top first second (.ok (.node place (.directory entries)))
        (.ok (.node place (.directory others)))

theorem sameEnd_of_step {top start : Location} {links : Nat} (step : IsStep name)
    (present : (second.node? start).isSome = (first.node? start).isSome)
    (within : top <+: start ++ [name]) (atName : SamePlace first second (start ++ [name]))
    (onward : SameEnd top first second (first.walk .target links names (start ++ [name]))
      (second.walk .target links names (start ++ [name]))) :
    SameEnd top first second (first.walk .target links (name :: names) start)
      (second.walk .target links (name :: names) start) := by
  rw [walk_step step (by simp), walk_step step (by simp)]
  cases atName with
  | none inFirst inSecond =>
      rw [inFirst, inSecond]
      simp only [present]
      split
      · exact .vacant start name
      · exact .error _
  | file id other inFirst inSecond stored =>
      rw [inFirst.here, inSecond.here]
      simp only
      split
      · exact .file _ within id other inFirst inSecond stored
      · exact .error _
  | directory entries others inFirst inSecond =>
      rw [inFirst, inSecond]
      exact onward

theorem sameEnd_of_walk {top start : Location} {links : Nat} (within : top <+: start)
    (noParent : parentName ∉ names) (same : ∀ rest, SamePlace first second (start ++ rest)) :
    SameEnd top first second (first.walk .target links names start)
      (second.walk .target links names start) := by
  induction names generalizing start with
  | nil =>
      have here := same []
      rw [List.append_nil] at here
      rw [walk_eq, walk_eq, walkWith, walkWith]
      cases here with
      | none inFirst inSecond =>
          rw [inFirst, inSecond]
          exact .error _
      | file id other inFirst inSecond stored =>
          rw [inFirst.here, inSecond.here]
          exact .file start within id other inFirst inSecond stored
      | directory entries others inFirst inSecond =>
          rw [inFirst, inSecond]
          exact .directory start entries others
  | cons name names induction =>
      have below : parentName ∉ names := fun member => noParent (.tail _ member)
      have notParent : name ≠ parentName := by
        rintro rfl
        exact noParent List.mem_cons_self
      by_cases dot : name = currentName ∨ name = finalSlash
      · rw [walk_stay dot, walk_stay dot]
        exact induction within below same
      by_cases long : longestName < name.length
      · rw [walk_long notParent dot long (by simp), walk_long notParent dot long (by simp)]
        exact .error _
      have step : IsStep name := ⟨fun empty => dot (.inr empty), fun current => dot (.inl current),
        notParent, Nat.not_lt.1 long⟩
      have present : (second.node? start).isSome = (first.node? start).isSome := by
        have here := same []
        rw [List.append_nil] at here
        cases here with
        | none inFirst inSecond => rw [inFirst, inSecond]
        | file id other inFirst inSecond => rw [inFirst.here, inSecond.here]; rfl
        | directory entries others inFirst inSecond => rw [inFirst, inSecond]; rfl
      have further (rest : Location) : SamePlace first second (start ++ [name] ++ rest) := by
        rw [List.append_assoc]
        exact same ([name] ++ rest)
      have deeper : top <+: start ++ [name] := within.trans (List.prefix_append _ _)
      exact sameEnd_of_step step present deeper (same [name])
        (induction deeper below further)

theorem exists?_of_sameEnd {top : Location} {path : Bytes}
    (same : SameEnd top first second (first.locate true path) (second.locate true path)) :
    second.exists? path = first.exists? path := by
  unfold FileSystem.exists?
  generalize first.locate true path = inFirst at same ⊢
  generalize second.locate true path = inSecond at same ⊢
  cases same <;> rfl

end FileSystem

end SchemaBuild
