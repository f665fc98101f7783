import SchemaBuild.FileSystem

/-!
# Trees of entries

What a change of one directory does to the lookup of entries, in this directory and everywhere
else in the tree. The entries of a directory have to be in order, with names that can stand in a
path, so that an entry that is taken out leaves nothing of its name behind.
-/

namespace SchemaBuild

/-! ## Names -/

/-- A name that an entry can have: it can stand between the slashes of a path and does not have a
meaning of its own there. -/
structure IsProper (name : Name) : Prop where
  notEmpty : name ≠ finalSlash
  notCurrent : name ≠ currentName
  notParent : name ≠ parentName
  noSlash : slashByte ∉ name

instance (name : Name) : Decidable (IsProper name) :=
  decidable_of_iff (name ≠ finalSlash ∧ name ≠ currentName ∧ name ≠ parentName ∧ slashByte ∉ name)
    ⟨fun ⟨notEmpty, notCurrent, notParent, noSlash⟩ => ⟨notEmpty, notCurrent, notParent, noSlash⟩,
      fun proper => ⟨proper.notEmpty, proper.notCurrent, proper.notParent, proper.noSlash⟩⟩

/-! ## One directory -/

@[induction_eliminator]
theorem Directory.induction {motive : Directory → Prop}
    (empty : ∀ permissions, motive (.empty permissions))
    (cons : ∀ name node rest, motive rest → motive (.cons name node rest))
    (directory : Directory) : motive directory := by
  match directory with
  | .empty permissions => exact empty permissions
  | .cons name node rest => exact cons name node rest (Directory.induction empty cons rest)

namespace Directory

@[simp] theorem permissions_put (name : Name) (node : Node) (directory : Directory) :
    (directory.put name node).permissions = directory.permissions := by
  induction directory with
  | empty => rfl
  | cons other old rest induction =>
      simp only [put]
      split
      · rfl
      · split
        · rfl
        · exact induction

@[simp] theorem permissions_erase (name : Name) (directory : Directory) :
    (directory.erase name).permissions = directory.permissions := by
  induction directory with
  | empty => rfl
  | cons other old rest induction =>
      simp only [erase]
      split
      · rfl
      · exact induction

theorem get?_put (name other : Name) (node : Node) (directory : Directory) :
    (directory.put name node).get? other =
      if name = other then some node else directory.get? other := by
  induction directory with
  | empty => simp [put, get?]
  | cons first old rest induction =>
      simp only [put]
      split
      next same =>
        subst same
        simp only [get?]
        split <;> rfl
      next different =>
        split
        · simp [get?]
        · simp only [get?, induction]
          by_cases atFirst : first = other
          · subst atFirst
            simp [Ne.symm different]
          · simp [atFirst]

theorem get?_erase_of_ne {name other : Name} (different : other ≠ name) (directory : Directory) :
    (directory.erase name).get? other = directory.get? other := by
  induction directory with
  | empty => rfl
  | cons first old rest induction =>
      simp only [erase]
      split
      next same =>
        subst same
        simp [get?, Ne.symm different]
      next => simp only [get?, induction]

theorem mem_toList_of_get? {name : Name} {node : Node} {directory : Directory}
    (found : directory.get? name = some node) : (name, node) ∈ directory.toList := by
  induction directory with
  | empty => simp [get?] at found
  | cons first old rest induction =>
      simp only [get?] at found
      split at found
      next same =>
        obtain rfl := Option.some.inj found
        simp [toList, same]
      next => exact List.mem_cons_of_mem _ (induction found)

theorem mem_toList_put {name : Name} {node : Node} {directory : Directory}
    {entry : Name × Node} (member : entry ∈ (directory.put name node).toList) :
    entry = (name, node) ∨ entry ∈ directory.toList := by
  induction directory with
  | empty => simpa [put, toList] using member
  | cons first old rest induction =>
      simp only [put] at member
      split at member
      · simp only [toList, List.mem_cons] at member ⊢
        exact member.imp_right .inr
      · split at member
        · simpa [toList] using member
        · simp only [toList, List.mem_cons] at member ⊢
          rcases member with atFirst | inRest
          · exact .inr (.inl atFirst)
          · exact (induction inRest).imp_right .inr

theorem mem_toList_erase {name : Name} {directory : Directory} {entry : Name × Node}
    (member : entry ∈ (directory.erase name).toList) : entry ∈ directory.toList := by
  induction directory with
  | empty => exact member
  | cons first old rest induction =>
      simp only [erase] at member
      split at member
      · exact List.mem_cons_of_mem _ member
      · simp only [toList, List.mem_cons] at member ⊢
        exact member.imp_right induction

end Directory

/-! ## Sound trees -/

mutual

def Node.Sound (files : Nat) : Node → Prop
  | .file id => id < files
  | .link _ => True
  | .device _ => True
  | .directory entries => entries.Sound files

def Directory.Sound (files : Nat) : Directory → Prop
  | .empty _ => True
  | .cons name node rest =>
      IsProper name ∧ node.Sound files ∧ (∀ entry ∈ rest.toList, name < entry.1) ∧
        rest.Sound files

end

mutual

def Node.decidableSound (files : Nat) : (node : Node) → Decidable (node.Sound files)
  | .file id => inferInstanceAs (Decidable (id < files))
  | .link _ => .isTrue trivial
  | .device _ => .isTrue trivial
  | .directory entries => entries.decidableSound files

def Directory.decidableSound (files : Nat) : (directory : Directory) →
    Decidable (directory.Sound files)
  | .empty _ => .isTrue trivial
  | .cons name node rest =>
      have := node.decidableSound files
      have := rest.decidableSound files
      inferInstanceAs (Decidable (IsProper name ∧ node.Sound files ∧
        (∀ entry ∈ rest.toList, name < entry.1) ∧ rest.Sound files))

end

instance (files : Nat) (directory : Directory) : Decidable (directory.Sound files) :=
  directory.decidableSound files

mutual

theorem Node.Sound.mono {files more : Nat} (le : files ≤ more) {node : Node}
    (sound : node.Sound files) : node.Sound more := by
  match node with
  | .file id =>
      rw [Node.Sound] at sound ⊢
      exact Nat.lt_of_lt_of_le sound le
  | .link _ => trivial
  | .device _ => trivial
  | .directory entries =>
      rw [Node.Sound] at sound ⊢
      exact Directory.Sound.mono le sound

theorem Directory.Sound.mono {files more : Nat} (le : files ≤ more) {directory : Directory}
    (sound : directory.Sound files) : directory.Sound more := by
  match directory with
  | .empty _ => trivial
  | .cons name node rest =>
      rw [Directory.Sound] at sound ⊢
      exact ⟨sound.1, sound.2.1.mono le, sound.2.2.1, Directory.Sound.mono le sound.2.2.2⟩

end

namespace Directory

variable {files : Nat} {directory : Directory}

theorem Sound.get? {name : Name} {node : Node} (sound : directory.Sound files)
    (found : directory.get? name = some node) : IsProper name ∧ node.Sound files := by
  induction directory with
  | empty => simp [Directory.get?] at found
  | cons first old rest induction =>
      rw [Sound] at sound
      simp only [Directory.get?] at found
      split at found
      next same =>
        obtain rfl := Option.some.inj found
        exact ⟨same ▸ sound.1, sound.2.1⟩
      next => exact induction sound.2.2.2 found

theorem Sound.put {name : Name} {node : Node} (sound : directory.Sound files)
    (proper : IsProper name) (nodeSound : node.Sound files) :
    (directory.put name node).Sound files := by
  induction directory with
  | empty => simp [Directory.put, Sound, proper, nodeSound, toList]
  | cons first old rest induction =>
      have whole := sound
      rw [Sound] at sound
      obtain ⟨firstProper, oldSound, ascending, restSound⟩ := sound
      simp only [Directory.put]
      split
      next same =>
        rw [Sound]
        exact ⟨proper, nodeSound, same ▸ ascending, restSound⟩
      next different =>
        split
        next before =>
          rw [Sound]
          refine ⟨proper, nodeSound, fun entry member => ?_, whole⟩
          simp only [toList, List.mem_cons] at member
          rcases member with rfl | inRest
          · exact before
          · exact List.lt_trans before (ascending entry inRest)
        next notBefore =>
          have after : first < name :=
            Std.lt_of_le_of_ne (List.not_lt.1 notBefore) different
          rw [Sound]
          refine ⟨firstProper, oldSound, fun entry member => ?_, induction restSound⟩
          rcases mem_toList_put member with rfl | inRest
          · exact after
          · exact ascending entry inRest

theorem Sound.erase (sound : directory.Sound files) (name : Name) :
    (directory.erase name).Sound files := by
  induction directory with
  | empty => exact sound
  | cons first old rest induction =>
      rw [Sound] at sound
      obtain ⟨firstProper, oldSound, ascending, restSound⟩ := sound
      simp only [Directory.erase]
      split
      · exact restSound
      · rw [Sound]
        exact ⟨firstProper, oldSound,
          fun entry member => ascending entry (mem_toList_erase member), induction restSound⟩

theorem get?_of_ascending {name : Name} (ascending : ∀ entry ∈ directory.toList, name < entry.1) :
    directory.get? name = none := by
  cases found : directory.get? name with
  | none => rfl
  | some node => exact absurd (ascending _ (mem_toList_of_get? found)) (List.lt_irrefl name)

theorem Sound.get?_erase_self (sound : directory.Sound files) (name : Name) :
    (directory.erase name).get? name = none := by
  induction directory with
  | empty => rfl
  | cons first old rest induction =>
      rw [Sound] at sound
      obtain ⟨-, -, ascending, restSound⟩ := sound
      simp only [Directory.erase]
      split
      next same =>
        subst same
        exact get?_of_ascending ascending
      next different =>
        simp only [Directory.get?, if_neg different]
        exact induction restSound

end Directory

/-! ## Trees -/

def Node.find? : List Name → Node → Option Node
  | names, .directory entries => entries.find? names
  | [], node => some node
  | _ :: _, _ => none

@[simp] theorem Node.find?_nil (node : Node) : node.find? [] = some node := by
  cases node <;> rfl

namespace Directory

variable {files : Nat} {directory : Directory}

@[simp] theorem find?_nil (directory : Directory) :
    directory.find? [] = some (.directory directory) :=
  rfl

theorem find?_cons (name : Name) (names : List Name) (directory : Directory) :
    directory.find? (name :: names) = (directory.get? name).bind (Node.find? names) := by
  rw [find?]
  cases directory.get? name with
  | none => rfl
  | some node => cases names <;> cases node <;> rfl

theorem find?_append (names rest : List Name) (directory : Directory) :
    directory.find? (names ++ rest) = (directory.find? names).bind (Node.find? rest) := by
  induction names generalizing directory with
  | nil => rfl
  | cons head tail induction =>
      rw [List.cons_append, find?_cons, find?_cons]
      cases directory.get? head with
      | none => rfl
      | some node =>
          cases node with
          | directory inner => exact induction inner
          | file => cases tail <;> cases rest <;> rfl
          | link => cases tail <;> cases rest <;> rfl
          | device => cases tail <;> cases rest <;> rfl

theorem Sound.find? {names : List Name} {node : Node} (sound : directory.Sound files)
    (found : directory.find? names = some node) : node.Sound files := by
  induction names generalizing directory with
  | nil =>
      obtain rfl := Option.some.inj found
      rwa [Node.Sound]
  | cons head tail induction =>
      rw [find?_cons] at found
      obtain ⟨middle, atHead, found⟩ := Option.bind_eq_some_iff.1 found
      have middleSound := (sound.get? atHead).2
      cases middle with
      | directory inner => exact induction (by rwa [Node.Sound] at middleSound) found
      | file => cases tail <;> cases found; exact middleSound
      | link => cases tail <;> cases found; exact middleSound
      | device => cases tail <;> cases found; exact middleSound

theorem Sound.proper {names : List Name} {node : Node} (sound : directory.Sound files)
    (found : directory.find? names = some node) : ∀ name ∈ names, IsProper name := by
  induction names generalizing directory with
  | nil => simp
  | cons head tail induction =>
      rw [find?_cons] at found
      obtain ⟨middle, atHead, found⟩ := Option.bind_eq_some_iff.1 found
      obtain ⟨headProper, middleSound⟩ := sound.get? atHead
      have tailProper : ∀ name ∈ tail, IsProper name := by
        cases middle with
        | directory inner => exact induction (by rwa [Node.Sound] at middleSound) found
        | file => cases tail <;> simp [Node.find?] at found ⊢
        | link => cases tail <;> simp [Node.find?] at found ⊢
        | device => cases tail <;> simp [Node.find?] at found ⊢
      simpa [headProper] using tailProper

/-! ## Changes of one directory in a tree -/

variable {update : Directory → Directory}

theorem Sound.change {names : List Name} (sound : directory.Sound files)
    (keeps : ∀ inner : Directory, inner.Sound files → (update inner).Sound files) :
    (directory.change update names).Sound files := by
  induction names generalizing directory with
  | nil => exact keeps directory sound
  | cons head tail induction =>
      rw [Directory.change]
      split
      next inner atHead =>
        obtain ⟨proper, innerSound⟩ := sound.get? atHead
        rw [Node.Sound] at innerSound
        exact sound.put proper (by rw [Node.Sound]; exact induction innerSound)
      next => exact sound

theorem permissions_change {names : List Name}
    (keeps : ∀ inner : Directory, (update inner).permissions = inner.permissions) :
    (directory.change update names).permissions = directory.permissions := by
  cases names with
  | nil => exact keeps directory
  | cons head tail =>
      rw [Directory.change]
      split
      · rw [permissions_put]
      · rfl

theorem find?_change_below {names : List Name} {inner : Directory}
    (found : directory.find? names = some (.directory inner)) (rest : List Name) :
    (directory.change update names).find? (names ++ rest) = (update inner).find? rest := by
  induction names generalizing directory with
  | nil =>
      obtain rfl : directory = inner := by simpa using found
      rfl
  | cons head tail induction =>
      rw [find?_cons] at found
      obtain ⟨middle, atHead, found⟩ := Option.bind_eq_some_iff.1 found
      have isDirectory : ∃ entries, middle = .directory entries := by
        cases middle with
        | directory entries => exact ⟨entries, rfl⟩
        | file => cases tail <;> cases found
        | link => cases tail <;> cases found
        | device => cases tail <;> cases found
      obtain ⟨entries, rfl⟩ := isDirectory
      rw [List.cons_append, find?_cons, Directory.change, atHead]
      simp only [get?_put, if_true, Option.bind_some]
      exact induction found

end Directory

/-! ## What a node is by itself -/

/-- A node without what is below it. -/
def Node.bare : Node → Node
  | .directory entries => .directory (.empty entries.permissions)
  | node => node

/-- Apart from the directory that was changed, all nodes are what they were, up to what is below
them. -/
theorem Directory.find?_change_apart {update : Directory → Directory} {names other : List Name}
    (keeps : ∀ inner : Directory, (update inner).permissions = inner.permissions)
    (apart : ¬names <+: other) (directory : Directory) :
    ((directory.change update names).find? other).map Node.bare =
      (directory.find? other).map Node.bare := by
  induction names generalizing directory other with
  | nil => exact absurd List.nil_prefix apart
  | cons head tail induction =>
      cases other with
      | nil => simp [Node.bare, Directory.permissions_change keeps]
      | cons first others =>
          rw [Directory.change]
          split
          next inner atHead =>
            rw [find?_cons, find?_cons, get?_put]
            by_cases same : head = first
            · subst same
              have apartBelow : ¬tail <+: others := by
                intro within
                exact apart (List.cons_prefix_cons.2 ⟨rfl, within⟩)
              rw [if_pos rfl, atHead]
              exact induction apartBelow inner
            · rw [if_neg same]
          next => rfl

theorem Directory.find?_change_of_missing {update : Directory → Directory} {names : List Name}
    {directory : Directory} (missing : ∀ inner, directory.find? names ≠ some (.directory inner))
    (other : List Name) :
    ((directory.change update names).find? other).map Node.bare =
      (directory.find? other).map Node.bare := by
  induction names generalizing directory other with
  | nil => exact absurd (find?_nil directory) (missing directory)
  | cons head tail induction =>
      rw [Directory.change]
      split
      next inner atHead =>
        have below : ∀ entries, inner.find? tail ≠ some (.directory entries) := by
          intro entries found
          apply missing entries
          rw [find?_cons, atHead, Option.bind_some, Node.find?]
          exact found
        cases other with
        | nil => simp [Node.bare]
        | cons first others =>
            rw [find?_cons, find?_cons, get?_put]
            by_cases same : head = first
            · subst same
              rw [if_pos rfl, atHead, Option.bind_some, Option.bind_some]
              exact induction below others
            · rw [if_neg same]
      next => rfl

end SchemaBuild
