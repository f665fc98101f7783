import SchemaBuild.Proofs.FileSystem.Growth
import SchemaBuild.Proofs.Job.Publication

/-!
# Traversals of directories

A directory is collected by listing it and every directory below it, one after the other, where the
directories that are still to be listed wait on a stack. In which order a directory lists its
entries is up to the system. Whatever the order, the traversal comes to an end, and what it found is
the same when it is sorted.
-/

namespace SchemaBuild

/-! ## Directories that can be listed -/

namespace FileSystem

variable {files : FileSystem} {directory path : Bytes} {left links : Nat}
  {top start target : Location} {names : Location} {entries inner : Directory}

theorem Leads.withoutSlash
    (leads : Leads files links (walkNames path) start left target) :
    Leads files links (pathNames path) start left target := by
  rw [walkNames] at leads
  split at leads
  next =>
    rcases leads.split with ⟨between, middle, first, last⟩
    cases last with
    | stay _ rest =>
        cases rest
        exact first
    | down step => exact absurd rfl step.notEmpty
    | follow step => exact absurd rfl step.notEmpty
  next =>
    rwa [List.append_nil] at leads

theorem enters_of_list (lists : files.list path = .ok entries) :
    Fits path ∧ ∃ left top, files.Enters path left top ∧
      files.node? top = some (.directory entries) := by
  rw [list] at lists
  cases located : files.locate true path with
  | error error => simp [located, bind, Except.bind] at lists
  | ok place =>
      rw [located] at lists
      cases place with
      | vacant directory name => cases lists
      | node top node =>
          cases node with
          | directory others =>
              rcases Except.ok.inj lists with rfl
              have found := node?_of_locate located
              rw [locate, if_pos rfl] at located
              have fits := fits_of_seek located
              rw [seek_of_fits fits] at located
              rcases leads_of_walk_target located with ⟨left, leads, -⟩
              exact ⟨fits, left, top, ⟨leads.withoutSlash, ⟨_, found⟩⟩, found⟩
          | file | link | device => cases lists

theorem Enters.list (enters : files.Enters path left top) (fits : Fits path)
    (found : files.node? top = some (.directory entries)) : files.list path = .ok entries := by
  rcases enters.leads.withSlash.walk_target enters.has with ⟨others, walks⟩
  have located : files.locate true path = .ok (.node top (.directory others)) := by
    rw [locate, if_pos rfl, seek_of_fits fits, walks]
  have same := node?_of_locate located
  rw [found] at same
  rcases Node.directory.inj (Option.some.inj same) with rfl
  rw [FileSystem.list, located]
  rfl

theorem belowPath_eq (notEmpty : path ≠ []) (name : Name) :
    belowPath path name = path ++ slashByte :: name := by
  rw [belowPath, if_neg (by simpa using notEmpty)]

theorem Enters.foldl_belowPath (enters : files.Enters directory left top)
    (notEmpty : directory ≠ []) (named : ∀ name ∈ names, IsEntryName name)
    (has : files.HasDirectory (top ++ names)) :
    files.Enters (names.foldl belowPath directory) left (top ++ names) := by
  induction names generalizing directory top with
  | nil => rwa [List.append_nil]
  | cons name names induction =>
      rcases List.forall_mem_cons.1 named with ⟨nameNamed, restNamed⟩
      have whole : top ++ name :: names = top ++ [name] ++ names := by simp
      rw [whole] at has ⊢
      have below := enters.below notEmpty nameNamed has.above
      rw [← belowPath_eq notEmpty] at below
      exact induction below (by rw [belowPath_eq notEmpty]; simp) restNamed has

theorem zero_notMem_foldl_belowPath (noZero : 0 ∉ path) (noZeros : ∀ name ∈ names, 0 ∉ name) :
    0 ∉ names.foldl belowPath path := by
  induction names generalizing path with
  | nil => exact noZero
  | cons name names induction =>
      rcases List.forall_mem_cons.1 noZeros with ⟨nameNoZero, restNoZero⟩
      apply induction ?_ restNoZero
      rw [belowPath]
      split
      · exact nameNoZero
      · rw [List.mem_append, List.mem_cons, not_or, not_or]
        exact ⟨noZero, by decide, nameNoZero⟩

theorem foldl_belowPath_ne_nil (notEmpty : path ≠ []) : names.foldl belowPath path ≠ [] := by
  induction names generalizing path with
  | nil => exact notEmpty
  | cons name names induction =>
      apply induction
      rw [belowPath_eq notEmpty]
      simp

/-- A directory below one that is listed is listed by its path, if this is not too long. -/
theorem list_below (lists : files.list path = .ok entries)
    (found : entries.find? names = some (.directory inner))
    (named : ∀ name ∈ names, IsEntryName name ∧ 0 ∉ name) :
    files.list (names.foldl belowPath path) =
      if (names.foldl belowPath path).length < pathLimit then .ok inner
      else .error .nameTooLong := by
  rcases enters_of_list lists with ⟨fits, left, top, enters, atTop⟩
  have below : files.node? (top ++ names) = some (.directory inner) := by
    rw [node?_append, atTop, Option.bind_some, Node.find?, found]
  have noZero := zero_notMem_foldl_belowPath fits.noZero fun name member => (named name member).2
  have notEmpty : names.foldl belowPath path ≠ [] := foldl_belowPath_ne_nil fits.notEmpty
  split
  next short =>
    have entersBelow := enters.foldl_belowPath fits.notEmpty
      (fun name member => (named name member).1) ⟨inner, below⟩
    exact entersBelow.list ⟨noZero, notEmpty, short⟩ below
  next long =>
    have refused : files.locate true (names.foldl belowPath path) = .error .nameTooLong := by
      rw [locate, if_pos rfl, seek, if_neg (by simpa using noZero),
        if_neg (by simpa using notEmpty), if_pos (Nat.not_lt.1 long)]
    rw [list, refused]
    rfl

end FileSystem

/-! ## Entries of a directory -/

theorem Directory.Sound.get?_of_mem {files : Nat} {directory : Directory}
    (sound : directory.Sound files) {name : Name} {node : Node}
    (member : (name, node) ∈ directory.toList) : directory.get? name = some node := by
  induction directory using Directory.induction with
  | empty => cases member
  | cons other first rest induction =>
      rw [Directory.Sound] at sound
      rcases sound with ⟨-, -, ascending, restSound⟩
      rw [Directory.get?]
      rcases List.mem_cons.1 member with same | inRest
      · rcases Prod.mk.inj same with ⟨rfl, rfl⟩
        rw [if_pos rfl]
      · rw [if_neg, induction restSound inRest]
        rintro rfl
        exact List.lt_irrefl _ (ascending _ inRest)

mutual

def Node.directories : Node → Nat
  | .directory entries => entries.directories + 1
  | _ => 0

def Directory.directories : Directory → Nat
  | .empty _ => 0
  | .cons _ node rest => node.directories + rest.directories

end

namespace Job

/-! ## Traversals -/

/-- A traversal has directories before it, the next one first, each with its path and with the text
of its path below the root. Behind it are the texts of the files that it found. -/
structure Traversal where
  pending : List (Bytes × String)
  found : List String

namespace Traversal

def start (root : Bytes) : Traversal :=
  ⟨[(root, "")], []⟩

def directories (path : Bytes) (above : String) (listed : List (Name × Node)) :
    List (Bytes × String) :=
  listed.filterMap fun (name, node) =>
    if node.isDirectory then some (belowPath path name, relativeName above name) else none

def texts (above : String) (listed : List (Name × Node)) : List String :=
  listed.filterMap fun (name, node) =>
    if node.isDirectory then none else some (relativeName above name)

/-- The next directory is listed, in any order. -/
inductive Step (files : FileSystem) : Traversal → Traversal → Prop
  | list {path : Bytes} {above : String} {pending : List (Bytes × String)} {found : List String}
      {entries : Directory} {listed : List (Name × Node)}
      (lists : files.list path = .ok entries) (anyOrder : listed.Perm entries.toList) :
      Step files ⟨(path, above) :: pending, found⟩
        ⟨(directories path above listed).reverse ++ pending, found ++ texts above listed⟩

inductive Steps (files : FileSystem) : Nat → Traversal → Traversal → Prop
  | refl (walk : Traversal) : Steps files 0 walk walk
  | next {count : Nat} {walk middle after : Traversal} (steps : Steps files count walk middle)
      (step : Step files middle after) : Steps files (count + 1) walk after

/-! ## What one listing leaves to be done -/

/-- A directory below the root that is still to be listed. -/
abbrev Waiting := Location × Directory

def waitingOf (names : Location) (listed : List (Name × Node)) : List Waiting :=
  listed.filterMap fun (name, node) =>
    match node with
    | .directory inner => some (names ++ [name], inner)
    | _ => none

def filesOf (waiting : Waiting) : List String :=
  filesBelow (waiting.1.foldl relativeName "") waiting.2

def load : List Waiting → Nat
  | [] => 0
  | tree :: rest => tree.2.directories + 1 + load rest

variable {files : FileSystem} {root : Bytes} {entries inner : Directory} {names : Location}
  {listed : List (Name × Node)} {walk next : Traversal} {waiting : List Waiting} {count : Nat}

theorem directories_eq (root : Bytes) (names : Location) (listed : List (Name × Node)) :
    directories (names.foldl belowPath root) (names.foldl relativeName "") listed =
      (waitingOf names listed).map fun tree =>
        (tree.1.foldl belowPath root, tree.1.foldl relativeName "") := by
  rw [directories, waitingOf, List.map_filterMap]
  congr 1
  funext ⟨name, node⟩
  cases node <;> simp [Node.isDirectory]

theorem filesBelow_perm (names : Location) (directory : Directory) :
    (filesBelow (names.foldl relativeName "") directory).Perm
      (texts (names.foldl relativeName "") directory.toList ++
        (waitingOf names directory.toList).flatMap filesOf) := by
  induction directory using Directory.induction with
  | empty => exact .refl _
  | cons name node rest induction =>
      rw [filesBelow]
      cases node with
      | directory inner =>
          have below : filesBelowNode (relativeName (names.foldl relativeName "") name)
              (.directory inner) = filesOf (names ++ [name], inner) := by
            rw [filesOf, List.foldl_append]
            rfl
          rw [below]
          exact (induction.append_left _).trans (List.perm_append_comm_assoc _ _ _)
      | file | link | device => exact induction.cons _

theorem load_append (first second : List Waiting) :
    load (first ++ second) = load first + load second := by
  induction first with
  | nil => rw [List.nil_append, load, Nat.zero_add]
  | cons tree rest induction =>
      rw [List.cons_append, load, load, induction]
      omega

theorem load_perm {first second : List Waiting} (perm : first.Perm second) :
    load first = load second := by
  induction perm with
  | nil => rfl
  | cons tree _ induction => rw [load, load, induction]
  | swap => simp only [load, Nat.add_left_comm]
  | trans _ _ firstInduction secondInduction => exact firstInduction.trans secondInduction

theorem load_waitingOf (names : Location) (directory : Directory) :
    load (waitingOf names directory.toList) = directory.directories := by
  induction directory using Directory.induction with
  | empty => rfl
  | cons name node rest induction =>
      cases node with
      | directory inner =>
          rw [Directory.directories, Node.directories, ← induction]
          rfl
      | file | link | device =>
          simp only [Directory.directories, Node.directories, Nat.zero_add]
          exact induction

/-! ## What holds on the way -/

/-- What was found and what is below the directories that wait is all there is. -/
structure Covers (root : Bytes) (entries : Directory) (walk : Traversal) (waiting : List Waiting) :
    Prop where
  pending : walk.pending = waiting.map fun tree =>
    (tree.1.foldl belowPath root, tree.1.foldl relativeName "")
  trees : ∀ tree ∈ waiting, entries.find? tree.1 = some (.directory tree.2)
  found : (walk.found ++ waiting.flatMap filesOf).Perm (filesBelow "" entries)

theorem covers_start (root : Bytes) (entries : Directory) :
    Covers root entries (start root) [([], entries)] := by
  refine ⟨rfl, by simp, ?_⟩
  simp [start, filesOf]

theorem find?_of_mem_waitingOf {size : Nat} (sound : entries.Sound size)
    (found : entries.find? names = some (.directory inner))
    (anyOrder : listed.Perm inner.toList) {tree : Waiting}
    (member : tree ∈ waitingOf names listed) :
    entries.find? tree.1 = some (.directory tree.2) := by
  have innerSound := sound.find? found
  rw [Node.Sound] at innerSound
  rcases List.mem_filterMap.1 member with ⟨⟨name, node⟩, isListed, isTree⟩
  cases node with
  | directory sub =>
      rcases Option.some.inj isTree with rfl
      have here := innerSound.get?_of_mem (anyOrder.mem_iff.1 isListed)
      rw [Directory.find?_append, found, Option.bind_some, Node.find?, Directory.find?_cons, here]
      rfl
  | file | link | device => cases isTree

/-- One listing: the trees of the directory wait instead of it. -/
theorem Covers.step {size : Nat} (sound : entries.Sound size)
    (lists : ∀ names inner, entries.find? names = some (.directory inner) →
      files.list (names.foldl belowPath root) = .ok inner)
    (covers : Covers root entries walk waiting) (step : Step files walk next) :
    ∃ later, Covers root entries next later ∧ load waiting = load later + 1 := by
  cases step with
  | @list path above pending found inner listed listsPath anyOrder =>
      cases waiting with
      | nil => cases covers.pending
      | cons tree rest =>
          rcases List.cons.inj covers.pending with ⟨isTree, isRest⟩
          rcases Prod.mk.inj isTree with ⟨rfl, rfl⟩
          rcases List.forall_mem_cons.1 covers.trees with ⟨isThere, restThere⟩
          rcases tree with ⟨names, tree⟩
          have same := lists names tree isThere
          rw [listsPath] at same
          rcases Except.ok.inj same with rfl
          have trees := anyOrder.filterMap fun entry =>
            match entry.2 with
            | .directory below => some (names ++ [entry.1], below)
            | _ => none
          have treesPerm : (waitingOf names listed).Perm (waitingOf names inner.toList) := trees
          refine ⟨(waitingOf names listed).reverse ++ rest, ⟨?_, ?_, ?_⟩, ?_⟩
          · rw [directories_eq, isRest, List.map_append, List.map_reverse]
          · intro other member
            rcases List.mem_append.1 member with isNew | isOld
            · exact find?_of_mem_waitingOf sound isThere anyOrder (List.mem_reverse.1 isNew)
            · exact restThere other isOld
          · refine List.Perm.trans ?_ covers.found
            rw [List.flatMap_append, List.flatMap_cons, List.append_assoc]
            apply List.Perm.append_left
            rw [← List.append_assoc]
            apply List.Perm.append_right
            have own : (texts (names.foldl relativeName "") listed).Perm
                (texts (names.foldl relativeName "") inner.toList) := anyOrder.filterMap _
            have below := ((List.reverse_perm _).trans treesPerm).flatMap_right filesOf
            exact (own.append below).trans (filesBelow_perm names inner).symm
          · have below := load_perm ((List.reverse_perm _).trans treesPerm)
            have own := load_waitingOf names inner
            rw [load_append, load, below, own]
            simp only
            omega

/-- A traversal: it lists every directory once, and what it has found at the end is all there is. -/
theorem covers_of_steps {size : Nat} (sound : entries.Sound size)
    (lists : ∀ names inner, entries.find? names = some (.directory inner) →
      files.list (names.foldl belowPath root) = .ok inner)
    (steps : Steps files count (start root) walk) :
    ∃ waiting, Covers root entries walk waiting ∧
      count + load waiting = entries.directories + 1 := by
  generalize isStart : start root = first at steps
  induction steps with
  | refl =>
      subst isStart
      exact ⟨_, covers_start root entries, by simp [load]⟩
  | next _ step induction =>
      rcases induction isStart with ⟨waiting, covers, counted⟩
      rcases covers.step sound lists step with ⟨later, coversLater, load⟩
      exact ⟨later, coversLater, by omega⟩

/-- A traversal of directories that can all be listed is never stuck, and it cannot go on for ever.
At its end it has what is collected, in some order. -/
theorem collects_of_steps {size : Nat} (sound : entries.Sound size)
    (lists : ∀ names inner, entries.find? names = some (.directory inner) →
      files.list (names.foldl belowPath root) = .ok inner)
    (steps : Steps files count (start root) walk) :
    count ≤ entries.directories + 1 ∧
      (walk.pending = [] →
        walk.found.mergeSort (fun left right => decide (left ≤ right)) = collectFiles entries) ∧
      (walk.pending ≠ [] → ∃ next, Step files walk next) := by
  rcases covers_of_steps sound lists steps with ⟨waiting, covers, counted⟩
  refine ⟨by omega, ?_, ?_⟩
  · intro none
    have noWaiting : waiting = [] := by
      simpa [none] using covers.pending
    have found := covers.found
    rw [noWaiting, List.flatMap_nil, List.append_nil] at found
    have same : (walk.found.mergeSort fun left right => decide (left ≤ right)).Perm
        (collectFiles entries) :=
      (List.mergeSort_perm _ _).trans (found.trans (List.mergeSort_perm _ _).symm)
    exact same.eq_of_pairwise (fun _ _ _ _ => String.le_antisymm)
      (Text.pairwise_mergeSort (fun path => path) walk.found) (sorted_collectFiles entries)
  · intro some
    rcases walk with ⟨pending, found⟩
    cases waiting with
    | nil => exact absurd covers.pending some
    | cons tree rest =>
        have isThere := covers.trees tree List.mem_cons_self
        have pending := covers.pending
        simp only at pending
        rw [pending]
        exact ⟨_, .list (lists tree.1 tree.2 isThere) (.refl _)⟩

end Traversal

/-! ## Plain trees -/

/-- A name that the system takes and that is a text. -/
structure IsTextName (name : Name) : Prop where
  spelled : ∃ text, name = Bytes.ofString text
  short : name.length ≤ longestName
  noZero : 0 ∉ name

/-- Directories and files, and nothing else, under names that are texts. -/
structure IsPlain (entries : Directory) : Prop where
  kinds : ∀ names node, entries.find? names = some node →
    node.isDirectory = true ∨ ∃ id, node = .file id
  names : ∀ names node, entries.find? names = some node → ∀ name ∈ names, IsTextName name

section

variable {entries inner : Directory} {names : Location} {size : Nat}

theorem IsTextName.shown {name : Name} (isText : IsTextName name) : shownBytes name = name := by
  rcases isText.spelled with ⟨text, rfl⟩
  rw [shownBytes, Bytes.toStringLossy_ofString]

theorem mem_leaves_of_plain (sound : entries.Sound size) (plain : IsPlain entries) :
    names ∈ entries.leaves ↔ ∃ id, entries.find? names = some (.file id) := by
  rw [Directory.mem_leaves sound]
  constructor
  · rintro ⟨leaf, found, isLeaf⟩
    rcases plain.kinds names leaf found with isDirectory | ⟨id, rfl⟩
    · rw [isLeaf] at isDirectory
      cases isDirectory
    · exact ⟨id, found⟩
  · rintro ⟨id, found⟩
    exact ⟨_, found, rfl⟩

theorem spelled_of_mem_leaves (sound : entries.Sound size) (plain : IsPlain entries)
    (member : names ∈ entries.leaves) :
    Bytes.ofString (names.foldl relativeName "") = relativePath names ∧ names ≠ [] ∧
      ∀ name ∈ names, IsProper name := by
  rcases (Directory.mem_leaves sound).1 member with ⟨leaf, found, isLeaf⟩
  have proper := sound.proper found
  have some : names ≠ [] := by
    rintro rfl
    rw [Directory.find?_nil] at found
    rcases Option.some.inj found with rfl
    cases isLeaf
  have shown : names.map shownBytes = names :=
    (List.map_congr_left fun name inNames =>
      (plain.names names leaf found name inNames).shown).trans (List.map_id' names)
  refine ⟨?_, some, proper⟩
  rw [ofString_foldl_relativeName some proper, shown]

theorem relativePath_inj {others : Location} (some : names ≠ [])
    (proper : ∀ name ∈ names, IsProper name) (otherProper : ∀ name ∈ others, IsProper name)
    (same : relativePath names = relativePath others) : names = others := by
  have otherSome : others ≠ [] := by
    rintro rfl
    exact relativePath_ne_nil some proper same
  rw [← walkNames_relativePath some proper, same, walkNames_relativePath otherSome otherProper]

theorem mem_collectFiles_of_plain (sound : entries.Sound size) (plain : IsPlain entries)
    (text : String) :
    text ∈ collectFiles entries ↔
      ∃ names id, entries.find? names = some (.file id) ∧
        Bytes.ofString text = relativePath names := by
  rw [(perm_collectFiles entries).mem_iff, List.mem_map]
  constructor
  · rintro ⟨names, member, rfl⟩
    rcases (mem_leaves_of_plain sound plain).1 member with ⟨id, found⟩
    exact ⟨names, id, found, (spelled_of_mem_leaves sound plain member).1⟩
  · rintro ⟨names, id, found, spelled⟩
    have member := (mem_leaves_of_plain sound plain).2 ⟨id, found⟩
    refine ⟨names, member, Bytes.ofString_inj ?_⟩
    rw [(spelled_of_mem_leaves sound plain member).1, spelled]

theorem nodup_collectFiles_of_plain (sound : entries.Sound size) (plain : IsPlain entries) :
    (collectFiles entries).Nodup := by
  rw [(perm_collectFiles entries).nodup_iff]
  apply (Directory.nodup_leaves sound).map_on
  intro names member others otherMember same
  rcases spelled_of_mem_leaves sound plain member with ⟨spelled, some, proper⟩
  rcases spelled_of_mem_leaves sound plain otherMember with ⟨otherSpelled, -, otherProper⟩
  apply relativePath_inj some proper otherProper
  rw [← spelled, ← otherSpelled, same]

theorem list_of_plain {files : FileSystem} {root : Path} (sound : entries.Sound size)
    (plain : IsPlain entries) (lists : files.list root.bytes = .ok entries)
    (short : areListable root entries = true)
    (found : entries.find? names = some (.directory inner)) :
    files.list (names.foldl belowPath root.bytes) = .ok inner := by
  rw [FileSystem.list_below lists found, if_pos]
  · by_cases here : names = []
    · subst here
      exact (FileSystem.enters_of_list lists).1.short
    · exact (areListable_iff sound).1 short names inner here found
  · intro name member
    have isText := plain.names names _ found name member
    exact ⟨⟨sound.proper found name member, isText.short⟩, isText.noZero⟩

/-- What is collected of a plain tree: however its directories list their entries, a traversal ends
behind so many of them with the paths of all files, which are then sorted by their bytes. -/
theorem traversal_collects {files : FileSystem} {root : Path} (sound : entries.Sound size)
    (plain : IsPlain entries) (lists : files.list root.bytes = .ok entries)
    (short : areListable root entries = true) :
    (∀ count walk, Traversal.Steps files count (Traversal.start root.bytes) walk →
      count ≤ entries.directories + 1 ∧
        (walk.pending = [] →
          walk.found.mergeSort (fun left right => decide (left ≤ right)) =
            collectFiles entries) ∧
        (walk.pending ≠ [] → ∃ next, Traversal.Step files walk next)) ∧
    (collectFiles entries).Pairwise
      (fun first second => Bytes.ofString first < Bytes.ofString second) ∧
    (∀ text, text ∈ collectFiles entries ↔
      ∃ names id, entries.find? names = some (.file id) ∧
        Bytes.ofString text = relativePath names) ∧
    ∀ names inner, entries.find? names = some (.directory inner) →
      ∀ text ∈ collectFiles entries, Bytes.ofString text ≠ relativePath names := by
  refine ⟨?_, ?_, mem_collectFiles_of_plain sound plain, ?_⟩
  · intro count walk steps
    exact Traversal.collects_of_steps sound
      (fun names inner => list_of_plain sound plain lists short) steps
  · exact (pairwise_collectFiles (nodup_collectFiles_of_plain sound plain)).imp Bytes.ofString_lt
  · intro names inner isDirectory text member same
    rcases (mem_collectFiles_of_plain sound plain text).1 member with
      ⟨others, id, found, spelled⟩
    have isLeaf := (mem_leaves_of_plain sound plain).2 ⟨id, found⟩
    rcases spelled_of_mem_leaves sound plain isLeaf with ⟨-, some, proper⟩
    have equal := relativePath_inj some proper (sound.proper isDirectory)
      (spelled.symm.trans same)
    rw [equal, isDirectory] at found
    cases found

end

/-! ## Sample trees -/

theorem IsPlain.empty (permissions : Nat) : IsPlain (.empty permissions) := by
  constructor
  · intro names node found
    cases names with
    | nil =>
        rcases Option.some.inj found with rfl
        exact .inl rfl
    | cons name names => cases found
  · intro names node found
    cases names with
    | nil => simp
    | cons name names => cases found

theorem IsPlain.cons {name : Name} {node : Node} {rest : Directory} (isText : IsTextName name)
    (isNode : (∃ id, node = .file id) ∨ ∃ inner, node = .directory inner ∧ IsPlain inner)
    (plain : IsPlain rest) : IsPlain (.cons name node rest) := by
  have below (names : Location) (last : Node) (found : node.find? names = some last) :
      (last.isDirectory = true ∨ ∃ id, last = .file id) ∧ ∀ other ∈ names, IsTextName other := by
    rcases isNode with ⟨id, rfl⟩ | ⟨inner, rfl, plainInner⟩
    · cases names with
      | nil =>
          rcases Option.some.inj found with rfl
          exact ⟨.inr ⟨id, rfl⟩, by simp⟩
      | cons => cases found
    · exact ⟨plainInner.kinds names last found, plainInner.names names last found⟩
  have all (names : Location) (last : Node)
      (found : (Directory.cons name node rest).find? names = some last) :
      (last.isDirectory = true ∨ ∃ id, last = .file id) ∧ ∀ other ∈ names, IsTextName other := by
    cases names with
    | nil =>
        rcases Option.some.inj found with rfl
        exact ⟨.inl rfl, by simp⟩
    | cons head names =>
        rw [Directory.find?_cons, Directory.get?] at found
        split at found
        next same =>
          rcases below names last found with ⟨kind, texts⟩
          exact ⟨kind, List.forall_mem_cons.2 ⟨same ▸ isText, texts⟩⟩
        next =>
          have inRest : rest.find? (head :: names) = some last := by
            rw [Directory.find?_cons, found]
          exact ⟨plain.kinds _ last inRest, plain.names _ last inRest⟩
  exact ⟨fun names last found => (all names last found).1,
    fun names last found => (all names last found).2⟩

def dashed : Directory :=
  .cons (Bytes.ofString "a") (.directory (.cons (Bytes.ofString "b") (.file 0) ∅))
    (.cons (Bytes.ofString "a-b") (.file 0) ∅)

def planted (tree : Directory) : FileSystem where
  root := .cons (Bytes.ofString "t") (.directory tree) ∅
  stored := #[{}]

theorem traversal_collects_dashed :
    dashed.Sound 1 ∧ IsPlain dashed ∧
      (planted dashed).list (Path.mk "t").bytes = .ok dashed ∧ areListable ⟨"t"⟩ dashed = true ∧
      (∀ count walk, Traversal.Steps (planted dashed) count (Traversal.start (Path.mk "t").bytes)
          walk → walk.pending = [] →
        walk.found.mergeSort (fun left right => decide (left ≤ right)) = ["a-b", "a/b"]) := by
  have textA : IsTextName (Bytes.ofString "a") :=
    ⟨⟨"a", rfl⟩, by decide +kernel, by decide +kernel⟩
  have textB : IsTextName (Bytes.ofString "b") :=
    ⟨⟨"b", rfl⟩, by decide +kernel, by decide +kernel⟩
  have textDashed : IsTextName (Bytes.ofString "a-b") :=
    ⟨⟨"a-b", rfl⟩, by decide +kernel, by decide +kernel⟩
  have plain : IsPlain dashed :=
    .cons textA (.inr ⟨_, rfl, .cons textB (.inl ⟨0, rfl⟩) (.empty _)⟩)
      (.cons textDashed (.inl ⟨0, rfl⟩) (.empty _))
  have sound : dashed.Sound 1 := by decide +kernel
  have lists : (planted dashed).list (Path.mk "t").bytes = .ok dashed := by decide +kernel
  have short : areListable ⟨"t"⟩ dashed = true := by decide +kernel
  have collected : collectFiles dashed = ["a-b", "a/b"] := by
    have below : filesBelow "" dashed = ["a/b", "a-b"] := by decide +kernel
    have order : ¬("a/b" : String) ≤ "a-b" := by decide +kernel
    rw [collectFiles, below]
    simp [List.mergeSort, List.MergeSort.Internal.splitInTwo, order]
  refine ⟨sound, plain, lists, short, ?_⟩
  intro count walk steps none
  rw [← collected]
  exact ((traversal_collects sound plain lists short).1 count walk steps).2.1 none

def longName : Name :=
  List.replicate 250 0x64

def tower : Nat → Directory
  | 0 => ∅
  | depth + 1 => .cons longName (.directory (tower depth)) ∅

def towering : Directory :=
  .cons longName (.directory (tower 16)) (.cons (Bytes.ofString "e") (.file 0) ∅)

theorem isTextName_longName : IsTextName longName :=
  ⟨⟨String.ofList (List.replicate 250 'd'), by decide +kernel⟩, by decide +kernel,
    by decide +kernel⟩

theorem isPlain_tower (depth : Nat) : IsPlain (tower depth) := by
  induction depth with
  | zero => exact .empty _
  | succ depth induction => exact .cons isTextName_longName (.inr ⟨_, rfl, induction⟩) (.empty _)

/-- Nothing is collected of a tree with a directory whose path is too long, not even a file beside
it. -/
theorem towering_not_collected :
    towering.Sound 1 ∧ IsPlain towering ∧
      (planted towering).list (Path.mk "t").bytes = .ok towering ∧
      collectFiles towering = ["e"] ∧
      outcome (writeArchive ⟨"t"⟩ ⟨"o"⟩) { files := planted towering } =
        (.error (.file .nameTooLong), { files := planted towering }) := by
  have text : IsTextName (Bytes.ofString "e") :=
    ⟨⟨"e", rfl⟩, by decide +kernel, by decide +kernel⟩
  have lists : (planted towering).list (Path.mk "t").bytes = .ok towering := by decide +kernel
  have long : areListable ⟨"t"⟩ towering = false := by decide +kernel
  exact ⟨by decide +kernel, .cons isTextName_longName (.inr ⟨_, rfl, isPlain_tower 16⟩)
      (.cons text (.inl ⟨0, rfl⟩) (.empty _)), lists, by decide +kernel,
    outcome_writeArchive_unlisted lists long⟩

end Job

end SchemaBuild
