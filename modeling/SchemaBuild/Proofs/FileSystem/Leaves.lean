import Mathlib.Data.List.Nodup
import SchemaBuild.Job
import SchemaBuild.Proofs.FileSystem.Places
import SchemaBuild.Proofs.Text.Lossy

/-!
# Files below a directory

The locations of everything below a directory that is no directory itself, and the texts by which an
archive names them. A text is read off the bytes of the names, and may fail to spell them.
-/

namespace SchemaBuild

/-! ## Leaves -/

mutual

def Node.leaves : Node → List Location
  | .directory entries => entries.leaves
  | _ => [[]]

def Directory.leaves : Directory → List Location
  | .empty _ => []
  | .cons name node rest => node.leaves.map (name :: ·) ++ rest.leaves

end

mutual

theorem Node.mem_leaves {files : Nat} {node : Node} (sound : node.Sound files)
    {rest : Location} :
    rest ∈ node.leaves ↔ ∃ leaf, node.find? rest = some leaf ∧ leaf.isDirectory = false := by
  match node with
  | .directory entries =>
      rw [Node.Sound] at sound
      exact Directory.mem_leaves sound
  | .file id => cases rest <;> simp [Node.leaves, Node.find?, Node.isDirectory]
  | .link target => cases rest <;> simp [Node.leaves, Node.find?, Node.isDirectory]
  | .device device => cases rest <;> simp [Node.leaves, Node.find?, Node.isDirectory]

theorem Directory.mem_leaves {files : Nat} {directory : Directory}
    (sound : directory.Sound files) {rest : Location} :
    rest ∈ directory.leaves ↔
      ∃ leaf, directory.find? rest = some leaf ∧ leaf.isDirectory = false := by
  match directory with
  | .empty _ => cases rest <;> simp [Directory.leaves, Directory.find?_cons, Directory.get?,
      Node.isDirectory]
  | .cons name node others =>
      rw [Directory.Sound] at sound
      obtain ⟨-, nodeSound, ascending, othersSound⟩ := sound
      have inOthers : rest ∈ others.leaves ↔ _ := Directory.mem_leaves othersSound
      rw [Directory.leaves, List.mem_append, List.mem_map, inOthers]
      cases rest with
      | nil => simp [Node.isDirectory]
      | cons head tail =>
          have inNode : tail ∈ node.leaves ↔ _ := Node.mem_leaves nodeSound
          rw [Directory.find?_cons, Directory.find?_cons, Directory.get?]
          by_cases same : name = head
          · subst same
            simp [Directory.get?_of_ascending ascending, inNode]
          · simp [same]

end

mutual

theorem Node.nodup_leaves {files : Nat} {node : Node} (sound : node.Sound files) :
    node.leaves.Nodup := by
  match node with
  | .directory entries =>
      rw [Node.Sound] at sound
      exact Directory.nodup_leaves sound
  | .file _ => exact List.nodup_singleton []
  | .link _ => exact List.nodup_singleton []
  | .device _ => exact List.nodup_singleton []

theorem Directory.nodup_leaves {files : Nat} {directory : Directory}
    (sound : directory.Sound files) : directory.leaves.Nodup := by
  match directory with
  | .empty _ => exact List.nodup_nil
  | .cons name node others =>
      rw [Directory.Sound] at sound
      obtain ⟨-, nodeSound, ascending, othersSound⟩ := sound
      refine List.nodup_append.2 ⟨?_, Directory.nodup_leaves othersSound, ?_⟩
      · exact (Node.nodup_leaves nodeSound).map fun _ _ equal => (List.cons.inj equal).2
      · rintro leaf inNode _ inOthers rfl
        obtain ⟨tail, -, rfl⟩ := List.mem_map.1 inNode
        obtain ⟨_, found, -⟩ := (Directory.mem_leaves othersSound).1 inOthers
        rw [Directory.find?_cons, Directory.get?_of_ascending ascending] at found
        cases found

end

/-! ## Listings -/

theorem Node.mem_listing_of_leaf {node : Node} (isLeaf : node.isDirectory = false) {path : Bytes}
    {entry : Bytes × Node} :
    entry ∈ node.listing path ↔
      ∃ names, node.find? names = some entry.2 ∧ entry.1 = names.foldl belowPath path := by
  have single : node.listing path = [(path, node)] := by
    cases node with
    | directory entries => cases isLeaf
    | file | link | device => rfl
  rw [single, List.mem_singleton]
  constructor
  · rintro rfl
    exact ⟨[], node.find?_nil, rfl⟩
  · rintro ⟨names, found, path⟩
    cases names with
    | nil =>
        rw [Node.find?_nil] at found
        exact Prod.ext path (Option.some.inj found).symm
    | cons head tail =>
        cases node with
        | directory entries => cases isLeaf
        | file | link | device => cases found

mutual

theorem Node.mem_listing {files : Nat} {node : Node} (sound : node.Sound files) {path : Bytes}
    {entry : Bytes × Node} :
    entry ∈ node.listing path ↔
      ∃ names, node.find? names = some entry.2 ∧ entry.1 = names.foldl belowPath path := by
  match node with
  | .directory entries =>
      rw [Node.Sound] at sound
      rw [Node.listing, List.mem_cons, Directory.mem_listing sound]
      constructor
      · rintro (rfl | ⟨names, -, found, path⟩)
        · exact ⟨[], rfl, rfl⟩
        · exact ⟨names, found, path⟩
      · rintro ⟨names, found, path⟩
        by_cases here : names = []
        · subst here
          exact .inl (Prod.ext path (Option.some.inj found).symm)
        · exact .inr ⟨names, here, found, path⟩
  | .file _ => exact Node.mem_listing_of_leaf rfl
  | .link _ => exact Node.mem_listing_of_leaf rfl
  | .device _ => exact Node.mem_listing_of_leaf rfl

theorem Directory.mem_listing {files : Nat} {directory : Directory}
    (sound : directory.Sound files) {above : Bytes} {entry : Bytes × Node} :
    entry ∈ directory.listing above ↔
      ∃ names ≠ [], directory.find? names = some entry.2 ∧
        entry.1 = names.foldl belowPath above := by
  match directory with
  | .empty _ =>
      refine iff_of_false (List.not_mem_nil) ?_
      rintro ⟨names, some, found, -⟩
      obtain ⟨name, rest, rfl⟩ := List.exists_cons_of_ne_nil some
      cases found
  | .cons name node others =>
      rw [Directory.Sound] at sound
      obtain ⟨-, nodeSound, ascending, othersSound⟩ := sound
      rw [Directory.listing, List.mem_append, Node.mem_listing nodeSound,
        Directory.mem_listing othersSound]
      constructor
      · rintro (⟨names, found, path⟩ | ⟨names, some, found, path⟩)
        · refine ⟨name :: names, by simp, ?_, path⟩
          rw [Directory.find?_cons, Directory.get?, if_pos rfl, Option.bind_some, found]
        · refine ⟨names, some, ?_, path⟩
          obtain ⟨head, tail, rfl⟩ := List.exists_cons_of_ne_nil some
          rw [Directory.find?_cons] at found ⊢
          rw [Directory.get?, if_neg, found]
          rintro rfl
          rw [Directory.get?_of_ascending ascending] at found
          cases found
      · rintro ⟨names, some, found, path⟩
        obtain ⟨head, tail, rfl⟩ := List.exists_cons_of_ne_nil some
        rw [Directory.find?_cons, Directory.get?] at found
        split at found
        next same => exact .inl ⟨tail, found, same ▸ path⟩
        next => exact .inr ⟨head :: tail, some, by rw [Directory.find?_cons, found], path⟩

end

/-! ## Names as text -/

theorem shownBytes_shownBytes (name : Name) : shownBytes (shownBytes name) = shownBytes name := by
  rw [shownBytes, shownBytes, Bytes.toStringLossy_ofString]

theorem eq_of_shownBytes {name : Name} (text : String)
    (ascii : ∀ character ∈ text.toList, character.toNat < 0x80)
    (shown : shownBytes name = Bytes.ofString text) :
    name = text.toList.map fun character => UInt8.ofNat character.toNat := by
  have read : Bytes.readLossy {} name = text.toList := by
    rw [← Bytes.ofString_inj shown, Bytes.toStringLossy, String.toList_ofList]
  rw [← read] at ascii ⊢
  exact Bytes.eq_map_of_ascii ascii

theorem IsProper.shownBytes {name : Name} (proper : IsProper name) :
    IsProper (shownBytes name) := by
  refine ⟨fun shown => ?_, fun shown => ?_, fun shown => ?_, fun slash => ?_⟩
  · exact proper.notEmpty (eq_of_shownBytes "" (by simp) shown)
  · exact proper.notCurrent
      (eq_of_shownBytes "." (by simp) (shown.trans ofString_dot.symm))
  · exact proper.notParent
      (eq_of_shownBytes ".." (by simp) (shown.trans ofString_dots.symm))
  · have inText : '/' ∈ name.toStringLossy.toList :=
      Bytes.mem_of_mem_ofString (by decide) slash
    rw [Bytes.toStringLossy, String.toList_ofList] at inText
    exact proper.noSlash (Bytes.mem_of_mem_readLossy (.inl rfl) (by decide) inText)

/-! ## Paths below a directory -/

def relativePath (names : Location) : Bytes :=
  [slashByte].intercalate names

theorem relativePath_singleton (name : Name) : relativePath [name] = name := by
  simp [relativePath]

theorem relativePath_cons {names : Location} (more : names ≠ []) (name : Name) :
    relativePath (name :: names) = name ++ slashByte :: relativePath names := by
  obtain ⟨next, rest, rfl⟩ := List.exists_cons_of_ne_nil more
  rw [relativePath, List.intercalate_cons_cons, List.append_assoc]
  rfl

theorem relativePath_ne_nil {names : Location} (some : names ≠ [])
    (proper : ∀ name ∈ names, IsProper name) : relativePath names ≠ [] := by
  obtain ⟨name, rest, rfl⟩ := List.exists_cons_of_ne_nil some
  have notEmpty : name ≠ [] := (proper name List.mem_cons_self).notEmpty
  by_cases more : rest = []
  · rwa [more, relativePath_singleton]
  · rw [relativePath_cons more]
    simp

theorem walkNames_relativePath {names : Location} (some : names ≠ [])
    (proper : ∀ name ∈ names, IsProper name) : walkNames (relativePath names) = names := by
  induction names with
  | nil => exact absurd rfl some
  | cons name rest induction =>
      have nameProper := proper name List.mem_cons_self
      have restProper : ∀ name ∈ rest, IsProper name :=
        fun name member => proper name (List.mem_cons_of_mem _ member)
      by_cases more : rest = []
      · rw [more, relativePath_singleton, nameProper.walkNames]
      · rw [relativePath_cons more, walkNames_append _ (relativePath_ne_nil more restProper),
          nameProper.pathNames, induction more restProper, List.singleton_append]

theorem head?_of_relativePath {names : Location} (some : names ≠ [])
    (proper : ∀ name ∈ names, IsProper name) {text : String}
    (spelled : Bytes.ofString text = relativePath names) : text.toList.head? ≠ .some '/' := by
  intro starts
  obtain ⟨name, rest, rfl⟩ := List.exists_cons_of_ne_nil some
  obtain ⟨tail, characters⟩ := List.head?_eq_some_iff.1 starts
  have isText : text = "" ++ "/" ++ String.ofList tail := by
    apply String.toList_inj.1
    simp [characters]
  have nameProper := proper name List.mem_cons_self
  obtain ⟨first, others, isName⟩ := List.exists_cons_of_ne_nil nameProper.notEmpty
  have starts : (relativePath (name :: rest)).head? = .some first := by
    by_cases more : rest = []
    · rw [more, relativePath_singleton, isName, List.head?_cons]
    · rw [relativePath_cons more, isName, List.cons_append, List.head?_cons]
  rw [← spelled, isText, Bytes.ofString_slash] at starts
  have slash : first = slashByte := (Option.some.inj starts).symm
  exact nameProper.noSlash (by rw [isName, slash]; exact List.mem_cons_self)

/-! ## Paths as text -/

namespace Job

mutual

theorem filesBelowNode_eq (path : String) (node : Node) :
    filesBelowNode path node = node.leaves.map (List.foldl relativeName path) := by
  match node with
  | .directory entries =>
      rw [filesBelowNode, Node.leaves]
      exact filesBelow_eq path entries
  | .file _ => rfl
  | .link _ => rfl
  | .device _ => rfl

theorem filesBelow_eq (above : String) (directory : Directory) :
    filesBelow above directory = directory.leaves.map (List.foldl relativeName above) := by
  match directory with
  | .empty _ => rfl
  | .cons name node rest =>
      rw [filesBelow, Directory.leaves, List.map_append, List.map_map,
        filesBelowNode_eq (relativeName above name) node, filesBelow_eq above rest]
      rfl

end

theorem sorted_collectFiles (entries : Directory) :
    (collectFiles entries).Pairwise fun first second => first ≤ second :=
  Text.pairwise_mergeSort (fun path => path) (filesBelow "" entries)

theorem perm_collectFiles (entries : Directory) :
    (collectFiles entries).Perm (entries.leaves.map (List.foldl relativeName "")) := by
  rw [collectFiles, filesBelow_eq]
  exact List.mergeSort_perm _ _

/-- What is collected depends on nothing but the ways down to the files. -/
theorem collectFiles_congr {entries others : Directory} {files more : Nat}
    (sound : entries.Sound files) (otherSound : others.Sound more)
    (same : ∀ names, names ∈ others.leaves ↔ names ∈ entries.leaves) :
    collectFiles others = collectFiles entries := by
  have leaves : others.leaves.Perm entries.leaves :=
    (List.perm_ext_iff_of_nodup (Directory.nodup_leaves otherSound)
      (Directory.nodup_leaves sound)).2 same
  have collected : (collectFiles others).Perm (collectFiles entries) :=
    (perm_collectFiles others).trans ((leaves.map _).trans (perm_collectFiles entries).symm)
  exact collected.eq_of_pairwise (fun _ _ _ _ => String.le_antisymm) (sorted_collectFiles others)
    (sorted_collectFiles entries)

theorem areListable_iff {root : Path} {directory : Directory} {files : Nat}
    (sound : directory.Sound files) :
    areListable root directory = true ↔ ∀ names inner, names ≠ [] →
      directory.find? names = some (.directory inner) →
        (names.foldl belowPath root.bytes).length < pathLimit := by
  rw [areListable, List.all_eq_true]
  constructor
  · intro all names inner some found
    have member : (names.foldl belowPath root.bytes, Node.directory inner) ∈
        directory.listing root.bytes :=
      (Directory.mem_listing sound).2 ⟨names, some, found, rfl⟩
    simpa [Node.isDirectory] using all _ member
  · rintro short ⟨path, node⟩ member
    obtain ⟨names, some, found, rfl⟩ := (Directory.mem_listing sound).1 member
    cases node with
    | directory inner => simpa [Node.isDirectory] using short names inner some found
    | file | link | device => rfl

theorem relativeName_empty (name : Name) : relativeName "" name = name.toStringLossy := by
  rw [relativeName, if_pos (by decide)]

theorem relativeName_of_ne {above : String} (notEmpty : above ≠ "") (name : Name) :
    relativeName above name = above ++ "/" ++ name.toStringLossy := by
  rw [relativeName, if_neg (by simpa using notEmpty)]

theorem ofString_foldl_of_ne {above : String} (notEmpty : above ≠ "") {names : Location}
    (some : names ≠ []) :
    Bytes.ofString (names.foldl relativeName above) =
      Bytes.ofString above ++ slashByte :: relativePath (names.map shownBytes) := by
  induction names generalizing above with
  | nil => exact absurd rfl some
  | cons name rest induction =>
      rw [List.foldl_cons, relativeName_of_ne notEmpty, List.map_cons]
      by_cases more : rest = []
      · rw [more, List.foldl_nil, Bytes.ofString_slash, List.map_nil, relativePath_singleton]
        rfl
      · have moreShown : rest.map shownBytes ≠ [] := by simpa using more
        rw [induction (by simp) more, Bytes.ofString_slash, relativePath_cons moreShown]
        simp [shownBytes]

theorem ofString_foldl_relativeName {names : Location} (some : names ≠ [])
    (proper : ∀ name ∈ names, IsProper name) :
    Bytes.ofString (names.foldl relativeName "") = relativePath (names.map shownBytes) := by
  obtain ⟨name, rest, rfl⟩ := List.exists_cons_of_ne_nil some
  have shownProper := (proper name List.mem_cons_self).shownBytes
  rw [List.foldl_cons, relativeName_empty, List.map_cons]
  by_cases more : rest = []
  · rw [more, List.foldl_nil, List.map_nil, relativePath_singleton]
    rfl
  · have notEmpty : name.toStringLossy ≠ "" := by
      intro empty
      exact shownProper.notEmpty (by rw [shownBytes, empty]; rfl)
    have moreShown : rest.map shownBytes ≠ [] := by simpa using more
    rw [ofString_foldl_of_ne notEmpty more, relativePath_cons moreShown]
    rfl

end Job

end SchemaBuild
