import Mathlib.Data.List.Nodup
import SchemaBuild.Proofs.FileSystem.Leaves
import SchemaBuild.Proofs.Job.Layout

/-!
# Entries of an archive

An archive that could be written has an entry for every file below the directory, and every entry is
named for something there. The names are texts, and something whose name is no text cannot be read
by its text. So where everything could be read and no text came twice, all names are texts.
-/

namespace SchemaBuild

open FileSystem

/-- An archive of the directory at a location: its entries are in the ascending order of the bytes
of their names, every file below the directory has an entry with its content, and every entry is
named for something below the directory that is no directory. -/
structure Archives (files : FileSystem) (location : Location) (archive : Archive) : Prop where
  ascending : archive.Pairwise fun first second =>
    Bytes.ofString first.name < Bytes.ofString second.name
  complete : ∀ names id, files.node? (location ++ names) = some (.file id) →
    ∃ entry ∈ archive, Bytes.ofString entry.name = relativePath names ∧
      entry.data = (files.storedAt id).content.toBytes
  present : ∀ entry ∈ archive, ∃ names node, files.node? (location ++ names) = some node ∧
    node.isDirectory = false ∧ Bytes.ofString entry.name = relativePath names

theorem Archives.congr {files other : FileSystem} {location : Location} {archive : Archive}
    (same : ∀ names, other.sight? (location ++ names) = files.sight? (location ++ names))
    (archives : Archives files location archive) : Archives other location archive := by
  refine ⟨archives.ascending, fun names id found => ?_, fun entry member => ?_⟩
  · obtain ⟨here, stored⟩ := sight?_eq_file.1 ((same names).symm.trans (sight?_of_node? found))
    rw [← stored]
    exact archives.complete names id here
  · obtain ⟨names, node, found, noDirectory, named⟩ := archives.present entry member
    have seen := (same names).trans (sight?_of_node? found)
    cases here : other.node? (location ++ names) with
    | none => simp [sight?, here] at seen
    | some node =>
        refine ⟨names, node, here, ?_, named⟩
        cases node with
        | directory entries =>
            obtain ⟨inner, isDirectory⟩ := hasDirectory_congr (same names).symm ⟨entries, here⟩
            rw [found] at isDirectory
            obtain rfl := Option.some.inj isDirectory
            cases noDirectory
        | file | link | device => rfl

namespace FileSystem

variable {files : FileSystem} {directory : Bytes} {left : Nat} {top : Location}

/-! ## Names that can be read -/

theorem Enters.walk_of_locate (enters : files.Enters directory left top)
    (notEmpty : directory ≠ []) {names : Location} (some : names ≠ [])
    (proper : ∀ name ∈ names, IsProper name) {place : Place}
    (located : files.locate true (directory ++ slashByte :: relativePath names) = .ok place) :
    files.walk .target left names top = .ok place := by
  rw [locate, if_pos rfl] at located
  have walked := walkNames_relativePath some proper
  rw [enters.seek notEmpty (fits_of_seek located) (by rwa [walked]), walked] at located
  · exact located
  · rw [walked]
    intro last
    exact (proper _ (List.mem_of_getLast? last)).notEmpty rfl

/-- What can be walked to by names that are text is there under these names, if whatever is there
under such names can be walked to. A link to a directory cannot be on the way, since it is no
directory itself but leads to one. -/
theorem leaf_of_walk (readable : ∀ names leaf, files.node? (top ++ names) = some leaf →
      leaf.isDirectory = false → (∀ name ∈ names, shownBytes name = name) →
        ∃ place node, files.walk .target left names top = .ok (.node place node) ∧
          node.isDirectory = false)
    {names more : Location} (leads : Leads files left names top left (top ++ names))
    (has : files.HasDirectory (top ++ names))
    (shown : ∀ name ∈ names ++ more, shownBytes name = name)
    (proper : ∀ name ∈ more, IsProper name) (some : more ≠ []) {place : Location} {node : Node}
    (walks : files.walk .target left more (top ++ names) = .ok (.node place node))
    (noDirectory : node.isDirectory = false) :
    ∃ leaf, files.node? (top ++ (names ++ more)) = .some leaf ∧ leaf.isDirectory = false := by
  induction more generalizing names with
  | nil => exact absurd rfl some
  | cons name more induction =>
      have nameProper := proper name List.mem_cons_self
      have moreProper : ∀ name ∈ more, IsProper name :=
        fun name member => proper name (List.mem_cons_of_mem _ member)
      obtain ⟨step, asked⟩ := isStep_of_walk
        (fun dot => dot.elim nameProper.notCurrent nameProper.notEmpty) nameProper.notParent walks
      have through := walks
      rw [walk_step step asked] at walks
      have split : names ++ name :: more = (names ++ [name]) ++ more := by simp
      cases found : files.node? (top ++ names ++ [name]) with
      | none =>
          rw [found] at walks
          simp only at walks
          split at walks <;> cases walks
      | some next =>
          rw [found] at walks
          by_cases last : more = []
          · subst last
            rw [List.append_assoc] at found
            cases next with
            | directory entries =>
                have hasNext : files.HasDirectory (top ++ names ++ [name]) :=
                  ⟨entries, by rw [List.append_assoc]; exact found⟩
                obtain ⟨inner, -, ends⟩ := files.walk_nil .target left hasNext
                simp only [ends, Except.ok.injEq, Place.node.injEq] at walks
                rw [← walks.2] at noDirectory
                cases noDirectory
            | link target => exact ⟨_, found, rfl⟩
            | file id => exact ⟨_, found, rfl⟩
            | device device => exact ⟨_, found, rfl⟩
          · have notEmpty : more.isEmpty = false := by simpa using last
            cases next with
            | directory entries =>
                rw [List.append_assoc] at walks found
                have hasNext : files.HasDirectory (top ++ (names ++ [name])) := ⟨entries, found⟩
                have leadsNext : Leads files left (names ++ [name]) top left
                    (top ++ (names ++ [name])) := by
                  rw [← List.append_assoc]
                  rw [← List.append_assoc] at hasNext
                  exact leads.append (.down step hasNext .here)
                rw [split] at shown ⊢
                exact induction leadsNext hasNext shown moreProper last walks
            | link target =>
                rw [List.append_assoc] at found
                obtain ⟨other, leaf, walked, isLeaf⟩ := readable (names ++ [name]) _ found rfl
                  fun name member => shown name (by rw [split]; exact List.mem_append_left _ member)
                rw [← List.singleton_append] at through
                obtain ⟨between, target, onward, -⟩ := leads_of_walk last through
                have whole := leads.append onward
                obtain ⟨entries, direct⟩ :=
                  whole.walk_target (whole.hasDirectory_of_proper nameProper)
                rw [direct] at walked
                obtain ⟨rfl, rfl⟩ := Place.node.inj (Except.ok.inj walked)
                cases isLeaf
            | file id => simp [notEmpty] at walks
            | device device => simp [notEmpty] at walks

theorem mem_leaves_iff {entries : Directory} (sound : files.Sound)
    (found : files.node? top = some (.directory entries)) {names : Location} :
    names ∈ entries.leaves ↔
      ∃ leaf, files.node? (top ++ names) = some leaf ∧ leaf.isDirectory = false := by
  have entriesSound := sound.node? found
  rw [Node.Sound] at entriesSound
  rw [Directory.mem_leaves entriesSound, node?_append, found, Option.bind_some, Node.find?]

theorem ne_nil_of_mem_leaves {entries : Directory} (sound : files.Sound)
    (found : files.node? top = some (.directory entries)) {names : Location}
    (member : names ∈ entries.leaves) : names ≠ [] := by
  rintro rfl
  obtain ⟨leaf, here, isLeaf⟩ := (mem_leaves_iff sound found).1 member
  rw [List.append_nil, found] at here
  obtain rfl := Option.some.inj here
  cases isLeaf

theorem proper_of_mem_leaves {entries : Directory} (sound : files.Sound)
    (found : files.node? top = some (.directory entries)) {names : Location}
    (member : names ∈ entries.leaves) : ∀ name ∈ names, IsProper name := by
  obtain ⟨leaf, here, -⟩ := (mem_leaves_iff sound found).1 member
  exact fun name inNames => sound.proper here name (List.mem_append_right _ inNames)

theorem proper_map_shownBytes {names : Location} (proper : ∀ name ∈ names, IsProper name) :
    ∀ name ∈ names.map shownBytes, IsProper name := by
  intro shown member
  obtain ⟨name, inNames, rfl⟩ := List.mem_map.1 member
  exact (proper name inNames).shownBytes

/-- Where all leaves can be walked to as they read, and no two of them read the same, all of them
read as what they are. -/
theorem shown_of_walks {entries : Directory} (sound : files.Sound)
    (found : files.node? top = some (.directory entries))
    (different : (entries.leaves.map (List.map shownBytes)).Nodup)
    (walks : ∀ names ∈ entries.leaves, ∃ place node,
      files.walk .target left (names.map shownBytes) top = .ok (.node place node) ∧
        node.isDirectory = false) :
    ∀ names ∈ entries.leaves, names.map shownBytes = names := by
  intro names member
  have readable (names : Location) (leaf : Node)
      (here : files.node? (top ++ names) = some leaf) (isLeaf : leaf.isDirectory = false)
      (shown : ∀ name ∈ names, shownBytes name = name) :
      ∃ place node, files.walk .target left names top = .ok (.node place node) ∧
        node.isDirectory = false := by
    have walked := walks names ((mem_leaves_iff sound found).2 ⟨leaf, here, isLeaf⟩)
    have same : names.map shownBytes = names :=
      (List.map_congr_left shown).trans (List.map_id' names)
    rwa [same] at walked
  have leads : Leads files left [] top left (top ++ []) := by
    rw [List.append_nil]
    exact .here
  have has : files.HasDirectory (top ++ []) := ⟨entries, by rwa [List.append_nil]⟩
  have shown : ∀ name ∈ [] ++ names.map shownBytes, shownBytes name = name := by
    intro name inNames
    obtain ⟨original, -, rfl⟩ := List.mem_map.1 inNames
    exact shownBytes_shownBytes original
  obtain ⟨place, node, walked, noDirectory⟩ := walks names member
  have notNil : names.map shownBytes ≠ [] := by
    simpa using ne_nil_of_mem_leaves sound found member
  have alsoLeaf := leaf_of_walk readable leads has shown
    (proper_map_shownBytes (proper_of_mem_leaves sound found member)) notNil
    (by rwa [List.append_nil]) noDirectory
  have alsoMember := (mem_leaves_iff sound found).2 alsoLeaf
  refine List.inj_on_of_nodup_map different alsoMember member ?_
  rw [List.nil_append, List.map_map]
  exact List.map_congr_left fun name _ => shownBytes_shownBytes name

theorem eq_of_walk {names : Location} {found node : Node} {place : Location}
    (proper : ∀ name ∈ names, IsProper name) (noLink : ∀ target, found ≠ .link target)
    (here : files.node? (top ++ names) = some found)
    (walks : files.walk .target left names top = .ok (.node place node)) : node = found := by
  induction names generalizing top with
  | nil =>
      rw [List.append_nil] at here
      rw [walk_eq, walkWith, here] at walks
      exact (Place.node.inj (Except.ok.inj walks)).2.symm
  | cons name rest induction =>
      have nameProper := proper name List.mem_cons_self
      obtain ⟨step, asked⟩ := isStep_of_walk
        (fun dot => dot.elim nameProper.notCurrent nameProper.notEmpty) nameProper.notParent walks
      rw [walk_step step asked] at walks
      rw [← List.singleton_append, ← List.append_assoc] at here
      by_cases last : rest = []
      · subst last
        rw [List.append_nil] at here
        rw [here] at walks
        cases found with
        | link target => exact absurd rfl (noLink target)
        | directory entries =>
            obtain ⟨inner, same, ends⟩ := files.walk_nil .target left ⟨entries, here⟩
            rw [here] at same
            simp only [ends, Except.ok.injEq, Place.node.injEq] at walks
            rw [← walks.2, Option.some.inj same]
        | file id => exact (Place.node.inj (Except.ok.inj walks)).2.symm
        | device device => exact (Place.node.inj (Except.ok.inj walks)).2.symm
      · obtain ⟨entries, atName⟩ := hasDirectory_of_node?_append last here
        rw [atName] at walks
        exact induction (fun name member => proper name (List.mem_cons_of_mem _ member)) here walks

end FileSystem

namespace Job

variable {files : FileSystem} {root : Path} {opened : Opened}

/-! ## Adding entries -/

theorem place_of_entryData {before : Archive} {path : Path} {data : Bytes}
    (read : entryData files opened before path = .ok data) :
    ∃ place node, files.locate true path.bytes = .ok (.node place node) ∧
      node.isDirectory = false ∧
        ∀ id, node = .file id → opened ≠ .file id →
          data = (files.storedAt id).content.toBytes := by
  unfold entryData FileSystem.read FileSystem.openAt at read
  cases located : files.locate true path.bytes with
  | error error => simp [located, bind, Except.bind, Except.toOption] at read
  | ok place =>
      cases place with
      | vacant directory name => simp [located, bind, Except.bind, Except.toOption] at read
      | node place node =>
          cases node with
          | directory entries =>
              cases opened <;> simp [located, bind, Except.bind, Except.toOption] at read
          | link target => simp [located, bind, Except.bind, Except.toOption] at read
          | device device =>
              refine ⟨place, _, rfl, rfl, ?_⟩
              rintro id ⟨⟩
          | file id =>
              refine ⟨place, _, rfl, rfl, ?_⟩
              intro other same notOpened
              obtain rfl := Node.file.inj same
              have different : ¬Opened.file id = opened := fun equal => notOpened equal.symm
              simp only [located, bind, Except.bind, Except.toOption, different, pure, Except.pure,
                Option.some.injEq, decide_false, Bool.false_and, Bool.false_eq_true, if_false,
                Except.ok.injEq] at read
              exact read.symm

/-- All entries could be added: each holds what was read through its path, and no name comes
twice. -/
theorem addEntries_complete {names : List String} {before archive : Archive}
    (added : addEntries files root opened none before names = (archive, none))
    (different : (before.map ArchiveEntry.name).Nodup) :
    archive.map ArchiveEntry.name = before.map ArchiveEntry.name ++ names ∧
      (archive.map ArchiveEntry.name).Nodup ∧
        ∀ entry ∈ archive, entry ∈ before ∨
          ∃ middle, entryData files opened middle (root.join entry.name) = .ok entry.data := by
  induction names generalizing before with
  | nil =>
      simp only [addEntries, Option.map_none, Prod.mk.injEq, and_true] at added
      subst added
      exact ⟨by simp, different, fun entry member => .inl member⟩
  | cons name names induction =>
      rw [addEntries] at added
      cases read : entryData files opened before (root.join name) with
      | error error => simp [read] at added
      | ok data =>
          simp only [read] at added
          split at added
          next => simp at added
          next absent =>
            have fresh : name ∉ before.map ArchiveEntry.name := by
              simpa using absent
            have more : ((before ++ [ArchiveEntry.mk name data]).map ArchiveEntry.name).Nodup := by
              rw [List.map_append, List.map_singleton, ← List.concat_eq_append]
              exact different.concat fresh
            obtain ⟨namesOf, nodup, readable⟩ := induction added more
            refine ⟨by simpa using namesOf, nodup, fun entry member => ?_⟩
            rcases readable entry member with inBefore | reads
            · rcases List.mem_append.1 inBefore with old | new
              · exact .inl old
              · obtain rfl := List.mem_singleton.1 new
                exact .inr ⟨before, read⟩
            · exact .inr reads

/-! ## Whole archives -/

section

variable {left : Nat} {top : Location} {entries : Directory}

theorem join_bytes {last : Char} (ends : root.text.toList.getLast? = some last)
    (notSlash : last ≠ '/') {names : Location} (some : names ≠ [])
    (proper : ∀ name ∈ names, IsProper name) {text : String}
    (spelled : Bytes.ofString text = relativePath names) :
    (root.join text).bytes = root.bytes ++ slashByte :: relativePath names := by
  rw [Path.bytes, Path.join_text_of_name (head?_of_relativePath some proper spelled) ends notSlash,
    Bytes.ofString_slash, spelled]
  rfl

theorem pairwise_collectFiles (different : (collectFiles entries).Nodup) :
    (collectFiles entries).Pairwise (· < ·) := by
  refine ((sorted_collectFiles entries).and different).imp fun both => ?_
  exact Decidable.not_not.1 fun notLess => both.2 (String.le_antisymm both.1 notLess)

theorem join_of_mem_collectFiles {last : Char} (sound : files.Sound)
    (found : files.node? top = some (.directory entries))
    (ends : root.text.toList.getLast? = some last) (notSlash : last ≠ '/') {text : String}
    (member : text ∈ collectFiles entries) :
    ∃ names, names ≠ [] ∧ (∀ name ∈ names, IsProper name) ∧
      (root.join text).bytes = root.bytes ++ slashByte :: relativePath names := by
  obtain ⟨leaf, isLeaf, rfl⟩ := List.mem_map.1 ((perm_collectFiles entries).mem_iff.1 member)
  have some := ne_nil_of_mem_leaves sound found isLeaf
  have proper := proper_of_mem_leaves sound found isLeaf
  have someShown : leaf.map shownBytes ≠ [] := by simpa using some
  exact ⟨leaf.map shownBytes, someShown, proper_map_shownBytes proper,
    join_bytes ends notSlash someShown (proper_map_shownBytes proper)
      (ofString_foldl_relativeName some proper)⟩

/-- An archive that got an entry for every file below a directory, where none of these files is that
of the archive. -/
theorem archives_of_addEntries {id : FileId} {archive : Archive} {last : Char}
    (sound : files.Sound) (enters : files.Enters root.bytes left top)
    (ends : root.text.toList.getLast? = some last) (notSlash : last ≠ '/')
    (found : files.node? top = some (.directory entries))
    (apart : ∀ names, files.node? (top ++ names) ≠ some (.file id))
    (added : addEntries files root (.file id) none [] (collectFiles entries) = (archive, none)) :
    Archives files top archive := by
  have notEmpty : root.bytes ≠ [] := by
    intro empty
    obtain rfl : root = ⟨""⟩ := by
      cases root
      exact congrArg Path.mk (Bytes.ofString_inj empty)
    cases ends
  obtain ⟨namesOf, different, readable⟩ := addEntries_complete added List.nodup_nil
  rw [List.map_nil, List.nil_append] at namesOf
  rw [namesOf] at different
  have collected := perm_collectFiles entries
  have textOf {names : Location} (member : names ∈ entries.leaves) :
      Bytes.ofString (names.foldl relativeName "") = relativePath (names.map shownBytes) :=
    ofString_foldl_relativeName (ne_nil_of_mem_leaves sound found member)
      (proper_of_mem_leaves sound found member)
  have differentShown : (entries.leaves.map (List.map shownBytes)).Nodup := by
    have spelled : (entries.leaves.map (List.foldl relativeName "")).map Bytes.ofString =
        (entries.leaves.map (List.map shownBytes)).map relativePath := by
      rw [List.map_map, List.map_map]
      exact List.map_congr_left fun names member => textOf member
    have differentTexts := (collected.nodup_iff.1 different).map fun _ _ => Bytes.ofString_inj
    rw [spelled] at differentTexts
    exact differentTexts.of_map relativePath
  -- Every leaf has an entry, which was read on the way that the leaf's text spells.
  have entryOf {names : Location} (member : names ∈ entries.leaves) :
      ∃ entry ∈ archive, entry.name = names.foldl relativeName "" ∧ ∃ place node,
        files.walk .target left (names.map shownBytes) top = .ok (.node place node) ∧
          node.isDirectory = false ∧ ∀ other, node = .file other → other ≠ id →
            entry.data = (files.storedAt other).content.toBytes := by
    have isName : names.foldl relativeName "" ∈ archive.map ArchiveEntry.name := by
      rw [namesOf]
      exact collected.mem_iff.2 (List.mem_map.2 ⟨names, member, rfl⟩)
    obtain ⟨entry, inArchive, named⟩ := List.mem_map.1 isName
    obtain ⟨middle, read⟩ := (readable entry inArchive).resolve_left (List.not_mem_nil)
    obtain ⟨place, node, located, noDirectory, data⟩ := place_of_entryData read
    have notNil : names.map shownBytes ≠ [] := by
      simpa using ne_nil_of_mem_leaves sound found member
    have proper := proper_map_shownBytes (proper_of_mem_leaves sound found member)
    rw [join_bytes ends notSlash notNil proper (named ▸ textOf member)] at located
    refine ⟨entry, inArchive, named, place, node,
      enters.walk_of_locate notEmpty notNil proper located, noDirectory, ?_⟩
    intro other isFile notOpened
    exact data other isFile fun same => notOpened (Opened.file.inj same).symm
  have shown := shown_of_walks sound found differentShown fun names member => by
    obtain ⟨entry, -, -, place, node, walks, noDirectory, -⟩ := entryOf member
    exact ⟨place, node, walks, noDirectory⟩
  refine ⟨?_, ?_, ?_⟩
  · have ascending := pairwise_collectFiles different
    rw [← namesOf, List.pairwise_map] at ascending
    exact ascending.imp Bytes.ofString_lt
  · intro names other isFile
    have member : names ∈ entries.leaves := (mem_leaves_iff sound found).2 ⟨_, isFile, rfl⟩
    obtain ⟨entry, inArchive, named, place, node, walks, -, data⟩ := entryOf member
    refine ⟨entry, inArchive, ?_, data other ?_ ?_⟩
    · rw [named, textOf member, shown names member]
    · rw [shown names member] at walks
      exact eq_of_walk (proper_of_mem_leaves sound found member) (by simp) isFile walks
    · rintro rfl
      exact apart names isFile
  · intro entry inArchive
    have isName : entry.name ∈ collectFiles entries :=
      namesOf ▸ List.mem_map.2 ⟨entry, inArchive, rfl⟩
    obtain ⟨leaf, member, text⟩ := List.mem_map.1 (collected.mem_iff.1 isName)
    obtain ⟨node, here, noDirectory⟩ := (mem_leaves_iff sound found).1 member
    refine ⟨leaf, node, here, noDirectory, ?_⟩
    rw [← text, textOf member, shown leaf member]

end

end Job

end SchemaBuild
