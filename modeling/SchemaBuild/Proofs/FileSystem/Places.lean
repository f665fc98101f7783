import SchemaBuild.Proofs.FileSystem.Walk
import SchemaBuild.Proofs.Text.Utf8

/-!
# Paths into a directory

A path that goes on behind a directory's path is looked up in this directory: the way to the
directory is walked first, whatever is asked for behind it. So all that can be told about such a
path is told by the way and by the entries of the directory.
-/

namespace SchemaBuild

/-! ## The names of a path -/

theorem Bytes.ofString_slash (above below : String) :
    ofString (above ++ "/" ++ below) = ofString above ++ slashByte :: ofString below := by
  have slash : ofString "/" = [slashByte] := by decide +kernel
  rw [ofString_append, ofString_append, slash, List.append_assoc, List.singleton_append]

theorem ofString_dot : Bytes.ofString "." = currentName := by
  rw [Bytes.ofString_eq_flatMap]
  decide

theorem ofString_dots : Bytes.ofString ".." = parentName := by
  rw [Bytes.ofString_eq_flatMap]
  decide

theorem pathNames_append (directory rest : Bytes) :
    pathNames (directory ++ slashByte :: rest) = pathNames directory ++ pathNames rest := by
  rw [pathNames, List.splitOn_append_cons_self, List.filter_append]
  rfl

theorem notMem_of_mem_splitOn {α : Type} [DecidableEq α] {separator : α} {whole piece : List α}
    (member : piece ∈ whole.splitOn separator) : separator ∉ piece := by
  induction whole generalizing piece with
  | nil =>
      rw [List.splitOn_nil, List.mem_singleton] at member
      simp [member]
  | cons first rest induction =>
      rw [List.splitOn_cons_eq_if_modifyHead] at member
      split at member
      next isSeparator =>
        rcases List.mem_cons.1 member with rfl | behind
        · simp
        · exact induction behind
      next noSeparator =>
        cases pieces : rest.splitOn separator with
        | nil => exact absurd pieces (List.splitOn_ne_nil _ _)
        | cons head tail =>
            rw [pieces, List.modifyHead_cons] at member
            rcases List.mem_cons.1 member with rfl | behind
            · have inHead := induction (pieces ▸ List.mem_cons_self)
              simp only [beq_iff_eq] at noSeparator
              simp [inHead, Ne.symm noSeparator]
            · exact induction (pieces ▸ List.mem_cons_of_mem _ behind)

theorem isProper_of_mem_pathNames {path : Bytes} {name : Name} (member : name ∈ pathNames path)
    (notCurrent : name ≠ currentName) (notParent : name ≠ parentName) : IsProper name := by
  rw [pathNames, List.mem_filter] at member
  have notEmpty : name ≠ [] := by simpa using member.2
  exact ⟨notEmpty, notCurrent, notParent, notMem_of_mem_splitOn member.1⟩

theorem pathNames_single {name : Name} (notEmpty : name ≠ []) (noSlash : slashByte ∉ name) :
    pathNames name = [name] := by
  rw [pathNames, List.splitOn_eq_singleton noSlash]
  simp [notEmpty]

theorem IsProper.pathNames {name : Name} (proper : IsProper name) : pathNames name = [name] :=
  pathNames_single proper.notEmpty proper.noSlash

theorem IsProper.endsInSlash {name : Name} (proper : IsProper name) (directory : Bytes) :
    endsInSlash (directory ++ slashByte :: name) = false := by
  have notEmpty : name ≠ [] := proper.notEmpty
  have last : name.getLast notEmpty ≠ slashByte := by
    intro slash
    exact proper.noSlash (slash ▸ List.getLast_mem notEmpty)
  simp [SchemaBuild.endsInSlash, List.getLast?_append, List.getLast?_cons,
    List.getLast?_eq_some_getLast notEmpty, last]

theorem walkNames_append (directory : Bytes) {rest : Bytes} (more : rest ≠ []) :
    walkNames (directory ++ slashByte :: rest) = pathNames directory ++ walkNames rest := by
  have ends : endsInSlash (directory ++ slashByte :: rest) = endsInSlash rest := by
    simp [endsInSlash, List.getLast?_append, List.getLast?_cons,
      List.getLast?_eq_some_getLast more]
  rw [walkNames, walkNames, pathNames_append, ends, List.append_assoc]

theorem IsProper.walkNames {name : Name} (proper : IsProper name) : walkNames name = [name] := by
  have ends := proper.endsInSlash []
  rw [SchemaBuild.walkNames, proper.pathNames]
  have notEmpty : name ≠ [] := proper.notEmpty
  have last : name.getLast notEmpty ≠ slashByte := by
    intro slash
    exact proper.noSlash (slash ▸ List.getLast_mem notEmpty)
  simp [SchemaBuild.endsInSlash, List.getLast?_eq_some_getLast notEmpty, last]

def EndsInName (path : Bytes) : Prop :=
  ∃ above name, pathNames path = above ++ [name] ∧ IsProper name

theorem isEmpty_text {path : Path} (some : path.bytes ≠ []) : path.text.isEmpty = false := by
  cases empty : path.text.isEmpty with
  | false => rfl
  | true =>
      rw [String.isEmpty_iff] at empty
      exact absurd (by rw [Path.bytes, empty]; rfl) some

theorem EndsInName.ne_nil {path : Bytes} (ends : EndsInName path) : path ≠ [] := by
  rintro rfl
  obtain ⟨above, name, names, -⟩ := ends
  have none : pathNames [] = [] := by decide
  rw [none] at names
  simp at names

theorem walkStart_append {directory : Bytes} (notEmpty : directory ≠ []) (rest : Bytes)
    (working : Location) :
    walkStart (directory ++ slashByte :: rest) working = walkStart directory working := by
  obtain ⟨first, others, rfl⟩ := List.exists_cons_of_ne_nil notEmpty
  rfl

namespace FileSystem

variable {files : FileSystem} {directory rest : Bytes} {name : Name} {location : Location}
  {left : Nat}

/-! ## Paths that can be walked -/

/-- A path that the system takes, wherever it leads. -/
structure Fits (path : Bytes) : Prop where
  noZero : 0 ∉ path
  notEmpty : path ≠ []
  short : path.length < pathLimit

theorem seek_of_fits {path : Bytes} (fits : Fits path) (sought : Sought) :
    files.seek sought path =
      files.walk sought linkLimit (walkNames path) (walkStart path files.working) := by
  rw [seek, if_neg (by simpa using fits.noZero), if_neg (by simp [fits.notEmpty]),
    if_neg (Nat.not_le.2 fits.short)]

theorem refused_of_not_fits {path : Bytes} (unfit : ¬Fits path) :
    ∃ error, (path ≠ [] → error ≠ .notFound) ∧ ∀ files : FileSystem,
      (∀ sought, files.seek sought path = .error error) ∧ files.slot path = .error error := by
  by_cases zero : path.contains 0
  · exact ⟨.zeroInPath, by simp, fun files =>
      ⟨fun sought => by rw [seek, if_pos zero], by rw [FileSystem.slot, if_pos zero]⟩⟩
  by_cases empty : path.isEmpty
  · exact ⟨.notFound, fun some => absurd (by simpa using empty) some, fun files =>
      ⟨fun sought => by rw [seek, if_neg zero, if_pos empty],
        by rw [FileSystem.slot, if_neg zero, if_pos empty]⟩⟩
  by_cases long : pathLimit ≤ path.length
  · exact ⟨.nameTooLong, by simp, fun files =>
      ⟨fun sought => by rw [seek, if_neg zero, if_neg empty, if_pos long],
        by rw [FileSystem.slot, if_neg zero, if_neg empty, if_pos long]⟩⟩
  · exact absurd ⟨by simpa using zero, by simpa using empty, Nat.not_le.1 long⟩ unfit

theorem fits_of_seek {path : Bytes} {sought : Sought} {place : Place}
    (seeks : files.seek sought path = .ok place) : Fits path := by
  rw [seek] at seeks
  split at seeks
  · cases seeks
  next noZero =>
    split at seeks
    · cases seeks
    next notEmpty =>
      split at seeks
      · cases seeks
      next short => exact ⟨by simpa using noZero, by simpa using notEmpty, Nat.not_le.1 short⟩

theorem fits_of_slot {path : Bytes} {slot : Slot} (found : files.slot path = .ok slot) :
    Fits path := by
  rw [FileSystem.slot] at found
  split at found
  · cases found
  next noZero =>
    split at found
    · cases found
    next notEmpty =>
      split at found
      · cases found
      next short => exact ⟨by simpa using noZero, by simpa using notEmpty, Nat.not_le.1 short⟩

theorem Fits.above (fits : Fits (directory ++ slashByte :: name)) (notEmpty : directory ≠ []) :
    Fits directory := by
  refine ⟨fun zero => fits.noZero (List.mem_append_left _ zero), notEmpty, ?_⟩
  have short := fits.short
  rw [List.length_append] at short
  omega

theorem Fits.beside {other : Name} (fits : Fits (directory ++ slashByte :: name))
    (noZero : 0 ∉ other) (shorter : other.length ≤ name.length) :
    Fits (directory ++ slashByte :: other) := by
  refine ⟨?_, by simp, ?_⟩
  · rw [List.mem_append, List.mem_cons]
    rintro (inDirectory | slash | inOther)
    · exact fits.noZero (List.mem_append_left _ inDirectory)
    · exact absurd slash (by decide)
    · exact noZero inOther
  · have short := fits.short
    simp only [List.length_append, List.length_cons] at short ⊢
    omega

/-! ## Entering a directory -/

/-- A path leads to a directory, and this many links may be followed from there. -/
structure Enters (files : FileSystem) (directory : Bytes) (left : Nat) (location : Location) :
    Prop where
  leads : Leads files linkLimit (pathNames directory) (walkStart directory files.working) left
    location
  has : files.HasDirectory location

theorem Enters.unique {otherLeft : Nat} {other : Location}
    (enters : files.Enters directory left location)
    (otherEnters : files.Enters directory otherLeft other) :
    other = location ∧ otherLeft = left :=
  enters.leads.unique otherEnters.leads

theorem Enters.seek (enters : files.Enters directory left location) (notEmpty : directory ≠ [])
    (fits : Fits (directory ++ slashByte :: rest)) {sought : Sought}
    (more : walkNames rest ≠ []) (goesOn : (walkNames rest).getLast? ≠ some finalSlash) :
    files.seek sought (directory ++ slashByte :: rest) =
      files.walk sought left (walkNames rest) location := by
  have someRest : rest ≠ [] := by
    rintro rfl
    exact more (by decide)
  rw [seek_of_fits fits, walkNames_append directory someRest, walkStart_append notEmpty]
  exact enters.leads.walk more goesOn

theorem enters_of_seek (ends : EndsInName directory) (more : walkNames rest ≠ [])
    {sought : Sought} {place : Place}
    (seeks : files.seek sought (directory ++ slashByte :: rest) = .ok place) :
    ∃ left location, files.Enters directory left location ∧
      files.walk sought left (walkNames rest) location = .ok place := by
  have someRest : rest ≠ [] := by
    rintro rfl
    exact more (by decide)
  rw [seek_of_fits (fits_of_seek seeks), walkNames_append directory someRest,
    walkStart_append ends.ne_nil] at seeks
  obtain ⟨left, location, leads, walks⟩ := leads_of_walk more seeks
  refine ⟨left, location, ⟨leads, ?_⟩, walks⟩
  obtain ⟨above, name, names, proper⟩ := ends
  rw [names] at leads
  exact leads.hasDirectory_of_proper proper

/-! ## Entries of a directory -/

theorem enters_of_slot (ends : EndsInName directory) (proper : IsProper name) {slot : Slot}
    (found : files.slot (directory ++ slashByte :: name) = .ok slot) :
    ∃ left, files.Enters directory left slot.directory ∧
      slot = ⟨slot.directory, .name name, false⟩ := by
  have fits := fits_of_slot found
  rw [FileSystem.slot, if_neg (by simpa using fits.noZero), if_neg (by simp),
    if_neg (Nat.not_le.2 fits.short)] at found
  simp only [pathNames_append, proper.pathNames, walkStart_append ends.ne_nil,
    List.dropLast_concat, List.getLast?_concat, proper.notCurrent, proper.notParent, if_false,
    proper.endsInSlash] at found
  split at found
  · cases found
  next target entries walks =>
    obtain ⟨left, location, leads, walks⟩ := leads_of_walk (by simp) walks
    obtain rfl := Except.ok.inj found
    rw [walk_stay (.inl rfl)] at walks
    refine ⟨left, ?_, rfl⟩
    have has : files.HasDirectory location := by
      obtain ⟨above, last, names, lastProper⟩ := ends
      rw [names] at leads
      exact leads.hasDirectory_of_proper lastProper
    obtain ⟨other, -, direct⟩ := files.walk_nil .target left has
    rw [direct] at walks
    obtain ⟨rfl, -⟩ := Place.node.inj (Except.ok.inj walks)
    exact ⟨leads, has⟩
  · cases found

/-! ## Other file systems -/

theorem Enters.mono {big : FileSystem} (includes : big.Includes files)
    (working : big.working = files.working) (enters : files.Enters directory left location) :
    big.Enters directory left location :=
  ⟨working ▸ enters.leads.mono includes,
    hasDirectory_congr (includes _ (.inl enters.has)) enters.has⟩

/-- A directory that can be entered in two file systems, which agree on what both ways could go
through, can be entered with what both have. -/
theorem Enters.common {other shared : FileSystem} {otherLeft : Nat} {otherLocation : Location}
    (agree : ∀ place, files.Passable place → other.Passable place →
      other.sight? place = files.sight? place ∧ shared.sight? place = files.sight? place)
    (otherWorking : other.working = files.working) (working : shared.working = files.working)
    (enters : files.Enters directory left location)
    (otherEnters : other.Enters directory otherLeft otherLocation) :
    otherLocation = location ∧ shared.Enters directory left location := by
  have otherLeads := otherEnters.leads
  rw [otherWorking] at otherLeads
  obtain ⟨rfl, -, leads⟩ := enters.leads.common agree otherLeads
  rw [← working] at leads
  exact ⟨rfl, leads, hasDirectory_congr (agree _ (.inl enters.has) (.inl otherEnters.has)).2
    enters.has⟩

end FileSystem

end SchemaBuild
