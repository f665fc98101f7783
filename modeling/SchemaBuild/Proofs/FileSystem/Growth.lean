import SchemaBuild.Proofs.FileSystem.Operations
import SchemaBuild.Proofs.Parents

/-!
# Making directories

Making a directory with all that are missing above it changes nothing that was there. It adds
directories, and only such that the path or one above it leads to.
-/

namespace SchemaBuild

/-- A path, or one that it goes through. -/
inductive Path.IsOnWayTo : Path → Path → Prop
  | whole (path : Path) : IsOnWayTo path path
  | above {other parent path : Path} (isParent : path.parent? = some parent)
      (onWay : IsOnWayTo other parent) : IsOnWayTo other path

namespace FileSystem

variable {files before middle after : FileSystem} {links left : Nat} {names : List Name}
  {start target location : Location} {path : Path}

/-! ## Ways to the end of a path -/

theorem Leads.walk_target (leads : Leads files links names start left target)
    (has : files.HasDirectory target) :
    ∃ entries, files.walk .target links names start = .ok (.node target (.directory entries)) := by
  induction leads with
  | here =>
      obtain ⟨entries, -, walks⟩ := files.walk_nil .target _ has
      exact ⟨entries, walks⟩
  | stay dot leads induction =>
      rw [walk_stay dot]
      exact induction has
  | up leads induction =>
      rw [walk_up]
      exact induction has
  | down step atName leads induction =>
      obtain ⟨entries, found⟩ := atName
      rw [walk_step step (by simp), found]
      exact induction has
  | follow step text found leads induction =>
      rw [walk_step step (by simp), found]
      simp only [reduceCtorEq, decide_false, Bool.and_false, Bool.false_eq_true, if_false]
      exact induction has

theorem leads_of_walk_target {entries : Directory} {sought : Sought}
    (walks : files.walk sought links names start = .ok (.node target (.directory entries))) :
    ∃ left, Leads files links names start left target ∧
      files.node? target = some (.directory entries) := by
  induction links using Nat.strongRecOn generalizing names start with
  | ind links smaller =>
      induction names generalizing start with
      | nil =>
          rw [walk_eq, walkWith] at walks
          split at walks
          next node found =>
            simp only [Except.ok.injEq, Place.node.injEq] at walks
            obtain ⟨rfl, rfl⟩ := walks
            exact ⟨links, .here, found⟩
          next => cases walks
      | cons name names induction =>
          by_cases dot : name = currentName ∨ name = finalSlash
          · rw [walk_stay dot] at walks
            obtain ⟨left, leads, found⟩ := induction walks
            exact ⟨left, .stay dot leads, found⟩
          by_cases parent : name = parentName
          · subst parent
            rw [walk_up] at walks
            obtain ⟨left, leads, found⟩ := induction walks
            exact ⟨left, .up leads, found⟩
          obtain ⟨step, asked⟩ := isStep_of_walk dot parent walks
          rw [walk_step step asked] at walks
          split at walks
          · split at walks <;> cases walks
          next entries atName =>
            obtain ⟨left, leads, found⟩ := induction walks
            exact ⟨left, .down step ⟨entries, atName⟩ leads, found⟩
          next text atName =>
            split at walks
            · cases walks
            cases links with
            | zero => cases walks
            | succ links =>
                obtain ⟨left, leads, found⟩ := smaller links (Nat.lt_succ_self _) walks
                exact ⟨left, .follow step text atName leads, found⟩
          next node noDirectory _ _ =>
            split at walks
            · simp only [Except.ok.injEq, Place.node.injEq] at walks
              exact absurd walks.2 (noDirectory entries)
            · cases walks

theorem node?_of_locate {bytes : Bytes} {entries : Directory} {followLast : Bool}
    (located : files.locate followLast bytes = .ok (.node target (.directory entries))) :
    files.node? target = some (.directory entries) := by
  rw [locate, seek_of_fits (fits_of_seek located)] at located
  obtain ⟨-, -, found⟩ := leads_of_walk_target located
  exact found

theorem Leads.withSlash {bytes : Bytes}
    (leads : Leads files links (pathNames bytes) start left target) :
    Leads files links (walkNames bytes) start left target := by
  rw [walkNames]
  refine leads.append ?_
  split
  · exact .stay (.inr rfl) .here
  · exact .here

theorem isDirectory_iff {bytes : Bytes} :
    files.isDirectory bytes = true ↔
      Fits bytes ∧ ∃ left location, files.HasDirectory location ∧
        Leads files linkLimit (walkNames bytes) (walkStart bytes files.working) left location := by
  constructor
  · intro has
    rw [isDirectory, locate, if_pos rfl] at has
    split at has
    next location entries seeks =>
      have fits := fits_of_seek seeks
      rw [seek_of_fits fits] at seeks
      obtain ⟨left, leads, found⟩ := leads_of_walk_target seeks
      exact ⟨fits, left, location, ⟨entries, found⟩, leads⟩
    next => cases has
  · rintro ⟨fits, left, location, has, leads⟩
    obtain ⟨entries, walks⟩ := leads.walk_target has
    rw [isDirectory, locate, if_pos rfl, seek_of_fits fits, walks]

/-! ## Growing -/

/-- Directories were added, and only where a path or one that it goes through leads to them. -/
structure Grown (path : Path) (before after : FileSystem) : Prop where
  working : after.working = before.working
  views : after.views = before.views
  stored : after.stored = before.stored
  sound : before.Sound → after.Sound
  sight : ∀ location, after.sight? location = before.sight? location ∨
    before.sight? location = none ∧
      ∃ permissions, after.sight? location = some (.directory permissions) ∧
        ∃ other : Path, other.IsOnWayTo path ∧ Fits other.bytes ∧
          ∃ left, Leads after linkLimit (walkNames other.bytes)
            (walkStart other.bytes after.working) left location

theorem Grown.refl (path : Path) (files : FileSystem) : Grown path files files :=
  ⟨rfl, rfl, rfl, id, fun _ => .inl rfl⟩

theorem Grown.includes (grown : Grown path before after) : after.Includes before := by
  intro location passable
  rcases grown.sight location with same | ⟨none, -⟩
  · exact same
  · rw [sight?_eq_none] at none
    exact absurd passable (not_passable_of_missing none)

theorem Grown.trans (first : Grown path before middle) (second : Grown path middle after) :
    Grown path before after := by
  refine ⟨second.working.trans first.working, second.views.trans first.views,
    second.stored.trans first.stored, second.sound ∘ first.sound, fun location => ?_⟩
  rcases second.sight location with same | ⟨vacant, created⟩
  · rcases first.sight location with unchanged |
      ⟨none, permissions, seen, other, onWay, fits, left, leads⟩
    · exact .inl (same.trans unchanged)
    · refine .inr ⟨none, permissions, same.trans seen, other, onWay, fits, left, ?_⟩
      rw [second.working]
      exact leads.mono second.includes
  · rcases first.sight location with unchanged | ⟨-, permissions, seen, -⟩
    · exact .inr ⟨unchanged ▸ vacant, created⟩
    · rw [seen] at vacant
      cases vacant

theorem Grown.above {parent : Path} (isParent : path.parent? = some parent)
    (grown : Grown parent before after) : Grown path before after := by
  refine ⟨grown.working, grown.views, grown.stored, grown.sound, fun location => ?_⟩
  rcases grown.sight location with same | ⟨none, permissions, seen, other, onWay, leads⟩
  · exact .inl same
  · exact .inr ⟨none, permissions, seen, other, .above isParent onWay, leads⟩

/-! ## Making one directory -/

theorem sight?_put_directory (has : files.HasDirectory location) {name : Name}
    (vacant : files.node? (location ++ [name]) = none) (permissions : Nat) (place : Location) :
    (files.put location name (.directory (.empty permissions))).sight? place =
      if place = location ++ [name] then some (.directory permissions) else files.sight? place := by
  by_cases below : location ++ [name] <+: place
  · obtain ⟨rest, rfl⟩ := below
    have put : (files.put location name (.directory (.empty permissions))).node?
        (location ++ name :: rest) = (Node.directory (.empty permissions)).find? rest :=
      node?_put_below has rest
    have none : files.node? (location ++ [name] ++ rest) = none := by
      rw [node?_append, vacant, Option.bind_none]
    rw [List.append_assoc, List.singleton_append] at none ⊢
    rw [sight?, sight?, put, none]
    cases rest with
    | nil => simp [sightOf, Directory.permissions]
    | cons head tail => simp [Node.find?, Directory.find?, Directory.get?]
  · rw [sight?_put_apart has below, if_neg]
    rintro rfl
    exact below (List.prefix_refl _)

theorem leads_of_slot {bytes : Bytes} {slot : Slot} {name : Name}
    (slotted : files.slot bytes = .ok slot) (last : slot.last = .name name) :
    IsProper name ∧ files.HasDirectory slot.directory ∧ (pathNames bytes).getLast? = some name ∧
      ∃ left, Leads files linkLimit (pathNames bytes).dropLast (walkStart bytes files.working)
        left slot.directory := by
  have fits := fits_of_slot slotted
  rw [FileSystem.slot, if_neg (by simpa using fits.noZero), if_neg (by simpa using fits.notEmpty),
    if_neg (Nat.not_le.2 fits.short)] at slotted
  simp only at slotted
  split at slotted
  · cases slotted
  next target entries walks =>
    obtain rfl := Except.ok.inj slotted
    obtain ⟨left, location, leads, walks⟩ := leads_of_walk (by simp) walks
    rw [walk_stay (.inl rfl)] at walks
    obtain ⟨_, here, found⟩ := leads_of_walk_target walks
    cases here
    simp only at last
    split at last
    · cases last
    next only atEnd =>
      split at last
      · cases last
      next notCurrent =>
      split at last
      · cases last
      next notParent =>
      obtain rfl := LastName.name.inj last
      have member := List.mem_of_getLast? atEnd
      exact ⟨isProper_of_mem_pathNames member notCurrent notParent, ⟨entries, found⟩, atEnd, left,
        leads⟩
  · cases slotted

structure Made (bytes : Bytes) (files after : FileSystem) (left : Nat) (location : Location)
    (name : Name) (permissions : Nat) : Prop where
  named : IsEntryName name
  last : (pathNames bytes).getLast? = some name
  fits : Fits bytes
  leads : Leads files linkLimit (pathNames bytes).dropLast (walkStart bytes files.working) left
    location
  has : files.HasDirectory location
  vacant : files.node? (location ++ [name]) = none
  takes : files.takesEntries location = true
  put : after = files.put location name (.directory (.empty permissions))

theorem made_of_makeDirectory {bytes : Bytes} (made : files.makeDirectory bytes = .ok after) :
    ∃ left location name permissions, Made bytes files after left location name permissions := by
  rw [makeDirectory, makeDirectoryWith] at made
  cases slotted : files.slot bytes with
  | error error => simp [slotted, bind, Except.bind] at made
  | ok slot =>
      have fits := fits_of_slot slotted
      simp only [slotted, bind, Except.bind] at made
      split at made
      next name last =>
        split at made
        · cases made
        next short =>
        split at made
        · cases made
        next present =>
        split at made
        · cases made
        next takes =>
        obtain ⟨proper, has, atEnd, left, leads⟩ := leads_of_slot slotted last
        have vacant : files.node? (slot.directory ++ [name]) = none := by
          simpa [ entry?] using present
        exact ⟨left, slot.directory, name, _, ⟨proper, Nat.not_lt.1 short⟩, atEnd, fits, leads,
          has, vacant, by simpa using takes, (Except.ok.inj made).symm⟩
      next => cases made

namespace Made

variable {bytes : Bytes} {name : Name} {permissions : Nat}
  (made : Made bytes files after left location name permissions)
include made

theorem sight (place : Location) :
    after.sight? place =
      if place = location ++ [name] then some (.directory permissions)
      else files.sight? place := by
  rw [made.put]
  exact sight?_put_directory made.has made.vacant permissions place

theorem includes : after.Includes files := by
  intro place passable
  rw [made.sight, if_neg]
  rintro rfl
  exact not_passable_of_missing made.vacant passable

theorem working : after.working = files.working := by
  rw [made.put]
  rfl

theorem hasDirectory : after.HasDirectory (location ++ [name]) :=
  hasDirectory_iff.2 ⟨permissions, by rw [made.sight, if_pos rfl]⟩

theorem leads_self :
    Leads after linkLimit (pathNames bytes) (walkStart bytes after.working) left
      (location ++ [name]) := by
  obtain ⟨above, names⟩ := List.getLast?_eq_some_iff.1 made.last
  have leads := made.leads
  rw [names, List.dropLast_concat] at leads
  rw [names, made.working]
  exact (leads.mono made.includes).append (.down made.named.step made.hasDirectory .here)

theorem leads_walk :
    Leads after linkLimit (walkNames bytes) (walkStart bytes after.working) left
      (location ++ [name]) :=
  made.leads_self.withSlash

theorem grown {path : Path} (isPath : path.bytes = bytes) : Grown path files after := by
  refine ⟨made.working, by rw [made.put]; rfl, by rw [made.put]; rfl, ?_, ?_⟩
  · intro sound
    rw [made.put]
    exact sound.put made.named.toIsProper (by rw [Node.Sound, Directory.Sound]; trivial)
  · intro place
    rw [made.sight]
    split
    next same =>
      subst same
      exact .inr ⟨sight?_eq_none.2 made.vacant, permissions, rfl, path, .whole path,
        isPath ▸ made.fits, left, isPath ▸ made.leads_walk⟩
    next => exact .inl rfl

theorem isDirectory : after.isDirectory bytes = true :=
  isDirectory_iff.2 ⟨made.fits, left, _, made.hasDirectory, made.leads_walk⟩

end Made

theorem grown_of_makeDirectory (made : files.makeDirectory path.bytes = .ok after) :
    Grown path files after ∧ after.isDirectory path.bytes = true := by
  obtain ⟨left, location, name, permissions, made⟩ := made_of_makeDirectory made
  exact ⟨made.grown rfl, made.isDirectory⟩

/-! ## Making all directories -/

def madeOnce (path : Path) (files : FileSystem) : Except FileError Unit × FileSystem :=
  match files.makeDirectory path.bytes with
  | .ok after => (.ok (), after)
  | .error error => (if files.isDirectory path.bytes then .ok () else .error error, files)

theorem madeOnce_grown (path : Path) (files : FileSystem) :
    Grown path files (madeOnce path files).2 ∧
      ((madeOnce path files).1 = .ok () →
        (madeOnce path files).2.isDirectory path.bytes = true) := by
  unfold madeOnce
  split
  next after made =>
    have grown := grown_of_makeDirectory made
    exact ⟨grown.1, fun _ => grown.2⟩
  next error =>
    refine ⟨.refl path files, fun succeeded => ?_⟩
    simp only at succeeded ⊢
    split at succeeded
    next there => exact there
    next => cases succeeded

theorem outcome_unlessDirectory (path : Path) (error : FileError) (files : FileSystem) :
    outcome (do unless (← get).isDirectory path.bytes do throw error : FileOperation Unit) files =
      (if files.isDirectory path.bytes then .ok () else .error error, files) := by
  rw [outcome_bind, outcome_get]
  cases there : files.isDirectory path.bytes <;> simp [there, outcome_pure, outcome_throw]

theorem outcome_madeOnce (path : Path) (files : FileSystem) :
    outcome (do
      match (← get).makeDirectory path.bytes with
      | .ok files => set files
      | .error error => unless (← get).isDirectory path.bytes do throw error : FileOperation Unit)
        files = madeOnce path files := by
  rw [outcome_bind, outcome_get]
  cases made : files.makeDirectory path.bytes with
  | ok after => simp [madeOnce, made, outcome_set]
  | error error =>
      simp only [made, madeOnce]
      exact outcome_unlessDirectory path error files

theorem outcome_makeDirectoriesWithin (steps : Nat) (path : Path) (files : FileSystem) :
    outcome (FileOperation.makeDirectoriesWithin (steps + 1) path) files =
      if path.text.isEmpty then (.ok (), files)
      else
        match files.makeDirectory path.bytes with
        | .error .notFound =>
            match path.parent? with
            | none => (.error .notFound, files)
            | some parent =>
                match outcome (FileOperation.makeDirectoriesWithin steps parent) files with
                | (.ok _, middle) => madeOnce path middle
                | (.error error, middle) => (.error error, middle)
        | _ => madeOnce path files := by
  rw [FileOperation.makeDirectoriesWithin]
  cases empty : path.text.isEmpty with
  | true => rfl
  | false =>
      simp only [Bool.false_eq_true, if_false]
      rw [outcome_bind, outcome_get]
      cases made : files.makeDirectory path.bytes with
      | ok after => simp [madeOnce, made, outcome_set]
      | error error =>
          cases error
          case notFound =>
            simp only [made]
            cases path.parent? with
            | none => rfl
            | some parent =>
                simp only
                rw [outcome_bind]
                split
                next middle once =>
                  rw [once]
                  exact outcome_madeOnce path middle
                next failure middle once => rw [once]
          all_goals
            simp only [made, madeOnce]
            exact outcome_unlessDirectory path _ files

/-- There are steps enough for every directory above. -/
theorem makeDirectoriesWithin_of_lt {steps : Nat} (enough : path.text.length < steps) :
    outcome (FileOperation.makeDirectoriesWithin steps path) files =
      outcome (FileOperation.makeDirectories path) files := by
  rw [FileOperation.makeDirectories]
  induction length : path.text.length using Nat.strongRecOn generalizing path steps with
  | ind length' smaller =>
      obtain ⟨more, rfl⟩ := Nat.exists_eq_succ_of_ne_zero (Nat.ne_zero_of_lt enough)
      subst length
      rw [outcome_makeDirectoriesWithin, outcome_makeDirectoriesWithin]
      cases isParent : path.parent? with
      | none => rfl
      | some parent =>
          have shorter := Path.length_parent?_lt isParent
          have same := (smaller _ shorter (by omega : parent.text.length < more) rfl).trans
            (smaller _ shorter shorter rfl).symm
          simp only [same]

theorem outcome_makeDirectories (path : Path) (files : FileSystem) :
    outcome (FileOperation.makeDirectories path) files =
      if path.text.isEmpty then (.ok (), files)
      else
        match files.makeDirectory path.bytes with
        | .error .notFound =>
            match path.parent? with
            | none => (.error .notFound, files)
            | some parent =>
                match outcome (FileOperation.makeDirectories parent) files with
                | (.ok _, middle) => madeOnce path middle
                | (.error error, middle) => (.error error, middle)
        | _ => madeOnce path files := by
  rw [FileOperation.makeDirectories, outcome_makeDirectoriesWithin]
  cases isParent : path.parent? with
  | none => rfl
  | some parent =>
      simp only [makeDirectoriesWithin_of_lt (Path.length_parent?_lt isParent)]

theorem makeDirectoriesWithin_grown (steps : Nat) (path : Path) (files : FileSystem) :
    Grown path files (outcome (FileOperation.makeDirectoriesWithin steps path) files).2 ∧
      ((outcome (FileOperation.makeDirectoriesWithin steps path) files).1 = .ok () →
        path.text.isEmpty = true ∨
          (outcome (FileOperation.makeDirectoriesWithin steps path) files).2.isDirectory
            path.bytes = true) := by
  induction steps generalizing path files with
  | zero => exact ⟨.refl path files, fun succeeded => by cases succeeded⟩
  | succ steps induction =>
      have once := madeOnce_grown path files
      rw [outcome_makeDirectoriesWithin]
      split
      next empty => exact ⟨.refl path files, fun _ => .inl empty⟩
      next =>
      split
      next =>
        cases isParent : path.parent? with
        | none => exact ⟨.refl path files, fun succeeded => by cases succeeded⟩
        | some parent =>
            have above := (induction parent files).1
            simp only
            generalize outcome (FileOperation.makeDirectoriesWithin steps parent) files = made
              at above
            obtain ⟨result, middle⟩ := made
            have once := madeOnce_grown path middle
            cases result with
            | ok => exact ⟨(above.above isParent).trans once.1, fun made => .inr (once.2 made)⟩
            | error error => exact ⟨above.above isParent, fun succeeded => by cases succeeded⟩
      next => exact ⟨once.1, fun made => .inr (once.2 made)⟩

theorem makeDirectories_grown {result : Except FileError Unit}
    (made : outcome (FileOperation.makeDirectories path) before = (result, after)) :
    Grown path before after ∧
      (result = .ok () → path.text.isEmpty = true ∨ after.isDirectory path.bytes = true) := by
  have grown := makeDirectoriesWithin_grown (path.text.length + 1) path before
  rw [FileOperation.makeDirectories] at made
  rwa [made] at grown

/-! ## Directories that are there -/

theorem enters_of_isDirectory {bytes : Bytes} (noSlash : endsInSlash bytes = false)
    (there : files.isDirectory bytes = true) :
    Fits bytes ∧ ∃ left location, files.Enters bytes left location := by
  obtain ⟨fits, left, location, has, leads⟩ := isDirectory_iff.1 there
  rw [walkNames, noSlash, if_neg (by decide), List.append_nil] at leads
  exact ⟨fits, left, location, leads, has⟩

theorem Enters.isDirectory {bytes : Bytes} (enters : files.Enters bytes left location)
    (noSlash : endsInSlash bytes = false) (fits : Fits bytes) :
    files.isDirectory bytes = true := by
  refine isDirectory_iff.2 ⟨fits, left, location, enters.has, ?_⟩
  rw [walkNames, noSlash, if_neg (by decide), List.append_nil]
  exact enters.leads

theorem Enters.makeDirectory {bytes : Bytes} (enters : files.Enters bytes left location)
    (ends : EndsInName bytes) (fits : Fits bytes) :
    files.makeDirectory bytes = .error .exists := by
  obtain ⟨above, name, names, proper⟩ := ends
  have leads := enters.leads
  rw [names] at leads
  obtain ⟨between, parent, toParent, last⟩ := leads.split
  have present : IsStep name ∧ ∃ node, files.node? (parent ++ [name]) = some node := by
    generalize single : [name] = all at last
    cases last with
    | here => cases single
    | stay dot =>
        obtain ⟨rfl, -⟩ := List.cons.inj single
        exact (dot.elim proper.notCurrent proper.notEmpty).elim
    | up =>
        obtain ⟨rfl, -⟩ := List.cons.inj single
        exact absurd rfl proper.notParent
    | down step has =>
        obtain ⟨rfl, rfl⟩ := List.cons.inj single
        obtain ⟨entries, found⟩ := has
        exact ⟨step, _, found⟩
    | follow step text found =>
        obtain ⟨rfl, rfl⟩ := List.cons.inj single
        exact ⟨step, _, found⟩
  obtain ⟨step, node, found⟩ := present
  have has := hasDirectory_of_node?_append (by simp) found
  have walks : files.walk .target linkLimit (above ++ [currentName])
      (walkStart bytes files.working) = files.walk .target between [] parent := by
    rw [toParent.walk (by simp) (by decide), walk_stay (.inl rfl)]
  obtain ⟨entries, -, direct⟩ := files.walk_nil .target between has
  rw [FileSystem.makeDirectory, makeDirectoryWith, FileSystem.slot,
    if_neg (by simpa using fits.noZero), if_neg (by simpa using fits.notEmpty),
    if_neg (Nat.not_le.2 fits.short)]
  simp [names, walks, direct, bind, Except.bind, proper.notCurrent, proper.notParent,
    Nat.not_lt.2 step.fits, entry?, found]

theorem Enters.makeDirectoriesWithin (enters : files.Enters path.bytes left location)
    (ends : EndsInName path.bytes) (noSlash : endsInSlash path.bytes = false)
    (fits : Fits path.bytes) (steps : Nat) :
    outcome (FileOperation.makeDirectoriesWithin (steps + 1) path) files = (.ok (), files) := by
  rw [outcome_makeDirectoriesWithin]
  split
  · rfl
  · rw [enters.makeDirectory ends fits]
    simp only [madeOnce, enters.makeDirectory ends fits, enters.isDirectory noSlash fits, if_true]

theorem Enters.makeDirectories (enters : files.Enters path.bytes left location)
    (ends : EndsInName path.bytes) (noSlash : endsInSlash path.bytes = false)
    (fits : Fits path.bytes) :
    outcome (FileOperation.makeDirectories path) files = (.ok (), files) :=
  enters.makeDirectoriesWithin ends noSlash fits path.text.length

theorem Enters.makeDirectories_vacant {directory : Path} {name : Name}
    (enters : files.Enters directory.bytes left location) (ends : EndsInName directory.bytes)
    (noSlash : endsInSlash directory.bytes = false) (named : IsEntryName name)
    (bytes : path.bytes = directory.bytes ++ slashByte :: name)
    (isParent : path.parent? = some directory) (fits : Fits path.bytes)
    (vacant : files.node? (location ++ [name]) = none) :
    outcome (FileOperation.makeDirectories path) files =
      if files.takesEntries location then
        (.ok (), files.put location name (.directory (.empty
          (usualDirectoryPermissions ||| files.inheritedPermissions location))))
      else (.error .notFound, files) := by
  have entryFits : Fits (directory.bytes ++ slashByte :: name) := bytes ▸ fits
  have made := (enters.reaches ends.ne_nil named entryFits).makeDirectory
  rw [vacant, Option.isSome_none, if_neg (by decide), ← bytes] at made
  have notEmpty : path.text.isEmpty = false := by
    cases empty : path.text.isEmpty with
    | false => rfl
    | true =>
        rw [String.isEmpty_iff] at empty
        exact absurd (by rw [Path.bytes, empty]; rfl) fits.notEmpty
  have someSteps : ∃ steps, path.text.length = steps + 1 := by
    refine Nat.exists_eq_succ_of_ne_zero fun none => ?_
    rw [String.length_eq_zero_iff] at none
    simp [none] at notEmpty
  obtain ⟨steps, length⟩ := someSteps
  rw [FileOperation.makeDirectories, outcome_makeDirectoriesWithin, notEmpty,
    if_neg Bool.false_ne_true, made, isParent, length]
  have fails : files.isDirectory path.bytes = false := by
    rw [FileSystem.isDirectory, FileSystem.locate, if_pos rfl, bytes,
      seek_vacant enters ends named entryFits .target vacant]
  cases takes : files.takesEntries location with
  | true => simp [madeOnce, made, takes]
  | false =>
      simp only [Bool.false_eq_true, if_false,
        enters.makeDirectoriesWithin ends noSlash (entryFits.above ends.ne_nil), madeOnce, made,
        takes, fails]

end FileSystem

end SchemaBuild
