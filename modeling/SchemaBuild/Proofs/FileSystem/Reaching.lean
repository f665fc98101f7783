import SchemaBuild.Proofs.FileSystem.Growth
import SchemaBuild.Proofs.FileSystem.Removal
import SchemaBuild.Proofs.Parents

/-!
# Reaching an entry

A path reaches an entry once the directory above is there. When directories are made up to a path
that has nothing at its end, the last one of them is new and empty, and it stands where the path
then reaches.
-/

namespace SchemaBuild.FileSystem

variable {files before middle after : FileSystem} {links left : Nat} {names : List Name}
  {start location : Location} {path parent : Path} {name : Name}

/-! ## Directories at the end of a path -/

theorem leads_dots {dots : List Name} (onlyDots : ∀ dot ∈ dots, dot = currentName) :
    Leads files links dots start links start := by
  induction dots with
  | nil => exact .here
  | cons dot rest induction =>
      exact .stay (.inl (onlyDots dot List.mem_cons_self))
        (induction fun other member => onlyDots other (List.mem_cons_of_mem _ member))

theorem Leads.last_node (proper : IsProper name)
    (leads : Leads files links [name] start left location) :
    name.length ≤ longestName ∧ ∃ node, files.node? (start ++ [name]) = some node := by
  cases leads with
  | stay dot => exact (dot.elim proper.notCurrent proper.notEmpty).elim
  | up => exact absurd rfl proper.notParent
  | down step has =>
      obtain ⟨entries, found⟩ := has
      exact ⟨step.fits, _, found⟩
  | follow step text found => exact ⟨step.fits, _, found⟩

theorem reaches_of_isDirectory {bytes : Bytes} (proper : IsProper name)
    (last : (pathNames bytes).getLast? = some name) (noSlash : endsInSlash bytes = false)
    (there : files.isDirectory bytes = true) :
    ∃ left location node, files.Reaches bytes left location name ∧
      files.node? (location ++ [name]) = some node := by
  obtain ⟨fits, left, target, has, leads⟩ := isDirectory_iff.1 there
  obtain ⟨above, names⟩ := List.getLast?_eq_some_iff.1 last
  rw [walkNames, noSlash, if_neg (by decide), List.append_nil, names] at leads
  obtain ⟨between, location, toEntry, atEntry⟩ := leads.split
  obtain ⟨short, node, found⟩ := atEntry.last_node proper
  refine ⟨between, location, node, ⟨⟨proper, short⟩, last, noSlash, fits, ?_,
    hasDirectory_of_node?_append (by simp) found⟩, found⟩
  rwa [names, List.dropLast_concat]

theorem leads_of_goesOn (goesOn : parent.GoesOn path name)
    (there : files.isDirectory parent.bytes = true) :
    (pathNames path.bytes).getLast? = some name ∧ ∃ left location, files.HasDirectory location ∧
      Leads files linkLimit (pathNames path.bytes).dropLast (walkStart path.bytes files.working)
        left location := by
  obtain ⟨-, left, location, has, leads⟩ := isDirectory_iff.1 there
  obtain ⟨between, middle, toParent, behind⟩ := leads.split
  have same : middle = location := by
    split at behind
    · cases behind with
      | stay dot leads =>
          cases leads
          rfl
      | down step => exact absurd rfl step.notEmpty
      | follow step => exact absurd rfl step.notEmpty
    · cases behind
      rfl
  subst same
  obtain ⟨dots, onlyDots, names⟩ := goesOn.names
  refine ⟨by rw [names, List.getLast?_concat], between, middle, has, ?_⟩
  rw [names, List.dropLast_concat, goesOn.start]
  exact toParent.append (leads_dots onlyDots)

/-! ## Directories that take nothing -/

theorem node?_none_of_made {bytes : Bytes} {other : Name} {refusing : Location} {permissions : Nat}
    (made : Made bytes files after left location name permissions)
    (refuses : files.takesEntries refusing = false)
    (vacant : files.node? (refusing ++ [other]) = none) :
    after.node? (refusing ++ [other]) = none := by
  rw [← sight?_eq_none, made.sight, if_neg, sight?_eq_none.2 vacant]
  intro same
  obtain ⟨rfl, -⟩ := List.append_inj' same rfl
  rw [made.takes] at refuses
  cases refuses

theorem madeOnce_refused {other : Name} {refusing : Location}
    (refuses : files.takesEntries refusing = false)
    (vacant : files.node? (refusing ++ [other]) = none) :
    (madeOnce path files).2.node? (refusing ++ [other]) = none := by
  unfold madeOnce
  split
  next made =>
    obtain ⟨_, _, _, _, made⟩ := made_of_makeDirectory made
    exact node?_none_of_made made refuses vacant
  next => exact vacant

theorem makeDirectoriesWithin_refused (steps : Nat) (path : Path) {other : Name}
    {refusing : Location} (refuses : files.takesEntries refusing = false)
    (vacant : files.node? (refusing ++ [other]) = none) :
    (outcome (FileOperation.makeDirectoriesWithin steps path) files).2.node?
      (refusing ++ [other]) = none := by
  induction steps generalizing path with
  | zero => exact vacant
  | succ steps induction =>
      have once : (madeOnce path files).2.node? (refusing ++ [other]) = none :=
        madeOnce_refused refuses vacant
      rw [outcome_makeDirectoriesWithin]
      split
      · exact vacant
      split
      next =>
        cases isParent : path.parent? with
        | none => exact vacant
        | some parent =>
            have above := induction parent
            have grown := (makeDirectoriesWithin_grown steps parent files).1
            simp only
            generalize outcome (FileOperation.makeDirectoriesWithin steps parent) files = made
              at above grown
            obtain ⟨result, middle⟩ := made
            cases result with
            | ok =>
                refine madeOnce_refused ?_ above
                rwa [takesEntries, grown.views]
            | error error => exact above
      next => exact once

/-! ## The last directory -/

theorem madeOnce_ok (made : madeOnce path files = (.ok (), after)) :
    files.makeDirectory path.bytes = .ok after ∨
      files.isDirectory path.bytes = true ∧ after = files := by
  unfold madeOnce at made
  split at made
  next made' =>
    obtain ⟨-, rfl⟩ := Prod.mk.inj made
    exact .inl made'
  next =>
    obtain ⟨succeeded, rfl⟩ := Prod.mk.inj made
    split at succeeded
    next there => exact .inr ⟨there, rfl⟩
    next => cases succeeded

theorem Reaches.madeOnce (reaches : files.Reaches path.bytes left location name)
    (vacant : files.node? (location ++ [name]) = none)
    (made : FileSystem.madeOnce path files = (.ok (), after)) :
    files.takesEntries location = true ∧
      ∃ permissions, after = files.put location name (.directory (.empty permissions)) := by
  rcases madeOnce_ok made with new | ⟨there, -⟩
  · rw [reaches.makeDirectory, vacant, Option.isSome_none, if_neg (by decide)] at new
    split at new
    next takes => exact ⟨takes, _, (Except.ok.inj new).symm⟩
    next => cases new
  · rw [FileSystem.isDirectory, FileSystem.locate, if_pos rfl,
      reaches.seek_vacant .target vacant] at there
    cases there

theorem Reaches.makeDirectories (reaches : files.Reaches path.bytes left location name)
    (vacant : files.node? (location ++ [name]) = none)
    (made : outcome (FileOperation.makeDirectories path) files = (.ok (), after)) :
    ∃ permissions, after = files.put location name (.directory (.empty permissions)) := by
  have once := reaches.makeDirectory
  rw [vacant, Option.isSome_none, if_neg (by decide)] at once
  rw [FileOperation.makeDirectories, outcome_makeDirectoriesWithin,
    isEmpty_text reaches.fits.notEmpty, if_neg (by decide)] at made
  cases takes : files.takesEntries location with
  | true =>
      rw [takes, if_pos rfl] at once
      rw [once] at made
      exact (reaches.madeOnce vacant made).2
  | false =>
      rw [takes, if_neg (by decide)] at once
      simp only [once] at made
      cases isParent : path.parent? with
      | none => simp [isParent] at made
      | some parent =>
          simp only [isParent] at made
          have grown := (makeDirectoriesWithin_grown path.text.length parent files).1
          have still := makeDirectoriesWithin_refused path.text.length parent takes vacant
          generalize outcome (FileOperation.makeDirectoriesWithin path.text.length parent) files =
            attempt at made grown still
          obtain ⟨result, middle⟩ := attempt
          cases result with
          | error error => cases made
          | ok =>
              have opened :=
                ((reaches.mono grown.includes grown.working).madeOnce still made).1
              rw [takesEntries, grown.views] at opened
              rw [takesEntries, opened] at takes
              cases takes

/-! ## Directories that are not reached -/

theorem makeDirectory_notFound {bytes : Bytes} (fits : Fits bytes)
    (last : (pathNames bytes).getLast? = some name) (has : files.HasDirectory location)
    (leads : Leads files linkLimit (pathNames bytes).dropLast (walkStart bytes files.working) left
      location)
    (refused : files.makeDirectory bytes = .error .notFound) :
    IsEntryName name ∧ files.node? (location ++ [name]) = none ∧
      files.takesEntries location = false := by
  have walks : files.walk .target linkLimit ((pathNames bytes).dropLast ++ [currentName])
      (walkStart bytes files.working) = files.walk .target left [] location := by
    rw [leads.walk (by simp) (by decide), walk_stay (.inl rfl)]
  obtain ⟨entries, -, direct⟩ := files.walk_nil .target left has
  rw [makeDirectory, makeDirectoryWith, FileSystem.slot, if_neg (by simpa using fits.noZero),
    if_neg (by simpa using fits.notEmpty), if_neg (Nat.not_le.2 fits.short)] at refused
  simp only [last, walks, direct, bind, Except.bind] at refused
  by_cases current : name = currentName
  · simp [current] at refused
  by_cases up : name = parentName
  · simp [up, if_neg (by decide : parentName ≠ currentName)] at refused
  simp only [current, up, if_false] at refused
  split at refused
  · cases refused
  next short =>
  split at refused
  · cases refused
  next present =>
  split at refused
  next refuses =>
    exact ⟨⟨isProper_of_mem_pathNames (List.mem_of_getLast? last) current up, Nat.not_lt.1 short⟩,
      by simpa [ entry?] using present, by simpa using refuses⟩
  next => cases refused

theorem not_madeOnce {other : Path} (goesOn : other.GoesOn path name)
    (there : files.isDirectory other.bytes = true)
    (refused : files.makeDirectory path.bytes = .error .notFound) (grown : Grown other files middle)
    (unchanged : ∀ (refusing : Location) (other : Name), files.takesEntries refusing = false →
      files.node? (refusing ++ [other]) = none → middle.node? (refusing ++ [other]) = none) :
    madeOnce path middle ≠ (.ok (), after) := by
  intro made
  obtain ⟨last, left, location, has, leads⟩ := leads_of_goesOn goesOn there
  have stillLeads := leads.mono grown.includes
  rw [← grown.working] at stillLeads
  rcases madeOnce_ok made with new | ⟨isThere, -⟩
  · obtain ⟨_, _, _, _, new⟩ := made_of_makeDirectory new
    obtain ⟨-, -, refuses⟩ := makeDirectory_notFound new.fits last has leads refused
    obtain ⟨rfl, -⟩ := stillLeads.unique new.leads
    have takes := new.takes
    rw [takesEntries, grown.views] at takes
    rw [takesEntries, takes] at refuses
    cases refuses
  · obtain ⟨fits, _, _, -, leadsThere⟩ := isDirectory_iff.1 isThere
    obtain ⟨named, vacant, refuses⟩ := makeDirectory_notFound fits last has leads refused
    obtain ⟨above, names⟩ := List.getLast?_eq_some_iff.1 last
    rw [names, List.dropLast_concat] at stillLeads
    obtain ⟨_, _, wholeWay, -⟩ := leadsThere.split
    rw [names] at wholeWay
    obtain ⟨_, _, toEntry, atEntry⟩ := wholeWay.split
    obtain ⟨rfl, rfl⟩ := stillLeads.unique toEntry
    obtain ⟨-, node, found⟩ := atEntry.last_node named.toIsProper
    rw [unchanged _ _ refuses vacant] at found
    cases found

theorem Made.reaches {permissions : Nat} {own : Name}
    (made : Made parent.bytes files after left location own permissions)
    (goesOn : parent.GoesOn path name) (named : IsEntryName name)
    (noSlash : endsInSlash path.bytes = false) (fits : Fits path.bytes) :
    after.Reaches path.bytes left (location ++ [own]) name ∧
      after.node? (location ++ [own] ++ [name]) = none := by
  obtain ⟨dots, onlyDots, names⟩ := goesOn.names
  have last : (pathNames path.bytes).getLast? = some name := by rw [names, List.getLast?_concat]
  refine ⟨⟨named, last, noSlash, fits, ?_, made.hasDirectory⟩, ?_⟩
  · rw [names, List.dropLast_concat, goesOn.start]
    exact made.leads_self.append (leads_dots onlyDots)
  · have below : after.node? (location ++ own :: [name]) =
        (Node.directory (.empty permissions)).find? [name] := by
      rw [made.put]
      exact node?_put_below made.has [name]
    rw [List.append_assoc, List.singleton_append, below]
    rfl

theorem makeDirectoriesWithin_empty {steps : Nat} {value : Unit} (empty : path.text = "")
    (made : outcome (FileOperation.makeDirectoriesWithin steps path) files = (.ok value, after)) :
    after = files := by
  cases steps with
  | zero => cases made
  | succ steps =>
      rw [outcome_makeDirectoriesWithin, if_pos (String.isEmpty_iff.2 empty)] at made
      exact (Prod.mk.inj made).2.symm

theorem made_of_makeDirectoriesWithin {steps : Nat} (text : path.text ≠ "")
    (missing : files.isDirectory path.bytes = false)
    (above : ∀ other, path.parent? = some other → other.text ≠ "" →
      files.isDirectory other.bytes = true ∧ ∃ own, other.GoesOn path own)
    (made : outcome (FileOperation.makeDirectoriesWithin steps path) files = (.ok (), after)) :
    ∃ left location own permissions, Made path.bytes files after left location own permissions := by
  have fromOnce (once : madeOnce path files = (.ok (), after)) :
      ∃ left location own permissions,
        Made path.bytes files after left location own permissions := by
    rcases madeOnce_ok once with new | ⟨there, -⟩
    · exact made_of_makeDirectory new
    · rw [missing] at there
      cases there
  cases steps with
  | zero => cases made
  | succ steps =>
      rw [outcome_makeDirectoriesWithin, if_neg (by simpa [String.isEmpty_iff] using text)] at made
      split at made
      next refused =>
        cases isParent : path.parent? with
        | none => simp [isParent] at made
        | some other =>
            simp only [isParent] at made
            have grown := (makeDirectoriesWithin_grown steps other files).1
            have unchanged (refusing : Location) (own : Name)
                (refuses : files.takesEntries refusing = false)
                (vacant : files.node? (refusing ++ [own]) = none) :=
              makeDirectoriesWithin_refused steps other refuses vacant
            split at made
            next middle first =>
              rw [first] at grown unchanged
              by_cases empty : other.text = ""
              · exact fromOnce (makeDirectoriesWithin_empty empty first ▸ made)
              · obtain ⟨there, own, goesOn⟩ := above other isParent empty
                exact absurd made (not_madeOnce goesOn there refused grown unchanged)
            next => cases made
      next => exact fromOnce made

/-- When directories are made up to a path that does not reach its end yet, its last directory and
the one above are new. That is all that is missing if the directory above these is there. -/
theorem makeDirectories_unreached (proper : IsProper name)
    (last : (pathNames path.bytes).getLast? = some name)
    (noSlash : endsInSlash path.bytes = false)
    (closed : ¬∃ left location, files.Reaches path.bytes left location name)
    (isParent : path.parent? = some parent)
    (goesOn : parent.text ≠ "" → parent.GoesOn path name)
    (above : ∀ other, parent.parent? = some other → other.text ≠ "" →
      files.isDirectory other.bytes = true ∧ ∃ own, other.GoesOn parent own)
    (made : outcome (FileOperation.makeDirectories path) files = (.ok (), after)) :
    ∃ bare left location permissions, Grown path files bare ∧
      bare.Reaches path.bytes left location name ∧ bare.node? (location ++ [name]) = none ∧
        after = bare.put location name (.directory (.empty permissions)) := by
  have notEmpty : path.text.isEmpty = false := by
    cases empty : path.text.isEmpty with
    | false => rfl
    | true =>
        rw [String.isEmpty_iff] at empty
        rw [Path.bytes, empty] at last
        cases last
  have fails : madeOnce path files ≠ (.ok (), after) := by
    intro once
    rcases madeOnce_ok once with new | ⟨there, -⟩
    · obtain ⟨left, location, own, _, new⟩ := made_of_makeDirectory new
      obtain rfl := Option.some.inj (last.symm.trans new.last)
      exact closed ⟨left, location, new.named, last, noSlash, new.fits, new.leads, new.has⟩
    · obtain ⟨left, location, _, reaches, -⟩ := reaches_of_isDirectory proper last noSlash there
      exact closed ⟨left, location, reaches⟩
  have there : after.isDirectory path.bytes = true :=
    ((makeDirectories_grown made).2 rfl).resolve_left (by simp [notEmpty])
  obtain ⟨_, _, _, reachesAfter, -⟩ := reaches_of_isDirectory proper last noSlash there
  rw [FileOperation.makeDirectories, outcome_makeDirectoriesWithin, notEmpty,
    if_neg (by decide)] at made
  split at made
  next =>
    simp only [isParent] at made
    split at made
    next middle first =>
      have text : parent.text ≠ "" := by
        intro empty
        exact fails (makeDirectoriesWithin_empty empty first ▸ made)
      have missing : files.isDirectory parent.bytes = false := by
        cases isThere : files.isDirectory parent.bytes with
        | false => rfl
        | true =>
            obtain ⟨-, left, location, has, leads⟩ := leads_of_goesOn (goesOn text) isThere
            exact absurd ⟨left, location, reachesAfter.named, last, noSlash, reachesAfter.fits,
              leads, has⟩ closed
      obtain ⟨left, location, own, permissions, new⟩ :=
        made_of_makeDirectoriesWithin text missing above first
      obtain ⟨reaches, vacant⟩ :=
        new.reaches (goesOn text) reachesAfter.named noSlash reachesAfter.fits
      obtain ⟨-, _, rfl⟩ := reaches.madeOnce vacant made
      exact ⟨middle, left, _, _, (new.grown rfl).above isParent, reaches, vacant, rfl⟩
    next => cases made
  next => exact absurd made fails

/-! ## Entries that are not reached -/

theorem reaches_of_locate {bytes : Bytes} (proper : IsProper name)
    (last : (pathNames bytes).getLast? = some name) (noSlash : endsInSlash bytes = false)
    {place : Location} {node : Node} (located : files.locate false bytes = .ok (.node place node)) :
    ∃ left location, files.Reaches bytes left location name ∧ place = location ++ [name] ∧
      files.node? place = some node := by
  have seeks := located
  rw [locate, if_neg (by decide)] at seeks
  have fits := fits_of_seek seeks
  obtain ⟨above, names⟩ := List.getLast?_eq_some_iff.1 last
  rw [seek_of_fits fits, walkNames, noSlash, if_neg (by decide), List.append_nil,
    names] at seeks
  obtain ⟨left, location, leads, walks⟩ := leads_of_walk (by simp) seeks
  have noDot : ¬(name = currentName ∨ name = finalSlash) := by
    rintro (dot | slash)
    · exact proper.notCurrent dot
    · exact proper.notEmpty slash
  obtain ⟨step, asked⟩ := isStep_of_walk noDot proper.notParent walks
  rw [walk_step step asked] at walks
  cases found : files.node? (location ++ [name]) with
  | none =>
      rw [found] at walks
      simp only at walks
      split at walks <;> cases walks
  | some entry =>
      have reaches : files.Reaches bytes left location name := by
        refine ⟨⟨proper, step.fits⟩, last, noSlash, fits, ?_,
          hasDirectory_of_node?_append (by simp) found⟩
        rwa [names, List.dropLast_concat]
      obtain ⟨rfl, rfl⟩ :=
        Place.node.inj (Except.ok.inj (located.symm.trans (reaches.locate entry found)))
      exact ⟨left, location, reaches, rfl, found⟩

theorem removeTree_unreached {bytes : Bytes} (proper : IsProper name)
    (last : (pathNames bytes).getLast? = some name) (noSlash : endsInSlash bytes = false)
    (closed : ¬∃ left location, files.Reaches bytes left location name) :
    ∃ error, outcome (FileOperation.removeTree bytes) files = (.error error, files) := by
  rw [FileOperation.removeTree, outcome_bind, FileOperation.outcome_look]
  cases located : files.locate false bytes with
  | error error => exact ⟨error, rfl⟩
  | ok place =>
      cases place with
      | vacant directory own => exact ⟨.notFound, rfl⟩
      | node place node =>
          obtain ⟨left, location, reaches, -⟩ := reaches_of_locate proper last noSlash located
          exact absurd ⟨left, location, reaches⟩ closed

end SchemaBuild.FileSystem
