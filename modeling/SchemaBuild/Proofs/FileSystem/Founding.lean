import SchemaBuild.Proofs.FileSystem.Keeping
import SchemaBuild.Proofs.FileSystem.Reaching

/-!
# Making directories in two goes

Making a directory comes to the same, whether the directories above are made with it or were made
before. A walk that fails because something is in its way, and not because something is missing,
still fails when directories have been added.
-/

namespace SchemaBuild.FileSystem

variable {files before after middle : FileSystem} {links left : Nat} {names : List Name}
  {start place location : Location} {path parent : Path} {name : Name} {node : Node}

/-! ## Walks that fail -/

theorem Grown.keeps (grown : Grown path before after) : Keeps before after := by
  intro place node found
  rcases grown.sight place with same | ⟨none, -⟩
  · exact resembles_of_sight? same found
  · rw [sight?_eq_none.1 none] at found
    cases found

theorem Keeps.walk_error (keeps : Keeps before after) {error : FileError}
    (blocked : error ≠ .notFound)
    (fails : before.walk .target links names start = .error error) :
    after.walk .target links names start = .error error := by
  induction links using Nat.strongRecOn generalizing names start with
  | ind links smaller =>
      induction names generalizing start with
      | nil =>
          rw [walk_eq, walkWith] at fails
          split at fails
          · cases fails
          · exact absurd (Except.error.inj fails).symm blocked
      | cons name names induction =>
          by_cases dot : name = currentName ∨ name = finalSlash
          · rw [walk_stay dot] at fails ⊢
            exact induction fails
          by_cases parent : name = parentName
          · subst parent
            rw [walk_up] at fails ⊢
            exact induction fails
          by_cases long : longestName < name.length
          · rwa [walk_long parent dot long (by simp)] at fails ⊢
          have step : IsStep name := ⟨fun empty => dot (.inr empty),
            fun current => dot (.inl current), parent, Nat.not_lt.1 long⟩
          rw [walk_step step (by simp)] at fails ⊢
          split at fails
          · split at fails
            · cases fails
            · exact absurd (Except.error.inj fails).symm blocked
          next entries atName =>
            obtain ⟨_, stays, ⟨⟩⟩ := keeps _ _ atName
            rw [stays]
            exact induction fails
          next text atName =>
            obtain ⟨_, stays, ⟨⟩⟩ := keeps _ _ atName
            simp only [reduceCtorEq, decide_false, Bool.and_false, Bool.false_eq_true, if_false]
              at fails
            rw [stays]
            simp only [reduceCtorEq, decide_false, Bool.and_false, Bool.false_eq_true, if_false]
            cases links with
            | zero => exact fails
            | succ links => exact smaller links (Nat.lt_succ_self _) fails
          next here noDirectory noLink atName =>
            split at fails
            · cases fails
            next more =>
              obtain ⟨later, stays, resembles⟩ := keeps _ _ atName
              rw [stays]
              cases resembles with
              | file | device =>
                  rw [← fails]
                  simp [more]
              | link target => exact absurd rfl (noLink target)
              | directory entries others => exact absurd rfl (noDirectory entries)

/-! ## Directories that are there -/

/-- A path leads to a directory, and it starts at one. -/
structure StandsAt (files : FileSystem) (path : Bytes) (left : Nat) (location : Location) :
    Prop where
  start : files.HasDirectory (walkStart path files.working)
  leads : Leads files linkLimit (pathNames path) (walkStart path files.working) left location

theorem StandsAt.enters {bytes : Bytes} (stands : files.StandsAt bytes left location) :
    files.Enters bytes left location :=
  ⟨stands.leads, stands.leads.hasDirectory stands.start⟩

theorem StandsAt.isDirectory {bytes : Bytes} (stands : files.StandsAt bytes left location)
    (fits : Fits bytes) : files.isDirectory bytes = true :=
  isDirectory_iff.2 ⟨fits, left, location, stands.enters.has, stands.leads.withSlash⟩

theorem makeDirectory_of_isDirectory {bytes : Bytes}
    (start : files.HasDirectory (walkStart bytes files.working))
    (there : files.isDirectory bytes = true) : files.makeDirectory bytes = .error .exists := by
  obtain ⟨fits, left, location, has, leads⟩ := isDirectory_iff.1 there
  obtain ⟨between, target, leads, -⟩ := leads.split
  -- The last name stands for the directory itself, or for one of its entries that is there.
  obtain ⟨above, links, leadsAbove, last⟩ : ∃ above links,
      Leads files linkLimit (pathNames bytes).dropLast (walkStart bytes files.working) links
        above ∧ ∀ name, (pathNames bytes).getLast? = some name → IsProper name →
          name.length ≤ longestName ∧ ∃ node, files.node? (above ++ [name]) = some node := by
    cases ends : (pathNames bytes).getLast? with
    | none =>
        rw [List.getLast?_eq_none_iff] at ends
        exact ⟨_, _, by rw [ends]; exact .here, fun name same => by cases same⟩
    | some name =>
        obtain ⟨init, names⟩ := List.getLast?_eq_some_iff.1 ends
        rw [names] at leads ⊢
        obtain ⟨links, above, leadsAbove, atName⟩ := leads.split
        rw [List.dropLast_concat]
        refine ⟨above, links, leadsAbove, fun other same proper => ?_⟩
        obtain rfl := Option.some.inj same
        exact atName.last_node proper
  obtain ⟨entries, -, direct⟩ := files.walk_nil .target links (leadsAbove.hasDirectory start)
  have walks : files.walk .target linkLimit ((pathNames bytes).dropLast ++ [currentName])
      (walkStart bytes files.working) = .ok (.node above (.directory entries)) := by
    rw [leadsAbove.walk (by simp) (by decide), walk_stay (.inl rfl), direct]
  rw [makeDirectory, makeDirectoryWith, FileSystem.slot, if_neg (by simpa using fits.noZero),
    if_neg (by simpa using fits.notEmpty), if_neg (Nat.not_le.2 fits.short)]
  simp only [walks, bind, Except.bind]
  cases ends : (pathNames bytes).getLast? with
  | none => rfl
  | some name =>
      by_cases current : name = currentName
      · simp [current]
      by_cases up : name = parentName
      · simp [up, if_neg (by decide : parentName ≠ currentName)]
      have proper := isProper_of_mem_pathNames (List.mem_of_getLast? ends) current up
      obtain ⟨short, node, found⟩ := last name ends proper
      simp [current, up, Nat.not_lt.2 short, entry?, found]

/-! ## Directories and those above -/

theorem makeDirectories_of_not_fits (some : path.bytes ≠ []) (unfit : ¬Fits path.bytes) :
    ∃ error, ∀ files,
      outcome (FileOperation.makeDirectories path) files = (.error error, files) := by
  obtain ⟨error, present, refused⟩ := refused_of_not_fits unfit
  refine ⟨error, fun files => ?_⟩
  have fails : files.makeDirectory path.bytes = .error error := by
    rw [makeDirectory, makeDirectoryWith, (refused files).2]
    rfl
  have missing : files.isDirectory path.bytes = false := by
    rw [isDirectory, locate, if_pos rfl, (refused files).1]
  have once : madeOnce path files = (.error error, files) := by simp [madeOnce, fails, missing]
  rw [outcome_makeDirectories, isEmpty_text some, if_neg Bool.false_ne_true, fails]
  split
  next same => exact absurd (Except.error.inj same) (present some)
  next => exact once

theorem makeDirectories_of_isDirectory
    (start : files.HasDirectory (walkStart path.bytes files.working))
    (there : files.isDirectory path.bytes = true) :
    outcome (FileOperation.makeDirectories path) files = (.ok (), files) := by
  rw [outcome_makeDirectories]
  split
  · rfl
  · have exists' := makeDirectory_of_isDirectory start there
    simp [exists', madeOnce, there]

theorem makeDirectories_eq_madeOnce (isParent : path.parent? = some parent)
    (start : files.HasDirectory (walkStart parent.bytes files.working))
    (there : parent.text = "" ∨ files.isDirectory parent.bytes = true)
    (notEmpty : path.text.isEmpty = false) :
    outcome (FileOperation.makeDirectories path) files = madeOnce path files := by
  have above : outcome (FileOperation.makeDirectories parent) files = (.ok (), files) := by
    rcases there with empty | there
    · rw [outcome_makeDirectories, if_pos (String.isEmpty_iff.2 empty)]
    · exact makeDirectories_of_isDirectory start there
  rw [outcome_makeDirectories, notEmpty, if_neg Bool.false_ne_true, isParent]
  simp only [above]
  split <;> rfl

theorem walk_of_slot_error {bytes : Bytes} (fits : Fits bytes) {error : FileError}
    (fails : files.slot bytes = .error error) :
    files.walk .target linkLimit ((pathNames bytes).dropLast ++ [currentName])
        (walkStart bytes files.working) = .error error ∨
      ∃ place node, files.walk .target linkLimit ((pathNames bytes).dropLast ++ [currentName])
        (walkStart bytes files.working) = .ok (.node place node) ∧ node.isDirectory = false := by
  rw [FileSystem.slot, if_neg (by simpa using fits.noZero), if_neg (by simpa using fits.notEmpty),
    if_neg (Nat.not_le.2 fits.short)] at fails
  simp only at fails
  split at fails
  next walks => exact .inl (walks.trans (congrArg _ (Except.error.inj fails)))
  next => cases fails
  next place noDirectory walks =>
    obtain ⟨left, target, -, ends⟩ := leads_of_walk (by simp) walks
    rw [walk_stay (.inl rfl), walk_eq, walkWith] at ends
    split at ends
    next node found =>
      obtain rfl := Except.ok.inj ends
      refine .inr ⟨target, node, walks, ?_⟩
      cases node with
      | directory entries => exact absurd rfl (noDirectory target entries)
      | file | link | device => rfl
    next => cases ends

theorem isDirectory_of_leads (goesOn : parent.GoesOn path name) (fits : Fits parent.bytes)
    (has : files.HasDirectory location)
    (leads : Leads files linkLimit (pathNames path.bytes).dropLast
      (walkStart path.bytes files.working) left location) :
    files.isDirectory parent.bytes = true := by
  obtain ⟨dots, onlyDots, names⟩ := goesOn.names
  rw [names, List.dropLast_concat, goesOn.start] at leads
  obtain ⟨between, middle, toParent, behind⟩ := leads.split
  obtain ⟨rfl, -⟩ := (leads_dots onlyDots).unique behind
  exact isDirectory_iff.2 ⟨fits, between, _, has, toParent.withSlash⟩

/-- If a directory cannot be made, and not because something is missing, then the one above is there
or it cannot be made either. -/
theorem isDirectory_of_makeDirectory (goesOn : parent.GoesOn path name) (fits : Fits path.bytes)
    (refused : files.makeDirectory path.bytes ≠ .error .notFound)
    (grown : Grown parent files after) (there : after.isDirectory parent.bytes = true) :
    files.isDirectory parent.bytes = true := by
  have parentFits := (isDirectory_iff.1 there).1
  obtain ⟨-, left, location, has, leads⟩ := leads_of_goesOn goesOn there
  obtain ⟨entries, -, direct⟩ := after.walk_nil .target left has
  have walks : after.walk .target linkLimit ((pathNames path.bytes).dropLast ++ [currentName])
      (walkStart path.bytes files.working) = .ok (.node location (.directory entries)) := by
    rw [← grown.working, leads.walk (by simp) (by decide), walk_stay (.inl rfl), direct]
  cases slotted : files.slot path.bytes with
  | error error =>
      have blocked : error ≠ .notFound := by
        rintro rfl
        simp [makeDirectory, makeDirectoryWith, slotted, bind, Except.bind] at refused
      rcases walk_of_slot_error fits slotted with fails | ⟨place, node, ends, noDirectory⟩
      · rw [grown.keeps.walk_error blocked fails] at walks
        cases walks
      · obtain ⟨later, stillEnds, resembles⟩ := grown.keeps.walk ends
        rw [stillEnds] at walks
        obtain ⟨-, rfl⟩ := Place.node.inj (Except.ok.inj walks)
        cases resembles
        cases noDirectory
  | ok slot =>
      rw [FileSystem.slot, if_neg (by simpa using fits.noZero),
        if_neg (by simpa using fits.notEmpty), if_neg (Nat.not_le.2 fits.short)] at slotted
      simp only at slotted
      split at slotted
      · cases slotted
      next target inner before =>
        obtain ⟨links, leads, found⟩ := leads_of_walk_target before
        obtain ⟨between, place, leads, last⟩ := leads.split
        cases last with
        | stay dot last =>
            cases last
            exact isDirectory_of_leads goesOn parentFits ⟨inner, found⟩ leads
        | down step => exact absurd rfl step.notCurrent
        | follow step => exact absurd rfl step.notCurrent
      · cases slotted

/-- Once the directory above has been made, a directory is made, or it was there. It makes no
difference whether the directory above is made first. -/
theorem makeDirectories_founded (goesOn : parent.GoesOn path name)
    (isParent : path.parent? = some parent) (fits : Fits path.bytes)
    (start : files.HasDirectory (walkStart parent.bytes files.working))
    (founded : outcome (FileOperation.makeDirectories parent) files = (.ok (), after)) :
    outcome (FileOperation.makeDirectories path) files = madeOnce path after ∧
      outcome (FileOperation.makeDirectories path) after = madeOnce path after := by
  have notEmpty := isEmpty_text fits.notEmpty
  by_cases there : parent.text = "" ∨ files.isDirectory parent.bytes = true
  · have same : after = files := by
      rcases there with empty | there
      · exact makeDirectoriesWithin_empty empty founded
      · rw [makeDirectories_of_isDirectory start there] at founded
        exact (Prod.mk.inj founded).2.symm
    rw [same]
    have once := makeDirectories_eq_madeOnce isParent start there notEmpty
    exact ⟨once, once⟩
  · obtain ⟨text, missing⟩ := not_or.1 there
    obtain ⟨grown, made⟩ := makeDirectories_grown founded
    have now := (made rfl).resolve_left (by simpa [String.isEmpty_iff] using text)
    have refused : files.makeDirectory path.bytes = .error .notFound := by
      by_contra other
      exact missing (isDirectory_of_makeDirectory goesOn fits other grown now)
    refine ⟨?_, makeDirectories_eq_madeOnce isParent ?_ (.inr now) notEmpty⟩
    · rw [outcome_makeDirectories, notEmpty, if_neg Bool.false_ne_true, refused]
      simp only [isParent, founded]
    · rw [grown.working]
      exact hasDirectory_congr (grown.includes _ (.inl start)) start

end SchemaBuild.FileSystem
