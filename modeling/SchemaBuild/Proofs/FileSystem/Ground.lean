import SchemaBuild.Proofs.FileSystem.Agreement
import SchemaBuild.Proofs.FileSystem.Founding

/-!
# Common ground

Programs share the directory that their own directories are in. Each of them works on some entries
of its own directory, and makes this directory if it is missing. The way to the common ground stays
what it is, whatever becomes of these entries.
-/

namespace SchemaBuild

open FileSystem

/-- A directory with the path that leads there, and the entries further down that programs work on,
each by the name of its directory and its own. -/
structure Ground where
  path : Path
  left : Nat
  location : Location
  entries : List (Name × Name)

namespace Ground

variable {ground : Ground} {base before after files : FileSystem} {place : Location}

/-- A location that is neither one of the entries nor below one. -/
def Outside (ground : Ground) (place : Location) : Prop :=
  ∀ entry ∈ ground.entries, ¬ground.location ++ [entry.1, entry.2] <+: place

/-- The path leads to the ground, whatever becomes of the entries. These hold nothing but
directories and files with one name, and the directories that they are in are no links. -/
structure Firm (ground : Ground) (base : FileSystem) : Prop where
  stays : ∀ after : FileSystem, after.working = base.working →
    (∀ place, base.Passable place → ground.Outside place →
      after.sight? place = base.sight? place) →
        after.StandsAt ground.path.bytes ground.left ground.location
  noLink : ∀ name target, base.node? (ground.location ++ [name]) ≠ some (.link target)
  unshared : ∀ entry ∈ ground.entries, ∀ rest,
    base.Unshared (ground.location ++ entry.1 :: entry.2 :: rest)

structure Became (ground : Ground) (base files : FileSystem) : Prop where
  working : files.working = base.working
  views : files.views = base.views
  sound : files.Sound
  kept : ∀ place, base.Passable place → ground.Outside place →
    files.sight? place = base.sight? place

theorem Became.refl (ground : Ground) (sound : base.Sound) : ground.Became base base :=
  ⟨rfl, rfl, sound, fun _ _ _ => rfl⟩

theorem Firm.stands (firm : ground.Firm base) (became : ground.Became base files) :
    files.StandsAt ground.path.bytes ground.left ground.location :=
  firm.stays files became.working became.kept

theorem leads_down {names : List Name} {start : Location} {links : Nat}
    (steps : ∀ name ∈ names, IsStep name) (has : files.HasDirectory (start ++ names)) :
    Leads files links names start links (start ++ names) := by
  induction names generalizing start with
  | nil =>
      rw [List.append_nil]
      exact .here
  | cons name names induction =>
      have whole : start ++ name :: names = start ++ [name] ++ names := by simp
      rw [whole] at has ⊢
      exact .down (steps name List.mem_cons_self) has.above
        (induction (fun other member => steps other (List.mem_cons_of_mem _ member)) has)

/-- A path that only goes down through directories leads to its ground for good. -/
theorem stays_of_steps (steps : ∀ name ∈ pathNames ground.path.bytes, IsStep name)
    (left : ground.left = linkLimit)
    (location : ground.location =
      walkStart ground.path.bytes base.working ++ pathNames ground.path.bytes)
    (has : base.HasDirectory ground.location) (after : FileSystem)
    (working : after.working = base.working)
    (kept : ∀ place, base.Passable place → ground.Outside place →
      after.sight? place = base.sight? place) :
    after.StandsAt ground.path.bytes ground.left ground.location := by
  have outside : ground.Outside ground.location := by
    intro entry _ within
    have longer := within.length_le
    simp only [List.length_append, List.length_cons, List.length_nil] at longer
    omega
  have still := hasDirectory_congr (kept _ (.inl has) outside) has
  rw [left]
  rw [location] at still ⊢
  rw [← working] at still ⊢
  exact ⟨still.above, leads_down steps still⟩

theorem firm_of_empty {permissions : Nat}
    (steps : ∀ name ∈ pathNames ground.path.bytes, IsStep name)
    (left : ground.left = linkLimit)
    (location : ground.location =
      walkStart ground.path.bytes base.working ++ pathNames ground.path.bytes)
    (empty : base.node? ground.location = some (.directory (.empty permissions))) :
    ground.Firm base := by
  have vacant (name : Name) (rest : Location) :
      base.node? (ground.location ++ name :: rest) = none := by
    rw [node?_append, empty]
    rfl
  refine ⟨stays_of_steps steps left location ⟨_, empty⟩, fun name target found => ?_,
    fun entry _ rest node found => ?_⟩
  · rw [vacant] at found
    cases found
  · rw [vacant] at found
    cases found

end Ground

/-! ## Directories on the ground -/

structure Plot where
  path : Path
  name : Name
  own : List Name

namespace Plot

variable {ground : Ground} {plot : Plot} {base before after files first second : FileSystem}
  {place : Location}

def spot (plot : Plot) (ground : Ground) : Location :=
  ground.location ++ [plot.name]

def site (plot : Plot) (ground : Ground) : Site :=
  ⟨plot.path.bytes, ground.left, plot.spot ground, plot.own⟩

structure LiesOn (plot : Plot) (ground : Ground) : Prop where
  isParent : plot.path.parent? = some ground.path
  goesOn : ground.path.GoesOn plot.path plot.name
  proper : IsProper plot.name
  noSlash : endsInSlash plot.path.bytes = false
  fits : Fits plot.path.bytes
  aboveFits : ground.path.text = "" ∨ Fits ground.path.bytes
  entries : ∀ name ∈ plot.own, (plot.name, name) ∈ ground.entries

namespace LiesOn

variable (lies : plot.LiesOn ground)
include lies

theorem last : (pathNames plot.path.bytes).getLast? = some plot.name := by
  obtain ⟨dots, -, names⟩ := lies.goesOn.names
  rw [names, List.getLast?_concat]

theorem leads (stands : files.StandsAt ground.path.bytes ground.left ground.location) :
    Leads files linkLimit (pathNames plot.path.bytes).dropLast
      (walkStart plot.path.bytes files.working) ground.left ground.location := by
  obtain ⟨dots, onlyDots, names⟩ := lies.goesOn.names
  rw [names, List.dropLast_concat, lies.goesOn.start]
  exact stands.leads.append (leads_dots onlyDots)

theorem reaches (short : plot.name.length ≤ longestName)
    (stands : files.StandsAt ground.path.bytes ground.left ground.location) :
    files.Reaches plot.path.bytes ground.left ground.location plot.name :=
  ⟨⟨lies.proper, short⟩, lies.last, lies.noSlash, lies.fits, lies.leads stands,
    stands.enters.has⟩

theorem enters (short : plot.name.length ≤ longestName)
    (stands : files.StandsAt ground.path.bytes ground.left ground.location)
    (has : files.HasDirectory (plot.spot ground)) :
    files.Enters plot.path.bytes ground.left (plot.spot ground) := by
  refine ⟨?_, has⟩
  rw [← (lies.reaches short stands).names]
  exact (lies.leads stands).append (.down (lies.proper.isStep short) has .here)

theorem apart_of_outside (outside : ground.Outside place) :
    Apart (plot.spot ground) plot.own place := by
  intro name member within
  refine outside _ (lies.entries name member) ?_
  rwa [spot, List.append_assoc] at within

end LiesOn

/-! ## Making a directory on the ground -/

inductive Founded (plot : Plot) (ground : Ground) (before : FileSystem) : FileSystem → Prop
  | there (has : before.HasDirectory (plot.spot ground)) : Founded plot ground before before
  | made (has : before.HasDirectory ground.location)
      (vacant : before.node? (plot.spot ground) = none) (permissions : Nat) :
      Founded plot ground before
        (before.put ground.location plot.name (.directory (.empty permissions)))

namespace Founded

variable (founded : plot.Founded ground before after)
include founded

theorem working : after.working = before.working := by
  cases founded <;> rfl

theorem views : after.views = before.views := by
  cases founded <;> rfl

theorem sight (notHere : place ≠ plot.spot ground) : after.sight? place = before.sight? place := by
  cases founded with
  | there => rfl
  | made has vacant permissions =>
      rw [sight?_put_directory has vacant]
      exact if_neg notHere

theorem hasDirectory : after.HasDirectory (plot.spot ground) := by
  cases founded with
  | there has => exact has
  | made has vacant permissions =>
      refine hasDirectory_iff.2 ⟨permissions, ?_⟩
      rw [sight?_put_directory has vacant]
      exact if_pos rfl

theorem sound (proper : IsProper plot.name) (isSound : before.Sound) : after.Sound := by
  cases founded with
  | there => exact isSound
  | made => exact isSound.put proper (by rw [Node.Sound, Directory.Sound]; trivial)

theorem kept (passable : before.Passable place) : after.sight? place = before.sight? place := by
  by_cases here : place = plot.spot ground
  · subst here
    cases founded with
    | there => rfl
    | made _ vacant => exact absurd passable (not_passable_of_missing vacant)
  · exact founded.sight here

theorem became (proper : IsProper plot.name) (became : ground.Became base before) :
    ground.Became base after := by
  refine ⟨founded.working.trans became.working, founded.views.trans became.views,
    founded.sound proper became.sound, fun place passable outside => ?_⟩
  have seen := became.kept place passable outside
  rw [founded.kept (passable_congr seen passable), seen]

theorem unshared (notHere : place ≠ plot.spot ground) (unshared : before.Unshared place) :
    after.Unshared place := by
  refine unshared.of_sight (founded.sight notHere) fun id only other listed => ?_
  by_cases atSpot : other = plot.spot ground
  · obtain ⟨entries, isDirectory⟩ := founded.hasDirectory
    rw [atSpot, isDirectory] at listed
    cases listed
  · have seen := (founded.sight atSpot).symm.trans (sight?_of_node? listed)
    exact only.only other (sight?_eq_file.1 seen).1

end Founded

structure Ready (plot : Plot) (ground : Ground) (base files : FileSystem) : Prop where
  became : ground.Became base files
  noLink : ∀ target, files.view? (plot.spot ground) ≠ some (.link target)
  unshared : ∀ name ∈ plot.own, ∀ rest, files.Unshared (plot.spot ground ++ name :: rest)

namespace LiesOn

variable (lies : plot.LiesOn ground)
include lies

theorem ready (firm : ground.Firm base) (sound : base.Sound) : plot.Ready ground base base := by
  refine ⟨.refl _ sound, fun target seen => ?_, fun name member rest => ?_⟩
  · cases found : base.node? (plot.spot ground) with
    | none =>
        rw [view?_of_none found] at seen
        cases seen
    | some node =>
        rw [view?_of_node? found] at seen
        cases node with
        | link text => exact firm.noLink plot.name text found
        | directory | file | device => cases seen
  · have atEntry := firm.unshared _ (lies.entries name member) rest
    rwa [spot, List.append_assoc]

theorem madeOnce_long (long : longestName < plot.name.length)
    (stands : files.StandsAt ground.path.bytes ground.left ground.location) :
    madeOnce plot.path files = (.error .nameTooLong, files) := by
  have leads := lies.leads stands
  have refused : files.makeDirectory plot.path.bytes = .error .nameTooLong := by
    rw [makeDirectory, makeDirectoryWith, slot_of_leads lies.proper lies.last lies.noSlash
      lies.fits leads stands.enters.has]
    simp only [bind, Except.bind, if_pos long]
  have walks : files.walk .target linkLimit (walkNames plot.path.bytes)
      (walkStart plot.path.bytes files.working) = .error .nameTooLong := by
    obtain ⟨above, names⟩ := List.getLast?_eq_some_iff.1 lies.last
    rw [names, List.dropLast_concat] at leads
    rw [walkNames, lies.noSlash, if_neg (by decide), List.append_nil, names,
      leads.walk (by simp) (by simpa using lies.proper.notEmpty),
      walk_long lies.proper.notParent
        (fun dot => dot.elim lies.proper.notCurrent lies.proper.notEmpty) long (by simp)]
  have missing : files.isDirectory plot.path.bytes = false := by
    rw [isDirectory, locate, if_pos rfl, seek_of_fits lies.fits, walks]
  simp [madeOnce, refused, missing]

theorem outcome_makeDirectories
    (stands : files.StandsAt ground.path.bytes ground.left ground.location)
    (noLink : ∀ target, files.view? (plot.spot ground) ≠ some (.link target)) :
    outcome (FileOperation.makeDirectories plot.path) files =
      if longestName < plot.name.length then (.error .nameTooLong, files)
      else
        match files.view? (plot.spot ground) with
        | some (.directory _) => (.ok (), files)
        | some _ => (.error .exists, files)
        | none =>
            if files.takesEntries ground.location then
              (.ok (), files.put ground.location plot.name (.directory (.empty
                (usualDirectoryPermissions ||| files.inheritedPermissions ground.location))))
            else (.error .notFound, files) := by
  have start := stands.start
  rw [makeDirectories_eq_madeOnce lies.isParent start
    (lies.aboveFits.imp id stands.isDirectory) (isEmpty_text lies.fits.notEmpty)]
  split
  next long => exact lies.madeOnce_long long stands
  next short =>
  have reaches := lies.reaches (Nat.not_lt.1 short) stands
  have once := reaches.makeDirectory
  have seeks := reaches.seek .target
  rw [← spot] at once seeks
  cases found : files.node? (plot.spot ground) with
  | none =>
      rw [view?_of_none found]
      rw [found] at once seeks
      simp only [Option.isSome_none, Bool.false_eq_true, if_false] at once
      have missing : files.isDirectory plot.path.bytes = false := by
        simp [isDirectory, locate, seeks]
      cases takes : files.takesEntries ground.location <;> simp [madeOnce, once, takes, missing]
  | some node =>
      rw [view?_of_node? found] at noLink ⊢
      rw [found] at once seeks
      simp only [Option.isSome_some, if_true] at once
      cases node with
      | link target => exact absurd rfl (noLink target)
      | directory entries | file | device =>
          simp [madeOnce, once, isDirectory, locate, seeks, sightOf, Sight.view]

/-- What is done to the entries that a program has in its directory leads away from no ground. -/
theorem became (became : ground.Became base before)
    (changed : ChangedIn (plot.spot ground) plot.own before after) : ground.Became base after :=
  ⟨changed.working.trans became.working, changed.views.trans became.views,
    changed.sound became.sound, fun place passable outside =>
      (changed.sight place (lies.apart_of_outside outside)).trans
        (became.kept place passable outside)⟩

theorem tidy (firm : ground.Firm base) (short : plot.name.length ≤ longestName)
    (ready : plot.Ready ground base before) (founded : plot.Founded ground before after) :
    (plot.site ground).Tidy after := by
  have becameAfter := founded.became lies.proper ready.became
  refine ⟨becameAfter.sound, fun later changed => ?_, fun name member rest => ?_⟩
  · exact lies.enters short (firm.stands (lies.became becameAfter changed))
      (changed.hasDirectory founded.hasDirectory)
  · exact founded.unshared (below_ne_self _ _ _) (ready.unshared name member rest)

/-- In file systems that look alike where the program works, its directory is made in both, or
cannot be made in either for the same reason. -/
theorem founds (firm : ground.Firm base) (ready : plot.Ready ground base first)
    (otherReady : plot.Ready ground base second)
    (above : second.view? ground.location = first.view? ground.location)
    (alike : Alike (plot.spot ground) plot.own first second) :
    (∃ error,
      outcome (FileOperation.makeDirectories plot.path) first = (.error error, first) ∧
      outcome (FileOperation.makeDirectories plot.path) second = (.error error, second)) ∨
    ∃ firstAfter secondAfter,
      outcome (FileOperation.makeDirectories plot.path) first = (.ok (), firstAfter) ∧
      outcome (FileOperation.makeDirectories plot.path) second = (.ok (), secondAfter) ∧
      plot.Founded ground first firstAfter ∧ plot.Founded ground second secondAfter ∧
      Twins (plot.site ground) plot.own firstAfter secondAfter := by
  have stands := firm.stands ready.became
  have otherStands := firm.stands otherReady.became
  rw [lies.outcome_makeDirectories stands ready.noLink,
    lies.outcome_makeDirectories otherStands otherReady.noLink, alike.here]
  split
  · exact .inl ⟨_, rfl, rfl⟩
  next short =>
  have twins {firstAfter secondAfter : FileSystem} (founded : plot.Founded ground first firstAfter)
      (otherFounded : plot.Founded ground second secondAfter)
      (here : secondAfter.view? (plot.spot ground) = firstAfter.view? (plot.spot ground)) :
      Twins (plot.site ground) plot.own firstAfter secondAfter := by
    refine ⟨List.Subset.refl _, lies.tidy firm (Nat.not_lt.1 short) ready founded,
      lies.tidy firm (Nat.not_lt.1 short) otherReady otherFounded,
      by rw [otherFounded.working, founded.working, alike.working],
      by rw [otherFounded.views, founded.views, alike.views], here, fun name member rest => ?_⟩
    have notHere := below_ne_self (plot.spot ground) name rest
    exact (view?_congr (otherFounded.sight notHere)).trans
      ((alike.below name member rest).trans (view?_congr (founded.sight notHere)).symm)
  cases seen : first.view? (plot.spot ground) with
  | none =>
      have vacant : first.node? (plot.spot ground) = none := by
        rwa [view?, Option.map_eq_none_iff, sight?_eq_none] at seen
      have otherVacant := node?_none_of_view? alike.here vacant
      simp only [alike.takesEntries, inheritedPermissions_of_view? above]
      split
      · refine .inr ⟨_, _, rfl, rfl, .made stands.enters.has vacant _,
          .made otherStands.enters.has otherVacant _, twins (.made stands.enters.has vacant _)
            (.made otherStands.enters.has otherVacant _) ?_⟩
        rw [view?, view?, sight?_put_directory otherStands.enters.has otherVacant,
          sight?_put_directory stands.enters.has vacant, spot, if_pos rfl, if_pos rfl]
      · exact .inl ⟨_, rfl, rfl⟩
  | some view =>
      cases view with
      | link target => exact absurd seen (ready.noLink target)
      | file | device => exact .inl ⟨_, rfl, rfl⟩
      | directory permissions =>
          have has : first.HasDirectory (plot.spot ground) := by
            cases found : first.node? (plot.spot ground) with
            | none =>
                rw [view?_of_none found] at seen
                cases seen
            | some node =>
                rw [view?_of_node? found] at seen
                cases node with
                | directory entries => exact ⟨entries, found⟩
                | file | link | device => cases seen
          obtain ⟨_, found⟩ := has
          obtain ⟨_, otherFound, -⟩ := directory_of_view? alike.here found
          exact .inr ⟨first, second, rfl, rfl, .there ⟨_, found⟩, .there ⟨_, otherFound⟩,
            twins (.there ⟨_, found⟩) (.there ⟨_, otherFound⟩) alike.here⟩

end LiesOn

end Plot

end SchemaBuild
