import SchemaBuild.Proofs.FileSystem.Keeping
import SchemaBuild.Proofs.FileSystem.Reaching

/-!
# Giving an entry another place

An entry that gets another place and name takes all that is below it along. Where it is a directory,
nothing is lost by that but an entry that it replaces, and this was empty.
-/

namespace SchemaBuild.FileSystem

variable {files other after : FileSystem}
  {path otherPath source target base first second : Bytes}
  {left : Nat} {location : Location} {name own otherName : Name} {node : Node}

/-! ## Paths of entries in different file systems -/

/-- Where a path reaches an entry in two file systems, which agree on what both ways could go
through, it reaches the same entry with what both have. -/
theorem Reaches.common {shared : FileSystem} {otherLeft : Nat} {otherLocation : Location}
    (agree : ∀ place, files.Passable place → other.Passable place →
      other.sight? place = files.sight? place ∧ shared.sight? place = files.sight? place)
    (otherWorking : other.working = files.working) (working : shared.working = files.working)
    (reaches : files.Reaches path left location name)
    (otherReaches : other.Reaches path otherLeft otherLocation otherName) :
    otherLocation = location ∧ otherName = name ∧ shared.Reaches path left location name := by
  have otherLeads := otherReaches.leads
  rw [otherWorking] at otherLeads
  rcases reaches.leads.common agree otherLeads with ⟨rfl, -, leads⟩
  rw [← working] at leads
  have has := hasDirectory_congr (agree _ (.inl reaches.has) (.inl otherReaches.has)).2 reaches.has
  exact ⟨rfl, Option.some.inj (otherReaches.last.symm.trans reaches.last), reaches.named,
    reaches.last, reaches.noSlash, reaches.fits, leads, has⟩

/-- A path that reached an entry before there was anything, and reaches it where no more than that
is changed, does not lead through the entry. -/
theorem Reaches.without {bare : FileSystem} {otherLeft : Nat} {place : Location}
    (agree : ∀ place, bare.Passable place → files.Passable place →
      files.sight? place = bare.sight? place)
    (working : files.working = bare.working) (reaches : bare.Reaches path left location own)
    (vacant : bare.node? (location ++ [own]) = none)
    (there : files.Reaches path otherLeft place otherName) :
    place = location ∧ otherName = own ∧
      (files.erase location own).Reaches path left location own := by
  have common (shared : FileSystem) (same : shared.working = bare.working)
      (seen : ∀ place, bare.Passable place → files.Passable place →
        shared.sight? place = bare.sight? place) :=
    reaches.common (fun place passable passableThere =>
      ⟨agree place passable passableThere, seen place passable passableThere⟩) working same there
  rcases common files working agree with ⟨rfl, rfl, -⟩
  refine ⟨rfl, rfl, (common (files.erase place otherName) working
    fun other passable passableThere => ?_).2.2⟩
  rw [← agree other passable passableThere]
  exact sight?_erase_apart there.has (not_below_of_vacant vacant passable.exists_node)

/-! ## Entries beside each other -/

theorem pathNames_append_noSlash (noSlash : slashByte ∉ second)
    (last : (pathNames base).getLast? = some name) (ends : endsInSlash base = false) :
    pathNames (base ++ second) = (pathNames base).dropLast ++ [name ++ second] := by
  have single {piece : Bytes} (some : piece ≠ []) (apart : slashByte ∉ piece) :
      pathNames (piece ++ second) = [piece ++ second] := by
    refine pathNames_single (by simp [some]) ?_
    rw [List.mem_append]
    exact not_or.2 ⟨apart, noSlash⟩
  by_cases slash : slashByte ∈ base.reverse
  · rcases List.eq_append_cons_of_mem slash with ⟨behind, before, reversed, apart⟩
    have whole : base = before.reverse ++ slashByte :: behind.reverse := by
      rw [← List.reverse_reverse base, reversed]
      simp
    have some : behind.reverse ≠ [] := by
      intro empty
      rw [whole, empty, endsInSlash, List.getLast?_concat] at ends
      simp at ends
    have apartReverse : slashByte ∉ behind.reverse := by
      rwa [List.mem_reverse]
    rw [whole, pathNames_append, pathNames_single some apartReverse, List.getLast?_concat] at last
    rw [whole, List.append_assoc, List.cons_append, pathNames_append, pathNames_append,
      single some apartReverse, pathNames_single some apartReverse, List.dropLast_concat,
      Option.some.inj last]
  · have apart : slashByte ∉ base := by
      rwa [← List.mem_reverse]
    have some : base ≠ [] := by
      rintro rfl
      cases last
    rw [pathNames_single some apart] at last
    rw [single some apart, pathNames_single some apart, ← Option.some.inj last]
    rfl

theorem Reaches.sibling
    (start : walkStart otherPath files.working = walkStart path files.working)
    (names : (pathNames otherPath).dropLast = (pathNames path).dropLast)
    (named : IsEntryName otherName) (last : (pathNames otherPath).getLast? = some otherName)
    (noSlash : endsInSlash otherPath = false) (fits : Fits otherPath)
    (reaches : files.Reaches path left location name) :
    files.Reaches otherPath left location otherName := by
  refine ⟨named, last, noSlash, fits, ?_, reaches.has⟩
  rw [names, start]
  exact reaches.leads

theorem walkStart_append_noSlash (noSlash : slashByte ∉ first) (otherNoSlash : slashByte ∉ second)
    (base : Bytes) (directory : Location) :
    walkStart (base ++ first) directory = walkStart (base ++ second) directory := by
  cases base with
  | cons head tail => rfl
  | nil =>
      have relative {bytes : Bytes} (apart : slashByte ∉ bytes) :
          bytes.head? ≠ some slashByte := by
        intro slash
        exact apart (List.mem_of_head? slash)
      rw [walkStart, walkStart, List.nil_append, List.nil_append, if_neg (relative noSlash),
        if_neg (relative otherNoSlash)]

theorem slash_of_slot {slot : Slot} (slotted : files.slot path = .ok slot) :
    slot.slash = endsInSlash path := by
  have fits := fits_of_slot slotted
  rw [FileSystem.slot, if_neg (by simpa using fits.noZero), if_neg (by simpa using fits.notEmpty),
    if_neg (Nat.not_le.2 fits.short)] at slotted
  simp only at slotted
  split at slotted
  · cases slotted
  · exact (Except.ok.inj slotted) ▸ rfl
  · cases slotted

/-! ## Entries that are moved -/

/-- An entry was moved from one slot to another. What it replaced was no directory, or an empty one
that a directory replaced. -/
structure Moved (source target : Bytes) (files after : FileSystem) (old new : Slot)
    (name otherName : Name) (node : Node) : Prop where
  slot : files.slot source = .ok old
  newSlot : files.slot target = .ok new
  last : old.last = .name name
  newLast : new.last = .name otherName
  short : name.length ≤ longestName
  newShort : otherName.length ≤ longestName
  found : files.node? (old.directory ++ [name]) = some node
  noSlash : node.isDirectory = false → new.slash = false
  notBelow : ¬old.directory ++ [name] <+: new.directory ++ [otherName]
  notAbove : ¬new.directory ++ [otherName] <+: old.directory ++ [name]
  replaces : replaceable node.isDirectory (files.node? (new.directory ++ [otherName])) = .ok ()
  moved : after = (files.erase old.directory name).put new.directory otherName node

theorem slot_of_rename (renamed : files.rename source target = .ok after) :
    ∃ slot, files.slot source = .ok slot := by
  cases slotted : files.slot source with
  | error error => simp [rename, slotted, bind, Except.bind] at renamed
  | ok slot => exact ⟨slot, rfl⟩

theorem moved_of_rename (renamed : files.rename source target = .ok after) :
    after = files ∨ ∃ old new name otherName node,
      Moved source target files after old new name otherName node := by
  rw [rename] at renamed
  cases slot : files.slot source with
  | error error => simp [slot, bind, Except.bind] at renamed
  | ok old =>
      cases newSlot : files.slot target with
      | error error => simp [slot, newSlot, bind, Except.bind] at renamed
      | ok new =>
          simp only [slot, newSlot, bind, Except.bind] at renamed
          split at renamed
          next name otherName last newLast =>
            split at renamed
            · cases renamed
            next short =>
              simp only [Bool.or_eq_true, decide_eq_true_eq, not_or, Nat.not_lt] at short
              split at renamed
              · cases renamed
              next node found =>
                simp only [Bool.not_true, Bool.false_and, Bool.false_eq_true, if_false] at renamed
                split at renamed
                · cases renamed
                next noSlash =>
                split at renamed
                · exact .inl (Except.ok.inj renamed).symm
                split at renamed
                · cases renamed
                split at renamed
                · cases renamed
                next notBelow =>
                split at renamed
                · cases renamed
                next notAbove =>
                split at renamed
                · exact .inl (Except.ok.inj renamed).symm
                cases replaces : replaceable node.isDirectory
                    (files.entry? new.directory otherName) with
                | error error => simp [replaces] at renamed
                | ok =>
                  simp only [replaces] at renamed
                  refine .inr ⟨old, new, name, otherName, node, slot, newSlot, last, newLast,
                    short.1, short.2, found, fun leaf => ?_, ?_, ?_, replaces,
                    (Except.ok.inj renamed).symm⟩
                  · simp only [leaf, Bool.not_false, Bool.true_and, Bool.or_eq_true, not_or,
                      Bool.not_eq_true] at noSlash
                    exact noSlash.2
                  · rwa [List.isPrefixOf_iff_prefix] at notBelow
                  · rwa [List.isPrefixOf_iff_prefix] at notAbove
          all_goals cases renamed

namespace Moved

variable {old new : Slot} (moved : Moved source target files after old new name otherName node)
include moved

theorem has : files.HasDirectory old.directory :=
  (leads_of_slot moved.slot moved.last).2.1

theorem hasTarget : (files.erase old.directory name).HasDirectory new.directory := by
  refine hasDirectory_congr (sight?_erase_apart moved.has fun below => ?_)
    (leads_of_slot moved.newSlot moved.newLast).2.1
  exact moved.notBelow (below.trans (List.prefix_append _ _))

theorem sound (sound : files.Sound) : after.Sound := by
  rw [moved.moved]
  exact (sound.erase old.directory name).put (leads_of_slot moved.newSlot moved.newLast).1
    (sound.node? moved.found)

theorem vacated (sound : files.Sound) : after.node? (old.directory ++ [name]) = none := by
  rw [moved.moved, ← sight?_eq_none, sight?_put_apart moved.hasTarget moved.notAbove,
    sight?_eq_none]
  exact sound.node?_erase_below moved.has name []

theorem keeps (isDirectory : node.isDirectory = true) :
    Keeps (files.erase old.directory name) after := by
  intro place there found
  rw [moved.moved]
  by_cases below : new.directory ++ [otherName] <+: place
  · rcases below with ⟨rest, rfl⟩
    have apart : ¬old.directory ++ [name] <+: new.directory ++ [otherName] ++ rest := by
      intro within
      rcases List.prefix_or_prefix_of_prefix within (List.prefix_append _ rest) with below | above
      · exact moved.notBelow below
      · exact moved.notAbove above
    rcases bare_of_sight? (sight?_erase_apart moved.has apart).symm found with ⟨was, foundWas, same⟩
    have replaces := moved.replaces
    rw [node?_append] at foundWas
    cases replaced : files.node? (new.directory ++ [otherName]) with
    | none =>
        rw [replaced] at foundWas
        cases foundWas
    | some entry =>
        rw [replaced, isDirectory] at replaces
        rw [replaced, Option.bind_some] at foundWas
        cases entry with
        | file | link | device => cases replaces
        | directory entries =>
            cases entries with
            | cons => cases replaces
            | empty permissions =>
                cases rest with
                | cons head tail => cases foundWas
                | nil =>
                    rcases Option.some.inj foundWas with rfl
                    cases there with
                    | file | link | device => cases same
                    | directory others =>
                        cases node with
                        | file | link | device => cases isDirectory
                        | directory inner =>
                            refine ⟨.directory inner, ?_, .directory others inner⟩
                            rw [List.append_nil]
                            exact node?_put_below moved.hasTarget []
  · exact resembles_of_sight? (sight?_put_apart moved.hasTarget below) found

/-- A directory that was moved leaves nothing behind. Its path still leads to where it stood, if it
does not lead through it. -/
theorem leaves (sound : files.Sound) (isDirectory : node.isDirectory = true)
    (has : files.HasDirectory location)
    (without : (files.erase location own).Reaches source left location own) :
    after.Reaches source left location own ∧ after.node? (location ++ [own]) = none := by
  have includes := (ChangedIn.refl location [own] files).includes_erase sound has
  have reaches : files.Reaches source left location own := without.mono includes rfl
  have slot := moved.slot
  rw [reaches.slot] at slot
  have last := moved.last
  rcases Except.ok.inj slot with rfl
  rcases LastName.name.inj last with rfl
  refine ⟨(moved.keeps isDirectory).reaches ?_ without, moved.vacated sound⟩
  rw [moved.moved]
  rfl

end Moved

end SchemaBuild.FileSystem
