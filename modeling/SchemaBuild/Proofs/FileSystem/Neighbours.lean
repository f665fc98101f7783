import SchemaBuild.Proofs.FileSystem.Ground

/-!
# Neighbours on one ground

A program with a directory on a ground changes nothing there but this directory and its own entries.
What its neighbours have stays what it is, so that it makes no difference which of them works first.
-/

namespace SchemaBuild

open FileSystem

namespace FileSystem

variable {files first second : FileSystem} {place other : Location} {id : FileId}

/-- Two locations are names of one file. -/
def SameName (files : FileSystem) (place other : Location) : Prop :=
  ∃ id, files.node? place = some (.file id) ∧ files.node? other = some (.file id)

/-- File systems that differ in nothing but the numbers of their files: the same is viewed
everywhere, and the same locations are names of one file. -/
structure Matches (first second : FileSystem) : Prop where
  working : second.working = first.working
  views : second.views = first.views
  view : ∀ place, second.view? place = first.view? place
  names : ∀ place other, second.SameName place other ↔ first.SameName place other

theorem Matches.refl (files : FileSystem) : files.Matches files :=
  ⟨rfl, rfl, fun _ => rfl, fun _ _ => .rfl⟩

theorem Matches.symm (isMatch : first.Matches second) : second.Matches first :=
  ⟨isMatch.working.symm, isMatch.views.symm, fun place => (isMatch.view place).symm,
    fun place other => (isMatch.names place other).symm⟩

theorem SameName.symm (same : files.SameName place other) : files.SameName other place :=
  same.imp fun _ names => names.symm

theorem SameName.eq_of_unshared (same : files.SameName place other)
    (unshared : files.Unshared place) : other = place := by
  obtain ⟨id, here, there⟩ := same
  rcases unshared _ here with isDirectory | ⟨_, isFile, only⟩
  · cases isDirectory
  · obtain rfl := Node.file.inj isFile
    exact only.only other there

end FileSystem

namespace Plot

variable {ground : Ground} {plot other : Plot} {base before after : FileSystem}
  {place : Location} {id : FileId}

/-- A program did nothing but to make its directory, if it was missing, and to change its entries.
No file there has another name. -/
structure Changed (plot : Plot) (ground : Ground) (before after : FileSystem) : Prop where
  working : after.working = before.working
  views : after.views = before.views
  sound : before.Sound → after.Sound
  sight : ∀ place, place ≠ plot.spot ground → Apart (plot.spot ground) plot.own place →
    after.sight? place = before.sight? place
  here : after.sight? (plot.spot ground) = before.sight? (plot.spot ground) ∨
    before.node? (plot.spot ground) = none ∧ after.HasDirectory (plot.spot ground)
  unshared : ∀ name ∈ plot.own, ∀ rest, after.Unshared (plot.spot ground ++ name :: rest)

theorem Changed.refl (unshared : ∀ name ∈ plot.own, ∀ rest,
    before.Unshared (plot.spot ground ++ name :: rest)) : plot.Changed ground before before :=
  ⟨rfl, rfl, id, fun _ _ _ => rfl, .inl rfl, unshared⟩

theorem Founded.changed {middle : FileSystem} (founded : plot.Founded ground before middle)
    (proper : IsProper plot.name)
    (changed : ChangedIn (plot.spot ground) plot.own middle after)
    (unshared : ∀ name ∈ plot.own, ∀ rest, after.Unshared (plot.spot ground ++ name :: rest)) :
    plot.Changed ground before after := by
  have seen := changed.sight _ (apart_self (plot.spot ground) plot.own)
  refine ⟨changed.working.trans founded.working, changed.views.trans founded.views,
    fun sound => changed.sound (founded.sound proper sound), fun place notHere apart =>
      (changed.sight place apart).trans (founded.sight notHere), ?_, unshared⟩
  cases founded with
  | there => exact .inl seen
  | made has vacant permissions =>
      have founded : plot.Founded ground before _ := .made has vacant permissions
      exact .inr ⟨vacant, hasDirectory_congr seen founded.hasDirectory⟩

namespace Changed

variable (changed : plot.Changed ground before after)
include changed

theorem file_iff (apart : Apart (plot.spot ground) plot.own place) :
    after.node? place = some (.file id) ↔ before.node? place = some (.file id) := by
  have of_sight (same : after.sight? place = before.sight? place) :
      after.node? place = some (.file id) ↔ before.node? place = some (.file id) := by
    constructor
    · intro found
      exact (sight?_eq_file.1 (same.symm.trans (sight?_of_node? found))).1
    · intro found
      exact (sight?_eq_file.1 (same.trans (sight?_of_node? found))).1
  by_cases here : place = plot.spot ground
  · subst here
    rcases changed.here with same | ⟨vacant, entries, found⟩
    · exact of_sight same
    · simp [vacant, found]
  · exact of_sight (changed.sight place here apart)

theorem became (lies : plot.LiesOn ground) (became : ground.Became base before) :
    ground.Became base after := by
  refine ⟨changed.working.trans became.working, changed.views.trans became.views,
    changed.sound became.sound, fun place passable outside => ?_⟩
  have seen := became.kept place passable outside
  by_cases here : place = plot.spot ground
  · subst here
    rcases changed.here with same | ⟨vacant, -⟩
    · exact same.trans seen
    · exact absurd (passable_congr seen passable) (not_passable_of_missing vacant)
  · exact (changed.sight place here (lies.apart_of_outside outside)).trans seen

end Changed

/-! ## Neighbours -/

def Beside (plot other : Plot) (ground : Ground) (files : FileSystem) : Prop :=
  plot.name ≠ other.name ∨
    plot.name = other.name ∧ files.HasDirectory (plot.spot ground) ∧
      ∀ name ∈ plot.own, name ∉ other.own

theorem spot_ne (different : plot.name ≠ other.name) : plot.spot ground ≠ other.spot ground := by
  simpa [spot] using different

theorem spot_eq (same : plot.name = other.name) : plot.spot ground = other.spot ground := by
  rw [spot, spot, same]

theorem Founded.ready (founded : plot.Founded ground before after) (proper : IsProper plot.name)
    (same : other.name = plot.name) (ready : other.Ready ground base before) :
    other.Ready ground base after := by
  have spots : other.spot ground = plot.spot ground := spot_eq same
  refine ⟨founded.became proper ready.became, fun target seen => ?_, fun name member rest =>
    founded.unshared (spots ▸ below_ne_self _ _ _) (ready.unshared name member rest)⟩
  obtain ⟨entries, found⟩ := founded.hasDirectory
  rw [spots, view?_of_node? found] at seen
  cases seen

theorem Beside.symm (beside : plot.Beside other ground before) :
    other.Beside plot ground before := by
  rcases beside with different | ⟨same, has, disjoint⟩
  · exact .inl different.symm
  · exact .inr ⟨same.symm, spot_eq same ▸ has, fun name member isOther =>
      disjoint name isOther member⟩

theorem Changed.beside (changed : plot.Changed ground before after)
    (beside : plot.Beside other ground before) : plot.Beside other ground after := by
  refine beside.imp id fun ⟨same, has, disjoint⟩ => ⟨same, ?_, disjoint⟩
  rcases changed.here with seen | ⟨-, made⟩
  · exact hasDirectory_congr seen has
  · exact made

theorem apart_of_name (different : plot.name ≠ other.name) (rest : Location) (names : List Name) :
    Apart (other.spot ground) names (plot.spot ground ++ rest) := by
  intro name _ within
  rw [spot, spot, List.append_assoc, List.append_assoc, List.prefix_append_right_inj,
    List.singleton_append, List.singleton_append, List.cons_prefix_cons] at within
  exact different within.1.symm

section

variable (changed : other.Changed ground before after) (beside : plot.Beside other ground before)
include changed

theorem Changed.sight_above : after.sight? ground.location = before.sight? ground.location := by
  refine changed.sight _ (fun here => ?_) fun name _ within => ?_
  · simpa [spot] using congrArg List.length here
  · have longer := within.length_le
    simp only [spot, List.length_append, List.length_cons, List.length_nil] at longer
    omega

include beside

theorem Changed.sight_spot :
    after.sight? (plot.spot ground) = before.sight? (plot.spot ground) := by
  rcases beside with different | ⟨same, ⟨entries, found⟩, -⟩
  · refine changed.sight _ (spot_ne different) ?_
    rw [← List.append_nil (plot.spot ground)]
    exact apart_of_name different [] other.own
  · have here := changed.here
    rw [← spot_eq same] at here
    exact here.resolve_right fun ⟨vacant, _⟩ => by simp [vacant] at found

theorem Changed.sight_own {name : Name} (member : name ∈ plot.own) (rest : Location) :
    after.sight? (plot.spot ground ++ name :: rest) =
      before.sight? (plot.spot ground ++ name :: rest) := by
  rcases beside with different | ⟨same, -, disjoint⟩
  · refine changed.sight _ (fun here => ?_) (apart_of_name different (name :: rest) other.own)
    have lengths := congrArg List.length here
    simp [spot] at lengths
  · rw [spot_eq same]
    exact changed.sight _ (below_ne_self _ _ _) (apart_other (disjoint name member) rest)

theorem Changed.alike : Alike (plot.spot ground) plot.own before after :=
  ⟨changed.working, changed.views, view?_congr (changed.sight_spot beside),
    fun _ member rest => view?_congr (changed.sight_own beside member rest)⟩

theorem Changed.keeps_unshared {name : Name} (member : name ∈ plot.own) {rest : Location}
    (unshared : before.Unshared (plot.spot ground ++ name :: rest)) :
    after.Unshared (plot.spot ground ++ name :: rest) := by
  refine unshared.of_sight (changed.sight_own beside member rest) fun id only place listed => ?_
  by_cases apart : Apart (other.spot ground) other.own place
  · exact only.only place ((changed.file_iff apart).1 listed)
  · -- A file among the entries of the other program has no name among the own ones.
    obtain ⟨entry, isEntry, inner, rfl⟩ := exists_of_not_apart apart
    have seen := (changed.sight_own beside member rest).trans (sight?_of_node? only.here)
    have here := (sight?_eq_file.1 seen).1
    exact (SameName.eq_of_unshared ⟨id, listed, here⟩ (changed.unshared entry isEntry inner)).symm

/-- Whatever a program does, the one beside it can be run. -/
theorem Changed.ready (lies : other.LiesOn ground) (ready : plot.Ready ground base before) :
    plot.Ready ground base after := by
  refine ⟨changed.became lies ready.became, fun target => ?_, fun name member rest =>
    changed.keeps_unshared beside member (ready.unshared name member rest)⟩
  rw [(changed.alike beside).here]
  exact ready.noLink target

end

/-! ## Two programs in either order -/

structure Swapped (plot other : Plot) (ground : Ground)
    (before first second firstSecond secondFirst : FileSystem) : Prop where
  beside : plot.Beside other ground before
  runs : plot.Changed ground before first
  otherRuns : other.Changed ground before second
  otherBehind : other.Changed ground first firstSecond
  behind : plot.Changed ground second secondFirst
  alike : Alike (plot.spot ground) plot.own first secondFirst
  otherAlike : Alike (other.spot ground) other.own second firstSecond

namespace Swapped

variable {first second firstSecond secondFirst : FileSystem}
  (swapped : plot.Swapped other ground before first second firstSecond secondFirst)
include swapped

theorem symm : other.Swapped plot ground before second first secondFirst firstSecond :=
  ⟨swapped.beside.symm, swapped.otherRuns, swapped.runs, swapped.behind, swapped.otherBehind,
    swapped.otherAlike, swapped.alike⟩

theorem view_spot :
    secondFirst.view? (plot.spot ground) = firstSecond.view? (plot.spot ground) := by
  have beside := swapped.runs.beside swapped.beside
  rw [swapped.alike.here, view?_congr (swapped.otherBehind.sight_spot beside)]

theorem view_own {name : Name} (member : name ∈ plot.own) (rest : Location) :
    secondFirst.view? (plot.spot ground ++ name :: rest) =
      firstSecond.view? (plot.spot ground ++ name :: rest) := by
  have beside := swapped.runs.beside swapped.beside
  rw [swapped.alike.below name member rest,
    view?_congr (swapped.otherBehind.sight_own beside member rest)]

theorem unshared {name : Name} (member : name ∈ plot.own) (rest : Location) :
    firstSecond.Unshared (plot.spot ground ++ name :: rest) :=
  swapped.otherBehind.keeps_unshared (swapped.runs.beside swapped.beside) member
    (swapped.runs.unshared name member rest)

theorem apart_of_shared (shared : ¬firstSecond.Unshared place) :
    Apart (plot.spot ground) plot.own place ∧ Apart (other.spot ground) other.own place := by
  refine ⟨?_, ?_⟩ <;> by_contra within <;>
    obtain ⟨name, member, rest, rfl⟩ := exists_of_not_apart within
  · exact shared (swapped.unshared member rest)
  · exact shared (swapped.otherBehind.unshared name member rest)

theorem view (place : Location) : secondFirst.view? place = firstSecond.view? place := by
  by_cases apart : Apart (plot.spot ground) plot.own place
  · by_cases otherApart : Apart (other.spot ground) other.own place
    · by_cases here : place = plot.spot ground
      · exact here ▸ swapped.view_spot
      by_cases there : place = other.spot ground
      · exact there ▸ swapped.symm.view_spot.symm
      · rw [view?_congr (swapped.behind.sight place here apart),
          view?_congr (swapped.otherRuns.sight place there otherApart),
          view?_congr (swapped.otherBehind.sight place there otherApart),
          view?_congr (swapped.runs.sight place here apart)]
    · obtain ⟨name, member, rest, rfl⟩ := exists_of_not_apart otherApart
      exact (swapped.symm.view_own member rest).symm
  · obtain ⟨name, member, rest, rfl⟩ := exists_of_not_apart apart
    exact swapped.view_own member rest

theorem sameName {there : Location} (same : firstSecond.SameName place there) :
    secondFirst.SameName place there := by
  by_cases unshared : firstSecond.Unshared place
  · obtain rfl := same.eq_of_unshared unshared
    obtain ⟨id, here, -⟩ := same
    obtain ⟨otherId, found, -⟩ := file_of_view? (swapped.view there) here
    exact ⟨otherId, found, found⟩
  · have alsoShared : ¬firstSecond.Unshared there := fun alone =>
      unshared (same.symm.eq_of_unshared alone ▸ alone)
    have still {location : Location} (shared : ¬firstSecond.Unshared location) (id : FileId) :
        secondFirst.node? location = some (.file id) ↔
          firstSecond.node? location = some (.file id) := by
      obtain ⟨apart, otherApart⟩ := swapped.apart_of_shared shared
      rw [swapped.behind.file_iff apart, swapped.otherRuns.file_iff otherApart,
        swapped.otherBehind.file_iff otherApart, swapped.runs.file_iff apart]
    obtain ⟨id, here, atThere⟩ := same
    exact ⟨id, (still unshared id).2 here, (still alsoShared id).2 atThere⟩

/-- It makes no difference which program is run first. -/
theorem isMatch : firstSecond.Matches secondFirst := by
  refine ⟨?_, ?_, swapped.view, fun _ _ => ⟨swapped.symm.sameName, swapped.sameName⟩⟩
  · rw [swapped.behind.working, swapped.otherRuns.working, swapped.otherBehind.working,
      swapped.runs.working]
  · rw [swapped.behind.views, swapped.otherRuns.views, swapped.otherBehind.views,
      swapped.runs.views]

end Swapped

end Plot

end SchemaBuild
