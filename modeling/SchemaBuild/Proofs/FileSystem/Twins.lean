import SchemaBuild.Proofs.FileSystem.Views

/-!
# Twins

A program works on some entries of a directory. File systems in which these look alike are twins to
it: each operation on such an entry comes to the same in both, changes nothing but the entry, and
leaves twins again. Whatever becomes of other entries is not noticed.
-/

namespace SchemaBuild.FileSystem

variable {files before after first second firstAfter secondAfter : FileSystem}
  {place location : Location} {names own : List Name} {name : Name}

/-! ## Entries that look alike -/

structure Alike (location : Location) (own : List Name) (first second : FileSystem) : Prop where
  working : second.working = first.working
  views : second.views = first.views
  here : second.view? location = first.view? location
  below : ∀ name ∈ own, ∀ rest,
    second.view? (location ++ name :: rest) = first.view? (location ++ name :: rest)

namespace Alike

theorem refl (location : Location) (own : List Name) (files : FileSystem) :
    Alike location own files files :=
  ⟨rfl, rfl, rfl, fun _ _ _ => rfl⟩

theorem takesEntries (alike : Alike location own first second) (place : Location) :
    second.takesEntries place = first.takesEntries place := by
  rw [FileSystem.takesEntries, FileSystem.takesEntries, alike.views]

theorem changed {touched : List Name} (alike : Alike location own first second)
    (inFirst : ChangedIn location touched first firstAfter)
    (inSecond : ChangedIn location touched second secondAfter)
    (same : ∀ name ∈ touched, ∀ rest, secondAfter.view? (location ++ name :: rest) =
      firstAfter.view? (location ++ name :: rest)) :
    Alike location own firstAfter secondAfter := by
  have kept (place : Location) (apart : Apart location touched place)
      (seen : second.view? place = first.view? place) :
      secondAfter.view? place = firstAfter.view? place := by
    rw [view?_congr (inSecond.sight place apart), view?_congr (inFirst.sight place apart), seen]
  refine ⟨by rw [inSecond.working, inFirst.working, alike.working],
    by rw [inSecond.views, inFirst.views, alike.views],
    kept _ (apart_self location touched) alike.here, fun name member rest => ?_⟩
  by_cases isTouched : name ∈ touched
  · exact same name isTouched rest
  · exact kept _ (apart_other isTouched rest) (alike.below name member rest)

end Alike

/-! ## Places that stay unshared -/

theorem Unshared.of_changed {touched : List Name} (unshared : files.Unshared place)
    (changed : ChangedIn location touched files after) (apart : Apart location touched place)
    (touchedUnshared : ∀ name ∈ touched, ∀ rest, after.Unshared (location ++ name :: rest)) :
    after.Unshared place := by
  refine unshared.changedIn changed apart fun id only name member rest listed => ?_
  rcases touchedUnshared name member rest _ listed with isDirectory | ⟨other, isFile, alsoOnly⟩
  · cases isDirectory
  · obtain rfl := Node.file.inj isFile
    have seen := (changed.sight place apart).trans (sight?_of_node? only.here)
    obtain ⟨listedHere, -⟩ := sight?_eq_file.1 seen
    have same := alsoOnly.only place listedHere
    exact apart name member (same ▸ ⟨rest, by simp⟩)

end FileSystem

open FileSystem

/-! ## Where a program works -/

structure Site where
  directory : Bytes
  left : Nat
  location : Location
  names : List Name

namespace Site

def path (site : Site) (name : Name) : Bytes :=
  site.directory ++ slashByte :: name

structure HasEntry (site : Site) (name : Name) : Prop where
  ends : EndsInName site.directory
  named : IsEntryName name
  fits : Fits (site.path name)

structure Tidy (site : Site) (files : FileSystem) : Prop where
  sound : files.Sound
  stays : ∀ after, ChangedIn site.location site.names files after →
    after.Enters site.directory site.left site.location
  unshared : ∀ name ∈ site.names, ∀ rest, files.Unshared (site.location ++ name :: rest)

namespace Tidy

variable {site : Site} {files after : FileSystem} {own : List Name} {name : Name}

theorem enters (tidy : site.Tidy files) :
    files.Enters site.directory site.left site.location :=
  tidy.stays files (.refl ..)

theorem reaches (tidy : site.Tidy files) (entry : site.HasEntry name) :
    files.Reaches (site.path name) site.left site.location name :=
  tidy.enters.reaches entry.ends.ne_nil entry.named entry.fits

theorem changed (tidy : site.Tidy files) (subset : own ⊆ site.names)
    (changed : ChangedIn site.location own files after)
    (unshared : ∀ name ∈ own, ∀ rest, after.Unshared (site.location ++ name :: rest)) :
    site.Tidy after := by
  refine ⟨changed.sound tidy.sound, fun later further => ?_, fun name member rest => ?_⟩
  · exact tidy.stays later ((changed.mono subset).trans further)
  · by_cases isOwn : name ∈ own
    · exact unshared name isOwn rest
    · exact (tidy.unshared name member rest).of_changed changed (apart_other isOwn rest) unshared

theorem removeTree_directory {entries : Directory} (tidy : site.Tidy files)
    (entry : site.HasEntry name) (member : name ∈ site.names)
    (found : files.node? (site.location ++ [name]) = some (.directory entries)) :
    ∃ after, outcome (Job.ifThere (FileOperation.removeTree (site.path name))) files =
        (.ok (), after) ∧
      ChangedIn site.location [name] files after ∧
        after.node? (site.location ++ [name]) = none := by
  have has : files.HasDirectory (site.location ++ [name]) := ⟨entries, found⟩
  have emptied := ChangedIn.emptied has
  have bareSound := emptied.sound tidy.sound
  have bareEnters := tidy.stays _ (emptied.mono (List.cons_subset.2 ⟨member, List.nil_subset _⟩))
  have bareReaches := bareEnters.reaches entry.ends.ne_nil entry.named entry.fits
  obtain ⟨empty, atEntry, isEmpty⟩ := node?_emptied_self has
  refine ⟨(files.emptied (site.location ++ [name])).erase site.location name, ?_,
    emptied.trans (.erase bareSound bareEnters.has name),
    bareSound.node?_erase_below bareEnters.has name []⟩
  rw [Job.outcome_ifThere, (tidy.reaches entry).outcome_removeTree, found]
  simp only
  rw [FileOperation.outcome_change, path, bareReaches.removeDirectory, atEntry]
  simp [isEmpty]

theorem removed (tidy : site.Tidy files) (entry : site.HasEntry name) (member : name ∈ site.names)
    (removes : outcome (Job.ifThere (FileOperation.removeTree (site.path name))) files =
      (.ok (), after)) :
    after.Reaches (site.path name) site.left site.location name ∧
      after.node? (site.location ++ [name]) = none := by
  have stays (other : FileSystem) (changed : ChangedIn site.location [name] files other) :
      other.Reaches (site.path name) site.left site.location name :=
    (tidy.stays other (changed.mono (List.cons_subset.2 ⟨member, List.nil_subset _⟩))).reaches
      entry.ends.ne_nil entry.named entry.fits
  rcases (tidy.reaches entry).removeTree_kept tidy.sound stays removes with
    ⟨-, -, reaches, gone⟩ | ⟨⟨error, failed⟩, -⟩
  · exact ⟨reaches, gone⟩
  · cases failed

end Tidy

end Site

namespace FileSystem

variable {site : Site} {own : List Name} {name other : Name}
  {first second firstAfter secondAfter firstLater secondLater : FileSystem}

structure Twins (site : Site) (own : List Name) (first second : FileSystem) : Prop where
  owned : own ⊆ site.names
  tidy : site.Tidy first
  otherTidy : site.Tidy second
  alike : Alike site.location own first second

structure InStep (site : Site) (own : List Name)
    (first second firstAfter secondAfter : FileSystem) : Prop where
  changed : ChangedIn site.location own first firstAfter
  otherChanged : ChangedIn site.location own second secondAfter
  twins : Twins site own firstAfter secondAfter

structure Agree {ε α : Type} (site : Site) (own : List Name) (first second : FileSystem)
    (done otherDone : Except ε α × FileSystem) : Prop where
  result : otherDone.1 = done.1
  inStep : InStep site own first second done.2 otherDone.2

theorem InStep.trans (inStep : InStep site own first second firstAfter secondAfter)
    (onward : InStep site own firstAfter secondAfter firstLater secondLater) :
    InStep site own first second firstLater secondLater :=
  ⟨inStep.changed.trans onward.changed, inStep.otherChanged.trans onward.otherChanged,
    onward.twins⟩

namespace Twins

variable (twins : Twins site own first second)
include twins

theorem inStep : InStep site own first second first second :=
  ⟨.refl .., .refl .., twins⟩

theorem unchanged {ε α : Type} (result : Except ε α) :
    Agree site own first second (result, first) (result, second) :=
  ⟨rfl, twins.inStep⟩

theorem changedAt {touched : List Name} (isOwn : touched ⊆ own)
    (inFirst : ChangedIn site.location touched first firstAfter)
    (inSecond : ChangedIn site.location touched second secondAfter)
    (same : ∀ name ∈ touched, ∀ rest,
      SamePlace firstAfter secondAfter (site.location ++ name :: rest)) :
    InStep site own first second firstAfter secondAfter := by
  have matters := List.Subset.trans isOwn twins.owned
  exact ⟨inFirst.mono isOwn, inSecond.mono isOwn, twins.owned,
    twins.tidy.changed matters inFirst fun name member rest => (same name member rest).unshared,
    twins.otherTidy.changed matters inSecond fun name member rest =>
      (same name member rest).symm.unshared,
    twins.alike.changed inFirst inSecond fun name member rest => (same name member rest).view⟩

variable (member : name ∈ own)
include member

theorem samePlace (rest : Location) : SamePlace first second (site.location ++ name :: rest) :=
  FileSystem.samePlace (twins.alike.below name member rest)
    (twins.tidy.unshared name (twins.owned member) rest)
    (twins.otherTidy.unshared name (twins.owned member) rest)

theorem changed (inFirst : ChangedIn site.location [name] first firstAfter)
    (inSecond : ChangedIn site.location [name] second secondAfter)
    (same : ∀ rest, SamePlace firstAfter secondAfter (site.location ++ name :: rest)) :
    InStep site own first second firstAfter secondAfter :=
  twins.changedAt (List.cons_subset.2 ⟨member, List.nil_subset _⟩) inFirst inSecond
    fun _ isEntry rest => List.mem_singleton.1 isEntry ▸ same rest

end Twins

end FileSystem

end SchemaBuild
