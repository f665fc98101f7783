import SchemaBuild.Proofs.FileSystem.Arriving
import SchemaBuild.Proofs.FileSystem.Removal

/-!
# What stays there

A path leads to something in every file system that keeps what was there, whatever became of the
contents of files.
-/

namespace SchemaBuild

inductive Node.Resembles : Node → Node → Prop
  | file (id other : FileId) : Resembles (.file id) (.file other)
  | link (target : Bytes) : Resembles (.link target) (.link target)
  | device (device : Device) : Resembles (.device device) (.device device)
  | directory (entries others : Directory) : Resembles (.directory entries) (.directory others)

inductive Place.Becomes : Place → Node → Prop
  | node {location : Location} {node later : Node} (resembles : node.Resembles later) :
      Becomes (.node location node) later
  | file (directory : Location) (name : Name) (id : FileId) :
      Becomes (.vacant directory name) (.file id)

namespace FileSystem

variable {files before after : FileSystem} {links : Nat} {names : List Name}
  {start place location : Location} {node : Node}

/-- Whatever was there is still there. -/
def Keeps (before after : FileSystem) : Prop :=
  ∀ place node, before.node? place = some node →
    ∃ later, after.node? place = some later ∧ node.Resembles later

theorem resembles_of_bare {later : Node} (same : later.bare = node.bare) :
    node.Resembles later := by
  cases node <;> cases later <;> simp only [Node.bare, reduceCtorEq, Node.file.injEq,
    Node.link.injEq, Node.device.injEq] at same
  case file => exact .file _ _
  case link => exact same ▸ .link _
  case device => exact same ▸ .device _
  case directory => exact .directory _ _

theorem bare_of_sight? (same : after.sight? place = before.sight? place)
    (found : before.node? place = some node) :
    ∃ later, after.node? place = some later ∧ later.bare = node.bare := by
  have seen := same.trans (sight?_of_node? found)
  rcases Option.map_eq_some_iff.1 seen with ⟨later, here, equal⟩
  refine ⟨later, here, ?_⟩
  cases node <;> cases later <;> simp only [sightOf, reduceCtorEq, Sight.file.injEq,
    Sight.link.injEq, Sight.device.injEq, Sight.directory.injEq] at equal
  case file => rw [equal.1]
  case link => rw [equal]
  case device => rw [equal]
  case directory => rw [Node.bare, Node.bare, equal]

theorem sight?_of_bare {later : Node} (passable : before.Passable place)
    (found : before.node? place = some node) (foundLater : after.node? place = some later)
    (same : later.bare = node.bare) : after.sight? place = before.sight? place := by
  rw [sight?_eq_map_bare, sight?_eq_map_bare, found, foundLater, Option.map_some, same]
  rcases passable with ⟨entries, isDirectory⟩ | ⟨text, isLink⟩
  · rcases Option.some.inj (found.symm.trans isDirectory) with rfl
    rfl
  · rcases Option.some.inj (found.symm.trans isLink) with rfl
    rfl

theorem resembles_of_sight? (same : after.sight? place = before.sight? place)
    (found : before.node? place = some node) :
    ∃ later, after.node? place = some later ∧ node.Resembles later := by
  rcases bare_of_sight? same found with ⟨later, here, sameBare⟩
  exact ⟨later, here, resembles_of_bare sameBare⟩

/-- Where a missing entry or a file became a file, nothing got lost. -/
theorem ChangedIn.keeps {name : Name} {id : FileId}
    (changed : ChangedIn location [name] before after)
    (onlyFile : ∀ node, before.node? (location ++ [name]) = some node → ∃ other, node = .file other)
    (found : after.node? (location ++ [name]) = some (.file id)) : Keeps before after := by
  intro place node here
  by_cases below : location ++ [name] <+: place
  · obtain ⟨rest, rfl⟩ := below
    cases rest with
    | nil =>
        rw [List.append_nil] at here ⊢
        obtain ⟨other, rfl⟩ := onlyFile node here
        exact ⟨_, found, .file _ _⟩
    | cons head tail =>
        obtain ⟨entries, isDirectory⟩ := hasDirectory_of_node?_append (by simp) here
        obtain ⟨other, same⟩ := onlyFile _ isDirectory
        cases same
  · exact resembles_of_sight? (changed.sight place (apart_singleton.2 below)) here

/-- A walk arrives at what has become of the place at which it arrived before, if what it went
through is still there. -/
theorem Arrives.carried
    (stays : ∀ place node, before.Passable place → before.node? place = some node →
      ∃ later, after.node? place = some later ∧ node.Resembles later)
    {sought : Sought} {finish : Place} {later : Node}
    (becomes : finish.Becomes later) (found : after.node? finish.location = some later)
    (arrives : before.Arrives sought links names start finish) :
    after.Arrives sought links names start (.node finish.location later) := by
  induction arrives with
  | here => exact .here found
  | stay dot _ induction => exact .stay dot (induction becomes found)
  | up _ induction => exact .up (induction becomes found)
  | down step asked has _ induction =>
      rcases has with ⟨entries, atName⟩
      rcases stays _ _ (.inl ⟨entries, atName⟩) atName with ⟨_, there, ⟨⟩⟩
      exact .down step asked ⟨_, there⟩ (induction becomes found)
  | follow step asked text atName _ induction =>
      rcases stays _ _ (.inr ⟨text, atName⟩) atName with ⟨_, there, ⟨⟩⟩
      exact .follow step asked text there (induction becomes found)
  | leaf step _ noDirectory noLink =>
      cases becomes with
      | node resembles =>
          cases resembles with
          | file | device => exact .leaf step found (by simp) (by simp)
          | link target => exact absurd rfl (noLink target)
          | directory entries => exact absurd rfl (noDirectory entries)
  | vacant step =>
      cases becomes with
      | file => exact .leaf step found (by simp) (by simp)

theorem Keeps.arrives (keeps : Keeps before after) {sought : Sought} {finish : Place} {later : Node}
    (becomes : finish.Becomes later) (found : after.node? finish.location = some later)
    (arrives : before.Arrives sought links names start finish) :
    after.Arrives sought links names start (.node finish.location later) :=
  arrives.carried (fun place node _ => keeps place node) becomes found

/-- A walk to an entry arrives there in a file system that has all the directories and links, and
the entry. -/
theorem Includes.arrives (includes : after.Includes before) {sought : Sought}
    (found : after.node? place = some node)
    (arrives : before.Arrives sought links names start (.node place node)) :
    after.Arrives sought links names start (.node place node) := by
  have resembles : node.Resembles node := by
    cases node with
    | file id => exact .file id id
    | link target => exact .link target
    | device device => exact .device device
    | directory entries => exact .directory entries entries
  exact arrives.carried (fun there other passable here =>
    resembles_of_sight? (includes there passable) here) (.node resembles) found

theorem Keeps.walk (keeps : Keeps before after)
    (walks : before.walk .target links names start = .ok (.node place node)) :
    ∃ later, after.walk .target links names start = .ok (.node place later) ∧
      node.Resembles later := by
  have arrives := arrives_of_walk (by simp) walks
  rcases keeps place node arrives.node? with ⟨later, found, resembles⟩
  exact ⟨later, (keeps.arrives (.node resembles) found arrives).walk (by simp), resembles⟩

theorem Keeps.hasDirectory (keeps : Keeps before after) (has : before.HasDirectory place) :
    after.HasDirectory place := by
  rcases has with ⟨entries, found⟩
  rcases keeps place _ found with ⟨_, stays, ⟨⟩⟩
  exact ⟨_, stays⟩

theorem Keeps.leads {left : Nat} (keeps : Keeps before after)
    (leads : Leads before links names start left place) :
    Leads after links names start left place := by
  induction leads with
  | here => exact .here
  | stay dot _ induction => exact .stay dot induction
  | up _ induction => exact .up induction
  | down step has _ induction => exact .down step (keeps.hasDirectory has) induction
  | follow step text found _ induction =>
      rcases keeps _ _ found with ⟨_, stays, ⟨⟩⟩
      exact .follow step text stays induction

theorem Keeps.reaches (keeps : Keeps before after) (working : after.working = before.working)
    {path : Bytes} {left : Nat} {name : Name} (reaches : before.Reaches path left location name) :
    after.Reaches path left location name :=
  ⟨reaches.named, reaches.last, reaches.noSlash, reaches.fits, working ▸ keeps.leads reaches.leads,
    keeps.hasDirectory reaches.has⟩

theorem Keeps.isDirectory (keeps : Keeps before after) (working : after.working = before.working)
    {path : Bytes} (there : before.isDirectory path = true) : after.isDirectory path = true := by
  rw [FileSystem.isDirectory, locate, if_pos rfl] at there ⊢
  split at there
  next location entries seeks =>
    have fits := fits_of_seek seeks
    rw [seek_of_fits fits] at seeks
    rcases keeps.walk seeks with ⟨_, walks, ⟨⟩⟩
    rw [seek_of_fits fits, working, walks]
  next => cases there

theorem Keeps.exists? (keeps : Keeps before after) (working : after.working = before.working)
    {path : Bytes} (found : before.exists? path = true) : after.exists? path = true := by
  rw [FileSystem.exists?] at found ⊢
  cases located : before.locate true path with
  | error error => simp [located] at found
  | ok place =>
      cases place with
      | vacant directory name => simp [located] at found
      | node place node =>
          rw [locate, if_pos rfl] at located ⊢
          have fits := fits_of_seek located
          rw [seek_of_fits fits] at located
          obtain ⟨later, walks, resembles⟩ := keeps.walk located
          rw [seek_of_fits fits, working, walks]
          rw [locate, if_pos rfl, seek_of_fits fits, located] at found
          cases resembles with
          | device device => exact found
          | file | link | directory => rfl

end FileSystem

end SchemaBuild
