import SchemaBuild.Proofs.FileSystem.Sight

/-!
# Ways through directories

How a path is walked up to some name is a relation of its own. It shows which directories and
links a walk depends on: a walk goes the same way in every file system that has these, and where
two walks along the same names both succeed, they depend only on what both file systems have.
-/

namespace SchemaBuild

structure IsStep (name : Name) : Prop where
  notEmpty : name ≠ finalSlash
  notCurrent : name ≠ currentName
  notParent : name ≠ parentName
  fits : name.length ≤ longestName

theorem IsProper.isStep {name : Name} (proper : IsProper name)
    (fits : name.length ≤ longestName) : IsStep name :=
  ⟨proper.notEmpty, proper.notCurrent, proper.notParent, fits⟩

namespace FileSystem

/-- Walking along names leads from one location to another, through directories and links only, and
so many more links may be followed after that. -/
inductive Leads (files : FileSystem) : Nat → List Name → Location → Nat → Location → Prop
  | here {links start} : Leads files links [] start links start
  | stay {links name names start left target} (dot : name = currentName ∨ name = finalSlash)
      (leads : Leads files links names start left target) :
      Leads files links (name :: names) start left target
  | up {links names start left target}
      (leads : Leads files links names start.dropLast left target) :
      Leads files links (parentName :: names) start left target
  | down {links name names start left target} (step : IsStep name)
      (has : files.HasDirectory (start ++ [name]))
      (leads : Leads files links names (start ++ [name]) left target) :
      Leads files links (name :: names) start left target
  | follow {links name names start left target} (step : IsStep name) (text : Bytes)
      (found : files.node? (start ++ [name]) = some (.link text))
      (leads : Leads files links (walkNames text ++ names) (walkStart text start) left target) :
      Leads files (links + 1) (name :: names) start left target

variable {files : FileSystem} {links left : Nat} {names : List Name} {start target : Location}

/-! ## The walk of one name -/

def follow (files : FileSystem) (sought : Sought) (links : Nat) (start : Location)
    (target : Bytes) (names : List Name) : Except FileError Place :=
  match links with
  | 0 => .error .linkLoop
  | links + 1 => files.walk sought links (walkNames target ++ names) (walkStart target start)

theorem walk_eq (files : FileSystem) (sought : Sought) (links : Nat) :
    files.walk sought links = files.walkWith sought (files.follow sought links) := by
  cases links with
  | zero => rfl
  | succ links => rfl

theorem walk_stay {sought : Sought} {name : Name} (dot : name = currentName ∨ name = finalSlash) :
    files.walk sought links (name :: names) start = files.walk sought links names start := by
  rw [walk_eq, walkWith, if_pos (by simpa using dot)]

theorem walk_up {sought : Sought} :
    files.walk sought links (parentName :: names) start =
      files.walk sought links names start.dropLast := by
  rw [walk_eq, walkWith, if_neg (by decide), if_pos rfl]

theorem walk_step {sought : Sought} {name : Name} (step : IsStep name)
    (asked : ¬(sought = .writable ∧ names = [finalSlash])) :
    files.walk sought links (name :: names) start =
      match files.node? (start ++ [name]) with
      | none =>
          if names.isEmpty && (files.node? start).isSome then .ok (.vacant start name)
          else .error .notFound
      | some (.directory _) => files.walk sought links names (start ++ [name])
      | some (.link target) =>
          if names.isEmpty && sought = .entry then
            .ok (.node (start ++ [name]) (.link target))
          else files.follow sought links start target names
      | some node =>
          if names.isEmpty then .ok (.node (start ++ [name]) node)
          else .error .notDirectory := by
  have noDot : ¬(name = currentName ∨ name = finalSlash) := by
    rintro (dot | slash)
    · exact step.notCurrent dot
    · exact step.notEmpty slash
  have notLong : ¬longestName < name.length := Nat.not_lt.2 step.fits
  rewrite [walk_eq, walkWith, if_neg (by simpa using noDot), if_neg step.notParent,
    if_neg (by simpa using asked), if_neg notLong]
  rfl

theorem walk_long {sought : Sought} {name : Name} (notParent : name ≠ parentName)
    (noDot : ¬(name = currentName ∨ name = finalSlash)) (long : longestName < name.length)
    (asked : ¬(sought = .writable ∧ names = [finalSlash])) :
    files.walk sought links (name :: names) start = .error .nameTooLong := by
  rw [walk_eq, walkWith, if_neg (by simpa using noDot), if_neg notParent,
    if_neg (by simpa using asked), if_pos long]

theorem isStep_of_walk {sought : Sought} {name : Name} {place : Place}
    (noDot : ¬(name = currentName ∨ name = finalSlash)) (notParent : name ≠ parentName)
    (walks : files.walk sought links (name :: names) start = .ok place) :
    IsStep name ∧ ¬(sought = .writable ∧ names = [finalSlash]) := by
  rw [walk_eq, walkWith, if_neg (by simpa using noDot), if_neg notParent] at walks
  split at walks
  · cases walks
  next asked =>
    split at walks
    · cases walks
    next fits =>
      exact ⟨⟨fun empty => noDot (.inr empty), fun current => noDot (.inl current), notParent,
        Nat.not_lt.1 fits⟩, by simpa using asked⟩

theorem walk_nil (sought : Sought) (links : Nat) (has : files.HasDirectory start) :
    ∃ entries, files.node? start = some (.directory entries) ∧
      files.walk sought links [] start = .ok (.node start (.directory entries)) := by
  obtain ⟨entries, found⟩ := has
  exact ⟨entries, found, by rw [walk_eq, walkWith, found]⟩

/-! ## Walks and ways -/

theorem Leads.walk {sought : Sought} (leads : Leads files links names start left target)
    {rest : List Name} (more : rest ≠ []) (goesOn : rest.getLast? ≠ some finalSlash) :
    files.walk sought links (names ++ rest) start = files.walk sought left rest target := by
  have asked (others : List Name) :
      ¬(sought = .writable ∧ others ++ rest = [finalSlash]) := by
    rintro ⟨-, equal⟩
    apply goesOn
    have last : (others ++ rest).getLast? = some finalSlash := by rw [equal]; rfl
    rwa [List.getLast?_append, List.getLast?_eq_some_getLast more, Option.some_or,
      ← List.getLast?_eq_some_getLast more] at last
  have notEmpty (others : List Name) : (others ++ rest).isEmpty = false := by
    simp [more]
  induction leads with
  | here => rfl
  | stay dot leads induction => rw [List.cons_append, walk_stay dot, induction]
  | up leads induction => rw [List.cons_append, walk_up, induction]
  | @down _ _ others _ _ _ step has leads induction =>
      obtain ⟨entries, found⟩ := has
      rw [List.cons_append, walk_step step (asked others), found]
      exact induction
  | @follow _ _ others _ _ _ step text found leads induction =>
      rw [List.cons_append, walk_step step (asked others), found]
      simp only [notEmpty, Bool.false_and, Bool.false_eq_true, if_false]
      rw [FileSystem.follow, ← List.append_assoc]
      exact induction

theorem leads_of_walk {sought : Sought} {rest : List Name} (more : rest ≠ []) {place : Place}
    (walks : files.walk sought links (names ++ rest) start = .ok place) :
    ∃ left target, Leads files links names start left target ∧
      files.walk sought left rest target = .ok place := by
  induction links using Nat.strongRecOn generalizing names start with
  | ind links smaller =>
      induction names generalizing start with
      | nil => exact ⟨links, start, .here, walks⟩
      | cons name names induction =>
          rw [List.cons_append] at walks
          have notEmpty : (names ++ rest).isEmpty = false := by simp [more]
          by_cases dot : name = currentName ∨ name = finalSlash
          · rw [walk_stay dot] at walks
            obtain ⟨left, target, leads, walks⟩ := induction walks
            exact ⟨left, target, .stay dot leads, walks⟩
          by_cases parent : name = parentName
          · subst parent
            rw [walk_up] at walks
            obtain ⟨left, target, leads, walks⟩ := induction walks
            exact ⟨left, target, .up leads, walks⟩
          obtain ⟨step, asked⟩ := isStep_of_walk dot parent walks
          rw [walk_step step asked] at walks
          simp only [notEmpty, Bool.false_and, Bool.false_eq_true, if_false] at walks
          split at walks
          · cases walks
          next entries found =>
            obtain ⟨left, target, leads, walks⟩ := induction walks
            exact ⟨left, target, .down step ⟨entries, found⟩ leads, walks⟩
          next text found =>
            cases links with
            | zero => cases walks
            | succ links =>
                rw [follow, ← List.append_assoc] at walks
                obtain ⟨left, target, leads, walks⟩ := smaller links (Nat.lt_succ_self _) walks
                exact ⟨left, target, .follow step text found leads, walks⟩
          · cases walks

/-! ## Ways in one file system -/

theorem Leads.append {others : List Name} {middle : Location} {between : Nat}
    (first : Leads files links names start between middle)
    (second : Leads files between others middle left target) :
    Leads files links (names ++ others) start left target := by
  induction first with
  | here => exact second
  | stay dot leads induction => exact .stay dot (induction second)
  | up leads induction => exact .up (induction second)
  | down step has leads induction => exact .down step has (induction second)
  | follow step text found leads induction =>
      refine .follow step text found ?_
      have induction := induction second
      rwa [List.append_assoc] at induction

theorem Leads.split {others : List Name}
    (leads : Leads files links (names ++ others) start left target) :
    ∃ between middle, Leads files links names start between middle ∧
      Leads files between others middle left target := by
  generalize whole : names ++ others = all at leads
  induction leads generalizing names with
  | @here links start =>
      obtain ⟨rfl, rfl⟩ := List.append_eq_nil_iff.1 whole
      exact ⟨links, start, .here, .here⟩
  | @stay links name rest start left target dot leads induction =>
      cases names with
      | nil =>
          obtain rfl := whole
          exact ⟨links, start, .here, .stay dot leads⟩
      | cons head tail =>
          rw [List.cons_append] at whole
          obtain ⟨rfl, rfl⟩ := List.cons.inj whole
          obtain ⟨between, middle, first, second⟩ := induction rfl
          exact ⟨between, middle, .stay dot first, second⟩
  | @up links rest start left target leads induction =>
      cases names with
      | nil =>
          obtain rfl := whole
          exact ⟨links, start, .here, .up leads⟩
      | cons head tail =>
          rw [List.cons_append] at whole
          obtain ⟨rfl, rfl⟩ := List.cons.inj whole
          obtain ⟨between, middle, first, second⟩ := induction rfl
          exact ⟨between, middle, .up first, second⟩
  | @down links name rest start left target step has leads induction =>
      cases names with
      | nil =>
          obtain rfl := whole
          exact ⟨links, start, .here, .down step has leads⟩
      | cons head tail =>
          rw [List.cons_append] at whole
          obtain ⟨rfl, rfl⟩ := List.cons.inj whole
          obtain ⟨between, middle, first, second⟩ := induction rfl
          exact ⟨between, middle, .down step has first, second⟩
  | @follow links name rest start left target step text found leads induction =>
      cases names with
      | nil =>
          obtain rfl := whole
          exact ⟨links + 1, start, .here, .follow step text found leads⟩
      | cons head tail =>
          rw [List.cons_append] at whole
          obtain ⟨rfl, rfl⟩ := List.cons.inj whole
          obtain ⟨between, middle, first, second⟩ :=
            induction (List.append_assoc (walkNames text) tail others)
          exact ⟨between, middle, .follow step text found first, second⟩

theorem hasDirectory_walkStart {name : Name} {node : Node}
    (found : files.node? (start ++ [name]) = some node) (text : Bytes) :
    files.HasDirectory (walkStart text start) := by
  rw [walkStart]
  split
  · exact files.hasDirectory_nil
  · exact hasDirectory_of_node?_append (by simp) found

theorem Leads.hasDirectory (leads : Leads files links names start left target)
    (has : files.HasDirectory start) : files.HasDirectory target := by
  induction leads with
  | here => exact has
  | stay dot leads induction => exact induction has
  | up leads induction => exact induction has.dropLast
  | down step atName leads induction => exact induction atName
  | follow step text found leads induction => exact induction (hasDirectory_walkStart found text)

theorem Leads.hasDirectory_of_proper {name : Name} (proper : IsProper name)
    (leads : Leads files links (names ++ [name]) start left target) :
    files.HasDirectory target := by
  obtain ⟨between, middle, -, last⟩ := leads.split
  generalize single : [name] = all at last
  cases last with
  | here => cases single
  | stay dot leads =>
      obtain ⟨rfl, -⟩ := List.cons.inj single
      exact (dot.elim proper.notCurrent proper.notEmpty).elim
  | up leads =>
      obtain ⟨rfl, -⟩ := List.cons.inj single
      exact absurd rfl proper.notParent
  | down _ has leads => exact leads.hasDirectory has
  | follow _ text found leads => exact leads.hasDirectory (hasDirectory_walkStart found text)

/-! ## Ways in different file systems -/

/-- Something that a way can go through: a directory or a link. -/
def Passable (files : FileSystem) (location : Location) : Prop :=
  files.HasDirectory location ∨ ∃ text, files.node? location = some (.link text)

theorem Passable.exists_node {location : Location} (passable : files.Passable location) :
    ∃ node, files.node? location = some node := by
  rcases passable with ⟨entries, found⟩ | ⟨text, found⟩
  · exact ⟨_, found⟩
  · exact ⟨_, found⟩

theorem not_passable_of_missing {location : Location} (missing : files.node? location = none) :
    ¬files.Passable location := by
  intro passable
  rcases passable.exists_node with ⟨node, found⟩
  rw [missing] at found
  cases found

def Includes (big small : FileSystem) : Prop :=
  ∀ location, small.Passable location → big.sight? location = small.sight? location

theorem hasDirectory_congr {other : FileSystem} {location : Location}
    (same : other.sight? location = files.sight? location) (has : files.HasDirectory location) :
    other.HasDirectory location := by
  rw [hasDirectory_iff] at has ⊢
  rwa [same]

theorem link_congr {other : FileSystem} {location : Location} {text : Bytes}
    (same : other.sight? location = files.sight? location)
    (found : files.node? location = some (.link text)) :
    other.node? location = some (.link text) := by
  rw [← sight?_eq_link] at found ⊢
  rwa [same]

theorem passable_congr {other : FileSystem} {location : Location}
    (same : other.sight? location = files.sight? location) (passable : files.Passable location) :
    other.Passable location := by
  rcases passable with has | ⟨text, found⟩
  · exact .inl (hasDirectory_congr same has)
  · exact .inr ⟨text, link_congr same found⟩

theorem Includes.refl (files : FileSystem) : files.Includes files :=
  fun _ _ => rfl

theorem Includes.trans {big middle small : FileSystem} (first : middle.Includes small)
    (second : big.Includes middle) : big.Includes small := by
  intro place passable
  have same := first place passable
  exact (second place (passable_congr same passable)).trans same

theorem Leads.mono {big : FileSystem} (includes : big.Includes files)
    (leads : Leads files links names start left target) :
    Leads big links names start left target := by
  induction leads with
  | here => exact .here
  | stay dot leads induction => exact .stay dot induction
  | up leads induction => exact .up induction
  | down step has leads induction =>
      exact .down step (hasDirectory_congr (includes _ (.inl has)) has) induction
  | follow step text found leads induction =>
      exact .follow step text (link_congr (includes _ (.inr ⟨text, found⟩)) found) induction

/-- Where two ways along the same names both get to an end, and the file systems agree on what both
ways could go through, it is the same end, and what both file systems have is enough to get
there. -/
theorem Leads.common {other shared : FileSystem} {otherLeft : Nat} {otherTarget : Location}
    (agree : ∀ location, files.Passable location → other.Passable location →
      other.sight? location = files.sight? location ∧
        shared.sight? location = files.sight? location)
    (leads : Leads files links names start left target)
    (otherLeads : Leads other links names start otherLeft otherTarget) :
    otherTarget = target ∧ otherLeft = left ∧ Leads shared links names start left target := by
  induction leads generalizing otherLeft otherTarget with
  | here =>
      cases otherLeads
      exact ⟨rfl, rfl, .here⟩
  | @stay links name names start left target dot leads induction =>
      cases otherLeads with
      | stay _ otherLeads =>
          obtain ⟨sameTarget, sameLeft, leads⟩ := induction otherLeads
          exact ⟨sameTarget, sameLeft, .stay dot leads⟩
      | up => exact absurd dot (by decide)
      | down step => exact (dot.elim step.notCurrent step.notEmpty).elim
      | follow step => exact (dot.elim step.notCurrent step.notEmpty).elim
  | up leads induction =>
      cases otherLeads with
      | stay dot => exact absurd dot (by decide)
      | up otherLeads =>
          obtain ⟨sameTarget, sameLeft, leads⟩ := induction otherLeads
          exact ⟨sameTarget, sameLeft, .up leads⟩
      | down step => exact absurd rfl step.notParent
      | follow step => exact absurd rfl step.notParent
  | down step has leads induction =>
      cases otherLeads with
      | stay dot => exact (dot.elim step.notCurrent step.notEmpty).elim
      | up => exact absurd rfl step.notParent
      | down _ otherHas otherLeads =>
          obtain ⟨sameTarget, sameLeft, leads⟩ := induction otherLeads
          have seen := (agree _ (.inl has) (.inl otherHas)).2
          exact ⟨sameTarget, sameLeft, .down step (hasDirectory_congr seen has) leads⟩
      | follow _ text found otherLeads =>
          have seen := (agree _ (.inl has) (.inr ⟨text, found⟩)).1
          obtain ⟨entries, here⟩ := hasDirectory_congr seen has
          rw [found] at here
          cases here
  | follow step text found leads induction =>
      cases otherLeads with
      | stay dot => exact (dot.elim step.notCurrent step.notEmpty).elim
      | up => exact absurd rfl step.notParent
      | down _ otherHas otherLeads =>
          have seen := (agree _ (.inr ⟨text, found⟩) (.inl otherHas)).1
          obtain ⟨entries, here⟩ := otherHas
          rw [link_congr seen found] at here
          cases here
      | follow _ otherText otherFound otherLeads =>
          obtain ⟨sameSight, seen⟩ := agree _ (.inr ⟨text, found⟩) (.inr ⟨otherText, otherFound⟩)
          obtain rfl : text = otherText := by
            have here := (link_congr sameSight found).symm.trans otherFound
            simpa using here
          obtain ⟨sameTarget, sameLeft, leads⟩ := induction otherLeads
          exact ⟨sameTarget, sameLeft, .follow step text (link_congr seen found) leads⟩

theorem Leads.unique {otherLeft : Nat} {otherTarget : Location}
    (leads : Leads files links names start left target)
    (otherLeads : Leads files links names start otherLeft otherTarget) :
    otherTarget = target ∧ otherLeft = left := by
  obtain ⟨sameTarget, sameLeft, -⟩ := leads.common (fun _ _ _ => ⟨rfl, rfl⟩) otherLeads
  exact ⟨sameTarget, sameLeft⟩

/-! ## Ways straight down -/

theorem Leads.left_le (leads : Leads files links names start left target) : left ≤ links := by
  induction leads with
  | here => exact Nat.le_refl _
  | stay _ _ induction | up _ induction | down _ _ _ induction => exact induction
  | follow _ _ _ _ induction => exact Nat.le_succ_of_le induction

theorem Leads.prefix_of_straight (leads : Leads files links names start left target)
    (noLink : left = links) (noParent : parentName ∉ names) : start <+: target := by
  induction leads with
  | here => exact List.prefix_refl _
  | stay _ _ induction => exact induction noLink fun member => noParent (.tail _ member)
  | up => exact absurd List.mem_cons_self noParent
  | down _ _ _ induction =>
      exact (List.prefix_append _ _).trans
        (induction noLink fun member => noParent (.tail _ member))
  | follow _ _ _ leads =>
      have fewer := leads.left_le
      omega

theorem Leads.straight_congr {other : FileSystem}
    (leads : Leads files links names start left target) (noLink : left = links)
    (noParent : parentName ∉ names)
    (same : ∀ place, place <+: target → other.sight? place = files.sight? place) :
    Leads other links names start left target := by
  induction leads with
  | here => exact .here
  | stay dot _ induction =>
      exact .stay dot (induction noLink (fun member => noParent (.tail _ member)) same)
  | up => exact absurd List.mem_cons_self noParent
  | @down _ _ others _ _ _ step has leads induction =>
      have below : parentName ∉ others := fun member => noParent (.tail _ member)
      have seen := same _ (leads.prefix_of_straight noLink below)
      exact .down step (hasDirectory_congr seen has) (induction noLink below same)
  | follow _ _ _ leads =>
      have fewer := leads.left_le
      omega

end FileSystem

end SchemaBuild
