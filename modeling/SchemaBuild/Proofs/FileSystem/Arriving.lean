import SchemaBuild.Proofs.FileSystem.Operations

/-!
# Where walks arrive

A walk that follows all links arrives at an entry, or at a name that a directory does not have. How
it gets there is a relation of its own, so that what holds of the end is proved along the way.
-/

namespace SchemaBuild

def Place.location : Place → Location
  | .node location _ => location
  | .vacant directory name => directory ++ [name]

namespace FileSystem

inductive Arrives (files : FileSystem) (sought : Sought) :
    Nat → List Name → Location → Place → Prop
  | here {links start node} (found : files.node? start = some node) :
      Arrives files sought links [] start (.node start node)
  | stay {links name names start place} (dot : name = currentName ∨ name = finalSlash)
      (arrives : Arrives files sought links names start place) :
      Arrives files sought links (name :: names) start place
  | up {links names start place}
      (arrives : Arrives files sought links names start.dropLast place) :
      Arrives files sought links (parentName :: names) start place
  | down {links name names start place} (step : IsStep name)
      (asked : ¬(sought = .writable ∧ names = [finalSlash]))
      (has : files.HasDirectory (start ++ [name]))
      (arrives : Arrives files sought links names (start ++ [name]) place) :
      Arrives files sought links (name :: names) start place
  | follow {links name names start place} (step : IsStep name)
      (asked : ¬(sought = .writable ∧ names = [finalSlash])) (text : Bytes)
      (found : files.node? (start ++ [name]) = some (.link text))
      (arrives : Arrives files sought links (walkNames text ++ names) (walkStart text start)
        place) :
      Arrives files sought (links + 1) (name :: names) start place
  | leaf {links name start node} (step : IsStep name)
      (found : files.node? (start ++ [name]) = some node)
      (noDirectory : ∀ entries, node ≠ .directory entries)
      (noLink : ∀ target, node ≠ .link target) :
      Arrives files sought links [name] start (.node (start ++ [name]) node)
  | vacant {links name start} (step : IsStep name)
      (there : (files.node? start).isSome = true)
      (missing : files.node? (start ++ [name]) = none) :
      Arrives files sought links [name] start (.vacant start name)

variable {files : FileSystem} {sought : Sought} {links : Nat} {names : List Name}
  {start directory : Location} {place : Place} {name : Name}

/-! ## Walks -/

theorem arrives_of_walk (follows : sought ≠ .entry)
    (walks : files.walk sought links names start = .ok place) :
    Arrives files sought links names start place := by
  induction links using Nat.strongRecOn generalizing names start with
  | ind links smaller =>
      induction names generalizing start with
      | nil =>
          rw [walk_eq, walkWith] at walks
          split at walks
          next node found =>
            rcases Except.ok.inj walks with rfl
            exact .here found
          next => cases walks
      | cons name names induction =>
          by_cases dot : name = currentName ∨ name = finalSlash
          · rw [walk_stay dot] at walks
            exact .stay dot (induction walks)
          by_cases parent : name = parentName
          · subst parent
            rw [walk_up] at walks
            exact .up (induction walks)
          rcases isStep_of_walk dot parent walks with ⟨step, asked⟩
          rw [walk_step step asked] at walks
          split at walks
          next missing =>
            split at walks
            next last =>
              rcases Except.ok.inj walks with rfl
              rw [Bool.and_eq_true, List.isEmpty_iff] at last
              rcases last with ⟨rfl, there⟩
              exact .vacant step there missing
            next => cases walks
          next entries found => exact .down step asked ⟨entries, found⟩ (induction walks)
          next text found =>
            rw [decide_eq_false follows, Bool.and_false, if_neg Bool.false_ne_true] at walks
            cases links with
            | zero => cases walks
            | succ links =>
                exact .follow step asked text found (smaller links (Nat.lt_succ_self _) walks)
          next node noDirectory noLink found =>
            split at walks
            next last =>
              rcases Except.ok.inj walks with rfl
              rw [List.isEmpty_iff] at last
              subst last
              exact .leaf step found noDirectory noLink
            next => cases walks

theorem Arrives.walk (follows : sought ≠ .entry)
    (arrives : Arrives files sought links names start place) :
    files.walk sought links names start = .ok place := by
  induction arrives with
  | here found => rw [walk_eq, walkWith, found]
  | stay dot _ induction => rw [walk_stay dot, induction]
  | up _ induction => rw [walk_up, induction]
  | down step asked has _ induction =>
      rcases has with ⟨entries, found⟩
      rw [walk_step step asked, found]
      exact induction
  | follow step asked text found _ induction =>
      rw [walk_step step asked, found]
      simp only [decide_eq_false follows, Bool.and_false, Bool.false_eq_true, if_false]
      exact induction
  | @leaf _ _ _ node step found noDirectory noLink =>
      rw [walk_step step (by simp [finalSlash]), found]
      cases node with
      | directory entries => exact absurd rfl (noDirectory entries)
      | link target => exact absurd rfl (noLink target)
      | file | device => rfl
  | vacant step there missing =>
      rw [walk_step step (by simp [finalSlash]), missing]
      simp [there]

theorem walk_eq_ok (follows : sought ≠ .entry) :
    files.walk sought links names start = .ok place ↔
      Arrives files sought links names start place :=
  ⟨arrives_of_walk follows, Arrives.walk follows⟩

/-! ## Ends of walks -/

theorem Arrives.target (arrives : Arrives files sought links names start place) :
    Arrives files .target links names start place := by
  induction arrives with
  | here found => exact .here found
  | stay dot _ induction => exact .stay dot induction
  | up _ induction => exact .up induction
  | down step _ has _ induction => exact .down step (by simp) has induction
  | follow step _ text found _ induction => exact .follow step (by simp) text found induction
  | leaf step found noDirectory noLink => exact .leaf step found noDirectory noLink
  | vacant step there missing => exact .vacant step there missing

theorem Arrives.node? {location : Location} {node : Node}
    (arrives : Arrives files sought links names start (.node location node)) :
    files.node? location = some node := by
  generalize same : Place.node location node = place at arrives
  induction arrives with
  | here found | leaf _ found =>
      rcases Place.node.inj same with ⟨rfl, rfl⟩
      exact found
  | stay _ _ induction | up _ induction | down _ _ _ _ induction | follow _ _ _ _ _ induction =>
      exact induction same
  | vacant => cases same

theorem slash_notMem_of_mem_walkNames {path : Bytes} (member : name ∈ walkNames path) :
    slashByte ∉ name := by
  rcases List.mem_append.1 member with inPath | final
  · exact notMem_of_mem_splitOn (List.mem_filter.1 inPath).1
  · split at final
    · rw [List.mem_singleton.1 final]
      simp [finalSlash]
    · cases final

structure Lacks (files : FileSystem) (directory : Location) (name : Name) : Prop where
  named : IsEntryName name
  has : files.HasDirectory directory
  missing : files.node? (directory ++ [name]) = none

theorem Arrives.vacancy (noSlash : ∀ name ∈ names, slashByte ∉ name)
    (arrives : Arrives files sought links names start (.vacant directory name)) :
    IsEntryName name ∧ files.node? (directory ++ [name]) = none ∧
      (files.HasDirectory start → files.HasDirectory directory) := by
  generalize same : Place.vacant directory name = place at arrives
  induction arrives with
  | here | leaf => cases same
  | stay _ _ induction =>
      exact induction (fun name member => noSlash name (List.mem_cons_of_mem _ member)) same
  | up _ induction =>
      rcases induction (fun name member => noSlash name (List.mem_cons_of_mem _ member)) same with
        ⟨named, missing, stays⟩
      exact ⟨named, missing, fun has => stays has.dropLast⟩
  | down _ _ atName _ induction =>
      rcases induction (fun name member => noSlash name (List.mem_cons_of_mem _ member)) same with
        ⟨named, missing, stays⟩
      exact ⟨named, missing, fun _ => stays atName⟩
  | @follow _ _ others _ _ _ _ text found _ induction =>
      have apart : ∀ name ∈ walkNames text ++ others, slashByte ∉ name := by
        intro name member
        rcases List.mem_append.1 member with inText | inRest
        · exact slash_notMem_of_mem_walkNames inText
        · exact noSlash name (List.mem_cons_of_mem _ inRest)
      rcases induction apart same with ⟨named, missing, stays⟩
      exact ⟨named, missing, fun _ => stays (hasDirectory_walkStart found text)⟩
  | vacant step there missing =>
      rcases Place.vacant.inj same with ⟨rfl, rfl⟩
      exact ⟨⟨⟨step.notEmpty, step.notCurrent, step.notParent, noSlash _ List.mem_cons_self⟩,
        step.fits⟩, missing, id⟩

theorem Arrives.lacks (has : files.HasDirectory start) (noSlash : ∀ name ∈ names, slashByte ∉ name)
    (arrives : Arrives files sought links names start (.vacant directory name)) :
    files.Lacks directory name := by
  rcases arrives.vacancy noSlash with ⟨named, missing, stays⟩
  exact ⟨named, stays has, missing⟩

end FileSystem

end SchemaBuild
