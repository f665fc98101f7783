import SchemaBuild.Generate
import SchemaBuild.Proofs.FileSystem.Updating

/-!
# Updating build files

The files of a directory are updated one after the other, up to the first one that cannot be. Where
no file has two of the names, each that was updated has its text afterwards, and those were written
that did not have it before.
-/

namespace SchemaBuild

open FileSystem (Renews)

/-! ## Paths of build files -/

theorem Path.walkStart_join {child : String} (relative : child.toList.head? ≠ some '/')
    (base : Path) (working : Location) :
    walkStart (base.join child).bytes working = walkStart base.bytes working := by
  rw [walkStart_bytes, walkStart_bytes, join, if_neg relative]
  cases characters : base.text.toList with
  | nil => simp [characters, relative]
  | cons first rest =>
      split <;> simp [characters]

namespace BuildFiles

def names : List String :=
  [ninjaName, modulesName, bazelName]

theorem relative_of_mem_toList (build : BuildFiles) :
    ∀ file ∈ build.toList, file.1.toList.head? ≠ some '/' := by
  have relative : ∀ name ∈ names, name.toList.head? ≠ some '/' := by decide +kernel
  intro file member
  exact relative file.1 (List.mem_map_of_mem (f := Prod.fst) member)

/-- Two paths in a directory do not lead to one file. -/
def AreTwo (files : FileSystem) (outDir : Path) (left right : String) : Prop :=
  ∀ id ∈ files.fileAt? (outDir.join left).bytes, files.fileAt? (outDir.join right).bytes ≠ some id

instance (files : FileSystem) (outDir : Path) (left right : String) :
    Decidable (AreTwo files outDir left right) :=
  inferInstanceAs (Decidable (∀ id ∈ files.fileAt? (outDir.join left).bytes, _))

def Distinct (files : FileSystem) (outDir : Path) : Prop :=
  names.Pairwise (AreTwo files outDir)

instance (files : FileSystem) (outDir : Path) : Decidable (Distinct files outDir) :=
  inferInstanceAs (Decidable (List.Pairwise _ _))

def isStale (files : FileSystem) (outDir : Path) (file : String × String) : Bool :=
  decide (files.readText (outDir.join file.1).bytes ≠ .ok file.2)

theorem distinct_iff (build : BuildFiles) {files : FileSystem} {outDir : Path} :
    Distinct files outDir ↔
      build.toList.Pairwise fun left right => AreTwo files outDir left.1 right.1 := by
  rw [← List.pairwise_map (f := Prod.fst)]
  exact Iff.rfl

end BuildFiles

open BuildFiles (AreTwo isStale)

namespace Manifest

variable {outDir : Path} {files before middle after : FileSystem}
  {updated written result : List Path} {file : String × String}
  {done list : List (String × String)}

/-! ## Steps -/

theorem outcome_during {α : Type} (cause : FileError → GenerateError)
    (operation : FileOperation α) (files : FileSystem) :
    outcome (during cause operation) files =
      ((outcome operation files).1.mapError cause, (outcome operation files).2) :=
  rfl

theorem outcome_during_eq_ok {α : Type} {cause : FileError → GenerateError}
    {operation : FileOperation α} {value : α} :
    outcome (during cause operation) files = (.ok value, after) ↔
      outcome operation files = (.ok value, after) := by
  rw [outcome_during]
  rcases outcome operation files with ⟨found, middle⟩
  cases found <;> simp [Except.mapError]

theorem outcome_updateFile_eq_ok :
    outcome (updateFile outDir updated file) files = (.ok result, after) ↔
      ∃ changed, outcome (FileOperation.updateText (outDir.join file.1).bytes file.2) files =
          (.ok changed, after) ∧
        result = if changed then updated ++ [outDir.join file.1] else updated := by
  rw [updateFile, outcome_bind_eq_ok]
  simp only [outcome_during_eq_ok]
  constructor
  · rintro ⟨changed, middle, updates, rest⟩
    cases changed <;> rcases Prod.mk.inj rest with ⟨isResult, rfl⟩ <;>
      exact ⟨_, updates, (Except.ok.inj isResult).symm⟩
  · rintro ⟨changed, updates, rfl⟩
    refine ⟨changed, after, updates, ?_⟩
    cases changed <;> rfl

theorem foldlM_cons_eq_ok :
    outcome ((file :: list).foldlM (updateFile outDir) updated) files = (.ok result, after) ↔
      ∃ changed middle,
        outcome (FileOperation.updateText (outDir.join file.1).bytes file.2) files =
          (.ok changed, middle) ∧
        outcome (list.foldlM (updateFile outDir)
          (if changed then updated ++ [outDir.join file.1] else updated)) middle =
            (.ok result, after) := by
  rw [List.foldlM_cons, outcome_bind_eq_ok]
  constructor
  · rintro ⟨next, middle, head, tail⟩
    rcases outcome_updateFile_eq_ok.1 head with ⟨changed, updates, rfl⟩
    exact ⟨changed, middle, updates, tail⟩
  · rintro ⟨changed, middle, updates, tail⟩
    exact ⟨_, middle, outcome_updateFile_eq_ok.2 ⟨changed, updates, rfl⟩, tail⟩

theorem outcome_updateFile_eq_error {error : GenerateError} :
    outcome (updateFile outDir updated file) files = (.error error, after) ↔
      ∃ cause, error = .update (outDir.join file.1) cause ∧
        outcome (FileOperation.updateText (outDir.join file.1).bytes file.2) files =
          (.error cause, after) := by
  rw [updateFile, outcome_bind, outcome_during]
  rcases outcome (FileOperation.updateText (outDir.join file.1).bytes file.2) files with
    ⟨result, middle⟩
  cases result with
  | ok changed => cases changed <;> simp [Except.mapError, outcome_pure]
  | error cause =>
      simp only [Except.mapError, Prod.mk.injEq, Except.error.injEq]
      constructor
      · rintro ⟨rfl, rfl⟩
        exact ⟨cause, rfl, rfl, rfl⟩
      · rintro ⟨_, rfl, rfl, rfl⟩
        exact ⟨rfl, rfl⟩

/-! ## One after the other -/

/-- Files of a directory were updated, and these of them written. -/
structure Renewed (outDir : Path) (done : List (String × String)) (written : List Path)
    (before after : FileSystem) : Prop where
  /-- Nothing else was changed. -/
  renews : Renews (fun id => ∃ file ∈ done, isStale before outDir file = true ∧
    after.fileAt? (outDir.join file.1).bytes = some id) before after
  opens : ∀ file ∈ done, ∃ id, after.Opens (outDir.join file.1).bytes id
  reads : done.Pairwise (fun left right => AreTwo after outDir left.1 right.1) →
    ∀ file ∈ done, after.readText (outDir.join file.1).bytes = .ok file.2
  written : done.Pairwise (fun left right => AreTwo after outDir left.1 right.1) →
    written = (done.filter (isStale before outDir)).map fun file => outDir.join file.1

theorem Renewed.nil (sound : files.Sound) : Renewed outDir [] [] files files :=
  ⟨.refl sound _, by simp, by simp, fun _ => rfl⟩

theorem Renewed.cons {id : FileId} {changed : Bool}
    (isChanged : changed = isStale before outDir file)
    (opensFile : middle.Opens (outDir.join file.1).bytes id)
    (readsFile : middle.readText (outDir.join file.1).bytes = .ok file.2)
    (renews : Renews (fun other => changed = true ∧ other = id) before middle)
    (someText : file.2 ≠ "") (someTexts : ∀ later ∈ done, later.2 ≠ "")
    (renewed : Renewed outDir done written middle after) :
    Renewed outDir (file :: done) ((if changed then [outDir.join file.1] else []) ++ written)
      before after := by
  have opens := opensFile.retained renewed.renews.retains
  refine ⟨?renews, ?opens, ?reads, ?written⟩
  case opens => exact List.forall_mem_cons.2 ⟨⟨id, opens⟩, renewed.opens⟩
  case renews =>
    refine (renews.mono ?_).trans (renewed.renews.mono ?_)
    · rintro other ⟨isTrue, rfl⟩
      exact ⟨file, List.mem_cons_self, isChanged.symm.trans isTrue, opens.fileAt?⟩
    · rintro other ⟨later, member, stale, found⟩
      by_cases stillStale : isStale before outDir later = true
      · exact ⟨later, List.mem_cons_of_mem _ member, stillStale, found⟩
      -- The later file had its text, which was lost to the text of this one.
      refine ⟨file, List.mem_cons_self, ?_⟩
      by_contra apart
      have wasRead : before.readText (outDir.join later.1).bytes = .ok later.2 := by
        simpa [isStale] using stillStale
      have read := (renews.readText_congr (someTexts later member) ?_).2 wasRead
      · simp [isStale, read] at stale
      · rintro _ ⟨isTrue, rfl⟩ same
        have sameThen := renewed.renews.fileAt? same
        rw [found] at sameThen
        rcases Option.some.inj sameThen with rfl
        exact apart ⟨isChanged.symm.trans isTrue, opens.fileAt?⟩
  case reads =>
    intro distinct
    rcases List.pairwise_cons.1 distinct with ⟨apart, distinctTail⟩
    refine List.forall_mem_cons.2 ⟨?_, renewed.reads distinctTail⟩
    apply (renewed.renews.readText_congr someText ?_).2 readsFile
    rintro other ⟨later, member, -, found⟩ same
    exact apart later member other same found
  case written =>
    intro distinct
    rcases List.pairwise_cons.1 distinct with ⟨apart, distinctTail⟩
    have sameStale : ∀ later ∈ done, isStale middle outDir later = isStale before outDir later := by
      intro later member
      rw [isStale, isStale, decide_eq_decide, not_iff_not]
      apply renews.readText_congr (someTexts later member)
      rintro _ ⟨-, rfl⟩ same
      exact apart later member _ opens.fileAt? (renewed.renews.fileAt? same)
    rw [renewed.written distinctTail, List.filter_congr sameStale, List.filter_cons, isChanged]
    cases isStale before outDir file <;> rfl

/-- Where updating stops: behind the last file, or at one that cannot be updated. -/
inductive StopsAt (outDir : Path) (written : List Path) (after : FileSystem) :
    List (String × String) → Except GenerateError (List Path) → Prop
  | done : StopsAt outDir written after [] (.ok written)
  | failed {file : String × String} {later : List (String × String)} {error : FileError}
      (fails : outcome (FileOperation.updateText (outDir.join file.1).bytes file.2) after =
        (.error error, after)) :
      StopsAt outDir written after (file :: later) (.error (.update (outDir.join file.1) error))

theorem renewed_of_foldlM (sound : before.Sound)
    (start : before.HasDirectory (walkStart outDir.bytes before.working))
    (relative : ∀ file ∈ list, file.1.toList.head? ≠ some '/')
    (someText : ∀ file ∈ list, file.2 ≠ "") {result : Except GenerateError (List Path)}
    (ran : outcome (list.foldlM (updateFile outDir) updated) before = (result, after)) :
    ∃ done rest written, list = done ++ rest ∧ Renewed outDir done written before after ∧
      StopsAt outDir (updated ++ written) after rest result := by
  induction list generalizing updated before with
  | nil =>
      rcases Prod.mk.inj ran with ⟨rfl, rfl⟩
      refine ⟨[], [], [], rfl, .nil sound, ?_⟩
      rw [List.append_nil]
      exact .done
  | cons file list induction =>
      rcases List.forall_mem_cons.1 relative with ⟨headRelative, tailRelative⟩
      rcases List.forall_mem_cons.1 someText with ⟨headText, tailText⟩
      have startFile := start
      rw [← Path.walkStart_join headRelative] at startFile
      rw [List.foldlM_cons, outcome_bind] at ran
      cases head : outcome (updateFile outDir updated file) before with
      | mk first middle =>
          rw [head] at ran
          cases first with
          | error error =>
              rcases Prod.mk.inj ran with ⟨rfl, rfl⟩
              rcases outcome_updateFile_eq_error.1 head with ⟨cause, rfl, fails⟩
              rcases FileSystem.updateText_failed sound startFile fails with rfl
              exact ⟨[], file :: list, [], rfl, .nil sound, .failed fails⟩
          | ok next =>
              rcases outcome_updateFile_eq_ok.1 head with ⟨changed, updates, isNext⟩
              rcases FileSystem.renews_of_updateText sound startFile headText updates with
                ⟨isChanged, id, opens, reads, renews⟩
              have startThen : middle.HasDirectory (walkStart outDir.bytes middle.working) := by
                rw [renews.retains.working]
                exact renews.retains.keeps.hasDirectory start
              rcases induction renews.sound startThen tailRelative tailText ran with
                ⟨done, rest, written, rfl, renewed, stops⟩
              refine ⟨file :: done, rest, _, rfl,
                .cons isChanged opens reads renews headText ?_ renewed, ?_⟩
              · intro later member
                exact tailText later (List.mem_append_left _ member)
              · rw [isNext] at stops
                cases changed
                · exact stops
                · rwa [← List.append_assoc]

end Manifest

end SchemaBuild
