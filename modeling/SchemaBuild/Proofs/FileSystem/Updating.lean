import SchemaBuild.Proofs.FileSystem.Founding

/-!
# Updating files

A file that is updated is written in place, through every link on the way, and only if its text is
another one. So an update leaves every other file as it was, and the same update again changes
nothing.
-/

namespace SchemaBuild

theorem Bytes.toString?_ofString (text : String) : (ofString text).toString? = some text := by
  rw [toString?, String.fromUTF8?]
  exact dif_pos text.isValidUTF8

namespace FileSystem

variable {files before middle after : FileSystem} {path : Bytes} {id : FileId} {text old : String}
  {directory : Location} {name : Name}

/-! ## Entries that stay -/

/-- Every entry is still there, and is the same file, link or device, or still a directory. -/
structure Retains (before after : FileSystem) : Prop where
  working : after.working = before.working
  size : before.stored.size ≤ after.stored.size
  entries : ∀ place node, before.node? place = some node →
    ∃ later, after.node? place = some later ∧ later.bare = node.bare

namespace Retains

theorem refl (files : FileSystem) : Retains files files :=
  ⟨rfl, Nat.le_refl _, fun _ node found => ⟨node, found, rfl⟩⟩

theorem trans (first : Retains before middle) (second : Retains middle after) :
    Retains before after := by
  refine ⟨second.working.trans first.working, first.size.trans second.size, ?_⟩
  intro place node found
  rcases first.entries place node found with ⟨between, foundBetween, same⟩
  rcases second.entries place between foundBetween with ⟨later, foundLater, sameLater⟩
  exact ⟨later, foundLater, sameLater.trans same⟩

theorem keeps (retains : Retains before after) : Keeps before after := by
  intro place node found
  rcases retains.entries place node found with ⟨later, foundLater, same⟩
  exact ⟨later, foundLater, resembles_of_bare same⟩

theorem file {place : Location} (retains : Retains before after)
    (found : before.node? place = some (.file id)) : after.node? place = some (.file id) := by
  rcases retains.entries place _ found with ⟨later, foundLater, same⟩
  cases later <;> cases same
  exact foundLater

theorem changeFile (files : FileSystem) (id : FileId) (change : StoredFile → StoredFile) :
    Retains files (files.changeFile id change) :=
  ⟨rfl, by simp [FileSystem.changeFile], fun _ node found => ⟨node, found, rfl⟩⟩

theorem putFile (sound : files.Sound) (lacks : files.Lacks directory name) (file : StoredFile) :
    Retains files (files.putFile directory name file) := by
  refine ⟨rfl, by simp [FileSystem.putFile], ?_⟩
  intro place node found
  have apart : ¬directory ++ [name] <+: place := by
    rintro ⟨rest, rfl⟩
    rw [node?_append, lacks.missing] at found
    cases found
  exact bare_of_sight? (sound.sight?_putFile_apart lacks.has file apart) found

end Retains

/-! ## Files that are opened -/

def Opens (files : FileSystem) (path : Bytes) (id : FileId) : Prop :=
  ∃ place, files.seek .writable path = .ok (.node place (.file id))

theorem seek_eq_ok {sought : Sought} {place : Place} (follows : sought ≠ .entry) :
    files.seek sought path = .ok place ↔
      Fits path ∧ files.Arrives sought linkLimit (walkNames path)
        (walkStart path files.working) place := by
  constructor
  · intro seeks
    have fits := fits_of_seek seeks
    rw [seek_of_fits fits, walk_eq_ok follows] at seeks
    exact ⟨fits, seeks⟩
  · rintro ⟨fits, arrives⟩
    rw [seek_of_fits fits, walk_eq_ok follows]
    exact arrives

theorem seek_target {place : Place} (seeks : files.seek .writable path = .ok place) :
    files.seek .target path = .ok place := by
  rcases (seek_eq_ok (by simp)).1 seeks with ⟨fits, arrives⟩
  exact (seek_eq_ok (by simp)).2 ⟨fits, arrives.target⟩

theorem lacks_of_seek (start : files.HasDirectory (walkStart path files.working))
    (seeks : files.seek .writable path = .ok (.vacant directory name)) :
    files.Lacks directory name := by
  rcases (seek_eq_ok (by simp)).1 seeks with ⟨-, arrives⟩
  exact arrives.lacks start fun _ member => slash_notMem_of_mem_walkNames member

theorem seek_putFile (sound : files.Sound) (lacks : files.Lacks directory name)
    (seeks : files.seek .writable path = .ok (.vacant directory name)) (file : StoredFile) :
    (files.putFile directory name file).seek .writable path =
      .ok (.node (directory ++ [name]) (.file files.stored.size)) := by
  rcases (seek_eq_ok (by simp)).1 seeks with ⟨fits, arrives⟩
  have found : (files.putFile directory name file).node? (directory ++ [name]) =
      some (.file files.stored.size) := by
    rw [node?_putFile, node?_put_below lacks.has]
    rfl
  have retains := Retains.putFile sound lacks file
  have arrivesThere := retains.keeps.arrives (.file directory name _) found arrives
  exact (seek_eq_ok (by simp)).2 ⟨fits, arrivesThere⟩

namespace Opens

theorem openToWrite (opens : files.Opens path id) (permissions : Nat) :
    files.openToWrite path permissions = .ok (.file id, files) := by
  rcases opens with ⟨place, seeks⟩
  rw [FileSystem.openToWrite, seeks]
  rfl

theorem openAt (opens : files.Opens path id) : files.openAt path = .ok (.file id) := by
  rcases opens with ⟨place, seeks⟩
  rw [FileSystem.openAt, locate, if_pos rfl, seek_target seeks]
  rfl

theorem read (opens : files.Opens path id) :
    files.read path = .ok (files.storedAt id).content := by
  rw [FileSystem.read, opens.openAt]
  rfl

theorem readText (opens : files.Opens path id) :
    files.readText path = .ok text ↔
      (files.storedAt id).content.toBytes.toString? = some text := by
  rw [FileSystem.readText, opens.read]
  simp only [bind, Except.bind]
  cases (files.storedAt id).content.toBytes.toString? <;> simp

theorem lt (sound : files.Sound) (opens : files.Opens path id) : id < files.stored.size := by
  rcases opens with ⟨place, seeks⟩
  rcases (seek_eq_ok (by simp)).1 seeks with ⟨-, arrives⟩
  exact sound.file_lt arrives.node?

theorem retained (opens : before.Opens path id) (retains : Retains before after) :
    after.Opens path id := by
  rcases opens with ⟨place, seeks⟩
  rcases (seek_eq_ok (by simp)).1 seeks with ⟨fits, arrives⟩
  have found := retains.file arrives.node?
  have arrivesThere := retains.keeps.arrives (.node (.file id id)) found arrives
  rw [← retains.working] at arrivesThere
  exact ⟨place, (seek_eq_ok (by simp)).2 ⟨fits, arrivesThere⟩⟩

end Opens

/-! ## Updates -/

theorem outcome_updateText (path : Bytes) (text : String) (files : FileSystem) :
    outcome (FileOperation.updateText path text) files =
      match files.openToWrite path usualPermissions with
      | .error error => (.error error, files)
      | .ok (opened, middle) =>
          match middle.readText path with
          | .error error => (.error error, middle)
          | .ok old =>
              if old = text then (.ok false, middle)
              else
                match opened with
                | .file id => (.ok true, middle.setContent id (.ofString text))
                | _ => (.error .invalid, middle) := by
  rw [FileOperation.updateText, outcome_bind, FileOperation.outcome_look]
  cases files.openToWrite path usualPermissions with
  | error error => rfl
  | ok pair =>
      rcases pair with ⟨opened, middle⟩
      simp only [outcome_bind, outcome_set, FileOperation.outcome_look]
      cases middle.readText path with
      | error error => rfl
      | ok old =>
          by_cases same : old = text
          · simp [same, outcome_pure]
          · simp only [if_neg same]
            cases opened <;> rfl

theorem Opens.outcome_updateText (opens : files.Opens path id)
    (reads : files.readText path = .ok old) (text : String) :
    outcome (FileOperation.updateText path text) files =
      if old = text then (.ok false, files)
      else (.ok true, files.setContent id (.ofString text)) := by
  simp only [FileSystem.outcome_updateText, opens.openToWrite, reads]

theorem Opens.updateText_eq_false (opens : files.Opens path id) :
    outcome (FileOperation.updateText path text) files = (.ok false, after) ↔
      files.readText path = .ok text ∧ after = files := by
  cases reads : files.readText path with
  | error error => simp [FileSystem.outcome_updateText, opens.openToWrite, reads]
  | ok old =>
      rw [opens.outcome_updateText reads]
      by_cases same : old = text
      · simp [same, eq_comm]
      · simp [same]

def newFile : StoredFile where
  permissions := usualPermissions
  time := presentTime

def withFile (files : FileSystem) (directory : Location) (name : Name) (text : String) :
    FileSystem :=
  (files.putFile directory name newFile).setContent files.stored.size (.ofString text)

theorem outcome_updateText_of_vacant (sound : files.Sound)
    (start : files.HasDirectory (walkStart path files.working))
    (seeks : files.seek .writable path = .ok (.vacant directory name))
    (takes : files.takesEntries directory = true) (someText : text ≠ "") :
    outcome (FileOperation.updateText path text) files =
      (.ok true, files.withFile directory name text) := by
  have opens : (files.putFile directory name newFile).Opens path files.stored.size :=
    ⟨_, seek_putFile sound (lacks_of_seek start seeks) seeks newFile⟩
  have empty : (files.putFile directory name newFile).readText path = .ok "" := by
    rw [opens.readText, storedAt_putFile_self]
    exact Bytes.toString?_ofString ""
  have made : files.openToWrite path usualPermissions =
      .ok (.file files.stored.size, files.putFile directory name newFile) := by
    rw [openToWrite, seeks]
    simp [bind, Except.bind, takes, newFile]
  simp only [FileSystem.outcome_updateText, made, empty, if_neg someText.symm, withFile]

theorem outcome_updateText_of_device {place : Location} {device : Device}
    (seeks : files.seek .writable path = .ok (.node place (.device device)))
    (someText : text ≠ "") :
    ∃ error, (outcome (FileOperation.updateText path text) files).1 = .error error := by
  rw [outcome_updateText, openToWrite, seeks]
  cases device with
  | terminal => exact ⟨_, rfl⟩
  | null | zero | full | channel =>
      have nothing : Bytes.toString? [] = some "" := Bytes.toString?_ofString ""
      have empty : files.readText path = .ok "" := by
        simp [readText, read, openAt, locate, seek_target seeks, bind, Except.bind,
          Content.toBytes, nothing]
      simp [bind, Except.bind, empty, someText.symm]

theorem Opens.setContent (sound : files.Sound) (opens : files.Opens path id) (text : String) :
    (files.setContent id (.ofString text)).Opens path id ∧
      (files.setContent id (.ofString text)).readText path = .ok text := by
  have opensThere : (files.setContent id (.ofString text)).Opens path id :=
    opens.retained (Retains.changeFile files id _)
  refine ⟨opensThere, opensThere.readText.2 ?_⟩
  rw [FileSystem.setContent, storedAt_changeFile_self (opens.lt sound)]
  exact Bytes.toString?_ofString text

/-- An update that succeeds found a file or made one. A device would not have taken the text. -/
theorem updateText_cases (sound : files.Sound)
    (start : files.HasDirectory (walkStart path files.working)) (someText : text ≠ "")
    {changed : Bool}
    (succeeded : outcome (FileOperation.updateText path text) files = (.ok changed, after)) :
    (∃ id old, files.Opens path id ∧ files.readText path = .ok old ∧
        changed = decide (old ≠ text) ∧
        after = if old = text then files else files.setContent id (.ofString text)) ∨
      ∃ directory name, files.seek .writable path = .ok (.vacant directory name) ∧
        changed = true ∧ after = files.withFile directory name text := by
  cases seeks : files.seek .writable path with
  | error error => simp [outcome_updateText, openToWrite, seeks, bind, Except.bind] at succeeded
  | ok place =>
      cases place with
      | vacant directory name =>
          right
          cases takes : files.takesEntries directory with
          | false =>
              simp [outcome_updateText, openToWrite, seeks, takes, bind, Except.bind] at succeeded
          | true =>
              rw [outcome_updateText_of_vacant sound start seeks takes someText] at succeeded
              rcases Prod.mk.inj succeeded with ⟨same, rfl⟩
              exact ⟨directory, name, rfl, (Except.ok.inj same).symm, rfl⟩
      | node place node =>
          cases node with
          | file id =>
              left
              have opens : files.Opens path id := ⟨place, seeks⟩
              cases reads : files.readText path with
              | error error =>
                  simp [FileSystem.outcome_updateText, opens.openToWrite, reads] at succeeded
              | ok old =>
                  refine ⟨id, old, opens, rfl, ?_⟩
                  rw [opens.outcome_updateText reads] at succeeded
                  split at succeeded
                  next same =>
                    rcases Prod.mk.inj succeeded with ⟨unchanged, rfl⟩
                    simp [same, Except.ok.inj unchanged.symm]
                  next different =>
                    rcases Prod.mk.inj succeeded with ⟨changed, rfl⟩
                    simp [different, Except.ok.inj changed.symm]
          | directory entries | link target =>
              simp [outcome_updateText, openToWrite, seeks, bind, Except.bind] at succeeded
          | device device =>
              rcases outcome_updateText_of_device seeks someText with ⟨error, failed⟩
              rw [succeeded] at failed
              cases failed

/-- An update that fails leaves everything as it was. A file that was just made can be read. -/
theorem updateText_failed (sound : files.Sound)
    (start : files.HasDirectory (walkStart path files.working)) {error : FileError}
    (failed : outcome (FileOperation.updateText path text) files = (.error error, after)) :
    after = files := by
  rw [outcome_updateText, openToWrite] at failed
  cases seeks : files.seek .writable path with
  | error error =>
      rw [seeks] at failed
      exact (Prod.mk.inj failed).2.symm
  | ok place =>
      rw [seeks] at failed
      cases place with
      | vacant directory name =>
          cases takes : files.takesEntries directory with
          | false =>
              simp only [bind, Except.bind, takes] at failed
              exact (Prod.mk.inj failed).2.symm
          | true =>
              have opens : (files.putFile directory name newFile).Opens path files.stored.size :=
                ⟨_, seek_putFile sound (lacks_of_seek start seeks) seeks newFile⟩
              have empty : (files.putFile directory name newFile).readText path = .ok "" := by
                rw [opens.readText, storedAt_putFile_self]
                exact Bytes.toString?_ofString ""
              rw [newFile] at empty
              simp only [bind, Except.bind, takes, Bool.not_true, Bool.false_eq_true, if_false,
                empty] at failed
              split at failed <;> cases (Prod.mk.inj failed).1
      | node place node =>
          have same (opened : Opened) (read : files.openToWrite path usualPermissions =
              .ok (opened, files)) : after = files := by
            have failed := failed
            rw [openToWrite, seeks] at read
            rw [read] at failed
            simp only at failed
            split at failed
            · exact (Prod.mk.inj failed).2.symm
            · split at failed
              · cases (Prod.mk.inj failed).1
              · split at failed
                · cases (Prod.mk.inj failed).1
                · exact (Prod.mk.inj failed).2.symm
          cases node with
          | file id => exact same (.file id) (by rw [openToWrite, seeks]; rfl)
          | directory entries | link target => exact (Prod.mk.inj failed).2.symm
          | device device =>
              cases device with
              | terminal => exact (Prod.mk.inj failed).2.symm
              | null | zero | full | channel =>
                  exact same (.device _) (by rw [openToWrite, seeks]; rfl)

/-! ## What updates leave alone -/

def fileAt? (files : FileSystem) (path : Bytes) : Option FileId :=
  match files.openAt path with
  | .ok (.file id) => some id
  | _ => none

theorem fileAt?_eq_some :
    files.fileAt? path = some id ↔
      ∃ place, files.seek .target path = .ok (.node place (.file id)) := by
  rw [fileAt?, openAt, locate, if_pos rfl]
  cases files.seek .target path with
  | error error => simp [bind, Except.bind]
  | ok place =>
      cases place with
      | vacant => simp [bind, Except.bind]
      | node place node =>
          cases node with
          | device device => cases device <;> simp [bind, Except.bind]
          | file | link | directory => simp [bind, Except.bind]

theorem Opens.fileAt? (opens : files.Opens path id) : files.fileAt? path = some id := by
  rw [FileSystem.fileAt?, opens.openAt]

theorem readText_eq_ok (someText : text ≠ "") :
    files.readText path = .ok text ↔
      ∃ id, files.fileAt? path = some id ∧
        (files.storedAt id).content.toBytes.toString? = some text := by
  have nothing : Bytes.toString? [] = some "" := Bytes.toString?_ofString ""
  rw [readText, read, fileAt?]
  cases files.openAt path with
  | error error => simp [bind, Except.bind]
  | ok opened =>
      cases opened with
      | file id =>
          simp only [bind, Except.bind, Option.some.injEq, exists_eq_left']
          cases (files.storedAt id).content.toBytes.toString? <;> simp
      | device device => simp [bind, Except.bind, Content.toBytes, nothing, someText.symm]
      | directory location => simp [bind, Except.bind]

/-- Nothing was changed but some files, which may be new. -/
structure Renews (written : FileId → Prop) (before after : FileSystem) : Prop where
  sound : after.Sound
  retains : Retains before after
  sight : ∀ place, (∀ id, written id → after.node? place ≠ some (.file id)) →
    after.sight? place = before.sight? place

namespace Renews

variable {written others : FileId → Prop} {other : FileId}

theorem refl (sound : files.Sound) (written : FileId → Prop) : Renews written files files :=
  ⟨sound, .refl files, fun _ _ => rfl⟩

theorem mono (renews : Renews written before after) (more : ∀ id, written id → others id) :
    Renews others before after :=
  ⟨renews.sound, renews.retains,
    fun place unlisted => renews.sight place fun id isWritten => unlisted id (more id isWritten)⟩

theorem trans (first : Renews written before middle) (second : Renews written middle after) :
    Renews written before after := by
  refine ⟨second.sound, first.retains.trans second.retains, ?_⟩
  intro place unlisted
  rw [second.sight place unlisted]
  apply first.sight place
  intro id isWritten listed
  exact unlisted id isWritten (second.retains.file listed)

theorem includes (renews : Renews written before after) : before.Includes after := by
  intro place passable
  refine (renews.sight place ?_).symm
  intro id _ listed
  rcases passable with ⟨entries, found⟩ | ⟨target, found⟩ <;> rw [found] at listed <;> cases listed

theorem fileAt? (renews : Renews written before after) (found : before.fileAt? path = some id) :
    after.fileAt? path = some id := by
  rcases fileAt?_eq_some.1 found with ⟨place, seeks⟩
  rcases (seek_eq_ok (by simp)).1 seeks with ⟨fits, arrives⟩
  have stays := renews.retains.file arrives.node?
  have arrivesThere := renews.retains.keeps.arrives (.node (.file id id)) stays arrives
  rw [← renews.retains.working] at arrivesThere
  exact fileAt?_eq_some.2 ⟨place, (seek_eq_ok (by simp)).2 ⟨fits, arrivesThere⟩⟩

theorem unwritten (renews : Renews written before after) (found : after.fileAt? path = some id)
    (notWritten : ¬written id) :
    before.fileAt? path = some id ∧ after.storedAt id = before.storedAt id := by
  rcases fileAt?_eq_some.1 found with ⟨place, seeks⟩
  rcases (seek_eq_ok (by simp)).1 seeks with ⟨fits, arrives⟩
  have here := arrives.node?
  have seen : after.sight? place = before.sight? place := by
    apply renews.sight place
    intro other isWritten listed
    rw [here] at listed
    rcases Node.file.inj (Option.some.inj listed) with rfl
    exact notWritten isWritten
  rcases sight?_eq_file.1 (seen.symm.trans (sight?_of_node? here)) with ⟨wasHere, stored⟩
  have arrivesThere := renews.includes.arrives wasHere arrives
  rw [renews.retains.working] at arrivesThere
  exact ⟨fileAt?_eq_some.2 ⟨place, (seek_eq_ok (by simp)).2 ⟨fits, arrivesThere⟩⟩, stored.symm⟩

theorem fileAt?_congr (renews : Renews written before after)
    (apart : ∀ id, written id → after.fileAt? path ≠ some id) :
    after.fileAt? path = before.fileAt? path ∧
      ∀ id, after.fileAt? path = some id → after.storedAt id = before.storedAt id := by
  cases found : after.fileAt? path with
  | none =>
      cases wasFound : before.fileAt? path with
      | none => exact ⟨rfl, by simp⟩
      | some id => exact absurd (renews.fileAt? wasFound) (by simp [found])
  | some id =>
      rcases renews.unwritten found fun isWritten => apart id isWritten found with
        ⟨wasFound, stored⟩
      refine ⟨wasFound.symm, ?_⟩
      intro other same
      rcases Option.some.inj same with rfl
      exact stored

theorem readText_congr (renews : Renews written before after) (someText : text ≠ "")
    (apart : ∀ id, written id → after.fileAt? path ≠ some id) :
    after.readText path = .ok text ↔ before.readText path = .ok text := by
  rcases renews.fileAt?_congr apart with ⟨same, stored⟩
  rw [readText_eq_ok someText, readText_eq_ok someText, ← same]
  constructor
  · rintro ⟨id, found, content⟩
    exact ⟨id, found, stored id found ▸ content⟩
  · rintro ⟨id, found, content⟩
    exact ⟨id, found, (stored id found).symm ▸ content⟩

end Renews

theorem renews_setContent (sound : files.Sound) (id : FileId) (text : String) :
    Renews (· = id) files (files.setContent id (.ofString text)) := by
  refine ⟨sound.changeFile _ _, Retains.changeFile _ _ _, ?_⟩
  intro place unlisted
  exact sight?_changeFile_of_ne _ (unlisted id rfl)

theorem renews_withFile (sound : files.Sound)
    (start : files.HasDirectory (walkStart path files.working))
    (seeks : files.seek .writable path = .ok (.vacant directory name)) (text : String) :
    Renews (· = files.stored.size) files (files.withFile directory name text) := by
  have lacks := lacks_of_seek start seeks
  have soundThere : (files.putFile directory name newFile).Sound :=
    sound.putFile lacks.named.toIsProper newFile
  have put : Renews (· = files.stored.size) files (files.putFile directory name newFile) := by
    refine ⟨soundThere, .putFile sound lacks newFile, ?_⟩
    intro place unlisted
    by_cases below : directory ++ [name] <+: place
    · rcases below with ⟨rest, rfl⟩
      have missing : files.node? (directory ++ [name] ++ rest) = none := by
        rw [node?_append, lacks.missing, Option.bind_none]
      have made : (files.putFile directory name newFile).node? (directory ++ [name] ++ rest) =
          (Node.file files.stored.size).find? rest := by
        rw [node?_putFile, List.append_assoc, List.singleton_append, node?_put_below lacks.has]
      cases rest with
      | nil => exact absurd made (unlisted _ rfl)
      | cons head tail => rw [sight?_eq_none.2 missing, sight?_eq_none.2 made]
    · exact sound.sight?_putFile_apart lacks.has newFile below
  exact put.trans (renews_setContent soundThere _ text)

/-- After an update the path leads to a file with the text. It was written exactly if the text was
not there, and nothing else was changed. -/
theorem renews_of_updateText (sound : files.Sound)
    (start : files.HasDirectory (walkStart path files.working)) (someText : text ≠ "")
    {changed : Bool}
    (succeeded : outcome (FileOperation.updateText path text) files = (.ok changed, after)) :
    changed = decide (files.readText path ≠ .ok text) ∧
      ∃ id, after.Opens path id ∧ after.readText path = .ok text ∧
        Renews (fun other => changed = true ∧ other = id) files after := by
  rcases updateText_cases sound start someText succeeded with
    ⟨id, old, opens, reads, rfl, rfl⟩ | ⟨directory, name, seeks, rfl, rfl⟩
  · refine ⟨by simp [reads], id, ?_⟩
    by_cases same : old = text
    · rw [if_pos same]
      exact ⟨opens, same ▸ reads, .refl sound _⟩
    · rw [if_neg same]
      rcases opens.setContent sound text with ⟨opensThere, readsThere⟩
      exact ⟨opensThere, readsThere, (renews_setContent sound id text).mono (by simp [same])⟩
  · have lacks := lacks_of_seek start seeks
    have opens : (files.putFile directory name newFile).Opens path files.stored.size :=
      ⟨_, seek_putFile sound lacks seeks newFile⟩
    have soundThere : (files.putFile directory name newFile).Sound :=
      sound.putFile lacks.named.toIsProper newFile
    rcases opens.setContent soundThere text with ⟨opensThere, readsThere⟩
    refine ⟨?_, _, opensThere, readsThere, (renews_withFile sound start seeks text).mono (by simp)⟩
    have missing : files.fileAt? path = none := by
      rw [fileAt?, openAt, locate, if_pos rfl, seek_target seeks]
      rfl
    rw [eq_comm, decide_eq_true_iff, Ne, readText_eq_ok someText]
    simp [missing]

end FileSystem

end SchemaBuild
