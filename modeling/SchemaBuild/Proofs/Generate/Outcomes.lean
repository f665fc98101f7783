import SchemaBuild.Proofs.Generate
import SchemaBuild.Proofs.PlainText

/-!
# What generating leaves

A run stops before it touches anything, while it makes its directory, or at one of the build files.
The build files before that one have their texts, and it and the later ones are what they were. As
elsewhere this needs build files that are different files: a text that is written to one of them
would otherwise be written to another one.
-/

namespace SchemaBuild

open FileSystem (Renews)

open BuildFiles (AreTwo isStale)

namespace Manifest

variable {manifest : Manifest} {outDir : Path} {files before after : FileSystem}
  {written : List Path} {done rest : List (String × String)}

/-! ## Runs -/

theorem isPlainPath_genRoot (accepted : manifest.validate = .ok manifest) (outDir : Path) :
    isPlainPath (manifest.genRoot outDir).text = false ↔
      manifest.toolchain.genDir = none ∧ isPlainPath (outDir.join "gen").text = false := by
  rw [genRoot]
  cases declared : manifest.toolchain.genDir with
  | none => simp
  | some directory =>
      have plain := (isAccepted_toolchain accepted).genDir directory declared
      simp [plain]

theorem outcome_generate (manifest : Manifest) (outDir : Path) (files : FileSystem) :
    outcome (manifest.generate outDir) files =
      if isPlainPath (manifest.genRoot outDir).text = false then
        (.error (.genRoot (manifest.genRoot outDir)), files)
      else
        match outcome (FileOperation.makeDirectories outDir) files with
        | (.error _, middle) => (.error (.directory outDir), middle)
        | (.ok _, middle) =>
            let build := BuildFiles.ofManifest manifest (manifest.genRoot outDir)
            let ran := outcome (build.toList.foldlM (updateFile outDir) []) middle
            (ran.1.map (GenerateReport.mk build), ran.2) := by
  rw [generate]
  cases isPlainPath (manifest.genRoot outDir).text with
  | false => rfl
  | true =>
      simp only [Bool.not_true, Bool.false_eq_true, if_false, Bool.true_eq_false]
      rw [outcome_bind, outcome_during]
      rcases outcome (FileOperation.makeDirectories outDir) files with ⟨made, middle⟩
      cases made with
      | error error => rfl
      | ok =>
          simp only [Except.mapError]
          rw [outcome_bind]
          rcases outcome ((BuildFiles.ofManifest manifest (manifest.genRoot outDir)).toList.foldlM
            (updateFile outDir) []) middle with ⟨wrote, last⟩
          cases wrote <;> rfl

/-- What a run leaves of the build files in its directory. Those that are done have their texts; the
rest is what it was. -/
structure Leaves (outDir : Path) (done rest : List (String × String)) (written : List Path)
    (before after : FileSystem) : Prop where
  /-- Nothing was changed but files that were stale. -/
  renews : Renews (fun id => ∃ file ∈ done, isStale before outDir file = true ∧
    after.fileAt? (outDir.join file.1).bytes = some id) before after
  reads : ∀ file ∈ done, after.readText (outDir.join file.1).bytes = .ok file.2
  written : written = (done.filter (isStale before outDir)).map fun file => outDir.join file.1
  kept : ∀ file ∈ rest,
    after.fileAt? (outDir.join file.1).bytes = before.fileAt? (outDir.join file.1).bytes ∧
      ∀ id, after.fileAt? (outDir.join file.1).bytes = some id →
        after.storedAt id = before.storedAt id

theorem Renewed.leaves (renewed : Renewed outDir done written before after)
    (distinct : (done ++ rest).Pairwise fun left right => AreTwo after outDir left.1 right.1) :
    Leaves outDir done rest written before after := by
  rcases List.pairwise_append.1 distinct with ⟨distinctDone, -, apart⟩
  refine ⟨renewed.renews, renewed.reads distinctDone, renewed.written distinctDone, ?_⟩
  intro later member
  apply renewed.renews.fileAt?_congr
  rintro id ⟨file, isDone, -, found⟩
  exact apart file isDone later member id found

inductive Ends (manifest : Manifest) (outDir : Path) (files : FileSystem) :
    Except GenerateError GenerateReport → FileSystem → Prop
  /-- The directory of generated files cannot be written into build files. -/
  | refused (unset : manifest.toolchain.genDir = none)
      (unplain : isPlainPath (outDir.join "gen").text = false) :
      Ends manifest outDir files (.error (.genRoot (outDir.join "gen"))) files
  | unmade {after : FileSystem} {error : FileError}
      (plain : isPlainPath (manifest.genRoot outDir).text = true)
      (fails : outcome (FileOperation.makeDirectories outDir) files = (.error error, after))
      (grown : FileSystem.Grown outDir files after) :
      Ends manifest outDir files (.error (.directory outDir)) after
  | updated {middle after : FileSystem} {build : BuildFiles} {done rest : List (String × String)}
      {written : List Path} {ending : Except GenerateError (List Path)}
      (plain : isPlainPath (manifest.genRoot outDir).text = true)
      (made : outcome (FileOperation.makeDirectories outDir) files = (.ok (), middle))
      (grown : FileSystem.Grown outDir files middle)
      (isBuild : build = BuildFiles.ofManifest manifest (manifest.genRoot outDir))
      (inOrder : build.toList = done ++ rest)
      (stops : StopsAt outDir written after rest ending)
      (leaves : BuildFiles.Distinct after outDir → Leaves outDir done rest written middle after) :
      Ends manifest outDir files (ending.map (GenerateReport.mk build)) after

theorem ends_of_outcome (accepted : manifest.validate = .ok manifest) (sound : files.Sound)
    (start : files.HasDirectory (walkStart outDir.bytes files.working)) :
    Ends manifest outDir files (outcome (manifest.generate outDir) files).1
      (outcome (manifest.generate outDir) files).2 := by
  rw [outcome_generate]
  split
  next refused =>
    rcases (isPlainPath_genRoot accepted outDir).1 refused with ⟨unset, unplain⟩
    have isRoot : manifest.genRoot outDir = outDir.join "gen" := by
      rw [genRoot, unset]
    rw [isRoot]
    exact .refused unset unplain
  next plain =>
    have plain : isPlainPath (manifest.genRoot outDir).text = true := by simpa using plain
    cases makes : outcome (FileOperation.makeDirectories outDir) files with
    | mk made middle =>
        rcases FileSystem.makeDirectories_grown makes with ⟨grown, -⟩
        cases made with
        | error error => exact .unmade plain makes grown
        | ok =>
            have startMiddle : middle.HasDirectory (walkStart outDir.bytes middle.working) := by
              rw [grown.working]
              exact grown.keeps.hasDirectory start
            have updates : outcome ((BuildFiles.ofManifest manifest
              (manifest.genRoot outDir)).toList.foldlM (updateFile outDir) []) middle = (_, _) :=
                rfl
            rcases renewed_of_foldlM (grown.sound sound) startMiddle
              (BuildFiles.relative_of_mem_toList _) (BuildFiles.text_ne_empty _ _) updates with
              ⟨done, rest, written, inOrder, renewed, stops⟩
            rw [List.nil_append] at stops
            refine .updated plain makes grown rfl inOrder stops ?_
            intro distinct
            apply renewed.leaves
            rw [← inOrder]
            exact (BuildFiles.distinct_iff _).1 distinct

/-- A run ends in one of these ways, and it is refused exactly if no directory for generated files
is set and the one below its own directory has no plain path. -/
theorem generate_leaves (accepted : manifest.validate = .ok manifest) (sound : files.Sound)
    (start : files.HasDirectory (walkStart outDir.bytes files.working))
    {result : Except GenerateError GenerateReport}
    (ran : outcome (manifest.generate outDir) files = (result, after)) :
    Ends manifest outDir files result after ∧
      ((∃ root, result = .error (.genRoot root)) ↔
        manifest.toolchain.genDir = none ∧ isPlainPath (outDir.join "gen").text = false) := by
  have ends := ends_of_outcome accepted sound start
  rw [ran] at ends
  refine ⟨ends, ?_⟩
  have unplain := isPlainPath_genRoot accepted outDir
  cases ends with
  | refused unset isUnplain => exact ⟨fun _ => ⟨unset, isUnplain⟩, fun _ => ⟨_, rfl⟩⟩
  | unmade plain => simp [← unplain, plain]
  | updated plain _ _ _ _ stops =>
      rw [← unplain, plain]
      cases stops <;> simp

def stuck : FileSystem :=
  output [(Bytes.ofString "modules.json", .directory ∅)]

def stuckAfter : FileSystem :=
  withOutput stuck "build.ninja" singleFiles.ninja

theorem generate_stuck :
    outcome (single.generate ⟨"out"⟩) stuck =
      (.error (.update ⟨"out/modules.json"⟩ .isDirectory), stuckAfter) := by
  rcases BuildFiles.texts_ne_empty single (single.genRoot ⟨"out"⟩) with ⟨someNinja, -, -⟩
  have there : stuck.isDirectory (Path.mk "out").bytes = true := by decide +kernel
  have start : stuck.HasDirectory (walkStart (Path.mk "out").bytes stuck.working) :=
    FileSystem.hasDirectory_nil _
  have plain : isPlainPath (single.genRoot ⟨"out"⟩).text = true := by decide +kernel
  have ninja : outcome (updateFile ⟨"out"⟩ [] (BuildFiles.ninjaName, singleFiles.ninja)) stuck =
      (.ok [⟨"out/build.ninja"⟩], stuckAfter) :=
    outcome_updateFile_eq_ok.2 ⟨true, FileSystem.outcome_updateText_of_vacant (by decide +kernel)
      start rfl rfl someNinja, rfl⟩
  have modules : outcome (updateFile ⟨"out"⟩ [⟨"out/build.ninja"⟩]
      (BuildFiles.modulesName, singleFiles.modules)) stuckAfter =
        (.error (.update ⟨"out/modules.json"⟩ .isDirectory), stuckAfter) :=
    outcome_updateFile_eq_error.2 ⟨.isDirectory, rfl, rfl⟩
  have wrote : outcome (singleFiles.toList.foldlM (updateFile ⟨"out"⟩) []) stuck =
      (.error (.update ⟨"out/modules.json"⟩ .isDirectory), stuckAfter) := by
    rw [BuildFiles.toList, List.foldlM_cons, outcome_bind, ninja]
    simp only
    rw [List.foldlM_cons, outcome_bind, modules]
  rw [outcome_generate, if_neg (by simp [plain]),
    FileSystem.makeDirectories_of_isDirectory start there]
  simp only
  rw [← singleFiles, wrote]
  rfl

theorem generate_stuck_leaves :
    single.validate = .ok single ∧ stuck.Sound ∧
      outcome (single.generate ⟨"out"⟩) stuck =
        (.error (.update ⟨"out/modules.json"⟩ .isDirectory), stuckAfter) ∧
      BuildFiles.Distinct stuckAfter ⟨"out"⟩ ∧
      Ends single ⟨"out"⟩ stuck (.error (.update ⟨"out/modules.json"⟩ .isDirectory))
        stuckAfter := by
  have accepted : single.validate = .ok single := by rfl
  have sound : stuck.Sound := by decide +kernel
  have leaves := generate_leaves accepted sound (FileSystem.hasDirectory_nil _) generate_stuck
  exact ⟨accepted, sound, generate_stuck, by decide +kernel, leaves.1⟩

/-- Where two build files are one, a run that succeeds does not leave both texts. -/
theorem generate_linked_leaves :
    single.validate = .ok single ∧ linked.Sound ∧
      ∃ report, outcome (single.generate ⟨"out"⟩) linked = (.ok report, linkedAfter) ∧
        linkedAfter.readText (Bytes.ofString "out/build.ninja") = .ok report.files.modules ∧
        linkedAfter.readText (Bytes.ofString "out/build.ninja") ≠ .ok report.files.ninja := by
  have texts := BuildFiles.texts_distinct single (single.genRoot ⟨"out"⟩)
  have different : singleFiles.ninja ≠ singleFiles.modules := by
    intro same
    exact (List.nodup_cons.1 texts).1 (same ▸ List.mem_cons_self)
  have opens : linkedAfter.Opens (Bytes.ofString "out/build.ninja") 0 := ⟨_, rfl⟩
  have reads : linkedAfter.readText (Bytes.ofString "out/build.ninja") =
      .ok singleFiles.modules :=
    opens.readText.2 (Bytes.toString?_ofString singleFiles.modules)
  refine ⟨rfl, by decide +kernel, _, generate_linked, reads, ?_⟩
  rw [reads]
  intro same
  exact different (Except.ok.inj same).symm

end Manifest

end SchemaBuild
