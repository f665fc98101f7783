import SchemaBuild.Proofs.Footprints
import SchemaBuild.Proofs.Generate.Updates

/-!
# Generating build files again

The texts of the build files do not depend on the file system, and a file is written only if its
text is another one. So a second run finds nothing to do, unless the names of two build files lead
to one file, where each text that is written is lost to the next one.
-/

namespace SchemaBuild

/-! ## Texts of build files -/

theorem Ninja.render_eq (toolchain : Toolchain) (actions : List Action) :
    ∃ rest, render toolchain actions = "# Generated by xsd-config\n" ++ rest ∧
      rest.toList.head? = some 'n' := by
  rw [render, lines, header, List.cons_append, List.map_cons, String.join_cons]
  refine ⟨_, rfl, ?_⟩
  rw [List.cons_append, List.map_cons, String.join_cons, String.toList_append,
    String.toList_append]
  rfl

theorem ModuleList.head?_render (registry : Registry) (plans : NameMap Plan) :
    (render registry plans).toList.head? = some '\x7b' := by
  rw [render, Json.render]
  · simp only [String.toList_append]
    rfl
  · simp

theorem Starlark.head?_renderLoads (rules : List Rule) :
    renderLoads rules = "" ∨ (renderLoads rules).toList.head? = some '\n' := by
  unfold renderLoads
  split
  · exact .inl rfl
  · right
    rw [String.toList_append]
    rfl

theorem Starlark.renderFile_eq (rules : List Rule) :
    ∃ rest, renderFile rules = "# Generated by xsd-config\n" ++ rest ∧
      ∀ first ∈ rest.toList.head?, first = '\n' := by
  refine ⟨_, String.append_assoc, ?_⟩
  intro first isFirst
  rcases head?_renderLoads rules with none | newline
  · rw [none, String.empty_append] at isFirst
    cases rules with
    | nil => cases isFirst
    | cons rule others =>
        rw [List.map_cons, String.join_cons, String.toList_append, String.toList_append,
          String.toList_append] at isFirst
        exact (Option.some.inj isFirst).symm
  · rw [String.toList_append, List.head?_append, newline] at isFirst
    exact (Option.some.inj isFirst).symm

namespace BuildFiles

variable (manifest : Manifest) (root : Path)

theorem ninja_eq :
    ∃ rest, (ofManifest manifest root).ninja = "# Generated by xsd-config\n" ++ rest ∧
      rest.toList.head? = some 'n' := by
  rw [Selection.ninja_ofManifest]
  exact Ninja.render_eq _ _

theorem head?_modules : (ofManifest manifest root).modules.toList.head? = some '\x7b' :=
  ModuleList.head?_render _ _

theorem bazel_eq :
    ∃ rest, (ofManifest manifest root).bazel = "# Generated by xsd-config\n" ++ rest ∧
      ∀ first ∈ rest.toList.head?, first = '\n' :=
  Starlark.renderFile_eq _

theorem head?_marked (rest : String) :
    ("# Generated by xsd-config\n" ++ rest).toList.head? = some '#' := by
  rw [String.toList_append]
  rfl

theorem modules_ne_marked (rest : String) :
    (ofManifest manifest root).modules ≠ "# Generated by xsd-config\n" ++ rest := by
  intro equal
  have head := head?_modules manifest root
  rw [equal, head?_marked] at head
  exact absurd head (by decide)

theorem texts_distinct : ((ofManifest manifest root).toList.map Prod.snd).Nodup := by
  rcases ninja_eq manifest root with ⟨inNinja, ninja, startsNinja⟩
  rcases bazel_eq manifest root with ⟨inBazel, bazel, newline⟩
  have unmarked := modules_ne_marked manifest root
  simp only [toList, List.map_cons, List.map_nil, List.nodup_cons, List.mem_cons,
    List.not_mem_nil, or_false, not_or, not_false_eq_true, List.nodup_nil, and_true]
  rw [ninja, bazel]
  refine ⟨⟨(unmarked inNinja).symm, ?_⟩, unmarked inBazel⟩
  intro equal
  rcases (String.append_right_inj _).1 equal with rfl
  exact absurd (newline 'n' startsNinja) (by decide)

theorem texts_ne_empty :
    (ofManifest manifest root).ninja ≠ "" ∧ (ofManifest manifest root).modules ≠ "" ∧
      (ofManifest manifest root).bazel ≠ "" := by
  rcases ninja_eq manifest root with ⟨inNinja, ninja, startsNinja⟩
  rcases bazel_eq manifest root with ⟨inBazel, bazel, newline⟩
  have marked (rest : String) : "# Generated by xsd-config\n" ++ rest ≠ "" := by
    intro empty
    have head := head?_marked rest
    rw [empty] at head
    cases head
  refine ⟨ninja ▸ marked inNinja, ?_, bazel ▸ marked inBazel⟩
  intro empty
  have head := head?_modules manifest root
  rw [empty] at head
  cases head

theorem text_ne_empty : ∀ file ∈ (ofManifest manifest root).toList, file.2 ≠ "" := by
  rcases texts_ne_empty manifest root with ⟨ninja, modules, bazel⟩
  simp [toList, ninja, modules, bazel]

end BuildFiles

namespace Manifest

variable {manifest : Manifest} {outDir : Path} {files before middle after : FileSystem}
  {report : GenerateReport} {updated result : List Path} {file : String × String}
  {list : List (String × String)}

theorem outcome_generate_eq_ok :
    outcome (manifest.generate outDir) files = (.ok report, after) ↔
      isPlainPath (manifest.genRoot outDir).text = true ∧
      ∃ middle updated,
        outcome (FileOperation.makeDirectories outDir) files = (.ok (), middle) ∧
        outcome ((BuildFiles.ofManifest manifest (manifest.genRoot outDir)).toList.foldlM
          (updateFile outDir) []) middle = (.ok updated, after) ∧
        report = ⟨BuildFiles.ofManifest manifest (manifest.genRoot outDir), updated⟩ := by
  cases plain : isPlainPath (manifest.genRoot outDir).text with
  | false => simp [generate, plain, outcome_throw]
  | true =>
      simp only [generate, plain, Bool.not_true, Bool.false_eq_true, if_false, outcome_bind_eq_ok,
        outcome_during_eq_ok, outcome_pure, true_and]
      constructor
      · rintro ⟨_, middle, made, updated, _, written, equal⟩
        rcases Prod.mk.inj equal with ⟨isReport, rfl⟩
        exact ⟨middle, updated, made, written, (Except.ok.inj isReport).symm⟩
      · rintro ⟨middle, updated, made, written, rfl⟩
        exact ⟨(), middle, made, updated, after, written, rfl⟩

/-! ## Writing nothing -/

theorem length_le_of_foldlM
    (succeeded : outcome (list.foldlM (updateFile outDir) updated) before = (.ok result, after)) :
    updated.length ≤ result.length := by
  induction list generalizing updated before with
  | nil =>
      rcases Prod.mk.inj succeeded with ⟨isResult, -⟩
      rw [Except.ok.inj isResult]
  | cons file list induction =>
      rcases foldlM_cons_eq_ok.1 succeeded with ⟨changed, middle, -, tail⟩
      have longer := induction tail
      cases changed with
      | false => exact longer
      | true =>
          rw [if_pos rfl, List.length_append] at longer
          exact Nat.le_of_add_right_le longer

/-- Nothing is written exactly if every file has its text. -/
theorem foldlM_eq_self_iff (updated : List Path)
    (opens : ∀ file ∈ list, ∃ id, files.Opens (outDir.join file.1).bytes id) :
    outcome (list.foldlM (updateFile outDir) updated) files = (.ok updated, files) ↔
      ∀ file ∈ list, files.readText (outDir.join file.1).bytes = .ok file.2 := by
  induction list with
  | nil =>
      constructor
      · intro _ file member
        cases member
      · intro _
        rfl
  | cons file list induction =>
      rcases List.forall_mem_cons.1 opens with ⟨⟨id, opensHead⟩, opensTail⟩
      rw [foldlM_cons_eq_ok, List.forall_mem_cons]
      constructor
      · rintro ⟨changed, middle, updates, tail⟩
        cases changed with
        | true =>
            have longer := length_le_of_foldlM tail
            rw [if_pos rfl, List.length_append, List.length_singleton] at longer
            exact absurd longer (Nat.not_succ_le_self _)
        | false =>
            rcases opensHead.updateText_eq_false.1 updates with ⟨reads, rfl⟩
            exact ⟨reads, (induction opensTail).1 tail⟩
      · rintro ⟨reads, readsTail⟩
        have updates := opensHead.updateText_eq_false.2 ⟨reads, rfl⟩
        exact ⟨false, files, updates, (induction opensTail).2 readsTail⟩

/-! ## Runs -/

theorem renewed_of_generate (sound : files.Sound)
    (start : files.HasDirectory (walkStart outDir.bytes files.working))
    (generated : outcome (manifest.generate outDir) files = (.ok report, after)) :
    outcome (FileOperation.makeDirectories outDir) after = (.ok (), after) ∧
      ∃ middle written, Renewed outDir report.files.toList written middle after := by
  rcases outcome_generate_eq_ok.1 generated with ⟨-, middle, updated, made, wrote, rfl⟩
  rcases FileSystem.makeDirectories_grown made with ⟨grown, there⟩
  have startMiddle : middle.HasDirectory (walkStart outDir.bytes middle.working) := by
    rw [grown.working]
    exact grown.keeps.hasDirectory start
  rcases renewed_of_foldlM (grown.sound sound) startMiddle (BuildFiles.relative_of_mem_toList _)
    (BuildFiles.text_ne_empty _ _) wrote with ⟨done, rest, written, inOrder, renewed, stops⟩
  cases stops
  rw [List.append_nil] at inOrder
  refine ⟨?_, middle, written, inOrder ▸ renewed⟩
  rcases there rfl with empty | there
  · rw [FileSystem.outcome_makeDirectories, if_pos empty]
  · have retains := renewed.renews.retains
    have startAfter := retains.keeps.hasDirectory startMiddle
    rw [← retains.working] at startAfter
    exact FileSystem.makeDirectories_of_isDirectory startAfter
      (retains.keeps.isDirectory retains.working there)

theorem generate_eq_self_iff (sound : files.Sound)
    (start : files.HasDirectory (walkStart outDir.bytes files.working))
    (generated : outcome (manifest.generate outDir) files = (.ok report, after)) :
    outcome (manifest.generate outDir) after = (.ok { report with updated := [] }, after) ↔
      ∀ file ∈ report.files.toList,
        after.readText (outDir.join file.1).bytes = .ok file.2 := by
  rcases renewed_of_generate sound start generated with ⟨again, middle, written, renewed⟩
  rcases outcome_generate_eq_ok.1 generated with ⟨plain, _, updated, -, -, rfl⟩
  rw [← foldlM_eq_self_iff [] renewed.opens, outcome_generate_eq_ok]
  constructor
  · rintro ⟨-, same, updatedAgain, made, wrote, isReport⟩
    rw [again] at made
    rcases Prod.mk.inj made with ⟨-, rfl⟩
    rcases GenerateReport.mk.inj isReport with ⟨-, rfl⟩
    exact wrote
  · intro wrote
    exact ⟨plain, after, [], again, wrote, rfl⟩

/-- One file cannot have two texts. -/
theorem distinct_of_generate (sound : files.Sound)
    (start : files.HasDirectory (walkStart outDir.bytes files.working))
    (generated : outcome (manifest.generate outDir) files = (.ok report, after))
    (again : outcome (manifest.generate outDir) after =
      (.ok { report with updated := [] }, after)) : BuildFiles.Distinct after outDir := by
  have reads := (generate_eq_self_iff sound start generated).1 again
  rcases outcome_generate_eq_ok.1 generated with ⟨-, -, updated, -, -, rfl⟩
  have someText := BuildFiles.text_ne_empty manifest (manifest.genRoot outDir)
  apply (BuildFiles.distinct_iff (BuildFiles.ofManifest manifest (manifest.genRoot outDir))).2
  apply (List.pairwise_map.1 (BuildFiles.texts_distinct manifest _)).imp_of_mem
  intro left right inLeft inRight differ id foundLeft foundRight
  rcases (FileSystem.readText_eq_ok (someText left inLeft)).1 (reads left inLeft) with
    ⟨leftId, atLeft, readsLeft⟩
  rcases (FileSystem.readText_eq_ok (someText right inRight)).1 (reads right inRight) with
    ⟨rightId, atRight, readsRight⟩
  have same : leftId = rightId :=
    Option.some.inj ((atLeft.symm.trans foundLeft).trans (foundRight.symm.trans atRight))
  rw [same, readsRight] at readsLeft
  exact differ (Option.some.inj readsLeft).symm

/-- Generating again changes nothing and writes nothing, exactly if no file is two of the build
files. -/
theorem generate_again_iff (sound : files.Sound)
    (start : files.HasDirectory (walkStart outDir.bytes files.working))
    (generated : outcome (manifest.generate outDir) files = (.ok report, after)) :
    outcome (manifest.generate outDir) after = (.ok { report with updated := [] }, after) ↔
      BuildFiles.Distinct after outDir := by
  constructor
  · exact distinct_of_generate sound start generated
  · intro distinct
    rcases renewed_of_generate sound start generated with ⟨-, middle, written, renewed⟩
    apply (generate_eq_self_iff sound start generated).2
    exact renewed.reads ((BuildFiles.distinct_iff report.files).1 distinct)

/-! ## Two runs -/

theorem foldlM_of_updates (build : BuildFiles) {first second third : FileSystem}
    (ninja : outcome (FileOperation.updateText (outDir.join BuildFiles.ninjaName).bytes
      build.ninja) files = (.ok true, first))
    (modules : outcome (FileOperation.updateText (outDir.join BuildFiles.modulesName).bytes
      build.modules) first = (.ok true, second))
    (bazel : outcome (FileOperation.updateText (outDir.join BuildFiles.bazelName).bytes
      build.bazel) second = (.ok true, third)) :
    outcome (build.toList.foldlM (updateFile outDir) []) files =
      (.ok (BuildFiles.names.map outDir.join), third) := by
  apply foldlM_cons_eq_ok.2
  refine ⟨true, first, ninja, foldlM_cons_eq_ok.2 ⟨true, second, modules, ?_⟩⟩
  exact foldlM_cons_eq_ok.2 ⟨true, third, bazel, rfl⟩

def single : Manifest where
  version := 1
  toolchainKeys := none
  declarations := [{ name := "foo", srcs := ["foo.xsd"], packageName := some "foo" }]

def singleFiles : BuildFiles :=
  BuildFiles.ofManifest single (single.genRoot ⟨"out"⟩)

def output (entries : List (Name × Node)) : FileSystem where
  root := .ofList [(Bytes.ofString "out", .directory (.ofList entries))]

def withOutput (files : FileSystem) (name text : String) : FileSystem :=
  files.withFile [Bytes.ofString "out"] (Bytes.ofString name) text

theorem generate_single {entries : List (Name × Node)} {first second third : FileSystem}
    (there : (output entries).isDirectory (Path.mk "out").bytes = true)
    (ninja : outcome (FileOperation.updateText (Path.join ⟨"out"⟩ BuildFiles.ninjaName).bytes
      singleFiles.ninja) (output entries) = (.ok true, first))
    (modules : outcome (FileOperation.updateText (Path.join ⟨"out"⟩ BuildFiles.modulesName).bytes
      singleFiles.modules) first = (.ok true, second))
    (bazel : outcome (FileOperation.updateText (Path.join ⟨"out"⟩ BuildFiles.bazelName).bytes
      singleFiles.bazel) second = (.ok true, third)) :
    outcome (single.generate ⟨"out"⟩) (output entries) =
      (.ok ⟨singleFiles, BuildFiles.names.map (Path.join ⟨"out"⟩)⟩, third) := by
  have start : (output entries).HasDirectory
      (walkStart (Path.mk "out").bytes (output entries).working) :=
    FileSystem.hasDirectory_nil _
  exact outcome_generate_eq_ok.2 ⟨by decide +kernel, output entries, _,
    FileSystem.makeDirectories_of_isDirectory start there,
    foldlM_of_updates singleFiles ninja modules bazel, rfl⟩

def filled : FileSystem :=
  withOutput (withOutput (withOutput (output []) "build.ninja" singleFiles.ninja)
    "modules.json" singleFiles.modules) "BUILD.bazel" singleFiles.bazel

theorem generate_filled :
    outcome (single.generate ⟨"out"⟩) (output []) =
      (.ok ⟨singleFiles, BuildFiles.names.map (Path.join ⟨"out"⟩)⟩, filled) := by
  rcases BuildFiles.texts_ne_empty single (single.genRoot ⟨"out"⟩) with
    ⟨ninja, modules, bazel⟩
  apply generate_single
  · decide +kernel
  · exact FileSystem.outcome_updateText_of_vacant (by decide +kernel)
      (FileSystem.hasDirectory_nil _) rfl rfl ninja
  · exact FileSystem.outcome_updateText_of_vacant (by decide +kernel)
      (FileSystem.hasDirectory_nil _) rfl rfl modules
  · exact FileSystem.outcome_updateText_of_vacant (by decide +kernel)
      (FileSystem.hasDirectory_nil _) rfl rfl bazel

theorem generate_filled_again :
    (output []).Sound ∧
      outcome (single.generate ⟨"out"⟩) (output []) =
        (.ok ⟨singleFiles, BuildFiles.names.map (Path.join ⟨"out"⟩)⟩, filled) ∧
      BuildFiles.Distinct filled ⟨"out"⟩ ∧
      outcome (single.generate ⟨"out"⟩) filled = (.ok ⟨singleFiles, []⟩, filled) := by
  have sound : (output []).Sound := by decide +kernel
  have distinct : BuildFiles.Distinct filled ⟨"out"⟩ := by decide +kernel
  have again := generate_again_iff sound (FileSystem.hasDirectory_nil _) generate_filled
  exact ⟨sound, generate_filled, distinct, again.2 distinct⟩

def linked : FileSystem :=
  output [(Bytes.ofString "build.ninja", .link (Bytes.ofString "modules.json"))]

def linkedAfter : FileSystem :=
  withOutput ((withOutput linked "modules.json" singleFiles.ninja).setContent 0
    (.ofString singleFiles.modules)) "BUILD.bazel" singleFiles.bazel

theorem generate_linked :
    outcome (single.generate ⟨"out"⟩) linked =
      (.ok ⟨singleFiles, BuildFiles.names.map (Path.join ⟨"out"⟩)⟩, linkedAfter) := by
  have texts := BuildFiles.texts_distinct single (single.genRoot ⟨"out"⟩)
  rcases BuildFiles.texts_ne_empty single (single.genRoot ⟨"out"⟩) with
    ⟨someNinja, -, someBazel⟩
  have different : singleFiles.ninja ≠ singleFiles.modules := by
    intro same
    exact (List.nodup_cons.1 texts).1 (same ▸ List.mem_cons_self)
  have ninja : outcome (FileOperation.updateText (Path.join ⟨"out"⟩ BuildFiles.ninjaName).bytes
      singleFiles.ninja) linked =
        (.ok true, withOutput linked "modules.json" singleFiles.ninja) :=
    FileSystem.outcome_updateText_of_vacant (by decide +kernel) (FileSystem.hasDirectory_nil _) rfl
      rfl someNinja
  have opens : (withOutput linked "modules.json" singleFiles.ninja).Opens
      (Path.join ⟨"out"⟩ BuildFiles.modulesName).bytes 0 := ⟨_, rfl⟩
  have modules := opens.outcome_updateText
    (opens.readText.2 (Bytes.toString?_ofString singleFiles.ninja)) singleFiles.modules
  rw [if_neg different] at modules
  have bazel : outcome (FileOperation.updateText (Path.join ⟨"out"⟩ BuildFiles.bazelName).bytes
      singleFiles.bazel) ((withOutput linked "modules.json" singleFiles.ninja).setContent 0
        (.ofString singleFiles.modules)) = (.ok true, linkedAfter) :=
    FileSystem.outcome_updateText_of_vacant (by decide +kernel) (FileSystem.hasDirectory_nil _) rfl
      rfl someBazel
  exact generate_single (by decide +kernel) ninja modules bazel

/-- Where two build files are one, each run writes both of them again. -/
theorem generate_linked_again :
    ∃ report, outcome (single.generate ⟨"out"⟩) linked = (.ok report, linkedAfter) ∧
      outcome (single.generate ⟨"out"⟩) linkedAfter ≠
        (.ok { report with updated := [] }, linkedAfter) := by
  refine ⟨_, generate_linked, ?_⟩
  intro again
  have distinct := distinct_of_generate (by decide +kernel) (FileSystem.hasDirectory_nil _)
    generate_linked again
  exact absurd distinct (by decide +kernel)

end Manifest

end SchemaBuild
