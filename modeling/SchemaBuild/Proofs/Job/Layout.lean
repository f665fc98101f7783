import SchemaBuild.Job
import SchemaBuild.Proofs.FileSystem.Growth
import SchemaBuild.Proofs.Parents
import SchemaBuild.Proofs.Plan

/-!
# Where a job works

A planned job works in the directory of its module. Its output has a known name there, and the
entries beside it that the job needs on the way have this name with a suffix.
-/

namespace SchemaBuild

/-! ## Names of entries -/

/-- Suffixes of the output's name: of the output itself, of the staging directory, of an unfinished
archive, and of the dependency file. -/
def outputSuffixes : List String := ["", ".temp", ".tmp", ".d"]

def suffixed (name : Name) (suffix : String) : Name :=
  name ++ Bytes.ofString suffix

@[simp] theorem suffixed_empty (name : Name) : suffixed name "" = name :=
  List.append_nil name

theorem suffixed_inj {name : Name} {left right : String}
    (equal : suffixed name left = suffixed name right) : left = right :=
  Bytes.ofString_inj (List.append_cancel_left equal)

theorem suffixed_ne {name : Name} {left right : String} (different : left ≠ right) :
    suffixed name left ≠ suffixed name right :=
  fun equal => different (suffixed_inj equal)

theorem suffixed_ne_self {name : Name} {suffix : String} (some : suffix ≠ "") :
    suffixed name suffix ≠ name :=
  fun equal => some (suffixed_inj (equal.trans (suffixed_empty name).symm))

theorem Path.getLast?_staging (path : Path) : path.staging.text.toList.getLast? = some 'p' := by
  rw [Path.staging, Path.withSuffix, String.toList_append, List.getLast?_append]
  rfl

theorem Path.bytes_withSuffix (path : Path) (suffix : String) :
    (path.withSuffix suffix).bytes = path.bytes ++ Bytes.ofString suffix :=
  Bytes.ofString_append path.text suffix

/-- The name that the output for a language has in the directory of its module. -/
def Language.outputName : Language → Name
  | .java => Bytes.ofString javaArchive
  | .cpp => Bytes.ofString "cpp"

instance (name : Name) : Decidable (IsEntryName name) :=
  decidable_of_iff (IsProper name ∧ name.length ≤ longestName)
    ⟨fun ⟨proper, short⟩ => ⟨proper, short⟩, fun named => ⟨named.toIsProper, named.short⟩⟩

theorem Language.isEntryName_outputName (language : Language) {suffix : String}
    (member : suffix ∈ outputSuffixes) : IsEntryName (suffixed language.outputName suffix) := by
  simp only [outputSuffixes, List.mem_cons, List.not_mem_nil, or_false] at member
  cases language <;> rcases member with rfl | rfl | rfl | rfl <;> decide +kernel

theorem isProper_ofString {text : String} (last : Char) (ends : text.toList.getLast? = some last)
    (notDot : last ≠ '.') (noSlash : '/' ∉ text.toList) : IsProper (Bytes.ofString text) := by
  have notDots (dots : String) (onlyDots : dots.toList.getLast? ≠ some last) :
      Bytes.ofString text ≠ Bytes.ofString dots := by
    intro equal
    rw [Bytes.ofString_inj equal] at ends
    exact onlyDots ends
  have lastDot : some '.' ≠ some last := fun equal => notDot (Option.some.inj equal).symm
  refine ⟨notDots "" (by simp), ?_, ?_, ?_⟩
  · exact ofString_dot ▸ notDots "." lastDot
  · exact ofString_dots ▸ notDots ".." lastDot
  · exact fun member => noSlash (Bytes.mem_of_mem_ofString (by decide) member)

/-! ## The directory of a module -/

namespace Schema

theorem isProper_name (schema : Schema) : IsProper (Bytes.ofString schema.name) := by
  have identifier := schema.name_isIdentifier
  have notDots (dots : String) (onlyDots : ∀ character ∈ dots.toList, character = '.') :
      Bytes.ofString schema.name ≠ Bytes.ofString dots := by
    intro equal
    exact isIdentifier_ne_dots identifier _ onlyDots
      (congrArg String.toList (Bytes.ofString_inj equal))
  refine ⟨notDots "" (by simp), ?_, ?_, ?_⟩
  · exact ofString_dot ▸ notDots "." (by simp)
  · exact ofString_dots ▸ notDots ".." (by simp)
  · intro member
    exact isIdentifier_slash_notMem identifier (Bytes.mem_of_mem_ofString (by decide) member)

theorem directory_text_cases (schema : Schema) (root : Path) :
    (schema.directory root).text = schema.name ∨
      ∃ above, (schema.directory root).text = above ++ "/" ++ schema.name := by
  rw [directory, Path.join, if_neg schema.name_relative]
  split
  next slashes =>
    cases ends : root.text.toList.getLast? with
    | none =>
        rw [List.getLast?_eq_none_iff, String.toList_eq_nil_iff] at ends
        exact .inl (by simp [ends])
    | some last =>
        obtain rfl : last = '/' := by simpa [ends] using slashes
        obtain ⟨above, text⟩ := List.getLast?_eq_some_iff.1 ends
        refine .inr ⟨String.ofList above, ?_⟩
        apply String.toList_inj.1
        simp [text]
  next => exact .inr ⟨root.text, rfl⟩

theorem endsInName_directory (schema : Schema) (root : Path) :
    EndsInName (schema.directory root).bytes := by
  have proper := schema.isProper_name
  rcases schema.directory_text_cases root with text | ⟨above, text⟩
  · refine ⟨[], _, ?_, proper⟩
    rw [Path.bytes, text, proper.pathNames, List.nil_append]
  · refine ⟨pathNames (Bytes.ofString above), _, ?_, proper⟩
    rw [Path.bytes, text, Bytes.ofString_slash, pathNames_append, proper.pathNames]

theorem endsInSlash_directory (schema : Schema) (root : Path) :
    endsInSlash (schema.directory root).bytes = false := by
  have proper := schema.isProper_name
  rcases schema.directory_text_cases root with text | ⟨above, text⟩
  · have notEmpty : Bytes.ofString schema.name ≠ [] := proper.notEmpty
    have last := proper.noSlash
    rw [Path.bytes, text, endsInSlash, List.getLast?_eq_some_getLast notEmpty]
    have notSlash : (Bytes.ofString schema.name).getLast notEmpty ≠ slashByte := by
      intro slash
      exact last (slash ▸ List.getLast_mem notEmpty)
    simpa using notSlash
  · rw [Path.bytes, text, Bytes.ofString_slash]
    exact proper.endsInSlash _

/-! ## Parents -/

theorem segments_directory (root : Path) :
    ∃ above, ∀ schema : Schema,
      (schema.directory root).segments = above ++ [schema.name.toList] := by
  have noSlash (schema : Schema) := isIdentifier_slash_notMem schema.name_isIdentifier
  have slash : "/".toList = ['/'] := by decide
  by_cases slashes : root.text.toList.getLast?.all (· = '/')
  · have text (schema : Schema) : (schema.directory root).text = root.text ++ schema.name := by
      rw [directory, Path.join, if_neg schema.name_relative, if_pos slashes]
    cases ends : root.text.toList.getLast? with
    | none =>
        rw [List.getLast?_eq_none_iff, String.toList_eq_nil_iff] at ends
        refine ⟨[], fun schema => ?_⟩
        rw [Path.segments, text, ends, String.empty_append,
          List.splitOn_eq_singleton (noSlash schema), List.nil_append]
    | some last =>
        obtain rfl : last = '/' := by simpa [ends] using slashes
        obtain ⟨init, isRoot⟩ := List.getLast?_eq_some_iff.1 ends
        refine ⟨init.splitOn '/', fun schema => ?_⟩
        rw [Path.segments, text, String.toList_append, isRoot, List.append_assoc,
          List.singleton_append, List.splitOn_append_cons_self,
          List.splitOn_eq_singleton (noSlash schema)]
  · refine ⟨root.segments, fun schema => ?_⟩
    rw [Path.segments, directory, Path.join, if_neg schema.name_relative, if_neg slashes,
      String.toList_append, String.toList_append, slash, List.append_assoc,
      List.singleton_append, List.splitOn_append_cons_self,
      List.splitOn_eq_singleton (noSlash schema), Path.segments]

theorem parent?_directory (root : Path) :
    ∃ parent, ∀ schema : Schema, (schema.directory root).parent? = some parent ∧
      parent.GoesOn (schema.directory root) (Bytes.ofString schema.name) := by
  obtain ⟨above, segments⟩ := segments_directory root
  have notDot (schema : Schema) : schema.name.toList ≠ ['.'] :=
    isIdentifier_ne_dots schema.name_isIdentifier ['.'] (by simp)
  have notEmpty (schema : Schema) : schema.name.toList ≠ [] :=
    isIdentifier_ne_nil schema.name_isIdentifier
  refine ⟨.ofSegments (Path.trimSegments above), fun schema =>
    ⟨Path.parent?_of_last (segments schema) (notEmpty schema) (notDot schema), ?_⟩⟩
  rw [← schema.name.ofList_toList]
  exact Path.goesOn_ofSegments (segments schema) (notEmpty schema)

theorem parent?_of_directory (schema : Schema) (root : Path) {child : String}
    (notEmpty : child.toList ≠ []) (notDot : child.toList ≠ ['.'])
    (noSlash : '/' ∉ child.toList) :
    Path.parent? ⟨(schema.directory root).text ++ "/" ++ child⟩ = some (schema.directory root) := by
  have slash : "/".toList = ['/'] := by decide
  have segments : Path.segments ⟨(schema.directory root).text ++ "/" ++ child⟩ =
      (schema.directory root).segments ++ [child.toList] := by
    rw [Path.segments, String.toList_append, String.toList_append, slash, List.append_assoc,
      List.singleton_append, List.splitOn_append_cons_self, List.splitOn_eq_singleton noSlash,
      Path.segments]
  obtain ⟨above, ofDirectory⟩ := segments_directory root
  have text : (schema.directory root).text ≠ "" := by
    intro empty
    exact (schema.endsInName_directory root).ne_nil (by rw [Path.bytes, empty]; rfl)
  rw [Path.parent?_of_last segments notEmpty notDot, ofDirectory,
    Path.trimSegments_concat (isIdentifier_ne_nil schema.name_isIdentifier)
      (isIdentifier_ne_dots schema.name_isIdentifier ['.'] (by simp)),
    ← ofDirectory, Path.ofSegments_segments text]

end Schema

/-! ## Planned jobs -/

namespace Job

structure WorksIn (job : Job) (directory : Path) (name : Name) : Prop where
  ends : EndsInName directory.bytes
  noSlash : endsInSlash directory.bytes = false
  output : job.output.path.bytes = directory.bytes ++ slashByte :: name
  parent : ∀ suffix ∈ outputSuffixes,
    (job.output.path.withSuffix suffix).parent? = some directory
  named : ∀ suffix ∈ outputSuffixes, IsEntryName (suffixed name suffix)
  depfile : job.depfile = job.output.path.depfile
  targets : ∀ target ∈ job.targets, ∃ rest,
    target.bytes = directory.bytes ++ slashByte :: rest ∧ walkNames rest ≠ []

namespace WorksIn

variable {job : Job} {directory : Path} {name : Name}

theorem suffixed_bytes (works : job.WorksIn directory name) (suffix : String) :
    (job.output.path.withSuffix suffix).bytes =
      directory.bytes ++ slashByte :: suffixed name suffix := by
  rw [Path.bytes_withSuffix, works.output, List.append_assoc, List.cons_append, suffixed]

theorem staging_bytes (works : job.WorksIn directory name) :
    job.output.path.staging.bytes = directory.bytes ++ slashByte :: suffixed name ".temp" :=
  works.suffixed_bytes ".temp"

theorem unfinished_bytes (works : job.WorksIn directory name) :
    job.output.path.unfinished.bytes = directory.bytes ++ slashByte :: suffixed name ".tmp" :=
  works.suffixed_bytes ".tmp"

theorem depfile_bytes (works : job.WorksIn directory name) :
    job.depfile.bytes = directory.bytes ++ slashByte :: suffixed name ".d" := by
  rw [works.depfile]
  exact works.suffixed_bytes ".d"

theorem named_output (works : job.WorksIn directory name) : IsEntryName name :=
  suffixed_empty name ▸ works.named "" (by decide)

theorem parent_output (works : job.WorksIn directory name) :
    job.output.path.parent? = some directory := by
  have parent := works.parent "" (by decide)
  rwa [Path.withSuffix, String.append_empty] at parent

end WorksIn

end Job

namespace Schema

theorem output_text {schema : Schema} {root : Path} {package : String} {action : Action}
    (planned : action = schema.javaAction root package ∨
      action = schema.cppAction root package) :
    ∃ child, action.output.text = (schema.directory root).text ++ "/" ++ child ∧
      Bytes.ofString child = action.language.outputName ∧
        ∀ suffix ∈ outputSuffixes, (child ++ suffix).toList ≠ [] ∧
          (child ++ suffix).toList ≠ ['.'] ∧ '/' ∉ (child ++ suffix).toList := by
  rcases planned with rfl | rfl
  · exact ⟨javaArchive, schema.archivePath_text root, rfl, by decide +kernel⟩
  · exact ⟨"cpp", schema.cppPath_text root, rfl, by decide +kernel⟩

theorem cppPath_join_text (schema : Schema) (root : Path) {child : String}
    (noSlash : '/' ∉ child.toList) :
    ((schema.cppPath root).join child).text =
      (schema.directory root).text ++ "/" ++ ("cpp" ++ "/" ++ child) := by
  have relative : child.toList.head? ≠ some '/' := by
    intro starts
    exact noSlash (List.mem_of_mem_head? starts)
  have ends : (schema.cppPath root).text.toList.getLast? = some 'p' := by
    rw [cppPath_text, String.toList_append, List.getLast?_append]
    rfl
  rw [Path.join_text_of_name relative ends (by decide), cppPath_text]
  simp only [String.append_assoc]

theorem outputs_inside {schema : Schema} {root : Path} {package : String} {action : Action}
    (named : isPackageName package = true)
    (planned : action = schema.javaAction root package ∨
      action = schema.cppAction root package) :
    ∀ target ∈ action.outputs, ∃ rest below,
      target.bytes = (schema.directory root).bytes ++ slashByte :: rest ∧
        walkNames rest = action.language.outputName :: below ∧ ∀ name ∈ below, IsProper name := by
  intro target isTarget
  rcases planned with rfl | rfl
  · obtain rfl := List.mem_singleton.1 isTarget
    refine ⟨Bytes.ofString javaArchive, [], ?_, ?_, by simp⟩
    · rw [Path.bytes, schema.archivePath_text root, Bytes.ofString_slash]
      rfl
    · have proper : IsProper (Bytes.ofString javaArchive) := by decide +kernel
      exact proper.walkNames
  · have isCpp : IsProper (Bytes.ofString "cpp") := by decide +kernel
    have isInclude : IsProper (Bytes.ofString "include") := by decide +kernel
    rcases List.mem_append.1 isTarget with source | header
    · obtain ⟨stem, inStems, rfl⟩ := List.mem_map.1 source
      have noSlash : '/' ∉ (stem ++ ".cpp").toList := by
        simpa using slash_notMem_of_mem_stems named inStems
      have proper : IsProper (Bytes.ofString (stem ++ ".cpp")) :=
        isProper_ofString 'p' (by simp) (by decide) noSlash
      refine ⟨Bytes.ofString ("cpp" ++ "/" ++ (stem ++ ".cpp")), [Bytes.ofString (stem ++ ".cpp")],
        ?_, ?_, by simpa using proper⟩
      · rw [Path.bytes, schema.cppPath_join_text root noSlash, Bytes.ofString_slash]
        rfl
      · rw [Bytes.ofString_slash, walkNames_append _ proper.notEmpty, isCpp.pathNames,
          proper.walkNames]
        rfl
    · obtain ⟨stem, inStems, rfl⟩ := List.mem_map.1 header
      have noSlash : '/' ∉ (stem ++ ".h").toList := by
        simpa using slash_notMem_of_mem_stems named inStems
      have proper : IsProper (Bytes.ofString (stem ++ ".h")) :=
        isProper_ofString 'h' (by simp) (by decide) noSlash
      have relative : (stem ++ ".h").toList.head? ≠ some '/' :=
        fun starts => noSlash (List.mem_of_mem_head? starts)
      have ends : ((schema.cppPath root).join "include").text.toList.getLast? = some 'e' := by
        rw [schema.cppPath_join_text root (by decide), String.toList_append,
          String.toList_append, List.getLast?_append, List.getLast?_append]
        rfl
      refine ⟨Bytes.ofString ("cpp" ++ "/" ++ ("include" ++ "/" ++ (stem ++ ".h"))),
        [Bytes.ofString "include", Bytes.ofString (stem ++ ".h")], ?_, ?_, ?_⟩
      · have text : (((schema.cppPath root).join "include").join (stem ++ ".h")).text =
            (schema.directory root).text ++ "/" ++
              ("cpp" ++ "/" ++ ("include" ++ "/" ++ (stem ++ ".h"))) := by
          rw [Path.join_text_of_name relative ends (by decide),
            schema.cppPath_join_text root (by decide)]
          simp only [String.append_assoc]
        rw [Path.bytes, text, Bytes.ofString_slash]
        rfl
      · have more : Bytes.ofString ("include" ++ "/" ++ (stem ++ ".h")) ≠ [] := by
          rw [Bytes.ofString_slash]
          simp
        rw [Bytes.ofString_slash, walkNames_append _ more, Bytes.ofString_slash,
          walkNames_append _ proper.notEmpty, isCpp.pathNames, isInclude.pathNames,
          proper.walkNames]
        rfl
      · intro name member
        rcases List.mem_cons.1 member with rfl | isLast
        · exact isInclude
        · exact List.mem_singleton.1 isLast ▸ proper

theorem outputs_below {schema : Schema} {root : Path} {package : String} {action : Action}
    (named : isPackageName package = true)
    (planned : action = schema.javaAction root package ∨
      action = schema.cppAction root package) :
    ∀ target ∈ action.outputs, ∃ rest,
      target.bytes = (schema.directory root).bytes ++ slashByte :: rest ∧ walkNames rest ≠ [] := by
  intro target isTarget
  obtain ⟨rest, below, bytes, names, -⟩ := outputs_inside named planned target isTarget
  exact ⟨rest, bytes, by simp [names]⟩

theorem worksIn_of_plan {schema : Schema} {root : Path} {plan : Plan} {action : Action}
    (planned : schema.plan root = .ok plan) (member : action ∈ plan.actions) (xsdc : String) :
    (Job.ofAction action xsdc).WorksIn (schema.directory root) action.language.outputName := by
  obtain ⟨package, named, isAction⟩ := action_of_plan planned member
  obtain ⟨child, text, bytes, names⟩ := output_text isAction
  have output : (Job.ofAction action xsdc).output.path = action.output := by
    rw [Job.ofAction]
    cases action.language <;> rfl
  refine ⟨schema.endsInName_directory root, schema.endsInSlash_directory root, ?_, ?_, ?_, ?_, ?_⟩
  · rw [output, Path.bytes, text, Bytes.ofString_slash, bytes]
    rfl
  · intro suffix isSuffix
    obtain ⟨notEmpty, notDot, noSlash⟩ := names suffix isSuffix
    rw [output, Path.withSuffix, text, String.append_assoc]
    exact schema.parent?_of_directory root notEmpty notDot noSlash
  · exact fun suffix => action.language.isEntryName_outputName
  · rw [output]
    rcases isAction with rfl | rfl <;> rfl
  · have promised := outputs_ne_nil_of_plan planned member
    rw [Job.targets, if_neg (by simpa [Job.ofAction] using promised)]
    exact outputs_below (schema.package_isPackageName package named) isAction

end Schema

end SchemaBuild
