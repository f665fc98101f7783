import SchemaBuild.Manifest.Decode
import SchemaBuild.Proofs.Plan

/-!
# Accepted text

Names, package names, paths and commands are accepted each by a rule of its own. Whatever the rule
was, each text of a planned action can stand where a plain path can, and what is passed to the
compiler is quotable. The writers of build files need to know no more.
-/

namespace SchemaBuild

/-! ## Characters -/

namespace Text

theorem Ranges.exists_of_contains {ranges : Ranges} {code : Nat}
    (contained : ranges.contains code = true) :
    ∃ entry ∈ ranges, entry.1 ≤ code ∧ code ≤ entry.2 := by
  induction ranges with
  | nil => cases contained
  | cons head tail induction =>
      rw [Ranges.contains] at contained
      split at contained
      · cases contained
      next reached =>
      split at contained
      next within => exact ⟨head, List.mem_cons_self, Nat.not_lt.1 reached, within⟩
      next =>
        obtain ⟨entry, member, bounds⟩ := induction contained
        exact ⟨entry, List.mem_cons_of_mem _ member, bounds⟩

theorem isControl_of_isAlphanumeric {character : Char}
    (accepted : isAlphanumeric character = true) : isControl character = false := by
  have apart : ∀ code < 0xa0, code < 0x20 ∨ 0x7f ≤ code →
      (alphabeticRanges.contains code || numericRanges.contains code) = false := by
    decide +kernel
  cases control : isControl character with
  | false => rfl
  | true =>
      simp only [isControl, Bool.or_eq_true, Bool.and_eq_true, decide_eq_true_eq] at control
      have refused := apart character.toNat (by omega) (control.imp_right And.left)
      rw [isAlphanumeric, isAlphabetic, isNumeric, refused] at accepted
      cases accepted

theorem isBlank_of_isAlphanumeric {character : Char}
    (accepted : isAlphanumeric character = true) : isBlank character = false := by
  have apart : ∀ entry ∈ blankRanges, ∀ code ∈ List.range' entry.1 (entry.2 + 1 - entry.1),
      (alphabeticRanges.contains code || numericRanges.contains code) = false := by
    decide +kernel
  cases blank : isBlank character with
  | false => rfl
  | true =>
      obtain ⟨entry, member, first, last⟩ := Ranges.exists_of_contains blank
      have refused := apart entry member character.toNat
        (List.mem_range'_1.2 ⟨first, by omega⟩)
      rw [isAlphanumeric, isAlphabetic, isNumeric, refused] at accepted
      cases accepted

end Text

theorem isPathCharacter_of_isAlphanumeric {character : Char}
    (accepted : Text.isAlphanumeric character = true) : isPathCharacter character = true := by
  have refused : ['\\', '\'', '"', '$'].all (!Text.isAlphanumeric ·) = true := by decide +kernel
  have different (sign : Char) (member : sign ∈ ['\\', '\'', '"', '$']) : character ≠ sign := by
    rintro rfl
    have notAlphanumeric := List.all_eq_true.1 refused _ member
    rw [accepted] at notAlphanumeric
    cases notAlphanumeric
  simp [isPathCharacter, isQuotableCharacter, Text.isControl_of_isAlphanumeric accepted,
    Text.isBlank_of_isAlphanumeric accepted, different]

theorem isPathCharacter_of_isNameCharacter {character : Char}
    (accepted : isNameCharacter character = true) : isPathCharacter character = true := by
  simp only [isNameCharacter, Bool.or_eq_true, decide_eq_true_eq] at accepted
  rcases accepted with ((alphanumeric | rfl) | rfl) | rfl
  · exact isPathCharacter_of_isAlphanumeric alphanumeric
  all_goals decide

def isLayoutCharacter (character : Char) : Bool :=
  isNameCharacter character || character = '/'

theorem isPathCharacter_of_isLayoutCharacter {character : Char}
    (accepted : isLayoutCharacter character = true) : isPathCharacter character = true := by
  simp only [isLayoutCharacter, Bool.or_eq_true, decide_eq_true_eq] at accepted
  rcases accepted with inName | rfl
  · exact isPathCharacter_of_isNameCharacter inName
  · decide

/-! ## Plain paths -/

theorem isPlainPath_iff {text : String} :
    isPlainPath text = true ↔
      text.toList ≠ [] ∧ ∀ character ∈ text.toList, isPathCharacter character = true := by
  simp [isPlainPath]

theorem notMem_of_isPlainPath {text : String} {character : Char} (plain : isPlainPath text = true)
    (refused : isPathCharacter character = false) : character ∉ text.toList := by
  intro member
  have accepted := (isPlainPath_iff.1 plain).2 character member
  rw [refused] at accepted
  cases accepted

theorem notMem_of_isQuotable {text : String} {character : Char} (quotable : isQuotable text = true)
    (refused : isQuotableCharacter character = false) : character ∉ text.toList := by
  intro member
  have accepted := List.all_eq_true.1 quotable character member
  rw [refused] at accepted
  cases accepted

theorem isPlainPath_of_isPackageName {package : String} (named : isPackageName package = true) :
    isPlainPath package = true := by
  refine isPlainPath_iff.2 ⟨fun empty => ?_, fun character member => ?_⟩
  · simp [isPackageName, empty, isIdent] at named
  · rcases isPackageName_cases named member with rfl | accepted
    · decide
    · exact isPathCharacter_of_isNameCharacter (isNameCharacter_of_isIdentRest accepted)

/-! ## Paths below a root -/

namespace Path

def Extends (path root : Path) : Prop :=
  ∃ below : String, path.text = root.text ++ below ∧ below.toList.all isLayoutCharacter = true

namespace Extends

variable {path root : Path} {character : Char}

theorem refl (root : Path) : root.Extends root :=
  ⟨"", by simp, rfl⟩

theorem append (extended : path.Extends root) (text : String)
    (layout : text.toList.all isLayoutCharacter = true) :
    Path.Extends ⟨path.text ++ text⟩ root := by
  obtain ⟨below, spelled, isLayout⟩ := extended
  exact ⟨below ++ text, by rw [spelled, String.append_assoc], by simp [isLayout, layout]⟩

theorem join (extended : path.Extends root) {child : String}
    (named : child.toList.all isNameCharacter = true) : (path.join child).Extends root := by
  have layout : child.toList.all isLayoutCharacter = true := by
    refine List.all_eq_true.2 fun character member => ?_
    simp [isLayoutCharacter, List.all_eq_true.1 named character member]
  have relative : child.toList.head? ≠ some '/' := by
    intro starts
    have slash := List.all_eq_true.1 named '/' (List.mem_of_mem_head? starts)
    rw [isNameCharacter_slash] at slash
    cases slash
  rw [Path.join, if_neg relative]
  split
  · exact extended.append child layout
  · exact (extended.append "/" (by decide)).append child layout

/-- What is refused behind a root is in a path exactly if it is in the root. -/
theorem mem_iff (extended : path.Extends root) (refused : isLayoutCharacter character = false) :
    character ∈ path.text.toList ↔ character ∈ root.text.toList := by
  obtain ⟨below, spelled, isLayout⟩ := extended
  have absent : character ∉ below.toList := by
    intro member
    have accepted := List.all_eq_true.1 isLayout character member
    rw [refused] at accepted
    cases accepted
  simp [spelled, absent]

theorem head?_eq (extended : path.Extends root) (nonempty : root.text.toList ≠ []) :
    path.text.toList.head? = root.text.toList.head? := by
  obtain ⟨below, spelled, -⟩ := extended
  obtain ⟨first, others, spelledRoot⟩ := List.exists_cons_of_ne_nil nonempty
  rw [spelled, String.toList_append, spelledRoot]
  rfl

theorem isPlainPath (extended : path.Extends root) (plain : isPlainPath root.text = true) :
    isPlainPath path.text = true := by
  obtain ⟨below, spelled, isLayout⟩ := extended
  rw [isPlainPath_iff] at *
  rw [spelled, String.toList_append]
  refine ⟨by simp [plain.1], List.forall_mem_append.2 ⟨plain.2, fun character member => ?_⟩⟩
  exact isPathCharacter_of_isLayoutCharacter (List.all_eq_true.1 isLayout character member)

end Extends

end Path

namespace Schema

variable {schema : Schema} {root : Path} {package stem : String}

theorem extends_directory (schema : Schema) (root : Path) :
    (schema.directory root).Extends root := by
  have identifier := schema.name_isIdentifier
  simp only [isIdentifier, Bool.and_eq_true] at identifier
  exact (Path.Extends.refl root).join identifier.2

theorem extends_archivePath (schema : Schema) (root : Path) :
    (schema.archivePath root).Extends root :=
  (schema.extends_directory root).join (by decide)

theorem extends_cppPath (schema : Schema) (root : Path) : (schema.cppPath root).Extends root :=
  (schema.extends_directory root).join (by decide)

theorem extends_of_mem_cppOutputs {path : Path} (named : isPackageName package = true)
    (member : path ∈ schema.cppOutputs root package) : path.Extends root := by
  have cpp := schema.extends_cppPath root
  have file (stem : String) (inStems : stem ∈ stems schema.flags package) (extension : String)
      (isExtension : extension.toList.all isNameCharacter = true) :
      (stem ++ extension).toList.all isNameCharacter = true := by
    rw [String.toList_append, List.all_append, all_isNameCharacter_of_mem_stems named inStems,
      isExtension]
    rfl
  rcases List.mem_append.1 member with source | header
  · obtain ⟨stem, inStems, rfl⟩ := List.mem_map.1 source
    exact cpp.join (file stem inStems ".cpp" (by decide))
  · obtain ⟨stem, inStems, rfl⟩ := List.mem_map.1 header
    exact (cpp.join (by decide)).join (file stem inStems ".h" (by decide))

end Schema

structure Action.ExtendsRoot (action : Action) (root : Path) : Prop where
  output : action.output.Extends root
  depfile : action.depfile.Extends root
  outputs : ∀ path ∈ action.outputs, path.Extends root

theorem Schema.extendsRoot_of_plan {schema : Schema} {root : Path} {plan : Plan} {action : Action}
    (planned : schema.plan root = .ok plan) (member : action ∈ plan.actions) :
    action.ExtendsRoot root := by
  obtain ⟨package, named, isAction⟩ := Schema.action_of_plan planned member
  have packageNamed := schema.package_isPackageName package named
  have archive := schema.extends_archivePath root
  have cpp := schema.extends_cppPath root
  rcases isAction with rfl | rfl
  · exact ⟨archive, archive.append ".d" (by decide),
      fun path isOutput => List.mem_singleton.1 isOutput ▸ archive⟩
  · exact ⟨cpp, cpp.append ".d" (by decide), fun path => extends_of_mem_cppOutputs packageNamed⟩

/-! ## Planned actions -/

theorem Language.isQuotable_of_mem_compilerArgs {language : Language} {flags : Flags}
    {rootElements : List String}
    (elements : ∀ element ∈ rootElements, isElementName element = true) {argument : String}
    (member : argument ∈ language.compilerArgs flags rootElements) :
    isQuotable argument = true := by
  simp only [compilerArgs, List.mem_append, List.mem_filterMap, List.mem_flatMap, List.mem_cons,
    List.not_mem_nil, or_false] at member
  rcases member with (isSwitch | ⟨⟨set, switch⟩, inSwitches, isSet⟩) | ⟨element, inRoots, equal⟩
  · have quotable : ∀ switch ∈ language.switch, isQuotable switch = true := by
      cases language <;> decide
    exact quotable argument isSwitch
  · have quotable : ∀ entry ∈ language.switches flags, isQuotable entry.2 = true := by
      cases language <;> simp only [switches] <;> simp <;> decide
    split at isSet
    · exact Option.some.inj isSet ▸ quotable _ inSwitches
    · cases isSet
  · rcases equal with rfl | rfl
    · decide
    · have accepted := elements _ inRoots
      simp only [isElementName, Bool.and_eq_true] at accepted
      exact accepted.2

structure Action.IsPlain (action : Action) : Prop where
  packageName : isPlainPath action.packageName = true
  input : isPlainPath action.input.text = true
  output : isPlainPath action.output.text = true
  depfile : isPlainPath action.depfile.text = true
  implicitInputs : ∀ path ∈ action.implicitInputs, isPlainPath path.text = true
  outputs : ∀ path ∈ action.outputs, isPlainPath path.text = true
  args : ∀ argument ∈ action.args, isQuotable argument = true

theorem Schema.isPlain_of_plan {schema : Schema} {root : Path} {plan : Plan} {action : Action}
    (rootPlain : isPlainPath root.text = true) (planned : schema.plan root = .ok plan)
    (member : action ∈ plan.actions) : action.IsPlain := by
  obtain ⟨package, named, isAction⟩ := Schema.action_of_plan planned member
  have extended := Schema.extendsRoot_of_plan planned member
  have packagePlain := isPlainPath_of_isPackageName (schema.package_isPackageName package named)
  have includes (path : Path) (member : path ∈ schema.includes.map Path.mk) :
      isPlainPath path.text = true := by
    obtain ⟨text, inIncludes, rfl⟩ := List.mem_map.1 member
    exact schema.includes_arePlainPaths text inIncludes
  have args {language : Language} (argument : String)
      (member : argument ∈ language.compilerArgs schema.flags schema.rootElements) :=
    Language.isQuotable_of_mem_compilerArgs schema.rootElements_areElementNames member
  have output := extended.output.isPlainPath rootPlain
  have depfile := extended.depfile.isPlainPath rootPlain
  have outputs (path : Path) (isOutput : path ∈ action.outputs) :=
    (extended.outputs path isOutput).isPlainPath rootPlain
  rcases isAction with rfl | rfl
  · exact ⟨packagePlain, schema.source_isPlainPath, output, depfile, includes, outputs, args⟩
  · exact ⟨packagePlain, schema.source_isPlainPath, output, depfile, includes, outputs, args⟩

/-! ## Accepted manifests -/

structure Toolchain.IsAccepted (toolchain : Toolchain) : Prop where
  xsdc : isCommand toolchain.xsdc = true
  driver : isCommand toolchain.driver = true
  genDir : ∀ directory ∈ toolchain.genDir, isPlainPath directory = true

theorem isQuotable_of_isCommand {text : String} (command : isCommand text = true) :
    isQuotable text = true := by
  simp only [isCommand, Bool.and_eq_true] at command
  exact command.2

namespace Manifest

variable {manifest : Manifest}

/-- Every manifest that is read from a text was accepted. -/
theorem validate_of_parse {text : String} (read : parse text = .ok manifest) :
    manifest.validate = .ok manifest := by
  unfold parse at read
  split at read
  · cases read
  next content _ =>
    have accepted := read
    unfold validate at read
    split at read
    · cases read
    · split at read
      · cases read
      · obtain rfl := Except.ok.inj read
        exact accepted

theorem isAccepted_toolchain (accepted : manifest.validate = .ok manifest) :
    manifest.toolchain.IsAccepted := by
  unfold validate at accepted
  split at accepted
  · cases accepted
  split at accepted
  · cases accepted
  next faultless =>
  unfold toolchain
  cases declared : manifest.toolchainKeys with
  | none => exact ⟨by decide +kernel, by decide +kernel, by simp [ToolchainKeys.withDefaults]⟩
  | some keys =>
      rw [declared, Option.bind_some, ToolchainKeys.fault?] at faultless
      split at faultless
      · cases faultless
      next xsdc =>
      split at faultless
      · cases faultless
      next driver =>
      split at faultless
      · cases faultless
      next genDir =>
      simp only [Bool.not_eq_true', Bool.not_eq_false] at xsdc driver genDir
      have default (command : Option String) (other : String) (otherIsCommand : isCommand other)
          (all : command.all isCommand = true) : isCommand (command.getD other) = true := by
        cases command with
        | none => exact otherIsCommand
        | some text => exact all
      refine ⟨default _ _ (by decide +kernel) xsdc, default _ _ (by decide +kernel) driver, ?_⟩
      intro directory isDeclared
      have declaresIt : keys.genDir = some directory := isDeclared
      rw [declaresIt] at genDir
      exact genDir

end Manifest

end SchemaBuild
