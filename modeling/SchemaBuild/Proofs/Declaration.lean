import SchemaBuild.Schema

/-!
# Checked declarations

Which declarations are accepted, what is said against the others, and what becomes of those that
are accepted. A declaration may break several rules in several places. All of this can be listed
in the order of the rules, and a check reports what comes first in that list.
-/

namespace SchemaBuild

/-! ## Root elements -/

theorem firstOccurrences_of_nodup {elements : List String} (distinct : elements.Nodup) :
    firstOccurrences elements = elements := by
  induction elements with
  | nil => rfl
  | cons head tail induction =>
      rcases List.nodup_cons.1 distinct with ⟨absent, tailDistinct⟩
      rw [firstOccurrences, induction tailDistinct, List.filter_eq_self.2]
      intro element member
      exact decide_eq_true fun equal => absent (equal ▸ member)

theorem firstOccurrences_ordered (elements : List String) :
    (firstOccurrences elements).Pairwise fun left right =>
      elements.idxOf left < elements.idxOf right := by
  induction elements with
  | nil => exact .nil
  | cons head tail induction =>
      have behind {element : String}
          (member : element ∈ (firstOccurrences tail).filter (· ≠ head)) :
          (head :: tail).idxOf element = tail.idxOf element + 1 := by
        have different : element ≠ head := of_decide_eq_true (List.mem_filter.1 member).2
        have notSame : (head == element) = false := beq_eq_false_iff_ne.2 different.symm
        rw [List.idxOf_cons, notSame, cond_false]
      rw [firstOccurrences, List.pairwise_cons]
      constructor
      · intro element member
        rw [List.idxOf_cons_self, behind member]
        exact Nat.succ_pos _
      · apply (induction.filter _).imp_of_mem
        intro left right isLeft isRight before
        rw [behind isLeft, behind isRight]
        exact Nat.succ_lt_succ before

namespace Declaration

/-! ## Rules -/

structure IsAcceptable (declaration : Declaration) : Prop where
  name : isIdentifier declaration.name = true
  source : ∃ source, declaration.srcs = [source] ∧ isPlainPath source = true
  includeFiles : ∀ path ∈ declaration.includeFiles, isPlainPath path = true
  packageName : ∀ package ∈ declaration.packageName, isPackageName package = true
  rootElements : ∀ element ∈ declaration.rootElements, element ≠ "" ∧ isQuotable element = true
  flags : ¬(declaration.flags.enumsOnly = some true ∧ declaration.flags.parserOnly = some true)

def objectIf (broken : Bool) (field value : String) : List (String × String) :=
  if broken then [(field, value)] else []

def objectTo (check : String → Bool) (field : String) (texts : List String) :
    List (String × String) :=
  (texts.filter fun text => !check text).map fun text => (field, Text.quoted text)

/-- All that can be said against a declaration, in the order of the rules: properties, and values
of them as messages show them. -/
def objections (declaration : Declaration) : List (String × String) :=
  List.flatten [
    objectIf (!isIdentifier declaration.name) "name" (Text.quoted declaration.name),
    objectIf (declaration.srcs.length ≠ 1) "srcs" (Text.quotedList declaration.srcs),
    objectTo isPlainPath "srcs" declaration.srcs,
    objectTo isPlainPath "include_files" declaration.includeFiles,
    objectTo isPackageName "package_name" declaration.packageName.toList,
    objectTo isElementName "root_elements" declaration.rootElements,
    objectIf (declaration.flags.enumsOnly = some true && declaration.flags.parserOnly = some true)
      "parser_only" "true"]

example : objections { name := "foo", srcs := ["a b", "c"], includeFiles := ["d", "$e"] } =
    [("srcs", "[\"a b\", \"c\"]"), ("srcs", "\"a b\""), ("include_files", "\"$e\"")] := by
  decide +kernel

theorem objectIf_eq_nil_iff {broken : Bool} {field value : String} :
    objectIf broken field value = [] ↔ broken = false := by
  cases broken <;> simp [objectIf]

theorem objectTo_eq_nil_iff {check : String → Bool} {field : String} {texts : List String} :
    objectTo check field texts = [] ↔ ∀ text ∈ texts, check text = true := by
  simp [objectTo]

theorem head?_objectTo {check : String → Bool} {field : String} {texts : List String}
    {text : String} (found : texts.find? (fun text => !check text) = some text) :
    (objectTo check field texts).head? = some (field, Text.quoted text) := by
  rw [objectTo, List.head?_map, List.head?_filter, found]
  rfl

theorem isElementName_iff {text : String} :
    isElementName text = true ↔ text ≠ "" ∧ isQuotable text = true := by
  simp [isElementName]

/-- Nothing can be said against the declarations that follow every rule, and no others. -/
theorem objections_eq_nil_iff {declaration : Declaration} :
    declaration.objections = [] ↔ declaration.IsAcceptable := by
  simp only [objections, List.flatten_eq_nil_iff, List.forall_mem_cons, List.not_mem_nil,
    false_implies, implies_true, and_true, objectIf_eq_nil_iff, objectTo_eq_nil_iff,
    isElementName_iff]
  constructor
  · rintro ⟨name, single, sources, includes, package, roots, flags⟩
    have isSingle : declaration.srcs.length = 1 := by simpa using single
    rcases List.length_eq_one_iff.1 isSingle with ⟨source, isSource⟩
    refine ⟨by simpa using name, ⟨source, isSource, sources source ?_⟩, includes, ?_, roots, ?_⟩
    · exact isSource ▸ List.mem_singleton_self source
    · simpa using package
    · simpa using flags
  · rintro ⟨name, ⟨source, isSource, plain⟩, includes, package, roots, flags⟩
    refine ⟨by simpa using name, by simp [isSource], ?_, includes, ?_, roots, ?_⟩
    · simpa [isSource] using plain
    · simpa using package
    · simpa using flags

/-! ## The first fault -/

/-- A result is right about what can be said against a declaration: it accepts if that is nothing,
and else it reports what comes first. -/
def Settles (accepts : Schema → Prop) (against : List (String × String)) :
    Except PropertyFault Schema → Prop
  | .ok schema => against = [] ∧ accepts schema
  | .error fault => against.head? = some (fault.field, fault.value)

namespace Settles

variable {accepts : Schema → Prop} {against : List (String × String)} {field : String}

theorem ofCondition {condition : Prop} [Decidable condition] {broken : Bool} {value : String}
    (fault : PropertyFault) {next : condition → Except PropertyFault Schema}
    (isBroken : broken = true ↔ ¬condition) (names : fault.field = field)
    (shows : fault.value = value) (others : ∀ holds, Settles accepts against (next holds)) :
    Settles accepts (objectIf broken field value ++ against)
      (if holds : condition then next holds else .error fault) := by
  by_cases holds : condition
  · have nothing : objectIf broken field value = [] :=
      objectIf_eq_nil_iff.2 (Bool.eq_false_iff.2 fun breaks => isBroken.1 breaks holds)
    rw [dif_pos holds, nothing, List.nil_append]
    exact others holds
  · rw [dif_neg holds, objectIf, if_pos (isBroken.2 holds)]
    simp [Settles, names, shows]

theorem ofTexts {check : String → Bool} {texts : List String} (fault : String → PropertyFault)
    {next : PLift (∀ text ∈ texts, check text = true) → Except PropertyFault Schema}
    (names : ∀ text, (fault text).field = field)
    (shows : ∀ text, (fault text).value = Text.quoted text)
    (others : ∀ accepted, Settles accepts against (next accepted)) :
    Settles accepts (objectTo check field texts ++ against)
      (firstRefused check texts fault >>= next) := by
  rcases firstRefused_cases check texts fault with ⟨all, accepted, passes⟩ | ⟨text, found, fails⟩
  · rw [passes, objectTo_eq_nil_iff.2 all, List.nil_append]
    exact others accepted
  · rw [fails]
    have first : (objectTo check field texts ++ against).head? =
        some ((fault text).field, (fault text).value) := by
      rw [List.head?_append, head?_objectTo found, names, shows, Option.some_or]
    exact first

end Settles

/-- A check reports what comes first of all that can be said. If that is nothing, the module is
spelled out as it was declared, but for its root elements, of which there is one of each. -/
theorem settles_findFault (declaration : Declaration) :
    Settles (fun schema => schema.toDeclaration = { declaration with
        flags := declaration.flags.settle.map some
        rootElements := firstOccurrences declaration.rootElements })
      declaration.objections declaration.findFault := by
  unfold findFault objections
  simp only [List.flatten_cons, List.flatten_nil]
  apply Settles.ofCondition (.name declaration.name) (by simp) rfl rfl
  intro isName
  split
  case h_2 several =>
    have notSingle : declaration.srcs.length ≠ 1 := by
      intro single
      rcases List.length_eq_one_iff.1 single with ⟨source, isSource⟩
      exact several source isSource
    simp [Settles, objectIf, notSingle, PropertyFault.field, PropertyFault.value]
  case h_1 source single =>
    have count : objectIf (declaration.srcs.length ≠ 1) "srcs"
        (Text.quotedList declaration.srcs) = [] := objectIf_eq_nil_iff.2 (by simp [single])
    rw [count, single, List.nil_append]
    apply Settles.ofTexts .source (fun _ => rfl) (fun _ => rfl)
    rintro ⟨sourcePlain⟩
    apply Settles.ofTexts .includeFile (fun _ => rfl) (fun _ => rfl)
    rintro ⟨includesPlain⟩
    apply Settles.ofTexts .package (fun _ => rfl) (fun _ => rfl)
    rintro ⟨packageValid⟩
    apply Settles.ofTexts .rootElement (fun _ => rfl) (fun _ => rfl)
    rintro ⟨rootsValid⟩
    apply Settles.ofCondition .bothRestrictions
    case names => rfl
    case shows => rfl
    case isBroken =>
      have isOn (setting : Option Bool) : setting.getD false = true ↔ setting = some true := by
        cases setting <;> simp
      simp [FlagSet.settle, FlagSet.map, isOn]
    case others => exact fun compatible => ⟨rfl, rfl⟩

/-! ## Checks -/

variable {declaration : Declaration} {schema : Schema}

theorem findFault_of_check_eq_ok (checked : declaration.check = .ok schema) :
    declaration.findFault = .ok schema := by
  unfold check at checked
  cases found : declaration.findFault with
  | ok other =>
      rw [found] at checked
      rw [Except.ok.inj checked]
  | error fault =>
      rw [found] at checked
      cases checked

theorem toDeclaration_of_check (checked : declaration.check = .ok schema) :
    declaration.IsAcceptable ∧ schema.toDeclaration = { declaration with
      flags := declaration.flags.settle.map some
      rootElements := firstOccurrences declaration.rootElements } := by
  have settles := declaration.settles_findFault
  rw [findFault_of_check_eq_ok checked] at settles
  exact ⟨objections_eq_nil_iff.1 settles.1, settles.2⟩

theorem exists_of_isAcceptable (acceptable : declaration.IsAcceptable) :
    ∃ schema, declaration.check = .ok schema := by
  have settles := declaration.settles_findFault
  rw [objections_eq_nil_iff.2 acceptable] at settles
  unfold check
  cases found : declaration.findFault with
  | ok schema => exact ⟨schema, rfl⟩
  | error fault =>
      rw [found] at settles
      cases settles

theorem exists_of_not_isAcceptable (refused : ¬declaration.IsAcceptable) :
    ∃ error, declaration.check = .error error ∧ error.module = declaration.name ∧
      declaration.objections.head? = some (error.fault.field, error.fault.value) := by
  have settles := declaration.settles_findFault
  unfold check
  cases found : declaration.findFault with
  | ok schema =>
      rw [found] at settles
      exact absurd (objections_eq_nil_iff.1 settles.1) refused
  | error fault =>
      rw [found] at settles
      exact ⟨_, rfl, rfl, settles⟩

end Declaration

namespace Schema

theorem toDeclaration_injective {left right : Schema}
    (equal : left.toDeclaration = right.toDeclaration) : left = right := by
  have flags : left.flags = right.flags :=
    congrArg FlagSet.settle (congrArg Declaration.flags equal)
  cases left
  cases right
  simp_all [toDeclaration]

theorem isAcceptable_toDeclaration (schema : Schema) : schema.toDeclaration.IsAcceptable := by
  constructor
  case name => exact schema.name_isIdentifier
  case source => exact ⟨schema.source, rfl, schema.source_isPlainPath⟩
  case includeFiles => exact schema.includes_arePlainPaths
  case packageName => exact schema.package_isPackageName
  case rootElements =>
    exact fun element member =>
      Declaration.isElementName_iff.1 (schema.rootElements_areElementNames element member)
  case flags =>
    rintro ⟨enumsOnly, parserOnly⟩
    have compatible := schema.flags_compatible
    rw [Option.some.inj enumsOnly, Option.some.inj parserOnly] at compatible
    cases compatible

theorem check_toDeclaration (schema : Schema) : schema.toDeclaration.check = .ok schema := by
  rcases Declaration.exists_of_isAcceptable schema.isAcceptable_toDeclaration with ⟨other, checked⟩
  have same : other.toDeclaration = schema.toDeclaration := by
    rw [(Declaration.toDeclaration_of_check checked).2]
    have once : firstOccurrences schema.toDeclaration.rootElements = schema.rootElements :=
      firstOccurrences_of_nodup schema.rootElements_nodup
    rw [once]
    rfl
  rw [checked, toDeclaration_injective same]

end Schema

namespace Declaration

/-- A check accepts the declarations that follow every rule. For the others it reports the module
and the first of all that can be said against it. What is accepted says the same as its declaration,
with each root element at its first place, and is accepted again as it is. -/
theorem check_accepts_or_reports (declaration : Declaration) :
    ((∃ schema, declaration.check = .ok schema) ↔ declaration.IsAcceptable) ∧
    (¬declaration.IsAcceptable → ∃ error, declaration.check = .error error ∧
      error.module = declaration.name ∧
      declaration.objections.head? = some (error.fault.field, error.fault.value)) ∧
    ∀ schema, declaration.check = .ok schema →
      schema.toDeclaration = { declaration with
        flags := declaration.flags.settle.map some
        rootElements := schema.rootElements } ∧
      schema.rootElements.Nodup ∧
      (∀ element, element ∈ schema.rootElements ↔ element ∈ declaration.rootElements) ∧
      (schema.rootElements.Pairwise fun left right =>
        declaration.rootElements.idxOf left < declaration.rootElements.idxOf right) ∧
      schema.toDeclaration.check = .ok schema := by
  refine ⟨⟨?_, exists_of_isAcceptable⟩, exists_of_not_isAcceptable, ?_⟩
  · rintro ⟨schema, checked⟩
    exact (toDeclaration_of_check checked).1
  · intro schema checked
    have spelled := (toDeclaration_of_check checked).2
    have roots : schema.rootElements = firstOccurrences declaration.rootElements :=
      congrArg Declaration.rootElements spelled
    refine ⟨?_, schema.rootElements_nodup, ?_, ?_, schema.check_toDeclaration⟩
    · rw [roots]
      exact spelled
    · intro element
      rw [roots]
      exact mem_firstOccurrences
    · rw [roots]
      exact firstOccurrences_ordered _

end Declaration

end SchemaBuild
