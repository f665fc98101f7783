import SchemaBuild.Action

/-!
# Compiler arguments

What a module asks of the compiler can be read off the arguments that the compiler gets. Root
elements may be called like switches. Still the first `-r` tells where the switches end, as none
of them is called so, and from there on every second argument is a root element.
-/

namespace SchemaBuild.Language

/-! ## Switches -/

def chosen (table : List (Bool × String)) : List String :=
  table.filterMap fun (set, switch) => if set then some switch else none

theorem chosen_sublist (table : List (Bool × String)) :
    (chosen table).Sublist (table.map Prod.snd) := by
  induction table with
  | nil => exact .slnil
  | cons entry table induction =>
      rcases entry with ⟨set, switch⟩
      cases set with
      | false => exact induction.cons _
      | true => exact induction.cons_cons _

theorem chosen_inj {left right : List (Bool × String)}
    (names : left.map Prod.snd = right.map Prod.snd) (distinct : (left.map Prod.snd).Nodup)
    (equal : chosen left = chosen right) : left = right := by
  induction left generalizing right with
  | nil => exact (List.map_eq_nil_iff.1 names.symm).symm
  | cons entry left induction =>
      cases right with
      | nil => cases names
      | cons other right =>
          rcases entry with ⟨set, switch⟩
          rcases other with ⟨otherSet, otherSwitch⟩
          have same : switch = otherSwitch := (List.cons.inj names).1
          have behind : left.map Prod.snd = right.map Prod.snd := (List.cons.inj names).2
          subst same
          rcases List.nodup_cons.1 distinct with ⟨absent, distinctBehind⟩
          -- The first switch has no other place, so it is chosen on both sides or on none.
          have notChosen {table : List (Bool × String)}
              (names : left.map Prod.snd = table.map Prod.snd) : switch ∉ chosen table :=
            fun member => absent (names ▸ (chosen_sublist table).subset member)
          cases set with
          | false =>
              cases otherSet with
              | false => rw [induction behind distinctBehind equal]
              | true =>
                  have chosenLeft : chosen left = switch :: chosen right := equal
                  exact absurd (chosenLeft ▸ List.mem_cons_self) (notChosen rfl)
          | true =>
              cases otherSet with
              | false =>
                  have chosenRight : switch :: chosen left = chosen right := equal
                  exact absurd (chosenRight ▸ List.mem_cons_self) (notChosen behind)
              | true => rw [induction behind distinctBehind (List.cons.inj equal).2]

def switchNames (language : Language) : List String :=
  (language.switches (FlagSet.fill false)).map Prod.snd

theorem map_snd_switches (language : Language) (flags : Flags) :
    (language.switches flags).map Prod.snd = language.switchNames := by
  cases language <;> rfl

theorem nodup_switchNames (language : Language) : language.switchNames.Nodup := by
  cases language <;> decide

theorem notMem_switchNames (language : Language) :
    "-r" ∉ language.switch ++ language.switchNames := by
  cases language <;> decide

/-! ## Root elements -/

def elementArgs (elements : List String) : List String :=
  elements.flatMap fun element => ["-r", element]

theorem elementArgs_inj {left right : List String}
    (equal : elementArgs left = elementArgs right) : left = right := by
  induction left generalizing right with
  | nil =>
      cases right with
      | nil => rfl
      | cons => cases equal
  | cons element left induction =>
      cases right with
      | nil => cases equal
      | cons other right =>
          rcases List.cons.inj (List.cons.inj equal).2 with ⟨rfl, behind⟩
          rw [induction behind]

/-! ## All arguments -/

variable {language : Language} {flags others : Flags} {elements otherElements : List String}

/-- The first `-r` of the arguments is that of the first root element. -/
theorem span_compilerArgs (language : Language) (flags : Flags) (elements : List String) :
    (language.compilerArgs flags elements).takeWhile (· ≠ "-r") =
        language.switch ++ chosen (language.switches flags) ∧
      (language.compilerArgs flags elements).dropWhile (· ≠ "-r") = elementArgs elements := by
  have isSwitch : ∀ argument ∈ language.switch ++ chosen (language.switches flags),
      decide (argument ≠ "-r") = true := by
    intro argument member
    apply decide_eq_true
    rintro rfl
    apply notMem_switchNames language
    rw [← map_snd_switches language flags]
    exact ((chosen_sublist _).append_left _).subset member
  have spelled : language.compilerArgs flags elements =
      language.switch ++ chosen (language.switches flags) ++ elementArgs elements := rfl
  rw [spelled, List.takeWhile_append_of_pos isSwitch, List.dropWhile_append_of_pos isSwitch]
  cases elements with
  | nil => exact ⟨List.append_nil _, rfl⟩
  | cons element elements => exact ⟨List.append_nil _, rfl⟩

theorem compilerArgs_eq_iff_switches :
    language.compilerArgs flags elements = language.compilerArgs others otherElements ↔
      language.switches flags = language.switches others ∧ elements = otherElements := by
  constructor
  · intro equal
    rcases span_compilerArgs language flags elements with ⟨switches, roots⟩
    rcases span_compilerArgs language others otherElements with ⟨otherSwitches, otherRoots⟩
    rw [equal] at switches roots
    have sameNames : (language.switches flags).map Prod.snd =
        (language.switches others).map Prod.snd := by
      rw [map_snd_switches, map_snd_switches]
    have sameChosen : chosen (language.switches flags) = chosen (language.switches others) :=
      List.append_cancel_left (switches.symm.trans otherSwitches)
    refine ⟨chosen_inj sameNames ?_ sameChosen, elementArgs_inj (roots.symm.trans otherRoots)⟩
    rw [map_snd_switches]
    exact nodup_switchNames language
  · rintro ⟨switches, rfl⟩
    rw [compilerArgs, compilerArgs, switches]

/-- The arguments for a language tell the flags that apply to it and the root elements, whatever
these are called. The arguments for both languages tell all there is. -/
theorem compilerArgs_eq_iff (flags others : Flags) (elements otherElements : List String) :
    (java.compilerArgs flags elements = java.compilerArgs others otherElements ↔
      flags.genWriter = others.genWriter ∧ flags.booleanGetter = others.booleanGetter ∧
        flags.nullability = others.nullability ∧ flags.genHas = others.genHas ∧
        elements = otherElements) ∧
    (cpp.compilerArgs flags elements = cpp.compilerArgs others otherElements ↔
      flags.genWriter = others.genWriter ∧ flags.enumsOnly = others.enumsOnly ∧
        flags.parserOnly = others.parserOnly ∧ flags.booleanGetter = others.booleanGetter ∧
        flags.tinyxml = others.tinyxml ∧ elements = otherElements) ∧
    ((∀ language : Language,
        language.compilerArgs flags elements = language.compilerArgs others otherElements) ↔
      flags = others ∧ elements = otherElements) := by
  refine ⟨?java, ?cpp, ?both⟩
  case java => simp [compilerArgs_eq_iff_switches, switches, and_assoc]
  case cpp => simp [compilerArgs_eq_iff_switches, switches, and_assoc]
  case both =>
    constructor
    · intro equal
      rcases compilerArgs_eq_iff_switches.1 (equal .java) with ⟨javaSwitches, roots⟩
      rcases compilerArgs_eq_iff_switches.1 (equal .cpp) with ⟨cppSwitches, -⟩
      cases flags
      cases others
      simp_all [switches]
    · rintro ⟨rfl, rfl⟩ language
      rfl

/-- A root element may be called like a switch. -/
example : java.compilerArgs (FlagSet.fill false) ["-w"] ≠
    java.compilerArgs { FlagSet.fill false with genWriter := true } [] := by decide

end SchemaBuild.Language
