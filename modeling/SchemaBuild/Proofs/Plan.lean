import SchemaBuild.Action

/-!
# Planned actions

The two actions of a module spelled out, and what their paths look like: a directory of the
module below the generation root, a slash, and a name that is known.
-/

namespace SchemaBuild

namespace Path

variable {base : Path} {child : String}

theorem join_text_of_name {last : Char} (relative : child.toList.head? ≠ some '/')
    (ends : base.text.toList.getLast? = some last) (notSlash : last ≠ '/') :
    (base.join child).text = base.text ++ "/" ++ child := by
  simp [join, relative, ends, notSlash]

end Path

/-! ## Characters -/

theorem isNameCharacter_slash : isNameCharacter '/' = false := by
  decide +kernel

theorem isIdentifier_ne_nil {name : String} (identifier : isIdentifier name = true) :
    name.toList ≠ [] := by
  intro empty
  simp [isIdentifier, empty] at identifier

theorem isIdentifier_slash_notMem {name : String} (identifier : isIdentifier name = true) :
    '/' ∉ name.toList := by
  intro member
  simp only [isIdentifier, Bool.and_eq_true, List.all_eq_true] at identifier
  exact absurd (identifier.2 '/' member) (by simp [isNameCharacter_slash])

/-- Dots alone name directories, so a module is never called by them. -/
theorem isIdentifier_ne_dots {name : String} (identifier : isIdentifier name = true)
    (dots : List Char) (onlyDots : ∀ character ∈ dots, character = '.') :
    name.toList ≠ dots := by
  rintro rfl
  simp only [isIdentifier, Bool.and_eq_true, List.any_eq_true] at identifier
  obtain ⟨character, member, notDot⟩ := identifier.1
  exact absurd (onlyDots character member) (by simpa using notDot)

theorem isIdentRest_of_isIdent {characters : List Char} (ident : isIdent characters = true)
    {character : Char} (member : character ∈ characters) : isIdentRest character = true := by
  cases characters with
  | nil => cases member
  | cons first others =>
      simp only [isIdent, isIdentStart, Bool.and_eq_true, Bool.or_eq_true, decide_eq_true_eq,
        List.all_eq_true] at ident
      rcases List.mem_cons.1 member with rfl | inOthers
      · simpa [isIdentRest, Text.isAlphanumeric] using ident.1.imp Or.inl id
      · exact ident.2 character inOthers

theorem isNameCharacter_of_isIdentRest {character : Char}
    (accepted : isIdentRest character = true) : isNameCharacter character = true := by
  simp only [isIdentRest, Bool.or_eq_true, decide_eq_true_eq] at accepted
  rcases accepted with alphanumeric | rfl
  · simp [isNameCharacter, alphanumeric]
  · decide

theorem mem_intercalate_singleton {separator character : Char} {parts : List (List Char)}
    (member : character ∈ [separator].intercalate parts) :
    character = separator ∨ ∃ part ∈ parts, character ∈ part := by
  induction parts with
  | nil => cases member
  | cons head tail induction =>
      cases tail with
      | nil => exact .inr ⟨head, List.mem_cons_self .., by simpa using member⟩
      | cons next rest =>
          rw [List.intercalate_cons_cons, List.append_assoc, List.mem_append,
            List.singleton_append, List.mem_cons] at member
          rcases member with inHead | equal | inRest
          · exact .inr ⟨head, List.mem_cons_self .., inHead⟩
          · exact .inl equal
          · exact (induction inRest).imp_right fun ⟨part, inTail, inPart⟩ =>
              ⟨part, List.mem_cons_of_mem _ inTail, inPart⟩

theorem isPackageName_cases {text : String} (package : isPackageName text = true)
    {character : Char} (member : character ∈ text.toList) :
    character = '.' ∨ isIdentRest character = true := by
  simp only [isPackageName, List.all_eq_true] at package
  have joined : ['.'].intercalate (text.toList.splitOn '.') = text.toList :=
    List.intercalate_splitOn '.'
  rw [← joined] at member
  rcases mem_intercalate_singleton member with dot | ⟨part, inParts, inPart⟩
  · exact .inl dot
  · exact .inr (isIdentRest_of_isIdent (package part inParts) inPart)

namespace Schema

/-! ## The directory of a module -/

/-- The directory below the generation root in which everything that a module generates is. -/
def directory (schema : Schema) (root : Path) : Path :=
  root.join schema.name

theorem name_relative (schema : Schema) : schema.name.toList.head? ≠ some '/' := by
  intro starts
  exact isIdentifier_slash_notMem schema.name_isIdentifier (List.mem_of_mem_head? starts)

theorem directory_text (schema : Schema) (root : Path) :
    ∃ start, (schema.directory root).text = start ++ schema.name ∧
      (start = root.text ∨ start = root.text ++ "/") := by
  unfold directory Path.join
  rw [if_neg schema.name_relative]
  split
  · exact ⟨_, rfl, .inl rfl⟩
  · exact ⟨_, rfl, .inr rfl⟩

theorem directory_getLast? (schema : Schema) (root : Path) :
    ∃ last, (schema.directory root).text.toList.getLast? = some last ∧ last ≠ '/' := by
  obtain ⟨start, text, -⟩ := schema.directory_text root
  have nonempty := isIdentifier_ne_nil schema.name_isIdentifier
  refine ⟨schema.name.toList.getLast nonempty, ?_, ?_⟩
  · rw [text, String.toList_append, List.getLast?_append,
      List.getLast?_eq_some_getLast nonempty, Option.some_or]
  · intro slash
    exact isIdentifier_slash_notMem schema.name_isIdentifier
      (slash ▸ List.getLast_mem nonempty)

theorem directory_join_text (schema : Schema) (root : Path) {child : String}
    (relative : child.toList.head? ≠ some '/') :
    ((schema.directory root).join child).text =
      (schema.directory root).text ++ "/" ++ child := by
  obtain ⟨last, ends, notSlash⟩ := schema.directory_getLast? root
  exact Path.join_text_of_name relative ends notSlash

/-! ## The actions -/

def archivePath (schema : Schema) (root : Path) : Path :=
  (schema.directory root).join javaArchive

def cppPath (schema : Schema) (root : Path) : Path :=
  (schema.directory root).join "cpp"

def cppOutputs (schema : Schema) (root : Path) (package : String) : List Path :=
  (stems schema.flags package).map (fun stem => (schema.cppPath root).join (stem ++ ".cpp")) ++
    (stems schema.flags package).map
      fun stem => ((schema.cppPath root).join "include").join (stem ++ ".h")

theorem archivePath_text (schema : Schema) (root : Path) :
    (schema.archivePath root).text = (schema.directory root).text ++ "/" ++ javaArchive :=
  schema.directory_join_text root (by decide)

theorem cppPath_text (schema : Schema) (root : Path) :
    (schema.cppPath root).text = (schema.directory root).text ++ "/" ++ "cpp" :=
  schema.directory_join_text root (by decide)

def javaAction (schema : Schema) (root : Path) (package : String) : Action where
  language := .java
  description := "xsdc Java " ++ schema.source ++ " => " ++ (schema.archivePath root).text
  input := ⟨schema.source⟩
  implicitInputs := schema.includes.map Path.mk
  outputs := [schema.archivePath root]
  output := schema.archivePath root
  staging := (schema.archivePath root).staging
  depfile := (schema.archivePath root).depfile
  packageName := package
  args := Language.java.compilerArgs schema.flags schema.rootElements

def cppAction (schema : Schema) (root : Path) (package : String) : Action where
  language := .cpp
  description := "xsdc C++ " ++ schema.source ++ " => " ++ (schema.cppPath root).text
  input := ⟨schema.source⟩
  implicitInputs := schema.includes.map Path.mk
  outputs := schema.cppOutputs root package
  output := schema.cppPath root
  staging := (schema.cppPath root).staging
  depfile := (schema.cppPath root).depfile
  packageName := package
  args := Language.cpp.compilerArgs schema.flags schema.rootElements

theorem actions_of_plan {schema : Schema} {root : Path} {plan : Plan}
    (planned : schema.plan root = .ok plan) :
    ∃ package, schema.package? = some package ∧
      plan.actions = [schema.javaAction root package, schema.cppAction root package] := by
  cases named : schema.package? with
  | none => simp [Schema.plan, named] at planned
  | some package =>
      simp only [Schema.plan, named, Except.ok.injEq] at planned
      exact ⟨package, rfl, by rw [← planned]; rfl⟩

theorem action_of_plan {schema : Schema} {root : Path} {plan : Plan} {action : Action}
    (planned : schema.plan root = .ok plan) (member : action ∈ plan.actions) :
    ∃ package, schema.package? = some package ∧
      (action = schema.javaAction root package ∨ action = schema.cppAction root package) := by
  obtain ⟨package, named, actions⟩ := actions_of_plan planned
  rw [actions] at member
  simp only [List.mem_cons, List.not_mem_nil, or_false] at member
  exact ⟨package, named, member⟩

theorem stems_ne_nil (schema : Schema) (package : String) : stems schema.flags package ≠ [] := by
  intro empty
  have compatible := schema.flags_compatible
  simp only [stems, List.append_eq_nil_iff, ite_eq_left_iff, reduceCtorEq, imp_false,
    Bool.not_eq_true, Bool.not_eq_false] at empty
  simp [empty.1, empty.2] at compatible

theorem all_isNameCharacter_stem {package : String} (named : isPackageName package = true) :
    (Schema.stem package).toList.all isNameCharacter = true := by
  rw [Schema.stem, String.toList_ofList, List.all_map, List.all_eq_true]
  intro character member
  rw [Function.comp_apply]
  split
  · decide
  next notDot =>
    exact isNameCharacter_of_isIdentRest
      ((isPackageName_cases named member).resolve_left notDot)

theorem all_isNameCharacter_of_mem_stems {flags : Flags} {package stem : String}
    (named : isPackageName package = true)
    (member : stem ∈ stems flags package) : stem.toList.all isNameCharacter = true := by
  have isStem := all_isNameCharacter_stem named
  rcases List.mem_append.1 member with parser | enums
  · split at parser
    · cases parser
    · exact List.mem_singleton.1 parser ▸ isStem
  · split at enums
    · cases enums
    · rw [List.mem_singleton.1 enums, String.toList_append, List.all_append, isStem]
      decide

theorem slash_notMem_of_mem_stems {flags : Flags} {package stem : String}
    (named : isPackageName package = true) (member : stem ∈ stems flags package) :
    '/' ∉ stem.toList := by
  intro slash
  have accepted := List.all_eq_true.1 (all_isNameCharacter_of_mem_stems named member) _ slash
  simp [isNameCharacter_slash] at accepted

theorem outputs_ne_nil_of_plan {schema : Schema} {root : Path} {plan : Plan} {action : Action}
    (planned : schema.plan root = .ok plan) (member : action ∈ plan.actions) :
    action.outputs ≠ [] := by
  obtain ⟨package, -, rfl | rfl⟩ := action_of_plan planned member
  · simp [javaAction]
  · simp [cppAction, cppOutputs, stems_ne_nil]

end Schema

end SchemaBuild
