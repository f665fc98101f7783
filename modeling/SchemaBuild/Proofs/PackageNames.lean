import Mathlib.Data.List.Nodup
import SchemaBuild.Proofs.Components
import SchemaBuild.Proofs.Plan

/-!
# Package names

The package names that are accepted are those of a grammar: identifiers with dots between them.
With underscores for its dots, a package name is one identifier, so files can be named after it:
each of the names is a single component of a path, and no two of them are the same.
-/

namespace SchemaBuild

/-! ## Grammar -/

namespace Grammar

inductive Ident : List Char → Prop
  | word {first : Char} {others : List Char}
      (starts : Text.isAlphabetic first = true ∨ first = '_')
      (continues : ∀ character ∈ others, Text.isAlphanumeric character = true ∨ character = '_') :
      Ident (first :: others)

inductive Package : List Char → Prop
  | single {word : List Char} (ident : Ident word) : Package word
  | dotted {word others : List Char} (ident : Ident word) (package : Package others) :
      Package (word ++ '.' :: others)

variable {word others : List Char}

theorem isIdent_iff : isIdent word = true ↔ Ident word := by
  constructor
  · intro ident
    cases word with
    | nil => cases ident
    | cons first others =>
        simp only [isIdent, isIdentStart, isIdentRest, Bool.and_eq_true, Bool.or_eq_true,
          decide_eq_true_eq, List.all_eq_true] at ident
        exact .word ident.1 ident.2
  · rintro ⟨starts, continues⟩
    simpa [isIdent, isIdentStart, isIdentRest] using ⟨starts, continues⟩

namespace Ident

theorem continues (ident : Ident word) :
    ∀ character ∈ word, Text.isAlphanumeric character = true ∨ character = '_' := by
  intro character member
  have accepted := isIdentRest_of_isIdent (isIdent_iff.2 ident) member
  simpa [isIdentRest] using accepted

theorem absent (ident : Ident word) {sign : Char} (refused : isIdentRest sign = false) :
    sign ∉ word := by
  intro member
  have accepted := isIdentRest_of_isIdent (isIdent_iff.2 ident) member
  rw [refused] at accepted
  cases accepted

theorem noDot (ident : Ident word) : '.' ∉ word :=
  ident.absent (by decide +kernel)

theorem noSlash (ident : Ident word) : '/' ∉ word :=
  ident.absent (by decide +kernel)

theorem ne_dots (ident : Ident word) {behind dots : List Char}
    (onlyDots : ∀ character ∈ dots, character = '.') : word ++ behind ≠ dots := by
  rintro rfl
  cases word with
  | nil => cases ident
  | cons first others =>
      have isDot := onlyDots first List.mem_cons_self
      exact ident.noDot (isDot ▸ List.mem_cons_self)

theorem underscore (ident : Ident word) (other : Ident others) : Ident (word ++ '_' :: others) := by
  cases ident with
  | word starts continues =>
      refine .word starts (List.forall_mem_append.2 ⟨continues, ?_⟩)
      exact List.forall_mem_cons.2 ⟨.inr rfl, other.continues⟩

end Ident

/-! ## Package names -/

theorem package_intercalate {words : List (List Char)} (some : words ≠ [])
    (idents : ∀ word ∈ words, Ident word) : Package (['.'].intercalate words) := by
  induction words with
  | nil => exact absurd rfl some
  | cons word words induction =>
      rcases List.forall_mem_cons.1 idents with ⟨ident, others⟩
      cases words with
      | nil =>
          rw [List.intercalate_singleton]
          exact .single ident
      | cons next words =>
          rw [List.intercalate_cons_cons, List.append_assoc, List.singleton_append]
          exact .dotted ident (induction (List.cons_ne_nil _ _) others)

theorem Package.splitOn {characters : List Char} (package : Package characters) :
    ∀ word ∈ characters.splitOn '.', Ident word := by
  induction package with
  | single ident =>
      rw [List.splitOn_eq_singleton ident.noDot]
      exact List.forall_mem_singleton.2 ident
  | dotted ident _ induction =>
      rw [List.splitOn_append_cons_self, List.splitOn_eq_singleton ident.noDot]
      exact List.forall_mem_cons.2 ⟨ident, induction⟩

theorem isPackageName_iff {text : String} : isPackageName text = true ↔ Package text.toList := by
  have words : isPackageName text = true ↔ ∀ word ∈ text.toList.splitOn '.', Ident word := by
    simp only [isPackageName, List.all_eq_true, isIdent_iff]
  rw [words]
  constructor
  · intro idents
    have package := package_intercalate (List.splitOn_ne_nil '.' text.toList) idents
    rwa [List.intercalate_splitOn] at package
  · exact Package.splitOn

/-- Dots stand between identifiers only. -/
example : ∀ text ∈ ["", ".a", "a.", "a..b"], isPackageName text = false := by decide +kernel

/-! ## Stems -/

def stemCharacter (character : Char) : Char :=
  if character = '.' then '_' else character

theorem map_stemCharacter (noDot : '.' ∉ word) : word.map stemCharacter = word := by
  have same : ∀ character ∈ word, stemCharacter character = id character := by
    intro character member
    apply if_neg
    rintro rfl
    exact noDot member
  rw [List.map_congr_left same, List.map_id]

/-- With underscores for its dots, a package name is one identifier. -/
theorem Package.stem {characters : List Char} (package : Package characters) :
    Ident (characters.map stemCharacter) := by
  induction package with
  | single ident =>
      rw [map_stemCharacter ident.noDot]
      exact ident
  | dotted ident _ induction =>
      -- The dot becomes the underscore that joins the two identifiers.
      rw [List.map_append, map_stemCharacter ident.noDot]
      exact ident.underscore induction

end Grammar

open Grammar (Ident Package)

/-- What stands behind the stem in the name of a file that can be generated for C++. -/
def cppEndings : List String :=
  [".cpp", "_enums.cpp", ".h", "_enums.h"]

variable {text : String}

theorem ident_stem (package : Package text.toList) : Ident (Schema.stem text).toList := by
  have spelled : (Schema.stem text).toList = text.toList.map Grammar.stemCharacter :=
    String.toList_ofList
  rw [spelled]
  exact package.stem

theorem components_stem {stem : String} (ident : Ident stem.toList) {ending : String}
    (noSlash : '/' ∉ ending.toList) :
    Path.components ⟨stem ++ ending⟩ = [.name (stem ++ ending).toList] := by
  have isComponent : Component.ofSegment (stem ++ ending).toList =
      some (.name (stem ++ ending).toList) := by
    apply Component.ofSegment_name
    intro dots onlyDots
    rw [String.toList_append]
    exact ident.ne_dots onlyDots
  apply Path.components_of_name _ isComponent
  rw [String.toList_append, List.mem_append, not_or]
  exact ⟨ident.noSlash, noSlash⟩

theorem exists_ending {flags : Flags} {stem extension : String}
    (inStems : stem ∈ Schema.stems flags text) (isExtension : extension ∈ [".cpp", ".h"]) :
    ∃ ending ∈ cppEndings, stem ++ extension = Schema.stem text ++ ending := by
  rcases List.mem_append.1 inStems with parser | enums
  · split at parser
    · cases parser
    · rcases List.mem_singleton.1 parser with rfl
      have bare : ∀ extension ∈ [".cpp", ".h"], extension ∈ cppEndings := by decide
      exact ⟨extension, bare extension isExtension, rfl⟩
  · split at enums
    · cases enums
    · rcases List.mem_singleton.1 enums with rfl
      have suffixed : ∀ extension ∈ [".cpp", ".h"], "_enums" ++ extension ∈ cppEndings := by
        decide
      exact ⟨"_enums" ++ extension, suffixed extension isExtension, String.append_assoc⟩

/-- The accepted package names are those of the grammar. The stem of each is an identifier, and the
names of files with this stem, which are those that get planned, are different components of paths.
-/
theorem package_names_follow_grammar (text : String) :
    (isPackageName text = true ↔ Package text.toList) ∧
    (isPackageName text = true →
      Ident (Schema.stem text).toList ∧
      (∀ ending ∈ cppEndings, Path.components ⟨Schema.stem text ++ ending⟩ =
        [.name (Schema.stem text ++ ending).toList]) ∧
      (cppEndings.map fun ending => Schema.stem text ++ ending).Nodup) ∧
    ∀ flags, ∀ stem ∈ Schema.stems flags text, ∀ extension ∈ [".cpp", ".h"],
      ∃ ending ∈ cppEndings, stem ++ extension = Schema.stem text ++ ending := by
  refine ⟨Grammar.isPackageName_iff, fun accepted => ?_, fun flags stem inStems extension =>
    exists_ending inStems⟩
  have ident := ident_stem (Grammar.isPackageName_iff.1 accepted)
  refine ⟨ident, ?_, ?_⟩
  · intro ending member
    have noSlash : ∀ ending ∈ cppEndings, '/' ∉ ending.toList := by decide
    exact components_stem ident (noSlash ending member)
  · have distinct : cppEndings.Nodup := by decide
    apply distinct.map
    intro ending other equal
    exact (String.append_right_inj _).1 equal

end SchemaBuild
