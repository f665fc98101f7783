import SchemaBuild.Proofs.Ninja.BuildLine

/-!
# Values without quotes

The rule for C++ puts the output directory and the dependency file into its command as they are. A
shell takes them for the words that they are meant to be exactly if no sign of the directory that
is declared means more to it than itself: whatever is below that directory is made of names.
-/

namespace SchemaBuild

open Ninja

theorem isShellSign_of_isLayoutCharacter {character : Char}
    (layout : isLayoutCharacter character = true) : isShellSign character = false := by
  have refused : shellSigns.all (!isLayoutCharacter ·) = true := by decide +kernel
  cases sign : isShellSign character with
  | false => rfl
  | true =>
      rw [isShellSign, List.contains_eq_mem, decide_eq_true_eq] at sign
      have notLayout := List.all_eq_true.1 refused character sign
      rw [layout] at notLayout
      cases notLayout

theorem Path.Extends.isLiteral_iff {path root : Path} (extended : path.Extends root)
    (nonempty : root.text.toList ≠ []) :
    IsLiteral path.text.toList ↔ IsLiteral root.text.toList := by
  have first := extended.head?_eq nonempty
  obtain ⟨below, spelled, layout⟩ := extended
  have noSign : ∀ character ∈ below.toList, isShellSign character = false :=
    fun character member => isShellSign_of_isLayoutCharacter (List.all_eq_true.1 layout _ member)
  rw [IsLiteral, IsLiteral, first, spelled, String.toList_append,
    List.forall_mem_append, and_iff_left noSign]

namespace Ninja

/-- The output directory and the dependency file of an action are words of its command as they stand
there, exactly if the declared directory is literal. -/
theorem literalWords?_bindings_iff {manifest : Manifest} {directory : String}
    (accepted : manifest.validate = .ok manifest)
    (declared : manifest.toolchain.genDir = some directory) {schema : Schema} {plan : Plan}
    {action : Action} (planned : schema.plan ⟨directory⟩ = .ok plan)
    (member : action ∈ plan.actions) :
    (literalWords? (bindings manifest.toolchain action "out_dir") =
          some [action.output.text.toList] ∧
        literalWords? (bindings manifest.toolchain action "cpp_depfile") =
          some [action.depfile.text.toList]) ↔
      IsLiteral directory.toList := by
  have rootPlain : isPlainPath directory = true :=
    (Manifest.isAccepted_toolchain accepted).genDir directory declared
  have plain := Schema.isPlain_of_plan rootPlain planned member
  have extended := Schema.extendsRoot_of_plan planned member
  have nonempty := (isPlainPath_iff.1 rootPlain).1
  have output : bindings manifest.toolchain action "out_dir" = action.output.text.toList := by
    simp [bindings, unescape_value]
  have depfile : bindings manifest.toolchain action "cpp_depfile" = action.depfile.text.toList := by
    simp [bindings, unescape_value]
  rw [output, depfile, literalWords?_eq_some_iff plain.output,
    literalWords?_eq_some_iff plain.depfile, extended.output.isLiteral_iff nonempty,
    extended.depfile.isLiteral_iff nonempty, and_self]

def generatingIn (directory : String) : Manifest where
  version := 1
  toolchainKeys := some { genDir := some directory }
  declarations := []

theorem literalWords?_bindings_home :
    (generatingIn "out/~gen#1").validate = .ok (generatingIn "out/~gen#1") ∧
    literalWords? (bindings (generatingIn "out/~gen#1").toolchain
        ((compiling "foo.xsd" (by decide)).cppAction ⟨"out/~gen#1"⟩ "com.foo") "out_dir") =
      some ["out/~gen#1/foo/cpp".toList] ∧
    literalWords? (bindings (generatingIn "out/~gen#1").toolchain
        ((compiling "foo.xsd" (by decide)).cppAction ⟨"out/~gen#1"⟩ "com.foo") "cpp_depfile") =
      some ["out/~gen#1/foo/cpp.d".toList] := by
  have accepted : (generatingIn "out/~gen#1").validate = .ok (generatingIn "out/~gen#1") := by
    decide +kernel
  obtain ⟨plan, planned⟩ :
      ∃ plan, (compiling "foo.xsd" (by decide)).plan ⟨"out/~gen#1"⟩ = .ok plan := ⟨_, rfl⟩
  obtain ⟨package, named, actions⟩ := Schema.actions_of_plan planned
  obtain rfl := Option.some.inj named
  have member : (compiling "foo.xsd" (by decide)).cppAction ⟨"out/~gen#1"⟩ "com.foo" ∈
      plan.actions :=
    actions ▸ List.mem_cons_of_mem _ List.mem_cons_self
  exact ⟨accepted, (literalWords?_bindings_iff accepted rfl planned member).2 (by decide)⟩

/-- A directory with a semicolon is accepted, and ends the command in the middle of its path. -/
theorem literalWords?_bindings_semicolon :
    (generatingIn "out;gen").validate = .ok (generatingIn "out;gen") ∧
    (∃ plan, (compiling "foo.xsd" (by decide)).plan ⟨"out;gen"⟩ = .ok plan ∧
      (compiling "foo.xsd" (by decide)).cppAction ⟨"out;gen"⟩ "com.foo" ∈ plan.actions) ∧
    bindings (generatingIn "out;gen").toolchain
        ((compiling "foo.xsd" (by decide)).cppAction ⟨"out;gen"⟩ "com.foo") "out_dir" =
      "out;gen/foo/cpp".toList ∧
    literalWords? "out;gen/foo/cpp".toList = none :=
  ⟨by decide +kernel, ⟨_, rfl, List.mem_cons_of_mem _ List.mem_cons_self⟩, by decide +kernel,
    by decide +kernel⟩

end Ninja

end SchemaBuild
