import Mathlib.Algebra.GroupWithZero.Nat
import SchemaBuild.Proofs.Registry.Passes

/-!
# Passes at any time

Where no module has the name of another one's documentation, passes may be made between the
registrations, as often as one likes: nothing is refused, and what a pass creates is never in the
way of a later registration. Once a last pass is made, the registry holds what follows from the set
of modules alone.
-/

namespace SchemaBuild.Registry

open DocsModule (nameOf)

/-! ## Answers -/

inductive Answer where
  | registered
  | refused (error : RegistryError)
  | derived (created : Nat) (conflicts : List RegistryError)
  deriving DecidableEq

namespace Answer

def IsClear : Answer → Prop
  | .registered => True
  | .refused _ => False
  | .derived _ conflicts => conflicts = []

def created : Answer → Nat
  | .derived count _ => count
  | _ => 0

end Answer

def Call.schema? : Call → Option Schema
  | .register schema => some schema
  | .deriveDocs => none

def registrations (calls : List Call) : List Schema :=
  calls.filterMap Call.schema?

def answer (registry : Registry) : Call → Answer
  | .register schema =>
      match registry.register schema with
      | .ok _ => .registered
      | .error error => .refused error
  | .deriveDocs => .derived registry.deriveDocs.created registry.deriveDocs.errors

def answers (registry : Registry) : List Call → List Answer
  | [] => []
  | call :: rest => registry.answer call :: (registry.perform call).answers rest

/-! ## Modules that do not clash -/

/-- No two modules have the same name, and none has the name of another one's documentation. -/
structure Compatible (schemas : List Schema) : Prop where
  distinct : (schemas.map Schema.name).Nodup
  unclaimed : ∀ parent ∈ schemas, ∀ other ∈ schemas, other.name ≠ nameOf parent.name

instance (schemas : List Schema) : Decidable (Compatible schemas) :=
  decidable_of_iff
    ((schemas.map Schema.name).Nodup ∧
      ∀ parent ∈ schemas, ∀ other ∈ schemas, other.name ≠ nameOf parent.name)
    ⟨fun ⟨distinct, unclaimed⟩ => ⟨distinct, unclaimed⟩,
      fun compatible => ⟨compatible.distinct, compatible.unclaimed⟩⟩

theorem Compatible.perm {left right : List Schema} (compatible : Compatible left)
    (perm : right.Perm left) : Compatible right := by
  constructor
  · exact (perm.map Schema.name).nodup_iff.2 compatible.distinct
  · intro parent isParent other isOther
    exact compatible.unclaimed parent (perm.mem_iff.1 isParent) other (perm.mem_iff.1 isOther)

theorem Compatible.sublist {some all : List Schema} (compatible : Compatible all)
    (sublist : some.Sublist all) : Compatible some := by
  constructor
  · exact compatible.distinct.sublist (sublist.map Schema.name)
  · intro parent isParent other isOther
    exact compatible.unclaimed parent (sublist.subset isParent) other (sublist.subset isOther)

variable {registry larger : Registry} {schema : Schema}

namespace Coherent

theorem mem_schemas_of_get? (coherent : Coherent registry) {name : String}
    (found : registry.modules.get? name = some (.schema schema)) :
    schema ∈ registry.schemas ∧ schema.name = name := by
  have named : schema.name = name := coherent.named _ _ found
  constructor
  · rw [coherent.mem_schemas, named]
    exact found
  · exact named

/-- A module that is compatible with those that are registered is accepted, whichever of them are
documented already. -/
theorem register_of_compatible (coherent : Coherent registry)
    (compatible : Compatible (schema :: registry.schemas)) :
    ∃ larger, registry.register schema = .ok larger := by
  have absent : registry.modules.get? schema.name = none := by
    cases found : registry.modules.get? schema.name with
    | none => rfl
    | some entry =>
        exfalso
        cases entry with
        | schema other =>
            rcases coherent.mem_schemas_of_get? found with ⟨inSchemas, sameName⟩
            have distinct := (List.nodup_cons.1 compatible.distinct).1
            exact distinct (sameName ▸ List.mem_map_of_mem inSchemas)
        | docs docs =>
            rcases coherent.derived _ _ found with ⟨parent, -, isName, present, -⟩
            have inSchemas := coherent.mem_schemas.2 present
            exact compatible.unclaimed parent (List.mem_cons_of_mem _ inSchemas) schema
              List.mem_cons_self isName
  exact ⟨_, register_eq_ok.2 ⟨absent, rfl⟩⟩

theorem isFree_of_compatible (coherent : Coherent registry)
    (compatible : Compatible registry.schemas) (member : schema ∈ registry.pending) :
    isFree registry.modules schema = true := by
  cases free : isFree registry.modules schema with
  | true => rfl
  | false =>
      rcases (coherent.taken_of_pending member).1 free with ⟨other, found⟩
      rcases coherent.mem_schemas_of_get? found with ⟨isOther, named⟩
      have isParent : schema ∈ registry.schemas :=
        coherent.mem_schemas.2 (coherent.mem_pending.1 member).1
      exact absurd named (compatible.unclaimed schema isParent other isOther)

theorem created_of_compatible (coherent : Coherent registry)
    (compatible : Compatible registry.schemas) :
    registry.deriveDocs.created = registry.pending.length ∧ registry.deriveDocs.errors = [] := by
  have free : ∀ schema ∈ registry.pending, isFree registry.modules schema = true :=
    fun schema member => coherent.isFree_of_compatible compatible member
  rw [coherent.deriveDocs_eq]
  constructor
  · exact congrArg List.length (List.filter_eq_self.2 free)
  · apply List.map_eq_nil_iff.2
    apply List.filter_eq_nil_iff.2
    intro schema member
    simp [free schema member]

end Coherent

/-! ## Runs without a clash -/

/-- What calls on a registry come to, if all modules are compatible. A documentation module is
created for everything that was waiting or came in, as far as it does not wait still. -/
structure RunsClear (registry : Registry) (calls : List Call) : Prop where
  clear : ∀ answer ∈ registry.answers calls, answer.IsClear
  created : ((registry.answers calls).map Answer.created).sum +
      (registry.after calls).pending.length =
    registry.pending.length + (registrations calls).length
  schemas : (registry.after calls).schemas.Perm (registrations calls ++ registry.schemas)

theorem runsClear_register (coherent : Coherent registry) {rest : List Call}
    (accepted : registry.register schema = .ok larger) (runs : RunsClear larger rest) :
    RunsClear registry (.register schema :: rest) := by
  have performed : registry.perform (.register schema) = larger := by
    simp only [perform, accepted]
  have answered : registry.answers (.register schema :: rest) =
      .registered :: larger.answers rest := by
    simp only [answers, answer, accepted, performed]
  have ended : registry.after (.register schema :: rest) = larger.after rest := by
    rw [after, List.foldl_cons, performed]
    rfl
  have registered : registrations (.register schema :: rest) = schema :: registrations rest := rfl
  refine ⟨?clear, ?created, ?schemas⟩
  case clear =>
    rw [answered, List.forall_mem_cons]
    exact ⟨trivial, runs.clear⟩
  case created =>
    have more := (coherent.pending_register accepted).length_eq
    have ran := runs.created
    rw [List.length_cons] at more
    rw [answered, ended, registered, List.map_cons, List.sum_cons, List.length_cons]
    simp only [Answer.created]
    omega
  case schemas =>
    rw [ended, registered]
    apply runs.schemas.trans
    apply ((coherent.schemas_register accepted).append_left _).trans
    exact List.perm_middle

theorem runsClear_deriveDocs (coherent : Coherent registry)
    (compatible : Compatible registry.schemas) {rest : List Call}
    (runs : RunsClear registry.deriveDocs.registry rest) :
    RunsClear registry (.deriveDocs :: rest) := by
  rcases coherent.created_of_compatible compatible with ⟨created, noConflicts⟩
  have ended : registry.after (.deriveDocs :: rest) =
      registry.deriveDocs.registry.after rest := rfl
  have answered : registry.answers (.deriveDocs :: rest) =
      .derived registry.pending.length [] :: registry.deriveDocs.registry.answers rest := by
    rw [answers, answer, created, noConflicts]
    rfl
  have registered : registrations (.deriveDocs :: rest) = registrations rest := rfl
  refine ⟨?clear, ?created, ?schemas⟩
  case clear =>
    rw [answered, List.forall_mem_cons]
    exact ⟨rfl, runs.clear⟩
  case created =>
    have ran := runs.created
    rw [coherent.pending_deriveDocs, List.length_nil] at ran
    rw [answered, ended, registered, List.map_cons, List.sum_cons]
    simp only [Answer.created]
    omega
  case schemas =>
    rw [ended, registered]
    exact runs.schemas.trans (coherent.schemas_deriveDocs.append_left _)

/-- What is registered and what is still to be registered are the same modules throughout, so that
each step finds them compatible. -/
theorem runsClear (coherent : Coherent registry) (calls : List Call)
    (compatible : Compatible (registrations calls ++ registry.schemas)) :
    RunsClear registry calls := by
  induction calls generalizing registry with
  | nil =>
      refine ⟨?_, Nat.add_comm .., List.Perm.refl _⟩
      intro answer member
      cases member
  | cons call rest induction =>
      cases call with
      | register schema =>
          have here : Compatible (schema :: registry.schemas) :=
            compatible.sublist ((List.sublist_append_right _ _).cons_cons schema)
          rcases coherent.register_of_compatible here with ⟨larger, accepted⟩
          apply runsClear_register coherent accepted
          apply induction (coherent.register accepted)
          apply compatible.perm
          apply ((coherent.schemas_register accepted).append_left _).trans
          exact List.perm_middle
      | deriveDocs =>
          have here : Compatible registry.schemas :=
            compatible.sublist (List.sublist_append_right _ _)
          apply runsClear_deriveDocs coherent here
          apply induction coherent.deriveDocs
          exact compatible.perm (coherent.schemas_deriveDocs.append_left _)

/-! ## Registries in which nothing waits -/

namespace Coherent

theorem visited_of_settled (coherent : Coherent registry) (settled : registry.pending = [])
    {name : String} :
    name ∈ registry.visited ↔ ∃ schema ∈ registry.schemas, schema.name = name := by
  constructor
  · intro visited
    rcases coherent.visitable name visited with ⟨schema, present⟩
    exact ⟨schema, coherent.mem_schemas_of_get? present⟩
  · rintro ⟨schema, member, rfl⟩
    by_contra unvisited
    have waits := coherent.mem_pending.2 ⟨coherent.mem_schemas.1 member, unvisited⟩
    rw [settled] at waits
    cases waits

theorem get?_documentation (coherent : Coherent registry)
    (compatible : Compatible registry.schemas) (member : schema ∈ registry.schemas)
    (visited : schema.name ∈ registry.visited) :
    registry.modules.get? (nameOf schema.name) = some (.docs (DocsModule.ofSchema schema)) := by
  rcases NameMap.contains_iff.1 (coherent.documented _ visited) with ⟨entry, found⟩
  cases entry with
  | schema other =>
      rcases coherent.mem_schemas_of_get? found with ⟨isOther, named⟩
      exact absurd named (compatible.unclaimed schema member other isOther)
  | docs docs =>
      rcases coherent.derived _ _ found with ⟨parent, rfl, sameName, present, -⟩
      have same : parent = schema := by
        have isParent := coherent.mem_schemas.2 present
        apply List.inj_on_of_nodup_map compatible.distinct isParent member
        exact (DocsModule.nameOf_inj.1 sameName).symm
      rw [found, same]

theorem get?_of_settled (coherent : Coherent registry)
    (compatible : Compatible registry.schemas) (settled : registry.pending = [])
    {name : String} {entry : Entry} :
    registry.modules.get? name = some entry ↔
      ∃ schema ∈ registry.schemas,
        (schema.name, Entry.schema schema) = (name, entry) ∨
          documentation schema = (name, entry) := by
  constructor
  · intro found
    cases entry with
    | schema schema =>
        rcases coherent.mem_schemas_of_get? found with ⟨member, named⟩
        exact ⟨schema, member, .inl (by rw [named])⟩
    | docs docs =>
        rcases coherent.derived _ _ found with ⟨parent, isDocs, isName, present, -⟩
        refine ⟨parent, coherent.mem_schemas.2 present, .inr ?_⟩
        rw [documentation, isName, isDocs]
  · rintro ⟨schema, member, isSchema | isDocs⟩
    · rcases Prod.mk.inj isSchema with ⟨rfl, rfl⟩
      exact coherent.mem_schemas.1 member
    · rcases Prod.mk.inj isDocs with ⟨rfl, rfl⟩
      have visited := (coherent.visited_of_settled settled).2 ⟨schema, member, rfl⟩
      exact coherent.get?_documentation compatible member visited

end Coherent

/-- Registries in which nothing waits hold the same if they have the same modules. -/
theorem same_of_settled {left right : Registry} (coherentLeft : Coherent left)
    (coherentRight : Coherent right) (compatible : Compatible left.schemas)
    (settledLeft : left.pending = []) (settledRight : right.pending = [])
    (perm : left.schemas.Perm right.schemas) :
    left.modules = right.modules ∧ ∀ name, name ∈ left.visited ↔ name ∈ right.visited := by
  constructor
  · apply NameMap.ext_get?
    intro name
    apply Option.ext
    intro entry
    rw [coherentLeft.get?_of_settled compatible settledLeft,
      coherentRight.get?_of_settled (compatible.perm perm.symm) settledRight]
    simp only [perm.mem_iff]
  · intro name
    rw [coherentLeft.visited_of_settled settledLeft, coherentRight.visited_of_settled settledRight]
    simp only [perm.mem_iff]

/-! ## Any order -/

theorem registrations_pass (calls : List Call) :
    registrations (calls ++ [.deriveDocs]) = registrations calls :=
  List.filterMap_append.trans (List.append_nil _)

theorem registrations_map_register (schemas : List Schema) :
    registrations (schemas.map .register) = schemas := by
  rw [registrations, List.filterMap_map]
  exact List.filterMap_some

theorem after_append (registry : Registry) (calls later : List Call) :
    registry.after (calls ++ later) = (registry.after calls).after later :=
  List.foldl_append

theorem pending_after_pass (calls : List Call) :
    (empty.after (calls ++ [.deriveDocs])).pending = [] := by
  rw [after_append]
  exact (coherent_empty.after calls).pending_deriveDocs

theorem runsClear_of_registrations {schemas : List Schema} (compatible : Compatible schemas)
    {calls : List Call} (registers : (registrations calls).Perm schemas) :
    RunsClear empty calls ∧ (empty.after calls).schemas.Perm schemas := by
  have all : (registrations calls ++ empty.schemas).Perm schemas := by
    have none : empty.schemas = [] := rfl
    rw [none, List.append_nil]
    exact registers
  have runs := runsClear coherent_empty calls (compatible.perm all)
  exact ⟨runs, runs.schemas.trans all⟩

/-- Modules with names of their own, none of them that of another one's documentation, may be
registered in any order and with any passes in between. All are accepted, no conflict is reported,
one documentation module is created for each, and after a last pass the registry is as if there had
been no other. -/
theorem passes_at_any_time (schemas : List Schema) (compatible : Compatible schemas)
    (calls : List Call) (registers : (registrations calls).Perm schemas) :
    let whole := calls ++ [.deriveDocs]
    let once := schemas.map .register ++ [.deriveDocs]
    let answers := empty.answers whole
    (∀ answer ∈ answers, answer.IsClear) ∧
    (answers.map Answer.created).sum = schemas.length ∧
    (empty.after whole).modules = (empty.after once).modules ∧
    ∀ name, name ∈ (empty.after whole).visited ↔ name ∈ (empty.after once).visited := by
  intro whole once answers
  have registersWhole : (registrations whole).Perm schemas := by
    rw [registrations_pass]
    exact registers
  have registersOnce : (registrations once).Perm schemas := by
    rw [registrations_pass, registrations_map_register]
  rcases runsClear_of_registrations compatible registersWhole with ⟨runs, schemasWhole⟩
  rcases runsClear_of_registrations compatible registersOnce with ⟨-, schemasOnce⟩
  refine ⟨runs.clear, ?created, ?same⟩
  case created =>
    have created := runs.created
    have noneBefore : empty.pending = [] := rfl
    rw [pending_after_pass, noneBefore, registersWhole.length_eq, List.length_nil, Nat.add_zero,
      Nat.zero_add] at created
    exact created
  case same =>
    exact same_of_settled (coherent_empty.after whole) (coherent_empty.after once)
      (compatible.perm schemasWhole) (pending_after_pass calls) (pending_after_pass _)
      (schemasWhole.trans schemasOnce.symm)

def lookalikes : List Schema :=
  [{ name := "foo", srcs := ["foo.xsd"] : Declaration },
    { name := "bar-docs", srcs := ["bar.xsd"] : Declaration },
    { name := "foo-docs-docs", srcs := ["foo.xsd"] : Declaration }].filterMap (·.check.toOption)

theorem lookalikes_pass_at_any_time :
    let calls := .deriveDocs ::
      lookalikes.reverse.flatMap fun schema => [.register schema, .deriveDocs, .deriveDocs]
    let whole := calls ++ [.deriveDocs]
    let once := lookalikes.map .register ++ [.deriveDocs]
    Compatible lookalikes ∧ (registrations calls).Perm lookalikes ∧
    empty.answers whole = [
      .derived 0 [], .registered, .derived 1 [], .derived 0 [], .registered, .derived 1 [],
      .derived 0 [], .registered, .derived 1 [], .derived 0 [], .derived 0 []] ∧
    (empty.after whole).modules = (empty.after once).modules := by
  intro calls whole once
  have compatible : Compatible lookalikes := by decide +kernel
  have registers : (registrations calls).Perm lookalikes := by decide +kernel
  have general := passes_at_any_time lookalikes compatible calls registers
  exact ⟨compatible, registers, by decide +kernel, general.2.2.1⟩

end SchemaBuild.Registry
