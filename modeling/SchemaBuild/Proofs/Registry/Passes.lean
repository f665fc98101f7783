import SchemaBuild.Proofs.Registry

/-!
# Passes over a registry

Every schema module that was registered waits for one pass, which settles its documentation for
good: it is created, or a conflict is reported. What waits is not written down anywhere in a
registry, so the runs below carry it along, together with all visits that were made.
-/

namespace SchemaBuild.Registry

open DocsModule (nameOf)

variable {registry larger : Registry} {schema : Schema}

/-! ## Schema modules before and after a call -/

namespace Coherent

theorem schemas_nodup (coherent : Coherent registry) : registry.schemas.Nodup :=
  List.Nodup.of_map _ coherent.schemas_distinct

theorem schemas_register (coherent : Coherent registry)
    (accepted : registry.register schema = .ok larger) :
    larger.schemas.Perm (schema :: registry.schemas) := by
  have coherentLarger := coherent.register accepted
  rcases register_eq_ok.1 accepted with ⟨absent, rfl⟩
  have new : schema ∉ registry.schemas := by
    intro old
    rw [coherent.mem_schemas, absent] at old
    cases old
  have nodup : (schema :: registry.schemas).Nodup :=
    List.nodup_cons.2 ⟨new, coherent.schemas_nodup⟩
  apply (List.perm_ext_iff_of_nodup coherentLarger.schemas_nodup nodup).2
  intro other
  rw [coherentLarger.mem_schemas, get?_registered absent, List.mem_cons, coherent.mem_schemas,
    Entry.schema.injEq]
  apply or_congr_left
  constructor
  · exact And.right
  · rintro rfl
    exact ⟨rfl, rfl⟩

theorem pending_register (coherent : Coherent registry)
    (accepted : registry.register schema = .ok larger) :
    larger.pending.Perm (schema :: registry.pending) := by
  have schemas := coherent.schemas_register accepted
  rcases register_eq_ok.1 accepted with ⟨absent, rfl⟩
  have unvisited : schema.name ∉ registry.visited := by
    intro visited
    rcases coherent.visitable _ visited with ⟨other, present⟩
    rw [absent] at present
    cases present
  apply (schemas.filter _).trans
  simp [pending, unvisited]

theorem schemas_deriveDocs (coherent : Coherent registry) :
    registry.deriveDocs.registry.schemas.Perm registry.schemas := by
  apply (List.perm_ext_iff_of_nodup coherent.deriveDocs.schemas_nodup coherent.schemas_nodup).2
  intro other
  rw [coherent.deriveDocs.mem_schemas, coherent.mem_schemas, coherent.get?_deriveDocs]
  apply or_iff_right
  rintro ⟨schema, -, -, created⟩
  cases (Prod.mk.inj created).2

theorem pending_deriveDocs (coherent : Coherent registry) :
    registry.deriveDocs.registry.pending = [] := by
  apply List.eq_nil_iff_forall_not_mem.2
  intro schema member
  rcases coherent.deriveDocs.mem_pending.1 member with ⟨present, unvisited⟩
  rw [coherent.mem_visited_deriveDocs, not_or] at unvisited
  rw [← coherent.deriveDocs.mem_schemas, coherent.schemas_deriveDocs.mem_iff,
    coherent.mem_schemas] at present
  have inPending := coherent.mem_pending.2 ⟨present, unvisited.2⟩
  exact unvisited.1 ⟨schema, inPending, rfl⟩

/-- A name that a module waits for is taken by a schema module or by none. -/
theorem taken_of_pending (coherent : Coherent registry) (member : schema ∈ registry.pending) :
    isFree registry.modules schema = false ↔
      ∃ other, registry.modules.get? (nameOf schema.name) = some (.schema other) := by
  rw [not_isFree_iff]
  constructor
  · rintro ⟨entry, found⟩
    cases entry with
    | schema other => exact ⟨other, found⟩
    | docs docs => exact absurd found (coherent.undocumented member docs)
  · rintro ⟨other, found⟩
    exact ⟨_, found⟩

end Coherent

/-! ## One pass -/

def Creates (before : Registry) (pass : Derivation) (schema : Schema) : Prop :=
  before.modules.get? (nameOf schema.name) = none ∧
    pass.registry.modules.get? (nameOf schema.name) = some (.docs (.ofSchema schema))

def Reports (pass : Derivation) (schema : Schema) : Prop :=
  .docsConflict schema.name (nameOf schema.name) ∈ pass.errors

/-- What a pass does with the schema modules that wait for it. -/
structure Settles (before : Registry) (waiting : List Schema) (pass : Derivation) : Prop where
  /-- These modules are visited, and no others. -/
  visited : ∀ name, name ∈ pass.registry.visited ↔
    (∃ schema ∈ waiting, schema.name = name) ∨ name ∈ before.visited
  unvisited : ∀ schema ∈ waiting, schema.name ∉ before.visited
  /-- Each of them has one outcome. -/
  outcome : ∀ schema ∈ waiting, Xor (Creates before pass schema) (Reports pass schema)
  /-- A conflict is reported exactly where a schema module has the name, by ascending parents. -/
  conflicts : ∃ parents : List String,
    pass.errors = parents.map (fun parent => .docsConflict parent (nameOf parent)) ∧
    parents.Pairwise (· < ·) ∧
    ∀ parent, parent ∈ parents ↔ (∃ schema ∈ waiting, schema.name = parent) ∧
      ∃ other, before.modules.get? (nameOf parent) = some (.schema other)
  counted : pass.created + pass.errors.length = waiting.length
  grown : pass.registry.modules.size = before.modules.size + pass.created
  /-- Nothing is left to do. -/
  again : pass.registry.deriveDocs = ⟨pass.registry, 0, []⟩

namespace Coherent

theorem reports_iff (coherent : Coherent registry) (member : schema ∈ registry.pending) :
    Reports registry.deriveDocs schema ↔ isFree registry.modules schema = false := by
  rw [Reports, coherent.deriveDocs_eq]
  simp only [List.mem_map, List.mem_filter, Bool.not_eq_true', conflict,
    RegistryError.docsConflict.injEq]
  constructor
  · rintro ⟨other, ⟨-, taken⟩, sameName, -⟩
    rw [isFree, ← sameName]
    exact taken
  · intro taken
    exact ⟨schema, ⟨member, taken⟩, rfl, rfl⟩

theorem creates_iff (coherent : Coherent registry) (member : schema ∈ registry.pending) :
    Creates registry registry.deriveDocs schema ↔ isFree registry.modules schema = true := by
  rw [Creates, isFree_iff, coherent.get?_deriveDocs]
  constructor
  · exact And.left
  · intro free
    exact ⟨free, .inl ⟨schema, member, isFree_iff.2 free, rfl⟩⟩

theorem settles (coherent : Coherent registry) {waiting : List Schema}
    (perm : registry.pending.Perm waiting) :
    Settles registry waiting registry.deriveDocs where
  visited name := by
    rw [coherent.mem_visited_deriveDocs]
    simp only [perm.mem_iff]
  unvisited schema member := (coherent.mem_pending.1 (perm.mem_iff.2 member)).2
  outcome schema member := by
    have inPending := perm.mem_iff.2 member
    rw [coherent.creates_iff inPending, coherent.reports_iff inPending]
    cases isFree registry.modules schema <;> simp [Xor]
  conflicts := by
    refine ⟨(registry.pending.filter (!isFree registry.modules ·)).map Schema.name, ?_, ?_, ?_⟩
    · rw [coherent.deriveDocs_eq, List.map_map]
      rfl
    · exact List.pairwise_map.2 (coherent.pending_ascending.filter _)
    · intro parent
      simp only [List.mem_map, List.mem_filter, Bool.not_eq_true']
      constructor
      · rintro ⟨schema, ⟨member, taken⟩, rfl⟩
        exact ⟨⟨schema, perm.mem_iff.1 member, rfl⟩, (coherent.taken_of_pending member).1 taken⟩
      · rintro ⟨⟨schema, member, rfl⟩, taken⟩
        have inPending := perm.mem_iff.2 member
        exact ⟨schema, ⟨inPending, (coherent.taken_of_pending inPending).2 taken⟩, rfl⟩
  counted := by
    rw [coherent.deriveDocs_eq, List.length_map, ← List.length_append, ← perm.length_eq]
    exact (List.filter_append_perm (isFree registry.modules) registry.pending).length_eq
  grown := by
    rw [coherent.deriveDocs_eq]
    simp only [NameMap.size_extend _ coherent.created_distinct created_absent, List.length_map]
  again := by
    rw [Registry.deriveDocs, coherent.pending_deriveDocs]
    rfl

end Coherent

/-! ## Runs of calls -/

structure Course where
  registry : Registry := .empty
  /-- All visits of the passes, in their order. -/
  visits : List Schema := []
  /-- The modules that were registered since the last pass. -/
  waiting : List Schema := []

namespace Course

def perform (course : Course) : Call → Course
  | .register schema =>
      match course.registry.register schema with
      | .ok larger => ⟨larger, course.visits, course.waiting ++ [schema]⟩
      | .error _ => course
  | .deriveDocs =>
      ⟨course.registry.deriveDocs.registry, course.visits ++ course.registry.pending, []⟩

def ofCalls (calls : List Call) : Course :=
  calls.foldl perform {}

theorem registry_perform (course : Course) (call : Call) :
    (course.perform call).registry = course.registry.perform call := by
  cases call with
  | register schema =>
      simp only [perform, Registry.perform]
      cases course.registry.register schema <;> rfl
  | deriveDocs => rfl

theorem registry_ofCalls (calls : List Call) : (ofCalls calls).registry = empty.after calls := by
  have general (course : Course) :
      (calls.foldl perform course).registry = course.registry.after calls := by
    induction calls generalizing course with
    | nil => rfl
    | cons call rest induction =>
        rw [List.foldl_cons, induction, registry_perform]
        rfl
  exact general {}

structure Tracked (course : Course) : Prop where
  coherent : Coherent course.registry
  pending : course.registry.pending.Perm course.waiting
  schemas : (course.visits ++ course.waiting).Perm course.registry.schemas

theorem Tracked.perform {course : Course} (tracked : Tracked course) (call : Call) :
    Tracked (course.perform call) := by
  rcases tracked with ⟨coherent, pending, schemas⟩
  cases call with
  | register schema =>
      cases accepted : course.registry.register schema with
      | error error =>
          simp only [Course.perform, accepted]
          exact ⟨coherent, pending, schemas⟩
      | ok larger =>
          simp only [Course.perform, accepted]
          refine ⟨coherent.register accepted, ?_, ?_⟩
          · apply (coherent.pending_register accepted).trans
            exact (pending.cons schema).trans (List.perm_append_singleton _ _).symm
          · rw [← List.append_assoc]
            apply (List.perm_append_singleton _ _).trans
            exact (schemas.cons schema).trans (coherent.schemas_register accepted).symm
  | deriveDocs =>
      refine ⟨coherent.deriveDocs, ?_, ?_⟩
      · simp only [Course.perform, coherent.pending_deriveDocs]
        exact List.Perm.refl _
      · simp only [Course.perform, List.append_nil]
        apply (pending.append_left _).trans
        exact schemas.trans coherent.schemas_deriveDocs.symm

theorem tracked_ofCalls (calls : List Call) : Tracked (ofCalls calls) := by
  have general (course : Course) (tracked : Tracked course) :
      Tracked (calls.foldl perform course) := by
    induction calls generalizing course with
    | nil => exact tracked
    | cons call rest induction => exact induction _ (tracked.perform call)
  exact general {} ⟨coherent_empty, List.Perm.refl _, List.Perm.refl _⟩

end Course

/-- However calls are mixed, every schema module is visited once, by the first pass after its
registration: a pass runs over exactly the modules registered since the last one and settles the
documentation of each. -/
theorem pass_settles_what_waits (calls : List Call) :
    let course := Course.ofCalls calls
    course.registry = empty.after calls ∧
    (course.visits ++ course.waiting).Perm course.registry.schemas ∧
    ((course.visits ++ course.waiting).map Schema.name).Nodup ∧
    course.registry.pending.Perm course.waiting ∧
    Settles course.registry course.waiting course.registry.deriveDocs := by
  intro course
  have tracked : Course.Tracked course := Course.tracked_ofCalls calls
  have distinct := (tracked.schemas.map Schema.name).nodup_iff.2 tracked.coherent.schemas_distinct
  exact ⟨Course.registry_ofCalls calls, tracked.schemas, distinct, tracked.pending,
    tracked.coherent.settles tracked.pending⟩

def clashing : List Schema :=
  [{ name := "foo", srcs := ["foo.xsd"] : Declaration },
    { name := "foo-docs", srcs := ["foo.xsd"] : Declaration }].filterMap (·.check.toOption)

example :
    let pass := (empty.after (clashing.map .register)).deriveDocs
    pass.registry.modules.names = ["foo", "foo-docs", "foo-docs-docs"] ∧
    pass.created = 1 ∧ pass.errors = [.docsConflict "foo" "foo-docs"] := by
  decide +kernel

end SchemaBuild.Registry
