import SchemaBuild.Path

/-!
# Components of paths

Paths are compared by their components, which are the names between their slashes. A slash more or
less makes no difference, nor does a dot, unless the path starts with it.
-/

namespace SchemaBuild

inductive Component where
  /-- The top of all paths that start with a slash. -/
  | root
  /-- The dot at the start of a path. -/
  | current
  | parent
  | name (characters : List Char)
  deriving DecidableEq, Repr

namespace Component

/-- What the characters between two slashes stand for. Nothing and a dot stand for no component. -/
def ofSegment : List Char → Option Component
  | [] => none
  | ['.'] => none
  | ['.', '.'] => some .parent
  | characters => some (.name characters)

theorem ofSegment_name {characters : List Char}
    (notDots : ∀ dots : List Char, (∀ character ∈ dots, character = '.') → characters ≠ dots) :
    ofSegment characters = some (.name characters) := by
  have notEmpty := notDots [] (by simp)
  have notCurrent := notDots ['.'] (by simp)
  have notParent := notDots ['.', '.'] (by simp)
  unfold ofSegment
  split
  · exact absurd rfl notEmpty
  · exact absurd rfl notCurrent
  · exact absurd rfl notParent
  · rfl

/-- What a path starts with, ahead of the components that its segments stand for. -/
def start (segments : List (List Char)) : List Component :=
  if segments.head? = some [] then if segments.length = 1 then [] else [.root]
  else if segments.head? = some ['.'] then [.current]
  else []

def ofSegments (segments : List (List Char)) : List Component :=
  start segments ++ segments.filterMap ofSegment

theorem start_append {segments : List (List Char)} (some : segments ≠ [])
    (notEmpty : segments ≠ [[]]) (more : List (List Char)) :
    start (segments ++ more) = start segments := by
  obtain ⟨first, others, rfl⟩ := List.exists_cons_of_ne_nil some
  cases first with
  | cons => simp [start]
  | nil =>
      have others : others ≠ [] := fun none => notEmpty (by rw [none])
      simp [start, others]

theorem ofSegments_append {segments : List (List Char)} (some : segments ≠ [])
    (notEmpty : segments ≠ [[]]) (more : List (List Char)) :
    ofSegments (segments ++ more) = ofSegments segments ++ more.filterMap ofSegment := by
  rw [ofSegments, ofSegments, start_append some notEmpty, List.filterMap_append, List.append_assoc]

theorem ofSegments_replace (segments : List (List Char)) {last : List Char}
    {component : Component} (isComponent : ofSegment last = some component) :
    ofSegments (segments ++ [last]) = ofSegments (segments ++ [[]]) ++ [component] := by
  have same : start (segments ++ [last]) = start (segments ++ [[]]) := by
    cases segments with
    | nil =>
        have notEmpty : last ≠ [] := by
          rintro rfl
          cases isComponent
        have notDot : last ≠ ['.'] := by
          rintro rfl
          cases isComponent
        simp [start, notEmpty, notDot]
    | cons first others => simp [start]
  have nothing : [([] : List Char)].filterMap ofSegment = [] := rfl
  have something : [last].filterMap ofSegment = [component] := by
    rw [List.filterMap_cons_some isComponent, List.filterMap_nil]
  rw [ofSegments, ofSegments, same, List.filterMap_append, List.filterMap_append, nothing,
    something, List.append_nil, List.append_assoc]

end Component

namespace Path

def components (path : Path) : List Component :=
  Component.ofSegments (path.text.toList.splitOn '/')

example : components ⟨"g/./foo//cpp/"⟩ = components ⟨"g/foo/cpp"⟩ := by decide +kernel
example : components ⟨"./g"⟩ ≠ components ⟨"g"⟩ := by decide +kernel

/-- A path lies strictly below another one. -/
def IsBelow (path above : Path) : Prop :=
  above.components <+: path.components ∧ path.components ≠ above.components

/-- Neither of two paths equals, contains or lies below the other one. -/
def Separate (left right : Path) : Prop :=
  ¬left.components <+: right.components ∧ ¬right.components <+: left.components

theorem splitOn_slash (above below : String) :
    (above ++ "/" ++ below).toList.splitOn '/' =
      above.toList.splitOn '/' ++ below.toList.splitOn '/' := by
  have slash : "/".toList = ['/'] := by decide
  rw [String.toList_append, String.toList_append, slash, List.append_assoc,
    List.singleton_append, List.splitOn_append_cons_self]

theorem components_slash {path : Path} (notEmpty : path.text ≠ "") (below : String) :
    components ⟨path.text ++ "/" ++ below⟩ =
      path.components ++ (below.toList.splitOn '/').filterMap Component.ofSegment := by
  rw [components, splitOn_slash, Component.ofSegments_append (List.splitOn_ne_nil _ _), components]
  intro single
  have joined : ['/'].intercalate (path.text.toList.splitOn '/') = path.text.toList :=
    List.intercalate_splitOn '/'
  rw [single] at joined
  exact notEmpty (String.toList_eq_nil_iff.1 joined.symm)

theorem components_of_name {name : String} {component : Component} (noSlash : '/' ∉ name.toList)
    (isComponent : Component.ofSegment name.toList = some component) :
    components ⟨name⟩ = [component] := by
  rw [components, List.splitOn_eq_singleton noSlash]
  exact Component.ofSegments_replace [] isComponent

theorem components_join (base : Path) {child : String} {component : Component}
    (noSlash : '/' ∉ child.toList)
    (isComponent : Component.ofSegment child.toList = some component) :
    (base.join child).components = base.components ++ [component] := by
  have relative : child.toList.head? ≠ some '/' := fun starts =>
    noSlash (List.mem_of_mem_head? starts)
  have single : child.toList.splitOn '/' = [child.toList] := List.splitOn_eq_singleton noSlash
  rw [join, if_neg relative]
  split
  next slashes =>
    cases ends : base.text.toList.getLast? with
    | none =>
        rw [List.getLast?_eq_none_iff, String.toList_eq_nil_iff] at ends
        rw [components, components, ends, String.empty_append, single]
        exact Component.ofSegments_replace [] isComponent
    | some last =>
        obtain rfl : last = '/' := by simpa [ends] using slashes
        obtain ⟨above, text⟩ := List.getLast?_eq_some_iff.1 ends
        have segments (rest : List Char) (noSlash : '/' ∉ rest) :
            (above ++ '/' :: rest).splitOn '/' = above.splitOn '/' ++ [rest] := by
          rw [List.splitOn_append_cons_self, List.splitOn_eq_singleton noSlash]
        rw [components, components, String.toList_append, text, List.append_assoc,
          List.singleton_append, segments _ noSlash, segments [] (by simp)]
        exact Component.ofSegments_replace _ isComponent
  next noSlashes =>
    rw [components_slash, single, List.filterMap_cons_some isComponent, List.filterMap_nil]
    · intro empty
      simp [empty] at noSlashes

/-- Paths that part at some component are separate. -/
theorem separate_of_components {left right : Path} {above leftRest rightRest : List Component}
    {first second : Component} (different : first ≠ second)
    (isLeft : left.components = above ++ first :: leftRest)
    (isRight : right.components = above ++ second :: rightRest) : left.Separate right := by
  rw [Separate, isLeft, isRight, List.prefix_append_right_inj, List.prefix_append_right_inj,
    List.cons_prefix_cons, List.cons_prefix_cons]
  exact ⟨fun both => different both.1, fun both => different both.1.symm⟩

theorem isBelow_of_components {path above : Path} {rest : List Component} (notEmpty : rest ≠ [])
    (isPath : path.components = above.components ++ rest) : path.IsBelow above := by
  rw [IsBelow, isPath]
  exact ⟨List.prefix_append _ _, by simpa using notEmpty⟩

end Path

end SchemaBuild
