import Mathlib.Data.List.DropRight
import SchemaBuild.Proofs.FileSystem.Places

/-!
# Parents of paths

A path and its parent are written texts. The names of the path are those of the parent and its own
last name, perhaps with dots between them that stand for nothing.
-/

namespace SchemaBuild.Path

/-! ## Segments -/

def segments (path : Path) : List (List Char) :=
  path.text.toList.splitOn '/'

/-- The path with the given segments. A single one that is empty stands for the top. -/
def ofSegments (segments : List (List Char)) : Path :=
  if segments = [[]] then ⟨"/"⟩ else ⟨String.ofList (['/'].intercalate segments)⟩

def segmentNames (segments : List (List Char)) : List Name :=
  segments.flatMap fun segment => pathNames (Bytes.ofString (String.ofList segment))

variable {path parent : Path} {above : List (List Char)} {last : List Char}

theorem segmentNames_append (left right : List (List Char)) :
    segmentNames (left ++ right) = segmentNames left ++ segmentNames right :=
  List.flatMap_append

theorem segments_ne_nil (path : Path) : path.segments ≠ [] :=
  List.splitOn_ne_nil _ _

theorem intercalate_segments (path : Path) : ['/'].intercalate path.segments = path.text.toList :=
  List.intercalate_splitOn _

theorem slash_notMem_of_mem_segments {segment : List Char} (member : segment ∈ path.segments) :
    '/' ∉ segment :=
  notMem_of_mem_splitOn member

theorem intercalate_concat (some : above ≠ []) (last : List Char) :
    ['/'].intercalate (above ++ [last]) = ['/'].intercalate above ++ '/' :: last := by
  induction above with
  | nil => exact absurd rfl some
  | cons first rest induction =>
      cases rest with
      | nil => simp
      | cons second others =>
          have induction := induction (by simp)
          simp only [List.cons_append, List.intercalate_cons_cons] at induction ⊢
          rw [induction]
          simp

theorem pathNames_intercalate (segments : List (List Char)) :
    pathNames (Bytes.ofString (String.ofList (['/'].intercalate segments))) =
      segmentNames segments := by
  have slash : "/" = String.ofList ['/'] := rfl
  induction segments with
  | nil => decide +kernel
  | cons first rest induction =>
      cases rest with
      | nil => simp [segmentNames]
      | cons second others =>
          have text : String.ofList (['/'].intercalate (first :: second :: others)) =
              String.ofList first ++ "/" ++
                String.ofList (['/'].intercalate (second :: others)) := by
            rw [List.intercalate_cons_cons, String.ofList_append, String.ofList_append, slash]
          rw [text, Bytes.ofString_slash, pathNames_append, induction]
          rfl

theorem pathNames_bytes (path : Path) : pathNames path.bytes = segmentNames path.segments := by
  rw [← pathNames_intercalate, intercalate_segments, String.ofList_toList, Path.bytes]

theorem pathNames_ofSegments (segments : List (List Char)) :
    pathNames (ofSegments segments).bytes = segmentNames segments := by
  rw [ofSegments]
  split
  next top =>
    rw [top]
    decide +kernel
  next => exact pathNames_intercalate segments

theorem ofSegments_segments (notEmpty : path.text ≠ "") : ofSegments path.segments = path := by
  rw [ofSegments]
  split
  next single =>
    have text := intercalate_segments path
    rw [single] at text
    exact absurd (String.toList_inj.1 text.symm) notEmpty
  next => rw [intercalate_segments, String.ofList_toList]

/-! ## Trimmed segments -/

theorem trimSegments_idem (segments : List (List Char)) :
    trimSegments (trimSegments segments) = trimSegments segments := by
  cases segments with
  | nil => rfl
  | cons first rest =>
      rw [trimSegments, trimSegments, List.reverse_reverse, List.dropWhile_idempotent]

theorem segmentNames_trimSegments (segments : List (List Char)) :
    ∃ dots, (∀ dot ∈ dots, dot = currentName) ∧
      segmentNames segments = segmentNames (trimSegments segments) ++ dots := by
  cases segments with
  | nil => exact ⟨[], by simp, rfl⟩
  | cons first rest =>
      let idle : List Char → Bool := fun segment => segment = [] || segment = ['.']
      have cut : rest = (rest.reverse.dropWhile idle).reverse ++
          (rest.reverse.takeWhile idle).reverse := by
        rw [← List.reverse_append, List.takeWhile_append_dropWhile, List.reverse_reverse]
      refine ⟨segmentNames (rest.reverse.takeWhile idle).reverse, fun dot member => ?_, ?_⟩
      · obtain ⟨segment, trimmed, isName⟩ := List.mem_flatMap.1 member
        have isIdle := List.mem_takeWhile_imp (List.mem_reverse.1 trimmed)
        have shape : segment = [] ∨ segment = ['.'] := by simpa [idle] using isIdle
        rcases shape with rfl | rfl
        · have none : pathNames (Bytes.ofString (String.ofList [])) = [] := by decide +kernel
          rw [none] at isName
          cases isName
        · have single : pathNames (Bytes.ofString (String.ofList ['.'])) = [currentName] := by
            decide +kernel
          rw [single] at isName
          exact List.mem_singleton.1 isName
      · rw [trimSegments, ← segmentNames_append, List.cons_append]
        exact congrArg (fun segments => segmentNames (first :: segments)) cut

theorem trimSegments_concat (notEmpty : last ≠ []) (notDot : last ≠ ['.']) :
    trimSegments (above ++ [last]) = above ++ [last] := by
  cases above with
  | nil => rfl
  | cons first rest =>
      rw [List.cons_append, trimSegments, List.reverse_concat,
        List.dropWhile_cons_of_neg (by simp [notEmpty, notDot]), List.reverse_cons,
        List.reverse_reverse]

theorem trimSegments_concat_idle (some : above ≠ []) (idle : last = [] ∨ last = ['.']) :
    trimSegments (above ++ [last]) = trimSegments above := by
  obtain ⟨first, rest, rfl⟩ := List.exists_cons_of_ne_nil some
  rw [List.cons_append, trimSegments, trimSegments, List.reverse_concat,
    List.dropWhile_cons_of_pos (by simpa using idle)]

/-! ## The parent -/

theorem parent?_eq (path : Path) :
    path.parent? =
      if trimSegments path.segments = [[]] then none
      else some (ofSegments (trimSegments (trimSegments path.segments).dropLast)) := by
  rw [parent?, segments]
  split
  next single => rw [if_pos single]
  next several =>
    rw [if_neg several, ofSegments]
    split
    next single => rw [if_pos single]
    next kept => rw [if_neg kept]

theorem parent?_of_last (isSegments : path.segments = above ++ [last]) (notEmpty : last ≠ [])
    (notDot : last ≠ ['.']) : path.parent? = some (ofSegments (trimSegments above)) := by
  rw [parent?_eq, isSegments, trimSegments_concat notEmpty notDot, List.dropLast_concat, if_neg]
  intro single
  cases above with
  | nil => exact notEmpty (List.singleton_inj.1 single)
  | cons first rest => simp at single

/-! ## Where a path goes on -/

theorem head?_ofString (text : String) :
    (Bytes.ofString text).head? = some slashByte ↔ text.toList.head? = some '/' := by
  cases characters : text.toList with
  | nil =>
      obtain rfl : text = "" := String.toList_inj.1 characters
      simp [Bytes.ofString]
  | cons first rest =>
      have whole : text = String.ofList [first] ++ String.ofList rest := by
        apply String.toList_inj.1
        simp [characters]
      have notEmpty : Bytes.ofString (String.ofList [first]) ≠ [] := by
        intro empty
        have same := Bytes.ofString_inj (empty.trans (by decide : [] = Bytes.ofString ""))
        simpa using congrArg String.toList same
      rw [whole, Bytes.ofString_append, List.head?_append_of_ne_nil _ notEmpty, List.head?_cons]
      constructor
      · intro starts
        have member : slashByte ∈ Bytes.ofString (String.ofList [first]) :=
          List.mem_of_mem_head? starts
        have inText : '/' ∈ (String.ofList [first]).toList :=
          Bytes.mem_of_mem_ofString (by decide) member
        simpa [eq_comm] using inText
      · intro slash
        obtain rfl : first = '/' := Option.some.inj slash
        decide +kernel

theorem walkStart_bytes (path : Path) (working : Location) :
    walkStart path.bytes working = if path.text.toList.head? = some '/' then [] else working := by
  simp only [walkStart, bytes, head?_ofString]

theorem head?_ofSegments {first : List Char} (noSlash : '/' ∉ first) (rest : List (List Char)) :
    (ofSegments (first :: rest)).text.toList.head? = some '/' ↔ first = [] := by
  cases first with
  | nil =>
      cases rest with
      | nil => simp [ofSegments]
      | cons second others => simp [ofSegments, List.intercalate_cons_cons]
  | cons head tail =>
      have notSlash : head ≠ '/' := by
        rintro rfl
        exact noSlash List.mem_cons_self
      cases rest with
      | nil => simp [ofSegments, notSlash]
      | cons second others => simp [ofSegments, List.intercalate_cons_cons, notSlash]

structure GoesOn (parent path : Path) (name : Name) : Prop where
  start : ∀ working, walkStart path.bytes working = walkStart parent.bytes working
  names : ∃ dots, (∀ dot ∈ dots, dot = currentName) ∧
    pathNames path.bytes = pathNames parent.bytes ++ dots ++ [name]

theorem segmentNames_singleton (notEmpty : last ≠ []) (noSlash : '/' ∉ last) :
    segmentNames [last] = [Bytes.ofString (String.ofList last)] := by
  have some : Bytes.ofString (String.ofList last) ≠ [] := by
    intro empty
    have same := Bytes.ofString_inj (empty.trans (by decide : [] = Bytes.ofString ""))
    exact notEmpty (by simpa using congrArg String.toList same)
  have bytesNoSlash : slashByte ∉ Bytes.ofString (String.ofList last) := by
    intro member
    have inText : '/' ∈ (String.ofList last).toList :=
      Bytes.mem_of_mem_ofString (by decide) member
    exact noSlash (by simpa using inText)
  rw [segmentNames, List.flatMap_singleton, pathNames_single some bytesNoSlash]

theorem goesOn_ofSegments (isSegments : path.segments = above ++ [last]) (notEmpty : last ≠ []) :
    GoesOn (ofSegments (trimSegments above)) path (Bytes.ofString (String.ofList last)) := by
  have noSlash : ∀ segment ∈ above ++ [last], '/' ∉ segment := fun segment member =>
    slash_notMem_of_mem_segments (isSegments ▸ member)
  have text : path.text ≠ "" := by
    intro empty
    rw [segments, empty, String.toList_empty, List.splitOn_nil] at isSegments
    rcases List.append_eq_singleton_iff.1 isSegments.symm with ⟨-, single⟩ | ⟨-, none⟩
    · exact notEmpty (List.singleton_inj.1 single)
    · cases none
  refine ⟨fun working => ?_, ?_⟩
  · rw [walkStart_bytes, walkStart_bytes, ← ofSegments_segments text, isSegments]
    cases above with
    | nil =>
        rw [List.nil_append, if_neg (mt (head?_ofSegments (noSlash last (by simp)) []).1 notEmpty),
          if_neg (by decide)]
    | cons first rest =>
        rw [List.cons_append, trimSegments]
        simp only [head?_ofSegments (noSlash first List.mem_cons_self)]
  · obtain ⟨dots, onlyDots, trimmed⟩ := segmentNames_trimSegments above
    have lastNames := segmentNames_singleton notEmpty (noSlash last (by simp))
    exact ⟨dots, onlyDots, by rw [pathNames_bytes, isSegments, segmentNames_append, trimmed,
      pathNames_ofSegments, lastNames]⟩

/-! ## Parents of parents -/

theorem segments_ofSegments (some : above ≠ []) (noSlash : ∀ segment ∈ above, '/' ∉ segment)
    (notTop : above ≠ [[]]) : (ofSegments above).segments = above := by
  rw [ofSegments, if_neg notTop, segments, String.toList_ofList]
  exact List.splitOn_intercalate '/' noSlash some

theorem mem_of_mem_trimSegments {segment : List Char} (member : segment ∈ trimSegments above) :
    segment ∈ above := by
  cases above with
  | nil => exact member
  | cons first rest =>
      rw [trimSegments] at member
      rcases List.mem_cons.1 member with rfl | behind
      · exact List.mem_cons_self
      · refine List.mem_cons_of_mem _ (List.mem_reverse.1 ?_)
        exact (List.dropWhile_sublist _).subset (List.mem_reverse.1 behind)

theorem trimSegments_ne_nil (some : above ≠ []) : trimSegments above ≠ [] := by
  obtain ⟨first, rest, rfl⟩ := List.exists_cons_of_ne_nil some
  simp [trimSegments]

theorem trimSegments_segments_ofSegments (some : above ≠ [])
    (noSlash : ∀ segment ∈ above, '/' ∉ segment) :
    trimSegments (ofSegments (trimSegments above)).segments = trimSegments above := by
  by_cases top : trimSegments above = [[]]
  · rw [top]
    decide +kernel
  · rw [segments_ofSegments (trimSegments_ne_nil some)
      (fun segment member => noSlash segment (mem_of_mem_trimSegments member)) top,
      trimSegments_idem]

theorem last_ne_nil_of_trimSegments {init : List (List Char)}
    (trimmed : trimSegments above = init ++ [last]) (some : init ≠ []) : last ≠ [] := by
  rintro rfl
  have again := trimSegments_idem above
  rw [trimmed, trimSegments_concat_idle some (.inl rfl)] at again
  have shorter : (trimSegments init).length ≤ init.length := by
    obtain ⟨first, rest, rfl⟩ := List.exists_cons_of_ne_nil some
    have sublist := (List.dropWhile_sublist (fun segment => segment = [] || segment = ['.'])
      (l := rest.reverse)).length_le
    simpa [trimSegments] using sublist
  rw [again, List.length_append, List.length_singleton] at shorter
  omega

theorem goesOn_parent_ofSegments (some : above ≠ [])
    (noSlash : ∀ segment ∈ above, '/' ∉ segment)
    (isParent : (ofSegments (trimSegments above)).parent? = .some parent)
    (text : parent.text ≠ "") :
    ∃ name, GoesOn parent (ofSegments (trimSegments above)) name := by
  rw [parent?_eq, trimSegments_segments_ofSegments some noSlash] at isParent
  split at isParent
  · cases isParent
  next notTop =>
    obtain rfl := Option.some.inj isParent
    have trimmed := (List.dropLast_concat_getLast (trimSegments_ne_nil some)).symm
    generalize (trimSegments above).dropLast = init at trimmed text ⊢
    generalize (trimSegments above).getLast (trimSegments_ne_nil some) = last at trimmed
    have several : init ≠ [] := by
      rintro rfl
      exact text rfl
    have isSegments := segments_ofSegments (trimSegments_ne_nil some)
      (fun segment member => noSlash segment (mem_of_mem_trimSegments member)) notTop
    rw [trimmed] at isSegments ⊢
    exact ⟨_, goesOn_ofSegments isSegments (last_ne_nil_of_trimSegments trimmed several)⟩

/-! ## Paths with a suffix -/

theorem segments_withSuffix (path : Path) {suffix : String} (noSlash : '/' ∉ suffix.toList) :
    ∃ above last, path.segments = above ++ [last] ∧
      (path.withSuffix suffix).segments = above ++ [last ++ suffix.toList] := by
  have isSegments := (List.dropLast_concat_getLast path.segments_ne_nil).symm
  generalize path.segments.dropLast = above at isSegments
  generalize path.segments.getLast path.segments_ne_nil = last at isSegments
  have lastNoSlash : '/' ∉ last ++ suffix.toList := by
    have inLast := slash_notMem_of_mem_segments (isSegments ▸ List.mem_append_right above
      (List.mem_singleton_self last))
    simp [inLast, noSlash]
  have aboveNoSlash : ∀ segment ∈ above, '/' ∉ segment := fun segment member =>
    slash_notMem_of_mem_segments (isSegments ▸ List.mem_append_left _ member)
  refine ⟨above, last, isSegments, ?_⟩
  have text := path.intercalate_segments
  rw [isSegments] at text
  rw [segments, withSuffix, String.toList_append, ← text]
  by_cases some : above = []
  · rw [some, List.nil_append, List.nil_append, List.intercalate_singleton,
      List.splitOn_eq_singleton lastNoSlash]
  · rw [intercalate_concat some, List.append_assoc, List.cons_append,
      List.splitOn_append_cons_self, List.splitOn_intercalate '/' aboveNoSlash some,
      List.splitOn_eq_singleton lastNoSlash]

/-- A long suffix makes a name that an entry can have of whatever a path ends in. -/
theorem names_withSuffix (path : Path) {suffix : String} (noSlash : '/' ∉ suffix.toList)
    (long : 3 ≤ (Bytes.ofString suffix).length) :
    ∃ name, IsProper name ∧
      pathNames (path.withSuffix suffix).bytes = segmentNames path.segments.dropLast ++ [name] ∧
      endsInSlash (path.withSuffix suffix).bytes = false := by
  obtain ⟨above, last, isSegments, suffixed⟩ := path.segments_withSuffix noSlash
  have lastNoSlash := slash_notMem_of_mem_segments
    (suffixed ▸ List.mem_append_right above (List.mem_singleton_self _))
  have split : Bytes.ofString (String.ofList (last ++ suffix.toList)) =
      Bytes.ofString (String.ofList last) ++ Bytes.ofString suffix := by
    rw [String.ofList_append, String.ofList_toList, Bytes.ofString_append]
  have longer : 3 ≤ (Bytes.ofString (String.ofList (last ++ suffix.toList))).length := by
    rw [split, List.length_append]
    omega
  have bytesNoSlash : slashByte ∉ Bytes.ofString (String.ofList (last ++ suffix.toList)) := by
    intro member
    have inText : '/' ∈ (String.ofList (last ++ suffix.toList)).toList :=
      Bytes.mem_of_mem_ofString (by decide) member
    rw [String.toList_ofList] at inText
    exact lastNoSlash inText
  have proper : IsProper (Bytes.ofString (String.ofList (last ++ suffix.toList))) := by
    refine ⟨?_, ?_, ?_, bytesNoSlash⟩ <;>
      (intro same; rw [same] at longer; exact absurd longer (by decide))
  refine ⟨_, proper, ?_, ?_⟩
  · rw [pathNames_bytes, suffixed, segmentNames_append, segmentNames, segmentNames,
      List.flatMap_singleton, proper.pathNames, isSegments, List.dropLast_concat, segmentNames]
  · have some : Bytes.ofString suffix ≠ [] := by
      intro empty
      simp [empty] at long
    have notLast : (Bytes.ofString suffix).getLast some ≠ slashByte := by
      intro slash
      refine bytesNoSlash (split ▸ List.mem_append_right _ ?_)
      exact slash ▸ List.getLast_mem some
    rw [withSuffix, bytes, Bytes.ofString_append, endsInSlash, List.getLast?_append,
      List.getLast?_eq_some_getLast some]
    simpa using notLast

theorem last_withSuffix (path : Path) {suffix : String} (noSlash : '/' ∉ suffix.toList)
    (long : 3 ≤ (Bytes.ofString suffix).length) :
    ∃ name, IsProper name ∧ (pathNames (path.withSuffix suffix).bytes).getLast? = some name ∧
      endsInSlash (path.withSuffix suffix).bytes = false := by
  obtain ⟨name, proper, names, ends⟩ := path.names_withSuffix noSlash long
  exact ⟨name, proper, by rw [names, List.getLast?_concat], ends⟩

/-- The parent of a path with a suffix is that of the path, or there is no other directory between
them than the one that the path names. -/
theorem parent?_withSuffix (path : Path) {suffix : String} (noSlash : '/' ∉ suffix.toList)
    (long : 2 ≤ suffix.toList.length) :
    ∃ parent, (path.withSuffix suffix).parent? = .some parent ∧
      (parent.text ≠ "" → ∃ name, parent.GoesOn (path.withSuffix suffix) name) ∧
      (path.parent? = .some parent ∨
        parent.text = "" ∧ (∀ other, path.parent? = .some other → other.text = "") ∨
          path.parent? = parent.parent? ∧ ∀ other, parent.parent? = .some other →
            other.text ≠ "" → ∃ name, other.GoesOn parent name) := by
  obtain ⟨above, last, isSegments, suffixed⟩ := path.segments_withSuffix noSlash
  have longer : 2 ≤ (last ++ suffix.toList).length := by
    rw [List.length_append]
    omega
  have notEmpty : last ++ suffix.toList ≠ [] := by
    intro empty
    simp [empty] at longer
  have notDot : last ++ suffix.toList ≠ ['.'] := by
    intro dot
    simp [dot] at longer
  have aboveNoSlash : ∀ segment ∈ above, '/' ∉ segment := fun segment member =>
    slash_notMem_of_mem_segments (isSegments ▸ List.mem_append_left _ member)
  refine ⟨_, parent?_of_last suffixed notEmpty notDot,
    fun _ => ⟨_, goesOn_ofSegments suffixed notEmpty⟩, ?_⟩
  by_cases some : above = []
  · subst some
    refine .inr (.inl ⟨rfl, fun other isParent => ?_⟩)
    rw [parent?_eq, isSegments] at isParent
    split at isParent
    · cases isParent
    · obtain rfl := Option.some.inj isParent
      rfl
  by_cases idle : last = [] ∨ last = ['.']
  · right; right
    refine ⟨?_, fun other isParent text =>
      goesOn_parent_ofSegments some aboveNoSlash isParent text⟩
    rw [parent?_eq, parent?_eq, isSegments, trimSegments_concat_idle some idle,
      trimSegments_segments_ofSegments some aboveNoSlash]
  · rw [not_or] at idle
    exact .inl (parent?_of_last isSegments idle.1 idle.2)

/-! ## Lengths -/

/-- Each segment counts with the slash that follows it. -/
def weight : List (List Char) → Nat
  | [] => 0
  | segment :: rest => segment.length + 1 + weight rest

theorem weight_append (left right : List (List Char)) :
    weight (left ++ right) = weight left + weight right := by
  induction left with
  | nil => simp [weight]
  | cons segment rest induction => simp [weight, induction, Nat.add_assoc]

theorem length_intercalate (some : above ≠ []) :
    (['/'].intercalate above).length + 1 = weight above := by
  induction above with
  | nil => exact absurd rfl some
  | cons first rest induction =>
      cases rest with
      | nil => simp [weight]
      | cons second others =>
          have induction := induction (by simp)
          simp only [weight] at induction
          simp only [List.intercalate_cons_cons, List.length_append, List.length_singleton, weight]
          omega

theorem weight_segments (path : Path) : weight path.segments = path.text.length + 1 := by
  rw [← length_intercalate path.segments_ne_nil, intercalate_segments, String.length_toList]

theorem weight_trimSegments_le (above : List (List Char)) :
    weight (trimSegments above) ≤ weight above := by
  cases above with
  | nil => exact Nat.le_refl _
  | cons first rest =>
      let idle : List Char → Bool := fun segment => segment = [] || segment = ['.']
      obtain ⟨cut, whole⟩ := List.rdropWhile_prefix idle (l := rest)
      have kept : trimSegments (first :: rest) = first :: rest.rdropWhile idle := rfl
      rw [kept, ← whole, ← List.cons_append, weight_append, whole]
      exact Nat.le_add_right _ _

/-- Every step up makes a path shorter. -/
theorem length_parent?_lt (isParent : path.parent? = some parent) :
    parent.text.length < path.text.length := by
  rw [parent?_eq] at isParent
  split at isParent
  · cases isParent
  next notTop =>
  obtain rfl := Option.some.inj isParent
  have lighter := weight_trimSegments_le path.segments
  have trimmed := (List.dropLast_concat_getLast
    (trimSegments_ne_nil path.segments_ne_nil)).symm
  generalize (trimSegments path.segments).dropLast = init at trimmed ⊢
  generalize (trimSegments path.segments).getLast _ = last at trimmed
  have lastWeight : weight [last] = last.length + 1 := by simp [weight]
  rw [weight_segments, trimmed, weight_append, lastWeight] at lighter
  by_cases single : init = []
  · subst single
    have some : last ≠ [] := by
      rintro rfl
      exact notTop trimmed
    have long := List.length_pos_of_ne_nil some
    have empty : (ofSegments (trimSegments [])).text.length = 0 := by decide
    omega
  · have some := last_ne_nil_of_trimSegments trimmed single
    have long := List.length_pos_of_ne_nil some
    have heavy : 0 < weight init := by
      rw [← length_intercalate single]
      exact Nat.succ_pos _
    rw [ofSegments]
    split
    · have slash : (Path.mk "/").text.length = 1 := by decide
      omega
    · have short := length_intercalate (trimSegments_ne_nil single)
      have less := weight_trimSegments_le init
      rw [String.length_ofList]
      omega

end SchemaBuild.Path
