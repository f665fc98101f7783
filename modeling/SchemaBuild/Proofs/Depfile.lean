import SchemaBuild.Proofs.CommandLine
import SchemaBuild.Proofs.Ninja.Lines

/-!
# Reading dependency files

A build system reads the line of a dependency file as words. Unescaped blanks separate them, a
backslash puts a blank into a word, and the first word that ends in a colon is the last target.
This reading is defined here on its own, and it gives back what was written.
-/

namespace SchemaBuild

open Ninja (OneLine)

namespace Depfile

/-! ## Reading -/

/-- Read the words of a line. `word` is the word so far. -/
def splitLine : List Char → List Char → List (List Char)
  | word, [] => Text.consWord word []
  | word, '\\' :: ' ' :: rest => splitLine (word ++ [' ']) rest
  | word, character :: rest =>
      if character = ' ' then Text.consWord word (splitLine [] rest)
      else splitLine (word ++ [character]) rest

/-- Divide words into targets and dependencies. A colon that stands alone is no target. -/
def divide? : List (List Char) → Option (List (List Char) × List (List Char))
  | [] => none
  | word :: others =>
      if word.getLast? = some ':' then some (Text.consWord word.dropLast [], others)
      else (divide? others).map fun (targets, dependencies) => (word :: targets, dependencies)

def read? (text : String) : Option (List Path × List Path) :=
  match text.toList.splitOn '\n' with
  | [line, []] => (divide? (splitLine [] line)).map fun (targets, dependencies) =>
      (targets.map fun word => ⟨String.ofList word⟩,
        dependencies.map fun word => ⟨String.ofList word⟩)
  | _ => none

/-! ## Words of a line -/

theorem splitLine_cons {character : Char} (notBackslash : character ≠ '\\')
    (word rest : List Char) :
    splitLine word (character :: rest) =
      if character = ' ' then Text.consWord word (splitLine [] rest)
      else splitLine (word ++ [character]) rest := by
  rw [splitLine]
  intro tail equal
  exact absurd equal notBackslash

theorem consWord_of_ne_nil {word : List Char} (notEmpty : word ≠ []) (others : List (List Char)) :
    Text.consWord word others = word :: others := by
  simp [Text.consWord, notEmpty]

def written (text : List Char) : List Char :=
  text.flatMap fun character => if character = ' ' then ['\\', ' '] else [character]

theorem splitLine_written {text : List Char} (noBackslash : '\\' ∉ text) (word rest : List Char) :
    splitLine word (written text ++ rest) = splitLine (word ++ text) rest := by
  induction text generalizing word with
  | nil => simp [written]
  | cons head tail induction =>
      have notBackslash : head ≠ '\\' := (List.ne_of_not_mem_cons noBackslash).symm
      have behind := induction (List.not_mem_of_not_mem_cons noBackslash) (word ++ [head])
      rw [List.append_assoc, List.singleton_append] at behind
      by_cases blank : head = ' '
      · subst blank
        exact behind
      · have unescaped : written (head :: tail) ++ rest = head :: (written tail ++ rest) := by
          simp [written, blank]
        rw [unescaped, splitLine_cons notBackslash, if_neg blank]
        exact behind

structure IsWord (text : List Char) : Prop where
  notEmpty : text ≠ []
  noBackslash : '\\' ∉ text

theorem splitLine_dependencies {words : List (List Char)} (each : ∀ word ∈ words, IsWord word)
    {begun : List Char} (notEmpty : begun ≠ []) :
    splitLine begun (words.flatMap fun word => ' ' :: written word) = begun :: words := by
  induction words generalizing begun with
  | nil => exact consWord_of_ne_nil notEmpty []
  | cons head tail induction =>
      have isWord := each head List.mem_cons_self
      have others := induction (fun word member => each word (List.mem_cons_of_mem _ member))
        isWord.notEmpty
      rw [List.flatMap_cons, List.cons_append, splitLine_cons (by decide), if_pos rfl,
        splitLine_written isWord.noBackslash, List.nil_append, others]
      exact consWord_of_ne_nil notEmpty _

theorem divide?_splitLine {targets dependencies : List (List Char)} (someTarget : targets ≠ [])
    (targetWords : ∀ target ∈ targets, IsWord target ∧ target.getLast? ≠ some ':')
    (dependencyWords : ∀ dependency ∈ dependencies, IsWord dependency) :
    divide? (splitLine [] ([' '].intercalate (targets.map written) ++
        ':' :: dependencies.flatMap fun word => ' ' :: written word)) =
      some (targets, dependencies) := by
  induction targets with
  | nil => exact absurd rfl someTarget
  | cons first others induction =>
      rcases targetWords first List.mem_cons_self with ⟨isWord, noColon⟩
      cases others with
      | nil =>
          -- The colon belongs to the word of the last target, which the first dependency ends.
          have notColon : ':' ≠ ' ' := by decide
          have words := splitLine_dependencies dependencyWords
            (List.append_ne_nil_of_right_ne_nil first (List.cons_ne_nil ':' []))
          rw [List.map_cons, List.map_nil, List.intercalate_singleton,
            splitLine_written isWord.noBackslash, List.nil_append, splitLine_cons (by decide),
            if_neg notColon, words, divide?]
          simp [consWord_of_ne_nil isWord.notEmpty]
      | cons second others =>
          have behind := induction (List.cons_ne_nil _ _)
            fun target member => targetWords target (List.mem_cons_of_mem _ member)
          rw [List.map_cons] at behind
          rw [List.map_cons, List.map_cons, List.intercalate_cons_cons, List.append_assoc,
            List.append_assoc, splitLine_written isWord.noBackslash, List.nil_append,
            List.singleton_append, splitLine_cons (by decide), if_pos rfl,
            consWord_of_ne_nil isWord.notEmpty, divide?, if_neg noColon, behind]
          rfl

/-! ## Files -/

/-- Targets and dependencies that a line can say: no text is empty or has a backslash or a line
break in it, and no target ends in a colon. -/
structure IsSayable (targets dependencies : List Path) : Prop where
  someTarget : targets ≠ []
  notEmpty : ∀ path ∈ targets ++ dependencies, path.text ≠ ""
  noBackslash : ∀ path ∈ targets ++ dependencies, '\\' ∉ path.text.toList
  oneLine : ∀ path ∈ targets ++ dependencies, OneLine path.text
  noColon : ∀ target ∈ targets, target.text.toList.getLast? ≠ some ':'

theorem toList_escape (path : Path) : (escape path).toList = written path.text.toList := by
  rw [escape, String.toList_ofList, written]

theorem oneLine_escape {path : Path} (one : OneLine path.text) : OneLine (escape path) :=
  one.escaped (by decide) (by decide)

def line (targets dependencies : List Path) : String :=
  " ".intercalate (targets.map escape) ++ ":" ++
    String.join (dependencies.map fun dependency => " " ++ escape dependency)

theorem toList_line (targets dependencies : List Path) :
    (line targets dependencies).toList =
      [' '].intercalate ((targets.map fun path => path.text.toList).map written) ++
        ':' :: (dependencies.map fun path => path.text.toList).flatMap
          fun word => ' ' :: written word := by
  simp [line, toList_escape, List.flatMap_map, Function.comp_def]

theorem splitOn_render {targets dependencies : List Path}
    (oneLine : ∀ path ∈ targets ++ dependencies, OneLine path.text) :
    (render targets dependencies).toList.splitOn '\n' =
      [(line targets dependencies).toList, []] := by
  have targetsLine : OneLine (" ".intercalate (targets.map escape)) := by
    apply Ninja.oneLine_intercalate
    exact List.forall_mem_map.2 fun target member =>
      oneLine_escape (oneLine target (List.mem_append_left _ member))
  have dependenciesLine :
      OneLine (String.join (dependencies.map fun dependency => " " ++ escape dependency)) := by
    apply Ninja.oneLine_join
    exact List.forall_mem_map.2 fun dependency member =>
      .append (by decide) (oneLine_escape (oneLine dependency (List.mem_append_right _ member)))
  have one : OneLine (line targets dependencies) :=
    (targetsLine.append (by decide)).append dependenciesLine
  have split := Ninja.splitOn_join (List.forall_mem_singleton.2 one)
  simpa [render, line] using split

theorem read?_render {targets dependencies : List Path}
    (sayable : IsSayable targets dependencies) :
    read? (render targets dependencies) = some (targets, dependencies) := by
  have isWord (path : Path) (member : path ∈ targets ++ dependencies) :
      IsWord path.text.toList :=
    ⟨fun empty => sayable.notEmpty path member (String.toList_eq_nil_iff.1 empty),
      sayable.noBackslash path member⟩
  have divided : divide? (splitLine [] (line targets dependencies).toList) =
      some (targets.map fun path => path.text.toList,
        dependencies.map fun path => path.text.toList) := by
    rw [toList_line]
    apply divide?_splitLine
    · simpa using sayable.someTarget
    · exact List.forall_mem_map.2 fun target member =>
        ⟨isWord target (List.mem_append_left _ member), sayable.noColon target member⟩
    · exact List.forall_mem_map.2 fun dependency member =>
        isWord dependency (List.mem_append_right _ member)
  rw [read?, splitOn_render sayable.oneLine]
  simp only [divided, Option.map_some, List.map_map, Function.comp_def, String.ofList_toList,
    List.map_id']

end Depfile

/-! ## Planned jobs -/

theorem Path.getLast?_join (base : Path) {child : String} (notEmpty : child.toList ≠ []) :
    (base.join child).text.toList.getLast? = child.toList.getLast? := by
  have ends (start : String) : (start ++ child).toList.getLast? = child.toList.getLast? := by
    rw [String.toList_append, List.getLast?_append, List.getLast?_eq_some_getLast notEmpty,
      Option.some_or]
  unfold Path.join
  split
  · rfl
  · split
    · exact ends _
    · exact ends _

theorem Schema.noColon_of_plan {schema : Schema} {root : Path} {plan : Plan} {action : Action}
    (planned : schema.plan root = .ok plan) (member : action ∈ plan.actions) :
    ∀ output ∈ action.outputs, output.text.toList.getLast? ≠ some ':' := by
  have file (base : Path) (stem extension : String) (last : Char)
      (ends : extension.toList.getLast? = some last) (notColon : last ≠ ':') :
      (base.join (stem ++ extension)).text.toList.getLast? ≠ some ':' := by
    have nameEnds : (stem ++ extension).toList.getLast? = some last := by
      rw [String.toList_append, List.getLast?_append, ends, Option.some_or]
    have notEmpty : (stem ++ extension).toList ≠ [] := by
      intro empty
      rw [empty] at nameEnds
      cases nameEnds
    rw [base.getLast?_join notEmpty, nameEnds]
    exact fun equal => notColon (Option.some.inj equal)
  rcases Schema.action_of_plan planned member with ⟨package, -, rfl | rfl⟩
  · intro output isOutput
    rw [List.mem_singleton.1 isOutput]
    exact file (schema.directory root) "" javaArchive 'r' (by decide) (by decide)
  · intro output isOutput
    rcases List.mem_append.1 isOutput with source | header
    · rcases List.mem_map.1 source with ⟨stem, -, rfl⟩
      exact file _ stem ".cpp" 'p' (by decide) (by decide)
    · rcases List.mem_map.1 header with ⟨stem, -, rfl⟩
      exact file _ stem ".h" 'h' (by decide) (by decide)

namespace Depfile

theorem isSayable_of_plan {schema : Schema} {root : Path} {plan : Plan} {action : Action}
    (rootPlain : isPlainPath root.text = true) (planned : schema.plan root = .ok plan)
    (member : action ∈ plan.actions) : IsSayable action.outputs action.implicitInputs := by
  have plain := Schema.isPlain_of_plan rootPlain planned member
  have each : ∀ path ∈ action.outputs ++ action.implicitInputs, isPlainPath path.text = true :=
    List.forall_mem_append.2 ⟨plain.outputs, plain.implicitInputs⟩
  constructor
  case someTarget => exact Schema.outputs_ne_nil_of_plan planned member
  case notEmpty =>
    intro path isPath empty
    exact (isPlainPath_iff.1 (each path isPath)).1 (String.toList_eq_nil_iff.2 empty)
  case noBackslash => exact fun path isPath => notMem_of_isPlainPath (each path isPath) (by decide)
  case oneLine => exact fun path isPath => notMem_of_isPlainPath (each path isPath) (by decide)
  case noColon => exact Schema.noColon_of_plan planned member

/-- A dependency file reads back, so that different statements have different texts. The statements
of all planned jobs can be read in this way. -/
theorem render_reads_back :
    (∀ targets dependencies, IsSayable targets dependencies →
      read? (render targets dependencies) = some (targets, dependencies)) ∧
    (∀ targets dependencies others more, IsSayable targets dependencies → IsSayable others more →
      render targets dependencies = render others more →
        targets = others ∧ dependencies = more) ∧
    ∀ schema root plan action xsdc, isPlainPath root.text = true →
      Schema.plan schema root = .ok plan → action ∈ plan.actions →
        IsSayable (Job.ofAction action xsdc).targets (Job.ofAction action xsdc).includes := by
  refine ⟨?reads, ?injective, ?planned⟩
  case reads =>
    intro targets dependencies sayable
    exact read?_render sayable
  case injective =>
    intro targets dependencies others more left right equal
    have same := read?_render left
    rw [equal, read?_render right] at same
    rcases Prod.mk.inj (Option.some.inj same) with ⟨rfl, rfl⟩
    exact ⟨rfl, rfl⟩
  case planned =>
    intro schema root plan action xsdc rootPlain planned member
    have sayable := isSayable_of_plan rootPlain planned member
    have targets : (Job.ofAction action xsdc).targets = action.outputs := by
      simp [Job.targets, Job.ofAction, sayable.someTarget]
    rw [targets]
    exact sayable

theorem render_reads_back_spaced :
    IsSayable [⟨"a b"⟩, ⟨": c"⟩] [⟨"d:"⟩, ⟨"e  f"⟩] ∧
      read? "a\\ b :\\ c: d: e\\ \\ f\n" = some ([⟨"a b"⟩, ⟨": c"⟩], [⟨"d:"⟩, ⟨"e  f"⟩]) ∧
      IsSayable [⟨"gen/foo/xsdcgen.srcjar"⟩] [⟨"types.xsd"⟩] := by
  have sayable : IsSayable [⟨"a b"⟩, ⟨": c"⟩] [⟨"d:"⟩, ⟨"e  f"⟩] :=
    ⟨by simp, by decide, by decide, by decide, by decide⟩
  rcases (⟨_, rfl⟩ : ∃ plan, CommandLine.sample.plan ⟨"gen"⟩ = .ok plan) with ⟨plan, planned⟩
  rcases Schema.actions_of_plan planned with ⟨package, named, actions⟩
  have archive := render_reads_back.2.2 CommandLine.sample ⟨"gen"⟩ plan
    (CommandLine.sample.javaAction ⟨"gen"⟩ package) "xsdc" (by decide) planned
    (actions ▸ List.mem_cons_self)
  exact ⟨sayable, render_reads_back.1 _ _ sayable, archive⟩

end Depfile

end SchemaBuild
