import SchemaBuild.Starlark

/-!
# Reading BUILD files

What a BUILD file says can be read off its text. Every part of it is written so that the text
tells the part and where it ends, whatever comes behind it. From the smallest parts, characters in
a literal, this is carried up to values, attributes, rules and the whole file.

The text does not show whether a string is a reference. So a value says a little less than it is,
and it is what values say that is read.
-/

namespace SchemaBuild.Starlark

/-! ## Texts that tell where they end -/

def Readable {α : Type} (valid : α → Prop) (write : α → List Char) : Prop :=
  ∀ ⦃left right⦄, valid left → valid right → ∀ ⦃rest more⦄,
    write left ++ rest = write right ++ more → left = right ∧ rest = more

/-- A text that does not start with a written value. -/
def StopsBefore {α : Type} (valid : α → Prop) (write : α → List Char) (text : List Char) : Prop :=
  ∀ value, valid value → ∀ rest, write value ++ rest ≠ text

section Lists

variable {α : Type} {valid : α → Prop} {write : α → List Char}

theorem Readable.flatMap (readable : Readable valid write) {left right : List α}
    (leftValid : ∀ value ∈ left, valid value) (rightValid : ∀ value ∈ right, valid value)
    {rest more : List Char} (restStops : StopsBefore valid write rest)
    (moreStops : StopsBefore valid write more)
    (equal : left.flatMap write ++ rest = right.flatMap write ++ more) :
    left = right ∧ rest = more := by
  induction left generalizing right with
  | nil =>
      cases right with
      | nil => exact ⟨rfl, equal⟩
      | cons head tail =>
          rw [List.flatMap_cons, List.append_assoc] at equal
          exact absurd equal.symm (restStops head (rightValid head (by simp)) _)
  | cons head tail induction =>
      cases right with
      | nil =>
          rw [List.flatMap_cons, List.append_assoc] at equal
          exact absurd equal (moreStops head (leftValid head (by simp)) _)
      | cons other others =>
          rw [List.flatMap_cons, List.flatMap_cons, List.append_assoc, List.append_assoc] at equal
          obtain ⟨rfl, behind⟩ :=
            readable (leftValid head (by simp)) (rightValid other (by simp)) equal
          obtain ⟨rfl, same⟩ := induction (fun value member => leftValid value (by simp [member]))
            (fun value member => rightValid value (by simp [member])) behind
          exact ⟨rfl, same⟩

theorem stopsBefore_cons {start stop : Char} (different : start ≠ stop)
    (starts : ∀ value, valid value → (write value).head? = some start) (text : List Char) :
    StopsBefore valid write (stop :: text) := by
  intro value isValid rest equal
  have first := congrArg List.head? equal
  rw [List.head?_append, starts value isValid] at first
  exact different (Option.some.inj first)

end Lists

/-! ## Literals -/

theorem readable_quoteCharacter : Readable (fun _ => True) quoteCharacter := by
  intro left right _ _ rest more equal
  have special (character : Char) : quoteCharacter character = [character] ∧ character ≠ '\\' ∨
      ∃ code, quoteCharacter character = ['\\', code] ∧
        (character = '\n' ∧ code = 'n' ∨ character = code ∧ code ≠ 'n') := by
    unfold quoteCharacter
    split <;> simp_all
  obtain ⟨isLeft, plain⟩ | ⟨code, isLeft, means⟩ := special left
  · obtain ⟨isRight, -⟩ | ⟨code', isRight, -⟩ := special right
    · simpa [isLeft, isRight] using equal
    · simp [isLeft, isRight, plain] at equal
  · obtain ⟨isRight, plain⟩ | ⟨code', isRight, means'⟩ := special right
    · simp [isLeft, isRight, plain.symm] at equal
    · obtain ⟨same, behind⟩ : code = code' ∧ rest = more := by simpa [isLeft, isRight] using equal
      subst same
      refine ⟨?_, behind⟩
      rcases means with ⟨rfl, isN⟩ | ⟨rfl, notN⟩
      · exact (means'.resolve_right fun other => other.2 isN).1.symm
      · exact (means'.resolve_left fun other => notN other.2).1.symm

theorem stopsBefore_quoteCharacter (text : List Char) :
    StopsBefore (fun _ => True) quoteCharacter ('"' :: text) := by
  intro character _ rest equal
  unfold quoteCharacter at equal
  split at equal <;> simp_all

def writeText (text : String) : List Char :=
  '"' :: (text.toList.flatMap quoteCharacter ++ ['"'])

@[simp]
theorem toList_quote (text : String) : (quote text).toList = writeText text := by
  rw [quote, String.toList_ofList, List.cons_append, writeText]

@[simp]
theorem head?_writeText (text : String) : (writeText text).head? = some '"' :=
  rfl

theorem readable_writeText : Readable (fun _ => True) writeText := by
  intro left right _ _ rest more equal
  simp only [writeText, List.cons_append, List.append_assoc, List.nil_append, List.cons.injEq,
    true_and] at equal
  obtain ⟨same, behind⟩ := readable_quoteCharacter.flatMap (by simp) (by simp)
    (stopsBefore_quoteCharacter rest) (stopsBefore_quoteCharacter more) equal
  exact ⟨String.toList_inj.1 same, List.tail_eq_of_cons_eq behind⟩

/-! ## Lists of literals -/

def writeLine (indent : Nat) (text : String) : List Char :=
  List.replicate (indent + 4) ' ' ++ (writeText text ++ [',', '\n'])

def writeList (indent : Nat) : List String → List Char
  | [] => ['[', ']']
  | [text] => '[' :: (writeText text ++ [']'])
  | texts => '[' :: '\n' :: (texts.flatMap (writeLine indent) ++
      (List.replicate indent ' ' ++ [']']))

@[simp]
theorem toList_indentation (width : Nat) :
    (indentation width).toList = List.replicate width ' ' := by
  rw [indentation, String.toList_ofList]

theorem toList_renderList (indent : Nat) (texts : List String) :
    (renderList indent (texts.map quote)).toList = writeList indent texts := by
  match texts with
  | [] => simp [renderList, writeList]
  | [text] => simp [renderList, writeList]
  | first :: second :: others =>
      have line : (fun text => List.replicate (indent + 4) ' ' ++
          (writeText text ++ [',', '\n'])) = writeLine indent := rfl
      simp [renderList, writeList, List.flatMap_map, line, writeLine]

theorem head?_writeList (indent : Nat) (texts : List String) :
    (writeList indent texts).head? = some '[' := by
  match texts with
  | [] => rfl
  | [_] => rfl
  | _ :: _ :: _ => rfl

theorem readable_writeLine (indent : Nat) : Readable (fun _ => True) (writeLine indent) := by
  intro left right _ _ rest more equal
  simp only [writeLine, List.append_assoc, List.append_cancel_left_eq] at equal
  obtain ⟨same, behind⟩ := readable_writeText trivial trivial equal
  exact ⟨same, by simpa using behind⟩

theorem stopsBefore_indented {α : Type} {valid : α → Prop} {write : α → List Char} {indent : Nat}
    {close : Char} (closes : close ≠ ' ')
    (starts : ∀ value, ∃ text, write value = List.replicate (indent + 4) ' ' ++ text)
    (text : List Char) :
    StopsBefore valid write (List.replicate indent ' ' ++ close :: text) := by
  intro value _ rest equal
  obtain ⟨line, same⟩ := starts value
  rw [same, ← List.replicate_append_replicate] at equal
  simp only [List.append_assoc, List.append_cancel_left_eq] at equal
  exact closes (List.cons.inj equal).1.symm

theorem readable_writeList (indent : Nat) : Readable (fun _ => True) (writeList indent) := by
  intro left right _ _ rest more equal
  match left, right with
  | [], [] => exact ⟨rfl, by simpa [writeList] using equal⟩
  | [], [_] => simp [writeList, writeText] at equal
  | [], _ :: _ :: _ => simp [writeList] at equal
  | [_], [] => simp [writeList, writeText] at equal
  | [first], [second] =>
      simp only [writeList, List.cons_append, List.append_assoc, List.cons.injEq, true_and]
        at equal
      obtain ⟨rfl, behind⟩ := readable_writeText trivial trivial equal
      exact ⟨rfl, by simpa using behind⟩
  | [_], _ :: _ :: _ => simp [writeList, writeText] at equal
  | _ :: _ :: _, [] => simp [writeList] at equal
  | _ :: _ :: _, [_] => simp [writeList, writeText] at equal
  | first :: second :: others, first' :: second' :: others' =>
      simp only [writeList, List.cons_append, List.append_assoc, List.nil_append,
        List.cons.injEq, true_and] at equal
      have starts (text : String) :
          ∃ line, writeLine indent text = List.replicate (indent + 4) ' ' ++ line := ⟨_, rfl⟩
      have isBlank : ']' ≠ ' ' := by decide
      obtain ⟨same, behind⟩ := (readable_writeLine indent).flatMap (fun _ _ => trivial)
        (fun _ _ => trivial) (stopsBefore_indented isBlank starts rest)
        (stopsBefore_indented isBlank starts more) equal
      exact ⟨same, (List.cons.inj (List.append_cancel_left behind)).2⟩

/-! ## Values -/

inductive Literal where
  | bool (value : Bool)
  | text (content : String)
  | list (texts : List String)
  | select (base : List String) (arms : List (String × List String))
  deriving DecidableEq, Repr

def Value.literal : Value → Literal
  | .bool value => .bool value
  | .string text => .text text
  | .label reference => .text reference.text
  | .labels items => .list (items.map Label.text)
  | .strings texts => .list texts
  | .select base arms =>
      .select (base.map Label.text) (arms.map fun arm => (arm.1, arm.2.map Label.text))

namespace Literal

def writeArm (indent : Nat) (arm : String × List String) : List Char :=
  List.replicate (indent + 4) ' ' ++
    (writeText arm.1 ++ (':' :: ' ' :: (writeList (indent + 4) arm.2 ++ [',', '\n'])))

def writeArms (indent : Nat) (arms : List (String × List String)) : List Char :=
  ['s', 'e', 'l', 'e', 'c', 't', '(', '\x7b', '\n'] ++
    (arms.flatMap (writeArm indent) ++ (List.replicate indent ' ' ++ ['\x7d', ')']))

def write (indent : Nat) : Literal → List Char
  | .bool true => ['T', 'r', 'u', 'e']
  | .bool false => ['F', 'a', 'l', 's', 'e']
  | .text content => writeText content
  | .list texts => writeList indent texts
  | .select [] arms => writeArms indent arms
  | .select (first :: others) arms =>
      writeList indent (first :: others) ++ ' ' :: '+' :: ' ' :: writeArms indent arms

end Literal

theorem toList_renderLabels (indent : Nat) (items : List Label) :
    (Value.renderLabels indent items).toList = writeList indent (items.map Label.text) := by
  have same : items.map (fun reference => quote reference.text) =
      (items.map Label.text).map quote := by simp
  rw [Value.renderLabels, same, toList_renderList]

theorem Value.toList_render (indent : Nat) (value : Value) :
    (value.render indent).toList = value.literal.write indent := by
  cases value with
  | bool value => cases value <;> simp [render, literal, Literal.write]
  | string text => exact toList_quote text
  | label reference => exact toList_quote reference.text
  | labels items => exact toList_renderLabels indent items
  | strings texts => exact toList_renderList indent texts
  | select base arms =>
      have written : (String.join (arms.map (Value.renderArm indent))).toList =
          (arms.map fun arm => (arm.1, arm.2.map Label.text)).flatMap
            (Literal.writeArm indent) := by
        simp [List.flatMap_map, Value.renderArm, Literal.writeArm, toList_renderLabels]
      cases base with
      | nil =>
          simp [Value.render, Value.literal, Literal.write, Literal.writeArms, written]
      | cons first others =>
          simp [Value.render, Value.literal, Literal.write, Literal.writeArms, written,
            toList_renderLabels]

namespace Literal

theorem readable_writeArm (indent : Nat) : Readable (fun _ => True) (writeArm indent) := by
  intro left right _ _ rest more equal
  simp only [writeArm, List.append_assoc, List.append_cancel_left_eq] at equal
  obtain ⟨condition, behind⟩ := readable_writeText trivial trivial equal
  simp only [List.cons_append, List.append_assoc, List.cons.injEq, true_and] at behind
  obtain ⟨items, behind⟩ := readable_writeList (indent + 4) trivial trivial behind
  exact ⟨Prod.ext condition items, by simpa using behind⟩

theorem readable_writeArms (indent : Nat) : Readable (fun _ => True) (writeArms indent) := by
  intro left right _ _ rest more equal
  simp only [writeArms, List.append_assoc, List.cons_append, List.nil_append, List.cons.injEq,
    true_and] at equal
  have starts (arm : String × List String) :
      ∃ line, writeArm indent arm = List.replicate (indent + 4) ' ' ++ line := ⟨_, rfl⟩
  have isBlank : '\x7d' ≠ ' ' := by decide
  obtain ⟨same, behind⟩ := (readable_writeArm indent).flatMap (fun _ _ => trivial)
    (fun _ _ => trivial) (stopsBefore_indented isBlank starts (')' :: rest))
    (stopsBefore_indented isBlank starts (')' :: more)) equal
  have closed := (List.cons.inj (List.append_cancel_left behind)).2
  exact ⟨same, (List.cons.inj closed).2⟩

/-- The first character tells what kind of thing is said. Only a selection may start like a list.
-/
theorem head?_write (indent : Nat) (literal : Literal) (text : List Char) :
    (literal.write indent ++ text).head? = match literal with
      | .bool true => some 'T'
      | .bool false => some 'F'
      | .text _ => some '"'
      | .list _ => some '['
      | .select [] _ => some 's'
      | .select (_ :: _) _ => some '[' := by
  match literal with
  | .bool true => rfl
  | .bool false => rfl
  | .text content => simp [write]
  | .list texts => simp [write, head?_writeList]
  | .select [] arms => rfl
  | .select (first :: others) arms => simp [write, head?_writeList]

theorem write_append_inj {indent : Nat} {left right : Literal} {rest more : List Char}
    (equal : left.write indent ++ ',' :: rest = right.write indent ++ ',' :: more) :
    left = right ∧ rest = more := by
  have heads := congrArg List.head? equal
  rw [head?_write, head?_write] at heads
  cases left with
  | bool value =>
      cases right with
      | bool other => cases value <;> cases other <;> simp_all [write]
      | text => cases value <;> simp at heads
      | list => cases value <;> simp at heads
      | select base => cases value <;> cases base <;> simp at heads
  | text content =>
      cases right with
      | bool other => cases other <;> simp at heads
      | text other =>
          obtain ⟨rfl, behind⟩ := readable_writeText trivial trivial equal
          exact ⟨rfl, (List.cons.inj behind).2⟩
      | list => simp at heads
      | select base => cases base <;> simp at heads
  | list texts =>
      cases right with
      | bool other => cases other <;> simp at heads
      | text => simp at heads
      | list others =>
          obtain ⟨rfl, behind⟩ := readable_writeList indent trivial trivial equal
          exact ⟨rfl, (List.cons.inj behind).2⟩
      | select base arms =>
          cases base with
          | nil => simp at heads
          | cons first others =>
              simp only [write, List.append_assoc] at equal
              have behind := (readable_writeList indent trivial trivial equal).2
              simp at behind
  | select base arms =>
      cases right with
      | bool other => cases base <;> cases other <;> simp at heads
      | text => cases base <;> simp at heads
      | list others =>
          cases base with
          | nil => simp at heads
          | cons first others =>
              simp only [write, List.append_assoc] at equal
              have behind := (readable_writeList indent trivial trivial equal).2
              simp at behind
      | select base' arms' =>
          cases base with
          | nil =>
              cases base' with
              | nil =>
                  have same : writeArms indent arms ++ ',' :: rest =
                      writeArms indent arms' ++ ',' :: more := equal
                  obtain ⟨rfl, behind⟩ := readable_writeArms indent trivial trivial same
                  exact ⟨rfl, (List.cons.inj behind).2⟩
              | cons => simp at heads
          | cons first others =>
              cases base' with
              | nil => simp at heads
              | cons first' others' =>
                  simp only [write, List.append_assoc] at equal
                  obtain ⟨bases, behind⟩ := readable_writeList indent trivial trivial equal
                  simp only [List.cons_append, List.cons.injEq, true_and] at behind
                  obtain ⟨rfl, closed⟩ := readable_writeArms indent trivial trivial behind
                  exact ⟨by rw [bases], (List.cons.inj closed).2⟩

end Literal

/-- Two values have the same text exactly if they say the same, however far it is indented. -/
theorem Value.render_eq_render_iff (indent : Nat) (left right : Value) :
    left.render indent = right.render indent ↔ left.literal = right.literal := by
  rw [← String.toList_inj, Value.toList_render, Value.toList_render]
  constructor
  · intro equal
    have behind :
        left.literal.write indent ++ ',' :: [] = right.literal.write indent ++ ',' :: [] :=
      congrArg (· ++ [',']) equal
    exact (Literal.write_append_inj behind).1
  · intro equal
    rw [equal]

/-! ## Rules -/

theorem append_cons_inj {stop : Char} {left right rest more : List Char} (leftFree : stop ∉ left)
    (rightFree : stop ∉ right) (equal : left ++ stop :: rest = right ++ stop :: more) :
    left = right ∧ rest = more := by
  have single : Readable (fun character => character ≠ stop) fun character => [character] := by
    intro first second _ _ rest more same
    simpa using same
  have stops (text : List Char) :
      StopsBefore (fun character => character ≠ stop) (fun character => [character])
        (stop :: text) := by
    intro character different rest same
    exact different (List.cons.inj same).1
  obtain ⟨same, behind⟩ := single.flatMap
    (fun character member equal => leftFree (equal ▸ member))
    (fun character member equal => rightFree (equal ▸ member)) (stops rest) (stops more)
    (by simpa using equal)
  exact ⟨same, List.tail_eq_of_cons_eq behind⟩

structure Statement where
  kind : String
  name : String
  attributes : List (String × Literal)
  deriving DecidableEq, Repr

def Rule.statement (rule : Rule) : Statement where
  kind := rule.kind
  name := rule.name
  attributes := rule.sortedAttributes.map fun item => (item.name, item.value.literal)

namespace Statement

/-- The names in a statement do not contain what stands behind them. -/
structure IsPlain (statement : Statement) : Prop where
  kind : '(' ∉ statement.kind.toList
  attributes : ∀ item ∈ statement.attributes, ' ' ∉ item.1.toList

def writeAttribute (item : String × Literal) : List Char :=
  "    ".toList ++ (item.1.toList ++ ' ' :: '=' :: ' ' :: (item.2.write 4 ++ [',', '\n']))

def write (statement : Statement) : List Char :=
  statement.kind.toList ++ '(' :: ("\n    name = ".toList ++ (writeText statement.name ++
    (",\n".toList ++ (statement.attributes.flatMap writeAttribute ++ [')']))))

theorem readable_writeAttribute :
    Readable (fun item => ' ' ∉ item.1.toList) writeAttribute := by
  intro left right leftPlain rightPlain rest more equal
  unfold writeAttribute at equal
  simp only [List.append_assoc, List.append_cancel_left_eq, List.cons_append,
    List.nil_append] at equal
  obtain ⟨name, behind⟩ := append_cons_inj leftPlain rightPlain equal
  simp only [List.cons.injEq, true_and] at behind
  obtain ⟨literal, behind⟩ := Literal.write_append_inj behind
  exact ⟨Prod.ext (String.toList_inj.1 name) literal, (List.cons.inj behind).2⟩

theorem readable_write : Readable IsPlain write := by
  intro left right leftPlain rightPlain rest more equal
  simp only [write, List.append_assoc, List.cons_append] at equal
  obtain ⟨kind, equal⟩ := append_cons_inj leftPlain.kind rightPlain.kind equal
  simp only [List.append_cancel_left_eq] at equal
  obtain ⟨name, equal⟩ := readable_writeText trivial trivial equal
  simp only [List.append_cancel_left_eq, List.nil_append] at equal
  have starts (item : String × Literal) (_ : ' ' ∉ item.1.toList) :
      (writeAttribute item).head? = some ' ' := rfl
  obtain ⟨attributes, behind⟩ := readable_writeAttribute.flatMap leftPlain.attributes
    rightPlain.attributes (stopsBefore_cons (by decide) starts rest)
    (stopsBefore_cons (by decide) starts more) equal
  refine ⟨?_, List.tail_eq_of_cons_eq behind⟩
  have kinds := String.toList_inj.1 kind
  cases left
  cases right
  simp_all

end Statement

theorem Rule.toList_render (rule : Rule) : rule.render.toList = rule.statement.write := by
  have written (item : Attribute) : (Rule.renderAttribute item).toList =
      Statement.writeAttribute (item.name, item.value.literal) := by
    unfold Statement.writeAttribute
    simp [Rule.renderAttribute, Value.toList_render]
  simp [Rule.render, Statement.write, Rule.statement, List.flatMap_map, written]

/-! ## Files -/

def writeKinds : List String → List Char
  | [] => []
  | first :: others =>
      writeText first ++ others.flatMap fun kind => ',' :: ' ' :: writeText kind

def writeLoad (load : String × List String) : List Char :=
  "load(".toList ++ (writeText load.1 ++ (", ".toList ++ (writeKinds load.2 ++ [')', '\n'])))

def writeLoads : List (String × List String) → List Char
  | [] => []
  | loads => '\n' :: loads.flatMap writeLoad

def loads (rules : List Rule) : List (String × List String) :=
  (loadLocations rules).map fun location => (location, loadedKinds rules location)

def writeStatement (statement : Statement) : List Char :=
  '\n' :: (statement.write ++ ['\n'])

theorem writeKinds_append_inj {left right : List String} {rest more : List Char}
    (equal : writeKinds left ++ ')' :: rest = writeKinds right ++ ')' :: more) :
    left = right ∧ rest = more := by
  cases left with
  | nil =>
      cases right with
      | nil => exact ⟨rfl, (List.cons.inj equal).2⟩
      | cons first others => simp [writeKinds, writeText] at equal
  | cons first others =>
      cases right with
      | nil => simp [writeKinds, writeText] at equal
      | cons first' others' =>
          simp only [writeKinds, List.append_assoc] at equal
          obtain ⟨rfl, items⟩ := readable_writeText trivial trivial equal
          have another : Readable (fun _ => True) fun kind => ',' :: ' ' :: writeText kind := by
            intro left right _ _ rest more same
            simp only [List.cons_append, List.cons.injEq, true_and] at same
            exact readable_writeText trivial trivial same
          have starts (kind : String) (_ : True) :
              (',' :: ' ' :: writeText kind).head? = some ',' := rfl
          have different : ',' ≠ ')' := by decide
          obtain ⟨rfl, behind⟩ := another.flatMap (fun _ _ => trivial) (fun _ _ => trivial)
            (stopsBefore_cons different starts rest) (stopsBefore_cons different starts more) items
          exact ⟨rfl, (List.cons.inj behind).2⟩

theorem readable_writeLoad : Readable (fun _ => True) writeLoad := by
  intro left right _ _ rest more equal
  unfold writeLoad at equal
  simp only [List.append_assoc, List.append_cancel_left_eq] at equal
  obtain ⟨location, equal⟩ := readable_writeText trivial trivial equal
  simp only [List.append_cancel_left_eq] at equal
  obtain ⟨kinds, behind⟩ := writeKinds_append_inj equal
  exact ⟨Prod.ext location kinds, (List.cons.inj behind).2⟩

theorem readable_writeStatement : Readable Statement.IsPlain writeStatement := by
  intro left right leftPlain rightPlain rest more equal
  simp only [writeStatement, List.cons_append, List.append_assoc, List.cons.injEq, true_and]
    at equal
  obtain ⟨same, behind⟩ := Statement.readable_write leftPlain rightPlain equal
  exact ⟨same, by simpa using behind⟩

/-- No rule looks like a `load` statement: where the latter has a file's name, a rule has a new
line. -/
theorem writeLoad_ne_writeStatements {load : String × List String} {statements : List Statement}
    (plain : ∀ statement ∈ statements, statement.IsPlain) (rest : List Char) :
    '\n' :: (writeLoad load ++ rest) ≠ statements.flatMap writeStatement := by
  intro equal
  cases statements with
  | nil => cases equal
  | cons head tail =>
      unfold writeLoad at equal
      simp only [List.flatMap_cons, writeStatement, List.cons_append, List.append_assoc,
        List.cons.injEq, true_and, Statement.write] at equal
      have kind := (plain head (by simp)).kind
      have behind := (append_cons_inj (show '(' ∉ "load".toList by decide) kind equal).2
      simp [writeText] at behind

theorem stopsBefore_statements (statements : List Statement) :
    StopsBefore (fun _ => True) writeLoad (statements.flatMap writeStatement) := by
  have starts (load : String × List String) (_ : True) : (writeLoad load).head? = some 'l' := rfl
  cases statements with
  | nil =>
      intro load _ rest equal
      cases equal
  | cons head tail => exact stopsBefore_cons (by decide) starts _

theorem writeLoads_append_inj {left right : List (String × List String)}
    {statements others : List Statement} (plain : ∀ statement ∈ statements, statement.IsPlain)
    (othersPlain : ∀ statement ∈ others, statement.IsPlain)
    (equal : writeLoads left ++ statements.flatMap writeStatement =
      writeLoads right ++ others.flatMap writeStatement) :
    left = right ∧ statements = others := by
  have body {rest more : List Statement} (restPlain : ∀ statement ∈ rest, statement.IsPlain)
      (morePlain : ∀ statement ∈ more, statement.IsPlain)
      (same : rest.flatMap writeStatement = more.flatMap writeStatement) : rest = more := by
    have nothing : StopsBefore Statement.IsPlain writeStatement [] := by
      intro statement _ rest equal
      cases equal
    exact (readable_writeStatement.flatMap restPlain morePlain nothing nothing
      (by simpa using same)).1
  match left, right with
  | [], [] => exact ⟨rfl, body plain othersPlain equal⟩
  | [], load :: loads =>
      have same : '\n' :: (writeLoad load ++ (loads.flatMap writeLoad ++
          others.flatMap writeStatement)) = statements.flatMap writeStatement := by
        simpa [writeLoads] using equal.symm
      exact absurd same (writeLoad_ne_writeStatements plain _)
  | load :: loads, [] =>
      have same : '\n' :: (writeLoad load ++ (loads.flatMap writeLoad ++
          statements.flatMap writeStatement)) = others.flatMap writeStatement := by
        simpa [writeLoads] using equal
      exact absurd same (writeLoad_ne_writeStatements othersPlain _)
  | load :: loads, load' :: loads' =>
      simp only [writeLoads, List.cons_append, List.cons.injEq, true_and] at equal
      obtain ⟨same, behind⟩ := readable_writeLoad.flatMap (by simp) (by simp)
        (stopsBefore_statements statements) (stopsBefore_statements others) equal
      exact ⟨same, body plain othersPlain behind⟩

theorem toList_intercalate_quote (kinds : List String) :
    (", ".intercalate (kinds.map quote)).toList = writeKinds kinds := by
  have behind (others : List String) : ∀ first,
      (", ".intercalate ((first :: others).map quote)).toList =
        writeText first ++ others.flatMap fun kind => ',' :: ' ' :: writeText kind := by
    induction others with
    | nil => simp
    | cons second others induction =>
        intro first
        have rest := induction second
        simp only [List.map_cons] at rest
        simp [String.intercalate_cons_cons, rest]
  cases kinds with
  | nil => simp [writeKinds]
  | cons first others => exact behind others first

theorem toList_renderLoad (rules : List Rule) (location : String) :
    (renderLoad rules location).toList = writeLoad (location, loadedKinds rules location) := by
  simp only [renderLoad, String.toList_append, toList_intercalate_quote]
  unfold writeLoad
  simp

theorem toList_renderLoads (rules : List Rule) :
    (renderLoads rules).toList = writeLoads (loads rules) := by
  unfold renderLoads loads
  cases loadLocations rules with
  | nil => simp [writeLoads]
  | cons first others => simp [writeLoads, List.flatMap_map, toList_renderLoad]

theorem toList_renderFile (rules : List Rule) :
    (renderFile rules).toList = "# Generated by xsd-config\n".toList ++
      (writeLoads (loads rules) ++ (rules.map Rule.statement).flatMap writeStatement) := by
  have statements : (String.join (rules.map fun rule => "\n" ++ rule.render ++ "\n")).toList =
      (rules.map Rule.statement).flatMap writeStatement := by
    simp [List.flatMap_map, writeStatement, Rule.toList_render]
  have split (heading loads body : String) : (heading ++ loads ++ body).toList =
      heading.toList ++ (loads.toList ++ body.toList) := by
    simp
  rw [← toList_renderLoads, ← statements]
  exact split _ _ _

/-- A BUILD file tells what its rules say, and in which order. -/
theorem statements_of_renderFile {rules others : List Rule}
    (plain : ∀ rule ∈ rules, rule.statement.IsPlain)
    (othersPlain : ∀ rule ∈ others, rule.statement.IsPlain)
    (equal : renderFile rules = renderFile others) :
    loads rules = loads others ∧ rules.map Rule.statement = others.map Rule.statement := by
  have texts := congrArg String.toList equal
  rw [toList_renderFile, toList_renderFile, List.append_cancel_left_eq] at texts
  exact writeLoads_append_inj (by simpa using plain) (by simpa using othersPlain) texts

end SchemaBuild.Starlark
