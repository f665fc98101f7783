import SchemaBuild.Proofs.Footprints
import SchemaBuild.Proofs.PlainText

/-!
# Literal words

To a shell most signs of a command line mean more than themselves: they end a command, redirect it,
begin an expansion or a pattern. A line is literal if it meets no such sign outside of single
quotes, so that it is nothing but words. This is the strict way to read a line: it gives up at any
such sign. Where a value stands without quotes, it is a literal word exactly if it has
none. -/

namespace SchemaBuild.Ninja

/-! ## Reading literal lines -/

def isShellBlank (character : Char) : Bool :=
  character = ' ' || character = '\t'

/-- The signs that never stand for themselves without quotes: they end a command, redirect, quote,
or begin an expansion or a pattern. -/
def shellSigns : List Char :=
  ['|', '&', ';', '<', '>', '(', ')', '\n', '$', '\x60', '\\', '"', '*', '?', '[']

def isShellSign (character : Char) : Bool :=
  shellSigns.contains character

/-- A sign that begins a comment or stands for a home directory, where a word starts with it. -/
def isShellOpener (character : Char) : Bool :=
  character = '#' || character = '~'

/-- Read words up to the end of a line, unless some sign means more than itself. `quoted` tells
whether a single quote is open, and `word` is the word so far, if one was begun. -/
def literalFrom? : Bool → Option (List Char) → List Char → Option (List (List Char))
  | false, word, [] => some word.toList
  | true, _, [] => none
  | true, word, character :: rest =>
      if character = '\'' then literalFrom? false word rest
      else literalFrom? true (some (word.getD [] ++ [character])) rest
  | false, word, character :: rest =>
      if character = '\'' then literalFrom? true (some (word.getD [])) rest
      else if isShellBlank character then
        (literalFrom? false none rest).map fun words => word.toList ++ words
      else if isShellSign character || (word.isNone && isShellOpener character) then none
      else literalFrom? false (some (word.getD [] ++ [character])) rest

def literalWords? (line : List Char) : Option (List (List Char)) :=
  literalFrom? false none line

/-- Nothing but a blank ends a word, so that lines can be read one after the other. -/
theorem literalFrom?_append {quoted : Bool} {word : Option (List Char)} {left : List Char}
    {words : List (List Char)} (read : literalFrom? quoted word left = some words)
    (right : List Char) :
    literalFrom? quoted word (left ++ ' ' :: right) =
      (literalWords? right).map fun others => words ++ others := by
  induction left generalizing quoted word words with
  | nil =>
      cases quoted with
      | true => cases read
      | false =>
          obtain rfl := Option.some.inj read
          rw [List.nil_append, literalFrom?, if_neg (by decide), if_pos (by decide)]
          rfl
  | cons character rest induction =>
      cases quoted with
      | true =>
          rw [List.cons_append, literalFrom?]
          rw [literalFrom?] at read
          split at read
          next quote => rw [if_pos quote, induction read]
          next noQuote => rw [if_neg noQuote, induction read]
      | false =>
          rw [List.cons_append, literalFrom?]
          rw [literalFrom?] at read
          split at read
          next quote => rw [if_pos quote, induction read]
          next noQuote =>
            rw [if_neg noQuote]
            split at read
            next blank =>
              obtain ⟨later, readLater, rfl⟩ := Option.map_eq_some_iff.1 read
              rw [if_pos blank, induction readLater]
              simp [Option.map_map, Function.comp_def]
            next noBlank =>
              rw [if_neg noBlank]
              split at read
              next => cases read
              next noSign => rw [if_neg noSign, induction read]

theorem literalWords?_intercalate {texts words : List (List Char)}
    (literal : List.Forall₂ (fun text word => literalWords? text = some [word]) texts words) :
    literalWords? ([' '].intercalate texts) = some words := by
  induction literal with
  | nil => rfl
  | cons reads others induction =>
      cases others with
      | nil => simpa using reads
      | cons next others =>
          rw [List.intercalate_cons_cons, List.append_assoc, List.singleton_append, literalWords?,
            literalFrom?_append reads, induction]
          rfl

/-! ## Quoted words -/

theorem literalFrom?_quoted {word : List Char} (clear : '\'' ∉ word) (begun : List Char) :
    literalFrom? true (some begun) (word ++ ['\'']) = some [begun ++ word] := by
  induction word generalizing begun with
  | nil => simp [literalFrom?]
  | cons head tail induction =>
      have notQuote : head ≠ '\'' := (List.ne_of_not_mem_cons clear).symm
      rw [List.cons_append, literalFrom?, if_neg notQuote]
      simpa using induction (List.not_mem_of_not_mem_cons clear) (begun ++ [head])

theorem literalWords?_quoted {word : List Char} (clear : '\'' ∉ word) :
    literalWords? ('\'' :: word ++ ['\'']) = some [word] := by
  rw [literalWords?, List.cons_append, literalFrom?, if_pos rfl]
  exact literalFrom?_quoted clear []

/-! ## Words without quotes -/

/-- A text that a shell takes as it stands: no sign in it means more than itself. -/
def IsLiteral (text : List Char) : Prop :=
  (∀ character ∈ text, isShellSign character = false) ∧
    ∀ first ∈ text.head?, isShellOpener first = false

instance (text : List Char) : Decidable (IsLiteral text) :=
  decidable_of_iff (text.all (!isShellSign ·) = true ∧ text.head?.all (!isShellOpener ·) = true)
    (by cases text <;> simp [IsLiteral])

theorem literalFrom?_begun {text begun : List Char}
    (clear : ∀ character ∈ text, character ≠ '\'' ∧ isShellBlank character = false)
    (noSign : ∀ character ∈ text, isShellSign character = false) :
    literalFrom? false (some begun) text = some [begun ++ text] := by
  induction text generalizing begun with
  | nil => simp [literalFrom?]
  | cons head tail induction =>
      obtain ⟨noQuote, noBlank⟩ := clear head List.mem_cons_self
      have noHeadSign := noSign head List.mem_cons_self
      rw [literalFrom?, if_neg noQuote, noBlank, if_neg Bool.false_ne_true, noHeadSign]
      have read : literalFrom? false (some (begun ++ [head])) tail =
          some [begun ++ [head] ++ tail] :=
        induction (fun other member => clear other (List.mem_cons_of_mem _ member))
          (fun other member => noSign other (List.mem_cons_of_mem _ member))
      simpa using read

/-- A literal line has no sign outside of quotes, so a line without quotes has none at all. -/
theorem noSign_of_literalFrom? {text : List Char} {word : Option (List Char)}
    {words : List (List Char)} (noQuote : '\'' ∉ text)
    (read : literalFrom? false word text = some words) :
    ∀ character ∈ text, isShellSign character = false := by
  induction text generalizing word words with
  | nil => simp
  | cons head tail induction =>
      have notHead : head ≠ '\'' := (List.ne_of_not_mem_cons noQuote).symm
      have notTail := List.not_mem_of_not_mem_cons noQuote
      rw [literalFrom?, if_neg notHead] at read
      split at read
      next blank =>
        obtain ⟨later, readLater, -⟩ := Option.map_eq_some_iff.1 read
        have noHeadSign : isShellSign head = false := by
          simp only [isShellBlank, Bool.or_eq_true, decide_eq_true_eq] at blank
          rcases blank with rfl | rfl <;> decide
        exact List.forall_mem_cons.2 ⟨noHeadSign, induction notTail readLater⟩
      next =>
        split at read
        next => cases read
        next literal =>
          have noHeadSign : isShellSign head = false := by
            cases sign : isShellSign head with
            | false => rfl
            | true => simp [sign] at literal
          exact List.forall_mem_cons.2 ⟨noHeadSign, induction notTail read⟩

theorem literalWords?_eq_some_iff {text : String} (plain : isPlainPath text = true) :
    literalWords? text.toList = some [text.toList] ↔ IsLiteral text.toList := by
  have clear (character : Char) (member : character ∈ text.toList) :
      character ≠ '\'' ∧ isShellBlank character = false := by
    have refused (sign : Char) (isRefused : isPathCharacter sign = false) : character ≠ sign := by
      rintro rfl
      exact notMem_of_isPlainPath plain isRefused member
    exact ⟨refused '\'' (by decide), by
      simp [isShellBlank, refused ' ' (by decide), refused '\t' (by decide)]⟩
  have noQuote : '\'' ∉ text.toList := fun member => (clear _ member).1 rfl
  have nonempty := (isPlainPath_iff.1 plain).1
  generalize text.toList = characters at *
  obtain ⟨head, tail, rfl⟩ := List.exists_cons_of_ne_nil nonempty
  obtain ⟨notQuote, notBlank⟩ := clear head List.mem_cons_self
  have read : literalWords? (head :: tail) =
      if isShellSign head || isShellOpener head then none
      else literalFrom? false (some [head]) tail := by
    rw [literalWords?, literalFrom?, if_neg notQuote, notBlank, if_neg Bool.false_ne_true]
    rfl
  constructor
  · intro literal
    refine ⟨noSign_of_literalFrom? noQuote literal, ?_⟩
    rintro _ ⟨⟩
    rw [read] at literal
    cases opens : isShellOpener head with
    | false => rfl
    | true =>
        rw [opens, Bool.or_true, if_pos rfl] at literal
        cases literal
  · rintro ⟨noSign, noOpener⟩
    have noHeadSign := noSign head List.mem_cons_self
    have noHeadOpener := noOpener head rfl
    rw [read, noHeadSign, noHeadOpener]
    exact literalFrom?_begun (fun other member => clear other (List.mem_cons_of_mem _ member))
      (fun other member => noSign other (List.mem_cons_of_mem _ member))

end SchemaBuild.Ninja
