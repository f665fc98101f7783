import SchemaBuild.Text.Bytes

/-!
# Texts and their bytes

The bytes of a text determine it, ASCII characters stand for themselves and occur nowhere else, and
texts are ordered like their bytes. What is sorted by texts ascends in this order.
-/

namespace SchemaBuild

theorem Text.pairwise_mergeSort {α : Type} (key : α → String) (items : List α) :
    (items.mergeSort fun left right => decide (key left ≤ key right)).Pairwise
      fun left right => key left ≤ key right := by
  have sorted : (items.mergeSort fun left right => decide (key left ≤ key right)).Pairwise
      fun left right => decide (key left ≤ key right) = true := by
    apply List.pairwise_mergeSort
    · intro first second third before after
      exact decide_eq_true (String.le_trans (of_decide_eq_true before) (of_decide_eq_true after))
    · intro left right
      simpa using String.le_total (key left) (key right)
  exact sorted.imp of_decide_eq_true

namespace Bytes

theorem ofString_append (left right : String) :
    ofString (left ++ right) = ofString left ++ ofString right := by
  simp [ofString, String.toByteArray_append]

theorem ofString_eq_flatMap (text : String) :
    ofString text = text.toList.flatMap String.utf8EncodeChar := by
  rw [ofString, ← String.utf8Encode_toList, List.utf8Encode]
  simp

theorem ofString_inj {left right : String} (equal : ofString left = ofString right) :
    left = right := by
  rw [← String.toByteArray_inj]
  exact ByteArray.ext (Array.toList_inj.1 equal)

/-! ## The bytes of a character -/

inductive Spelled : Nat → Bytes → Prop
  | one {value : Nat} (small : value < 0x80) : Spelled value [UInt8.ofNat value]
  | two {value : Nat} (large : 0x80 ≤ value) (small : value < 0x800) :
      Spelled value [UInt8.ofNat (value / 64 + 0xc0), UInt8.ofNat (value % 64 + 0x80)]
  | three {value : Nat} (large : 0x800 ≤ value) (small : value < 0x10000)
      (noSurrogate : value < 0xd800 ∨ 0xdfff < value) :
      Spelled value [UInt8.ofNat (value / 4096 + 0xe0), UInt8.ofNat (value / 64 % 64 + 0x80),
        UInt8.ofNat (value % 64 + 0x80)]
  | four {value : Nat} (large : 0x10000 ≤ value) (small : value < 0x110000) :
      Spelled value [UInt8.ofNat (value / 262144 + 0xf0), UInt8.ofNat (value / 4096 % 64 + 0x80),
        UInt8.ofNat (value / 64 % 64 + 0x80), UInt8.ofNat (value % 64 + 0x80)]

theorem spelled_char (character : Char) :
    Spelled character.toNat (String.utf8EncodeChar character) := by
  have valid : character.toNat < 0xd800 ∨ 0xdfff < character.toNat ∧ character.toNat < 0x110000 :=
    character.valid
  have value : character.val.toNat = character.toNat := rfl
  rw [String.utf8EncodeChar]
  simp only [value]
  by_cases one : character.toNat ≤ 0x7f
  · rw [if_pos one]
    exact .one (by omega)
  by_cases two : character.toNat ≤ 0x7ff
  · have first : character.toNat / 64 % 32 = character.toNat / 64 := by omega
    rw [if_neg one, if_pos two, first]
    exact .two (by omega) (by omega)
  by_cases three : character.toNat ≤ 0xffff
  · have first : character.toNat / 4096 % 16 = character.toNat / 4096 := by omega
    rw [if_neg one, if_neg two, if_pos three, first]
    exact .three (by omega) (by omega) (by omega)
  · have first : character.toNat / 262144 % 8 = character.toNat / 262144 := by omega
    rw [if_neg one, if_neg two, if_neg three, first]
    exact .four (by omega) (by omega)

theorem Spelled.eq_of_mem {value : Nat} {bytes : Bytes} (spelled : Spelled value bytes)
    {byte : UInt8} (ascii : byte.toNat < 0x80) (member : byte ∈ bytes) : value = byte.toNat := by
  cases spelled with
  | one small =>
      obtain rfl := List.mem_singleton.1 member
      simp only [UInt8.toNat_ofNat']
      omega
  | two large small =>
      simp only [List.mem_cons, List.not_mem_nil, or_false] at member
      rcases member with rfl | rfl <;> simp only [UInt8.toNat_ofNat'] at ascii ⊢ <;> omega
  | three large small =>
      simp only [List.mem_cons, List.not_mem_nil, or_false] at member
      rcases member with rfl | rfl | rfl <;> simp only [UInt8.toNat_ofNat'] at ascii ⊢ <;> omega
  | four large small =>
      simp only [List.mem_cons, List.not_mem_nil, or_false] at member
      rcases member with rfl | rfl | rfl | rfl <;> simp only [UInt8.toNat_ofNat'] at ascii ⊢ <;>
        omega

theorem mem_of_mem_ofString {text : String} {character : Char} (ascii : character.toNat < 0x80)
    (member : UInt8.ofNat character.toNat ∈ ofString text) : character ∈ text.toList := by
  rw [ofString_eq_flatMap] at member
  obtain ⟨other, inText, member⟩ := List.mem_flatMap.1 member
  have number : (UInt8.ofNat character.toNat).toNat = character.toNat := by
    simp only [UInt8.toNat_ofNat']
    omega
  have same := (spelled_char other).eq_of_mem (number.symm ▸ ascii) member
  rw [number] at same
  rwa [← Char.toNat_inj.1 same]

/-! ## Order -/

/-- Spellings are ordered like the numbers, whatever comes after them. -/
theorem Spelled.lt {left right : Nat} {leftBytes rightBytes : Bytes}
    (leftSpelled : Spelled left leftBytes) (rightSpelled : Spelled right rightBytes)
    (less : left < right) (leftRest rightRest : Bytes) :
    leftBytes ++ leftRest < rightBytes ++ rightRest := by
  cases leftSpelled <;> cases rightSpelled <;>
    simp only [List.cons_append, List.nil_append, List.cons_lt_cons_iff, UInt8.lt_iff_toNat_lt,
      ← UInt8.toNat_inj, UInt8.toNat_ofNat']
  case four.four =>
    -- The digits to the base of 64 are compared one after the other.
    have leftDigits : left = 262144 * (left / 262144) + 4096 * (left / 4096 % 64) +
        64 * (left / 64 % 64) + left % 64 := by omega
    have rightDigits : right = 262144 * (right / 262144) + 4096 * (right / 4096 % 64) +
        64 * (right / 64 % 64) + right % 64 := by omega
    have leftSmall : left / 262144 < 8 ∧ left / 4096 % 64 < 64 ∧ left / 64 % 64 < 64 ∧
        left % 64 < 64 := by omega
    have rightSmall : right / 262144 < 8 ∧ right / 4096 % 64 < 64 ∧ right / 64 % 64 < 64 ∧
        right % 64 < 64 := by omega
    generalize left / 262144 = left₁, left / 4096 % 64 = left₂, left / 64 % 64 = left₃,
      left % 64 = left₄ at *
    generalize right / 262144 = right₁, right / 4096 % 64 = right₂, right / 64 % 64 = right₃,
      right % 64 = right₄ at *
    omega
  all_goals omega

theorem flatMap_lt {left right : List Char} (less : left < right) :
    left.flatMap String.utf8EncodeChar < right.flatMap String.utf8EncodeChar := by
  induction left generalizing right with
  | nil =>
      cases right with
      | nil => exact absurd less (List.lt_irrefl [])
      | cons head tail =>
          rw [List.flatMap_nil, List.flatMap_cons]
          cases spelled : String.utf8EncodeChar head with
          | nil => exact absurd spelled String.utf8EncodeChar_ne_nil
          | cons => exact List.nil_lt_cons ..
  | cons first rest induction =>
      cases right with
      | nil => exact absurd less (List.not_lt_nil _)
      | cons head tail =>
          rw [List.flatMap_cons, List.flatMap_cons]
          rcases List.cons_lt_cons_iff.1 less with before | ⟨rfl, behind⟩
          · exact (spelled_char first).lt (spelled_char head) before _ _
          · exact List.append_left_lt (induction behind)

theorem ofString_lt {left right : String} (less : left < right) :
    ofString left < ofString right := by
  rw [ofString_eq_flatMap, ofString_eq_flatMap]
  exact flatMap_lt less

end Bytes

end SchemaBuild
