import SchemaBuild.Proofs.Text.Utf8

/-!
# Reading bytes that may not be text

Bytes that are text are read back as this text. From other bytes nothing is read that looks like
ASCII and was not there: a character that takes several bytes, or a replacement mark, is always
left.
-/

namespace SchemaBuild.Bytes

/-! ## Characters that have begun -/

/-- What is still owed of a character that began with one of the bytes for that. However it is
continued, no ASCII character and no surrogate comes out. -/
structure Pending.Begun (pending : Pending) : Prop where
  low : 0x80 ≤ pending.low.toNat
  high : pending.high.toNat ≤ 0xbf
  owed : pending.owed = 1 ∧ 2 ≤ pending.bits ∧ pending.bits < 17408 ∧
      (pending.bits < 864 ∨ 896 ≤ pending.bits) ∨
    pending.owed = 2 ∧ pending.bits < 272 ∧ (pending.bits = 0 → 0xa0 ≤ pending.low.toNat) ∧
      (pending.bits = 13 → pending.high.toNat ≤ 0x9f) ∨
    pending.owed = 3 ∧ pending.bits < 5 ∧ (pending.bits = 0 → 0x90 ≤ pending.low.toNat) ∧
      (pending.bits = 4 → pending.high.toNat ≤ 0x8f)

theorem begin_cases (byte : UInt8) :
    byte.toNat < 0x80 ∧ begin byte = ([Char.ofNat byte.toNat], {}) ∨
      begin byte = ([replacement], {}) ∨ ∃ pending, begin byte = ([], pending) ∧ pending.Begun := by
  have bound := byte.toNat_lt
  unfold begin
  by_cases one : byte.toNat < 0x80
  · exact .inl ⟨one, by simp [one]⟩
  by_cases stray : byte.toNat < 0xc2
  · exact .inr (.inl (by simp [one, stray]))
  by_cases two : byte.toNat < 0xe0
  · refine .inr (.inr ⟨_, by simp only [one, stray, two, if_true, if_false]; rfl, ?_⟩)
    exact ⟨by simp, by simp, .inl ⟨rfl, by simp only; omega⟩⟩
  by_cases three : byte.toNat < 0xf0
  · refine .inr (.inr ⟨_, by simp only [one, stray, two, three, if_true, if_false]; rfl, ?_⟩)
    refine ⟨?_, ?_, .inr (.inl ⟨rfl, ?_, ?_, ?_⟩)⟩
    · simp only
      split <;> simp
    · simp only
      split <;> simp
    · simp only
      omega
    · intro none
      have first : byte.toNat = 0xe0 := by
        simp only at none
        omega
      simp [first]
    · intro thirteen
      have first : byte.toNat = 0xed := by
        simp only at thirteen
        omega
      simp [first]
  by_cases four : byte.toNat < 0xf5
  · refine .inr (.inr ⟨_, by simp only [one, stray, two, three, four, if_true, if_false]; rfl, ?_⟩)
    refine ⟨?_, ?_, .inr (.inr ⟨rfl, ?_, ?_, ?_⟩)⟩
    · simp only
      split <;> simp
    · simp only
      split <;> simp
    · simp only
      omega
    · intro none
      have first : byte.toNat = 0xf0 := by
        simp only at none
        omega
      simp [first]
    · intro last
      have first : byte.toNat = 0xf4 := by
        simp only at last
        omega
      simp [first]
  · exact .inr (.inl (by simp [one, stray, two, three, four]))

/-! ## One byte -/

theorem readLossy_cons_fresh (byte : UInt8) (rest : Bytes) :
    readLossy {} (byte :: rest) = (begin byte).1 ++ readLossy (begin byte).2 rest := by
  simp [readLossy]

/-- What a byte does to a character that has begun: it ends the character, it continues it, or it
is read afresh after a mark for what was there of it. -/
theorem Pending.Begun.readLossy_cons {pending : Pending} (begun : pending.Begun) (byte : UInt8)
    (rest : Bytes) :
    (∃ value, 0x80 ≤ value ∧ value.isValidChar ∧
        readLossy pending (byte :: rest) = Char.ofNat value :: readLossy {} rest) ∨
      (∃ next : Pending, next.Begun ∧ readLossy pending (byte :: rest) = readLossy next rest) ∨
      readLossy pending (byte :: rest) = replacement :: readLossy {} (byte :: rest) := by
  obtain ⟨low, high, owed⟩ := begun
  have some : pending.owed ≠ 0 := by omega
  rw [readLossy, if_neg some]
  by_cases continues : pending.low ≤ byte ∧ byte ≤ pending.high
  · have bounds : pending.low.toNat ≤ byte.toNat ∧ byte.toNat ≤ pending.high.toNat := continues
    rw [if_pos (by simpa using continues)]
    by_cases last : pending.owed = 1
    · refine .inl ⟨pending.bits * 0x40 + (byte.toNat - 0x80), by omega, ?_, by simp [last]⟩
      rw [Nat.isValidChar]
      omega
    · refine .inr (.inl ⟨_, ?_, by simp only [last, if_false]; rfl⟩)
      refine ⟨by simp, by simp, ?_⟩
      simp only
      rcases owed with one | two | three
      · exact absurd one.1 last
      · exact .inl (by omega)
      · refine .inr (.inl ⟨by omega, by omega, ?_, ?_⟩)
        · intro none
          omega
        · intro thirteen
          omega
  · rw [if_neg (by simpa using continues), readLossy_cons_fresh]
    exact .inr (.inr rfl)

/-! ## ASCII -/

theorem replacement_toNat : replacement.toNat = 0xfffd := by
  decide

theorem toNat_ofNat_of_isValidChar {value : Nat} (valid : value.isValidChar) :
    (Char.ofNat value).toNat = value := by
  rw [Char.ofNat, dif_pos valid]
  rfl

theorem ofNat_toNat_of_small {byte : UInt8} (small : byte.toNat < 0x80) :
    (Char.ofNat byte.toNat).toNat = byte.toNat :=
  toNat_ofNat_of_isValidChar (.inl (by omega))

theorem Pending.Begun.exists_large {pending : Pending} (begun : pending.Begun) (bytes : Bytes) :
    ∃ character ∈ readLossy pending bytes, 0x80 ≤ character.toNat := by
  have mark : 0x80 ≤ replacement.toNat := by decide
  induction bytes generalizing pending with
  | nil =>
      have some : pending.owed ≠ 0 := by
        have owed := begun.owed
        omega
      exact ⟨replacement, by simp [readLossy, some], mark⟩
  | cons byte rest induction =>
      rcases begun.readLossy_cons byte rest with
        ⟨value, large, valid, read⟩ | ⟨next, nextBegun, read⟩ | read
      · rw [read]
        exact ⟨_, List.mem_cons_self, (toNat_ofNat_of_isValidChar valid).symm ▸ large⟩
      · rw [read]
        exact induction nextBegun
      · rw [read]
        exact ⟨_, List.mem_cons_self, mark⟩

theorem eq_map_of_ascii {bytes : Bytes}
    (ascii : ∀ character ∈ readLossy {} bytes, character.toNat < 0x80) :
    bytes = (readLossy {} bytes).map fun character => UInt8.ofNat character.toNat := by
  induction bytes with
  | nil => rfl
  | cons byte rest induction =>
      rw [readLossy_cons_fresh] at ascii ⊢
      rcases begin_cases byte with ⟨small, begins⟩ | begins | ⟨pending, begins, begun⟩
      · rw [begins] at ascii ⊢
        have restAscii := induction fun character member =>
          ascii character (List.mem_append_right _ member)
        simp only [List.cons_append, List.nil_append, List.map_cons,
          ofNat_toNat_of_small small, UInt8.ofNat_toNat]
        rw [← restAscii]
      · rw [begins] at ascii
        have mark := ascii replacement (by simp)
        rw [replacement_toNat] at mark
        omega
      · rw [begins] at ascii
        obtain ⟨character, member, large⟩ := begun.exists_large rest
        have small := ascii character (List.mem_append_right _ member)
        omega

theorem mem_of_mem_readLossy {pending : Pending} (fresh : pending = {} ∨ pending.Begun)
    {bytes : Bytes} {character : Char} (ascii : character.toNat < 0x80)
    (member : character ∈ readLossy pending bytes) : UInt8.ofNat character.toNat ∈ bytes := by
  have notMark : character ≠ replacement := by
    rintro rfl
    rw [replacement_toNat] at ascii
    omega
  induction bytes generalizing pending with
  | nil =>
      rw [readLossy] at member
      split at member
      · cases member
      · exact absurd (List.mem_singleton.1 member) notMark
  | cons byte rest induction =>
      have afresh (member : character ∈ readLossy {} (byte :: rest)) :
          UInt8.ofNat character.toNat ∈ byte :: rest := by
        rw [readLossy_cons_fresh, List.mem_append] at member
        rcases begin_cases byte with ⟨small, begins⟩ | begins | ⟨next, begins, begun⟩
        · rw [begins] at member
          rcases member with here | behind
          · obtain rfl := List.mem_singleton.1 here
            rw [ofNat_toNat_of_small small, UInt8.ofNat_toNat]
            exact List.mem_cons_self
          · exact List.mem_cons_of_mem _ (induction (.inl rfl) behind)
        · rw [begins] at member
          rcases member with here | behind
          · exact absurd (List.mem_singleton.1 here) notMark
          · exact List.mem_cons_of_mem _ (induction (.inl rfl) behind)
        · rw [begins] at member
          rcases member with here | behind
          · cases here
          · exact List.mem_cons_of_mem _ (induction (.inr begun) behind)
      rcases fresh with rfl | begun
      · exact afresh member
      · rcases begun.readLossy_cons byte rest with
          ⟨value, large, valid, read⟩ | ⟨next, nextBegun, read⟩ | read
        · rw [read] at member
          rcases List.mem_cons.1 member with rfl | behind
          · rw [toNat_ofNat_of_isValidChar valid] at ascii
            omega
          · exact List.mem_cons_of_mem _ (induction (.inl rfl) behind)
        · rw [read] at member
          exact List.mem_cons_of_mem _ (induction (.inr nextBegun) member)
        · rw [read] at member
          exact afresh ((List.mem_cons.1 member).resolve_left notMark)

/-! ## Text -/

theorem readLossy_digit {owed bits digit : Nat} {low high : UInt8} (some : owed ≠ 0)
    (small : digit < 64) (bounds : low.toNat ≤ digit + 0x80 ∧ digit + 0x80 ≤ high.toNat)
    (rest : Bytes) :
    readLossy ⟨owed, low, high, bits⟩ (UInt8.ofNat (digit + 0x80) :: rest) =
      if owed = 1 then Char.ofNat (bits * 0x40 + digit) :: readLossy {} rest
      else readLossy ⟨owed - 1, 0x80, 0xbf, bits * 0x40 + digit⟩ rest := by
  have number : (UInt8.ofNat (digit + 0x80)).toNat = digit + 0x80 := by
    simp only [UInt8.toNat_ofNat']
    omega
  have within : low ≤ UInt8.ofNat (digit + 0x80) ∧ UInt8.ofNat (digit + 0x80) ≤ high := by
    rw [UInt8.le_iff_toNat_le, UInt8.le_iff_toNat_le, number]
    exact bounds
  rw [readLossy, if_neg some, if_pos (by simpa using within), number, Nat.add_sub_cancel]

theorem readLossy_spelled {character : Char} {bytes : Bytes}
    (spelled : Spelled character.toNat bytes) (rest : Bytes) :
    readLossy {} (bytes ++ rest) = character :: readLossy {} rest := by
  have whole : Char.ofNat character.toNat = character := Char.ofNat_toNat character
  generalize character.toNat = value at spelled whole
  cases spelled with
  | one small =>
      have first : (UInt8.ofNat value).toNat = value := by
        simp only [UInt8.toNat_ofNat']
        omega
      simp [readLossy, begin, first, small, whole]
  | two large small =>
      have first : (UInt8.ofNat (value / 64 + 0xc0)).toNat = value / 64 + 0xc0 := by
        simp only [UInt8.toNat_ofNat']
        omega
      have begins : begin (UInt8.ofNat (value / 64 + 0xc0)) =
          ([], ⟨1, 0x80, 0xbf, value / 64⟩) := by
        rw [begin, first]
        simp only [Nat.add_sub_cancel]
        rw [if_neg (by omega), if_neg (by omega), if_pos (by omega)]
      have digits : value / 64 * 0x40 + value % 64 = value := by omega
      rw [List.cons_append, List.cons_append, List.nil_append, readLossy_cons_fresh, begins,
        List.nil_append, readLossy_digit (by decide) (by omega) (by simp; omega), if_pos rfl,
        digits, whole]
  | three large small noSurrogate =>
      have first : (UInt8.ofNat (value / 4096 + 0xe0)).toNat = value / 4096 + 0xe0 := by
        simp only [UInt8.toNat_ofNat']
        omega
      have begins : begin (UInt8.ofNat (value / 4096 + 0xe0)) =
          ([], ⟨2, if value / 4096 = 0 then 0xa0 else 0x80,
            if value / 4096 = 13 then 0x9f else 0xbf, value / 4096⟩) := by
        rw [begin, first]
        simp only [Nat.add_sub_cancel]
        rw [if_neg (by omega), if_neg (by omega), if_neg (by omega), if_pos (by omega)]
        simp
      have low : (if value / 4096 = 0 then (0xa0 : UInt8) else 0x80).toNat ≤
          value / 64 % 64 + 0x80 := by
        split <;> simp
        omega
      have high : value / 64 % 64 + 0x80 ≤
          (if value / 4096 = 13 then (0x9f : UInt8) else 0xbf).toNat := by
        split <;> simp <;> omega
      have digits : (value / 4096 * 0x40 + value / 64 % 64) * 0x40 + value % 64 = value := by
        omega
      rw [List.cons_append, List.cons_append, List.cons_append, List.nil_append,
        readLossy_cons_fresh, begins, List.nil_append,
        readLossy_digit (by decide) (by omega) ⟨low, high⟩, if_neg (by decide),
        readLossy_digit (by decide) (by omega) (by simp; omega), if_pos rfl, digits, whole]
  | four large small =>
      have first : (UInt8.ofNat (value / 262144 + 0xf0)).toNat = value / 262144 + 0xf0 := by
        simp only [UInt8.toNat_ofNat']
        omega
      have begins : begin (UInt8.ofNat (value / 262144 + 0xf0)) =
          ([], ⟨3, if value / 262144 = 0 then 0x90 else 0x80,
            if value / 262144 = 4 then 0x8f else 0xbf, value / 262144⟩) := by
        rw [begin, first]
        simp only [Nat.add_sub_cancel]
        rw [if_neg (by omega), if_neg (by omega), if_neg (by omega), if_neg (by omega),
          if_pos (by omega)]
        simp
      have low : (if value / 262144 = 0 then (0x90 : UInt8) else 0x80).toNat ≤
          value / 4096 % 64 + 0x80 := by
        split <;> simp
        omega
      have high : value / 4096 % 64 + 0x80 ≤
          (if value / 262144 = 4 then (0x8f : UInt8) else 0xbf).toNat := by
        split <;> simp <;> omega
      have digits : ((value / 262144 * 0x40 + value / 4096 % 64) * 0x40 + value / 64 % 64) * 0x40 +
          value % 64 = value := by omega
      rw [List.cons_append, List.cons_append, List.cons_append, List.cons_append, List.nil_append,
        readLossy_cons_fresh, begins, List.nil_append,
        readLossy_digit (by decide) (by omega) ⟨low, high⟩, if_neg (by decide),
        readLossy_digit (by decide) (by omega) (by simp; omega), if_neg (by decide),
        readLossy_digit (by decide) (by omega) (by simp; omega), if_pos rfl, digits, whole]

theorem toStringLossy_ofString (text : String) : (ofString text).toStringLossy = text := by
  have read (characters : List Char) :
      readLossy {} (characters.flatMap String.utf8EncodeChar) = characters := by
    induction characters with
    | nil => rfl
    | cons head tail induction =>
        rw [List.flatMap_cons, readLossy_spelled (spelled_char head), induction]
  rw [toStringLossy, ofString_eq_flatMap, read, String.ofList_toList]

end SchemaBuild.Bytes
