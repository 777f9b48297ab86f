import SequenceBridge.Text.Utf8

/-! # Texts in bytes and back
The bytes of a character are one, two, three or four: a first byte that says how many follow, with the
uppermost bits of the code point, and six more bits in each byte behind it. Read byte by byte they make
up the character again, so that every text is read back from its bytes.

* **`Bytes.charsFrom_last`**, **`Bytes.charsFrom_more`** — one byte behind the first.
* **`Bytes.begin_two`**, **`Bytes.begin_three`**, **`Bytes.begin_four`** — what a first byte says.
* **`Bytes.charsFrom_utf8EncodeChar`** — the bytes of a character are read as that character.
* **`Bytes.text?_toBytes`** — the bytes of a text are read as that text.
-/

namespace SequenceBridge

namespace Bytes

/-! ## Bytes behind the first -/

/-- The last byte of a character **completes** it. -/
theorem charsFrom_last {value least most low : Nat} (hlow : low < 64)
    (h : least ≤ low + 128 ∧ low + 128 ≤ most) (bs : Bytes) :
    charsFrom (some ⟨1, value, least, most⟩) (UInt8.ofNat (low + 128) :: bs) =
      some (Char.ofNat (value * 64 + low)) :: charsFrom none bs := by
  have hb : (UInt8.ofNat (low + 128)).toNat = low + 128 :=
    UInt8.toNat_ofNat_of_lt' (show low + 128 < 256 by omega)
  rw [charsFrom, step, hb, if_pos h, if_pos (Nat.le_refl 1), Nat.add_sub_cancel]
  rfl

/-- An earlier byte of a character **adds six bits** to its value. -/
theorem charsFrom_more {missing value least most low : Nat} (hmissing : 1 < missing)
    (hlow : low < 64) (h : least ≤ low + 128 ∧ low + 128 ≤ most) (bs : Bytes) :
    charsFrom (some ⟨missing, value, least, most⟩) (UInt8.ofNat (low + 128) :: bs) =
      charsFrom (some ⟨missing - 1, value * 64 + low, 0x80, 0xBF⟩) bs := by
  have hb : (UInt8.ofNat (low + 128)).toNat = low + 128 :=
    UInt8.toNat_ofNat_of_lt' (show low + 128 < 256 by omega)
  rw [charsFrom, step, hb, if_pos h, if_neg (Nat.not_le.2 hmissing), Nat.add_sub_cancel]
  rfl

/-! ## The first byte

The bounds for the second byte depend on the first one. They leave room for the second byte of every
character that begins so: what they shut out is written in fewer bytes, or is no character. -/

/-- The first of **two** bytes. -/
theorem begin_two {v : Nat} (hv : 0x7F < v ∧ v ≤ 0x7FF) :
    begin (UInt8.ofNat (v / 64 % 32 + 192)) = ([], some ⟨1, v / 64, 0x80, 0xBF⟩) := by
  have hb : (UInt8.ofNat (v / 64 % 32 + 192)).toNat = v / 64 % 32 + 192 :=
    UInt8.toNat_ofNat_of_lt' (show v / 64 % 32 + 192 < 256 by omega)
  have hvalue : v / 64 % 32 + 192 - 0xC0 = v / 64 := by omega
  simp only [begin, hb]
  rw [if_neg (by omega), if_pos (by omega), hvalue]

/-- The first of **three** bytes. -/
theorem begin_three {v : Nat} (hv : 0x7FF < v ∧ v ≤ 0xFFFF) (hchar : v.isValidChar) :
    ∃ least most, begin (UInt8.ofNat (v / 4096 % 16 + 224)) =
        ([], some ⟨2, v / 4096, least, most⟩) ∧
      least ≤ v / 64 % 64 + 128 ∧ v / 64 % 64 + 128 ≤ most := by
  have hb : (UInt8.ofNat (v / 4096 % 16 + 224)).toNat = v / 4096 % 16 + 224 :=
    UInt8.toNat_ofNat_of_lt' (show v / 4096 % 16 + 224 < 256 by omega)
  simp only [begin, hb]
  rw [if_neg (by omega), if_neg (by omega)]
  by_cases hE0 : v / 4096 % 16 + 224 = 0xE0
  · -- below 0x800 two bytes would have been enough
    refine ⟨0xA0, 0xBF, ?_, by omega, by omega⟩
    rw [if_pos hE0, show v / 4096 = 0 by omega]
  rw [if_neg hE0]
  by_cases hED : v / 4096 % 16 + 224 = 0xED
  · -- from 0xD800 on there are surrogates
    refine ⟨0x80, 0x9F, ?_, by omega, ?_⟩
    · rw [if_pos hED, show v / 4096 = 0x0D by omega]
    · rcases hchar with h | h <;> omega
  · refine ⟨0x80, 0xBF, ?_, by omega, by omega⟩
    rw [if_neg hED, if_pos (by omega), show v / 4096 % 16 + 224 - 0xE0 = v / 4096 by omega]

/-- The first of **four** bytes. -/
theorem begin_four {v : Nat} (hv : 0xFFFF < v) (hchar : v.isValidChar) :
    ∃ least most, begin (UInt8.ofNat (v / 262144 % 8 + 240)) =
        ([], some ⟨3, v / 262144, least, most⟩) ∧
      least ≤ v / 4096 % 64 + 128 ∧ v / 4096 % 64 + 128 ≤ most := by
  have hmost : v < 0x110000 := by rcases hchar with h | h <;> omega
  have hb : (UInt8.ofNat (v / 262144 % 8 + 240)).toNat = v / 262144 % 8 + 240 :=
    UInt8.toNat_ofNat_of_lt' (show v / 262144 % 8 + 240 < 256 by omega)
  simp only [begin, hb]
  rw [if_neg (by omega), if_neg (by omega), if_neg (by omega), if_neg (by omega), if_neg (by omega)]
  by_cases hF0 : v / 262144 % 8 + 240 = 0xF0
  · -- below 0x10000 three bytes would have been enough
    refine ⟨0x90, 0xBF, ?_, by omega, by omega⟩
    rw [if_pos hF0, show v / 262144 = 0 by omega]
  rw [if_neg hF0]
  by_cases hF4 : v / 262144 % 8 + 240 = 0xF4
  · -- from 0x110000 on there are no characters
    refine ⟨0x80, 0x8F, ?_, by omega, by omega⟩
    rw [if_neg (by omega), if_pos hF4, show v / 262144 = 4 by omega]
  · refine ⟨0x80, 0xBF, ?_, by omega, by omega⟩
    rw [if_pos (by omega), show v / 262144 % 8 + 240 - 0xF0 = v / 262144 by omega]

/-! ## Characters and texts -/

/-- The bytes of a character are **read as that character**. -/
theorem charsFrom_utf8EncodeChar (c : Char) (bs : Bytes) :
    charsFrom none (String.utf8EncodeChar c ++ bs) = some c :: charsFrom none bs := by
  have hchar : c.toNat.isValidChar := c.valid
  have hc : Char.ofNat c.toNat = c := Char.ofNat_toNat c
  have hval : c.val.toNat = c.toNat := rfl
  rw [String.utf8EncodeChar]
  simp only [hval]
  generalize c.toNat = v at hchar hc
  subst hc
  by_cases hone : v ≤ 0x7F
  · have hb : (UInt8.ofNat v).toNat = v := UInt8.toNat_ofNat_of_lt' (show v < 256 by omega)
    rw [if_pos hone, List.cons_append, List.nil_append, charsFrom]
    simp only [step, begin, hb]
    rw [if_pos (by omega)]
    rfl
  rw [if_neg hone]
  by_cases htwo : v ≤ 0x7FF
  · rw [if_pos htwo, List.cons_append, charsFrom, step, begin_two ⟨by omega, htwo⟩]
    change charsFrom _ _ = _
    rw [List.cons_append, List.nil_append, charsFrom_last (by omega) (by omega),
      show v / 64 * 64 + v % 64 = v by omega]
  rw [if_neg htwo]
  by_cases hthree : v ≤ 0xFFFF
  · obtain ⟨least, most, hbegin, hsecond⟩ := begin_three ⟨by omega, hthree⟩ hchar
    rw [if_pos hthree, List.cons_append, charsFrom, step, hbegin]
    change charsFrom _ _ = _
    rw [List.cons_append, charsFrom_more (by omega) (by omega) hsecond, List.cons_append,
      List.nil_append, charsFrom_last (by omega) (by omega),
      show (v / 4096 * 64 + v / 64 % 64) * 64 + v % 64 = v by omega]
  · obtain ⟨least, most, hbegin, hsecond⟩ := begin_four (by omega) hchar
    rw [if_neg hthree, List.cons_append, charsFrom, step, hbegin]
    change charsFrom _ _ = _
    rw [List.cons_append, charsFrom_more (by omega) (by omega) hsecond, List.cons_append,
      charsFrom_more (by omega) (by omega) (by omega), List.cons_append, List.nil_append,
      charsFrom_last (by omega) (by omega),
      show ((v / 262144 * 64 + v / 4096 % 64) * 64 + v / 64 % 64) * 64 + v % 64 = v by omega]

/-- The characters of the bytes of a text are its characters, none of them broken. -/
theorem chars_toBytes (t : Text) : chars t.toBytes = t.map some := by
  induction t with
  | nil => rfl
  | cons c t ih =>
      rw [Text.toBytes, List.flatMap_cons, chars, charsFrom_utf8EncodeChar, List.map_cons]
      exact congrArg (some c :: ·) ih

/-- The bytes of a text are **read as that text**. -/
theorem text?_toBytes (t : Text) : text? t.toBytes = some t := by
  have hall : (t.map some).all Option.isSome = true := by
    rw [List.all_map]
    exact List.all_eq_true.2 fun _ _ => rfl
  rw [text?, chars_toBytes, if_pos hall, List.filterMap_map]
  exact congrArg some (List.filterMap_some ▸ rfl)

end Bytes

/-- Only the empty text has **no bytes**. -/
theorem Text.toBytes_eq_nil_iff {t : Text} : t.toBytes = [] ↔ t = [] := by
  constructor
  · intro h
    have hread := Bytes.text?_toBytes t
    rw [h] at hread
    exact (Option.some.inj hread).symm
  · rintro rfl
    rfl

end SequenceBridge
