import Mathlib.Data.List.Basic
import SequenceBridge.Json.Basic
import SequenceBridge.Json.Token
import SequenceBridge.Proofs.Text.Commas
import SequenceBridge.Proofs.Text.Decimal

/-! # The tokens of what is written
A JSON value written without white space is read as the tokens one expects: the brackets and separators
where they were put, every string with its own text behind its escapes, and every number with its own
digits. All of it holds in front of any further text that cannot go on with a numeral.

* **`Json.tokens`** — the tokens of a value.
* **`EndsNumeral`** — the texts that do not go on with a numeral.
* **`Token.pieces?_flatMap_quoteChar`** — the characters between the quotes of a string.
* **`Numeral.take?_decimal`**, **`Numeral.value?_ofNat`** — the digits of a number, and what they are
  worth.
* **`Token.ofText_compact`** — a written value is read as its tokens.
-/

namespace SequenceBridge

/-- The numeral of a natural number. -/
def Numeral.ofNat (n : Nat) : Numeral := ⟨false, decimal n, [], none⟩

namespace Json

mutual

/-- The **tokens of a value**. -/
def tokens : Json → List Token
  | .null => [.null]
  | .bool b => [.bool b]
  | .number n => [.number (.ofNat n)]
  | .string t => [.string (some t)]
  | .array [] => [.openBracket, .closeBracket]
  | .array (j :: js) => .openBracket :: (j.tokens ++ moreItems js)
  | .object [] => [.openBrace, .closeBrace]
  | .object ((key, j) :: fields) =>
      .openBrace :: .string (some key) :: .colon :: (j.tokens ++ moreFields fields)

/-- The tokens of an array behind its first item. -/
def moreItems : List Json → List Token
  | [] => [.closeBracket]
  | j :: js => .comma :: (j.tokens ++ moreItems js)

/-- The tokens of an object behind its first field. -/
def moreFields : List (Text × Json) → List Token
  | [] => [.closeBrace]
  | (key, j) :: fields =>
      .comma :: .string (some key) :: .colon :: (j.tokens ++ moreFields fields)

end

end Json

/-! ## Strings -/

namespace Token

/-- What a piece of a string **stands for**: a character, or a control given by its number. -/
inductive Piece.Denotes : Piece → Char → Prop
  | char (c : Char) : Denotes (.char c) c
  | control {c : Char} (h : c.toNat < 0x20) : Denotes (.unit c.toNat) c

/-- A piece adds the character that it stands for. -/
theorem assemble?_cons {p : Piece} {c : Char} (h : p.Denotes c) (ps : List Piece) :
    assemble? (p :: ps) = (assemble? ps).map (c :: ·) := by
  cases h with
  | char => rw [assemble?]
  | control h =>
      -- the number of a control is no half of a pair
      have hleading : isLeading c.toNat = false := by
        rw [isLeading, decide_eq_false (by omega), Bool.false_and]
      have htrailing : isTrailing c.toNat = false := by
        rw [isTrailing, decide_eq_false (by omega), Bool.false_and]
      cases ps with
      | nil => simp [assemble?, hleading, htrailing]
      | cons q qs => cases q <;> simp [assemble?, hleading, htrailing]

/-- The number of a control in four hexadecimal digits. -/
theorem valueIn?_fourDigits :
    ∀ n < 0x20, (Json.fourDigits (hexadecimal n)).length = 4 ∧
      Text.valueIn? 16 (Json.fourDigits (hexadecimal n)) = some n := by
  decide

/-- A character between quotes is read as **one piece**, which stands for it. -/
theorem pieces?_quoteChar (c : Char) :
    ∃ p : Piece, p.Denotes c ∧ ∀ t : Text,
      pieces? (Json.quoteChar c ++ t) = (pieces? t).map fun found => (p :: found.1, found.2) := by
  by_cases hletter : c ∈ ['\x22', '\\', '\x08', '\t', '\n', '\x0c', '\r']
  · -- the escapes of one letter
    refine ⟨.char c, .char c, fun t => ?_⟩
    simp only [List.mem_cons, List.not_mem_nil, or_false] at hletter
    rcases hletter with rfl | rfl | rfl | rfl | rfl | rfl | rfl <;> rfl
  simp only [List.mem_cons, List.not_mem_nil, or_false, not_or] at hletter
  obtain ⟨h1, h2, h3, h4, h5, h6, h7⟩ := hletter
  rw [Json.quoteChar, if_neg h1, if_neg h2, if_neg h3, if_neg h4, if_neg h5, if_neg h6, if_neg h7]
  by_cases h8 : c.toNat < 0x20
  · obtain ⟨hlength, hvalue⟩ := valueIn?_fourDigits c.toNat h8
    obtain ⟨a, b, d, e, hdigits⟩ := List.length_eq_four.1 hlength
    refine ⟨.unit c.toNat, .control h8, fun t => ?_⟩
    rw [hdigits] at hvalue
    rw [if_pos h8, hdigits]
    simp only [List.cons_append, List.nil_append]
    rw [pieces?, hvalue, Option.bind_some]
  · refine ⟨.char c, .char c, fun t => ?_⟩
    rw [if_neg h8, List.cons_append, List.nil_append, pieces?, if_neg (by simp [h8, h2])]
    · exact fun h => h1 h
    · exact fun _ _ _ _ _ h => absurd h h2
    · exact fun _ _ h => absurd h h2

/-- The **characters between the quotes** of a string are read up to the closing quote, as the text
that they were. -/
theorem pieces?_flatMap_quoteChar (t rest : Text) :
    ∃ ps, pieces? (t.flatMap Json.quoteChar ++ '\x22' :: rest) = some (ps, rest) ∧
      assemble? ps = some t := by
  induction t with
  | nil => exact ⟨[], rfl, rfl⟩
  | cons c t ih =>
      obtain ⟨p, hp, hread⟩ := pieces?_quoteChar c
      obtain ⟨ps, hps, hassemble⟩ := ih
      refine ⟨p :: ps, ?_, ?_⟩
      · rw [List.flatMap_cons, List.append_assoc, hread, hps]
        rfl
      · rw [assemble?_cons hp, hassemble]
        rfl

end Token

/-! ## Numbers -/

/-- A text **does not go on with a numeral**: a digit, a point or a power of ten. -/
def EndsNumeral (t : Text) : Prop :=
  ∀ c ∈ t.head?, c.isDigit = false ∧ c ≠ '.' ∧ c ≠ 'e' ∧ c ≠ 'E'

/-- Behind a separator or a bracket the numeral is over. -/
theorem EndsNumeral.of_mark {c : Char} {m : Token} (h : Token.mark? c = some m) (t : Text) :
    EndsNumeral (c :: t) := by
  intro d hd
  cases hd
  unfold Token.mark? at h
  split at h <;> first | cases h; exact ⟨rfl, by decide, by decide, by decide⟩ | cases h

namespace Numeral

/-- Digits are taken **up to the first character that is none**. -/
theorem takeDigits?_append {digits rest : Text} (hne : digits ≠ [])
    (hdigits : ∀ c ∈ digits, c.isDigit = true) (hrest : ∀ c ∈ rest.head?, c.isDigit = false) :
    takeDigits? (digits ++ rest) = some (digits, rest) := by
  have hstop : rest.takeWhile Char.isDigit = [] ∧ rest.dropWhile Char.isDigit = rest := by
    cases rest with
    | nil => exact ⟨rfl, rfl⟩
    | cons c t =>
        have hc : ¬ c.isDigit = true := Bool.eq_false_iff.1 (hrest c rfl)
        exact ⟨List.takeWhile_cons_of_neg hc, List.dropWhile_cons_of_neg hc⟩
  rw [takeDigits?, List.takeWhile_append_of_pos hdigits, List.dropWhile_append_of_pos hdigits,
    hstop.1, hstop.2, List.append_nil, if_neg (by rwa [List.isEmpty_iff])]

/-- The whole of a numeral is read as the **number** that was written. -/
theorem takeWhole?_decimal (n : Nat) {rest : Text} (h : EndsNumeral rest) :
    takeWhole? (decimal n ++ rest) = some (decimal n, rest) := by
  rw [takeWhole?, takeDigits?_append (decimal_ne_nil n)
    (fun c hc => isDigit_of_mem_decimal hc) fun c hc => (h c hc).1, Option.bind_some, if_neg]
  rintro ⟨hzero, hlength⟩
  rw [eq_zero_of_head?_decimal hzero] at hlength
  exact hlength rfl

/-- There is no fraction. -/
theorem takeFraction?_of_endsNumeral {rest : Text} (h : EndsNumeral rest) :
    takeFraction? rest = some ([], rest) := by
  unfold takeFraction?
  split
  · exact absurd rfl (h _ rfl).2.1
  · rfl

/-- There is no power of ten. -/
theorem takeExponent?_of_endsNumeral {rest : Text} (h : EndsNumeral rest) :
    takeExponent? rest = some (none, rest) := by
  unfold takeExponent?
  split
  · exact absurd rfl (h _ rfl).2.2.1
  · exact absurd rfl (h _ rfl).2.2.2
  · rfl

/-- A written number is taken as **its numeral**. -/
theorem take?_decimal (n : Nat) {rest : Text} (h : EndsNumeral rest) :
    take? (decimal n ++ rest) = some (.ofNat n, rest) := by
  obtain ⟨c, t, hdecimal, hc⟩ := exists_decimal_eq_cons n
  have hunsigned : takeUnsigned? false (decimal n ++ rest) = some (.ofNat n, rest) := by
    rw [takeUnsigned?, takeWhole?_decimal n h, Option.bind_some, takeFraction?_of_endsNumeral h,
      Option.bind_some, takeExponent?_of_endsNumeral h]
    rfl
  rw [hdecimal, List.cons_append] at hunsigned ⊢
  unfold take?
  split
  · rename_i hsign
    cases hsign
    cases hc
  · exact hunsigned

/-- A numeral of at most 64 bits **is worth its number**. -/
theorem value?_ofNat {n : Nat} (h : n < UInt64.size) :
    (Numeral.ofNat n).value? = some (.natural n) := by
  have hwhole : Nat.ofDigitChars 10 (decimal n) 0 = n := Nat.ofDigitChars_ten_toDigits
  simp only [value?, ofNat, hwhole]
  rw [decide_eq_true h]
  rfl

end Numeral

/-! ## Values -/

namespace Token

/-- The token at the start of a text is **the first of its tokens**. -/
theorem ofText_of_first? {t rest : Text} {token : Token} (h : first? t = some (token, rest)) :
    ofText t = token :: ofText rest := by
  cases t with
  | nil => cases h
  | cons c t =>
      have hgap : ¬ isGap c = true := by
        intro hgap
        simp only [isGap, Bool.or_eq_true, decide_eq_true_eq] at hgap
        rcases hgap with ((rfl | rfl) | rfl) | rfl <;> cases h
      rw [ofText, if_neg hgap]
      split
      · rename_i hnone
        rw [h] at hnone
        cases hnone
      · rename_i hsome
        rw [h] at hsome
        cases hsome
        rfl

/-- A bracket or separator is a token. -/
theorem ofText_mark {c : Char} {m : Token} (h : mark? c = some m) (rest : Text) :
    ofText (c :: rest) = m :: ofText rest := by
  refine ofText_of_first? ?_
  unfold first?
  split
  · rename_i heq
    cases heq
  · rename_i heq
    cases heq
    cases h
  · rename_i heq
    cases heq
    rw [h]

/-- A written text is a token. -/
theorem ofText_quote (t rest : Text) :
    ofText (Json.quote t ++ rest) = .string (some t) :: ofText rest := by
  obtain ⟨ps, hps, hassemble⟩ := pieces?_flatMap_quoteChar t rest
  refine ofText_of_first? ?_
  rw [Json.quote, List.cons_append, List.cons_append, List.append_assoc, List.singleton_append,
    first?, hps, Option.map_some, hassemble]

/-- A written number is a token. -/
theorem ofText_decimal (n : Nat) {rest : Text} (h : EndsNumeral rest) :
    ofText (decimal n ++ rest) = .number (.ofNat n) :: ofText rest := by
  obtain ⟨c, t, hdecimal, hc⟩ := exists_decimal_eq_cons n
  have htake := Numeral.take?_decimal n h
  refine ofText_of_first? ?_
  rw [hdecimal, List.cons_append] at htake ⊢
  unfold first?
  split
  · rename_i heq
    cases heq
  · rename_i heq
    cases heq
    cases hc
  · rename_i heq
    cases heq
    have hmark : mark? c = none := by
      unfold mark?
      split <;> first | cases hc | rfl
    rw [hmark, hc, Bool.or_true, if_pos rfl, htake]
    rfl

end Token

namespace Json

open Token (ofText ofText_mark ofText_quote)

/-- What stands behind an item or a field of a value, up to the closing bracket and beyond. -/
theorem endsNumeral_more {closing : Char} {m : Token} (h : Token.mark? closing = some m)
    (ts : List Text) (rest : Text) : EndsNumeral (ts.flatMap (',' :: ·) ++ closing :: rest) := by
  cases ts with
  | nil => exact .of_mark h rest
  | cons t ts => exact .of_mark (m := .comma) rfl _

mutual

/-- A value written without white space **is read as its tokens**. -/
theorem ofText_compact :
    ∀ (j : Json) {rest : Text}, EndsNumeral rest →
      ofText (j.compact ++ rest) = j.tokens ++ ofText rest
  | .null, _, _ => Token.ofText_of_first? rfl
  | .bool true, _, _ => Token.ofText_of_first? rfl
  | .bool false, _, _ => Token.ofText_of_first? rfl
  | .number n, _, h => by rw [compact, tokens, Token.ofText_decimal n h]; rfl
  | .string t, rest, _ => by rw [compact, tokens, ofText_quote]; rfl
  | .array [], rest, _ => by
      rw [compact, compactItems, Text.commas_nil, tokens]
      exact (ofText_mark rfl _).trans (congrArg _ (ofText_mark rfl rest))
  | .array (j :: js), rest, _ => by
      rw [compact, compactItems, Text.commas_cons, tokens]
      simp only [List.cons_append, List.append_assoc, List.nil_append]
      rw [ofText_mark rfl, ofText_compact j (endsNumeral_more rfl _ rest), ofText_moreItems]
  | .object [], rest, _ => by
      rw [compact, compactFields, Text.commas_nil, tokens]
      exact (ofText_mark rfl _).trans (congrArg _ (ofText_mark rfl rest))
  | .object ((key, j) :: fields), rest, _ => by
      rw [compact, compactFields, Text.commas_cons, tokens]
      simp only [List.cons_append, List.append_assoc, List.nil_append]
      rw [ofText_mark rfl, ofText_quote, ofText_mark rfl,
        ofText_compact j (endsNumeral_more rfl _ rest), ofText_moreFields]

/-- So are the items of an array behind its first one. -/
theorem ofText_moreItems :
    ∀ (js : List Json) (rest : Text),
      ofText ((compactItems js).flatMap (',' :: ·) ++ ']' :: rest) = moreItems js ++ ofText rest
  | [], rest => ofText_mark rfl rest
  | j :: js, rest => by
      rw [compactItems, List.flatMap_cons, moreItems]
      simp only [List.cons_append, List.append_assoc]
      rw [ofText_mark rfl, ofText_compact j (endsNumeral_more rfl _ rest), ofText_moreItems]

/-- So are the fields of an object behind its first one. -/
theorem ofText_moreFields :
    ∀ (fields : List (Text × Json)) (rest : Text),
      ofText ((compactFields fields).flatMap (',' :: ·) ++ '\x7d' :: rest) =
        moreFields fields ++ ofText rest
  | [], rest => ofText_mark rfl rest
  | (key, j) :: fields, rest => by
      rw [compactFields, List.flatMap_cons, moreFields]
      simp only [List.cons_append, List.append_assoc]
      rw [ofText_mark rfl, ofText_quote, ofText_mark rfl,
        ofText_compact j (endsNumeral_more rfl _ rest), ofText_moreFields]

end

end Json

end SequenceBridge
