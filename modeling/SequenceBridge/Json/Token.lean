import SequenceBridge.Json.Numeral
import SequenceBridge.Text.Hexadecimal

/-! # Tokens of JSON
A JSON text is read as a list of tokens, with blanks between them. Where no token begins the list ends
in a mark of that, so that whatever stands before can still be judged.

* **`Token`** — a bracket, a separator, a literal, a numeral or a string.
* **`Token.first?`** — the token at the start of a text.
* **`Token.ofText`** — all tokens of a text.
-/

namespace SequenceBridge

/-- A **token** of JSON. A string is well formed even when it denotes no text, because half of a
surrogate pair is missing in it. -/
inductive Token
  | openBrace
  | closeBrace
  | openBracket
  | closeBracket
  | colon
  | comma
  | null
  | bool (b : Bool)
  | number (n : Numeral)
  | string (t : Option Text)
  | unreadable
  deriving DecidableEq, Repr

namespace Token

/-! ## Strings -/

/-- A piece of a string: a character, or a UTF-16 unit given by its number. -/
inductive Piece
  | char (c : Char)
  | unit (n : Nat)
  deriving DecidableEq, Repr

/-- The character that a one-letter escape stands for. -/
def escaped? : Char → Option Char
  | '\x22' => some '\x22'
  | '\\' => some '\\'
  | '/' => some '/'
  | 'b' => some '\x08'
  | 'f' => some '\x0c'
  | 'n' => some '\n'
  | 'r' => some '\r'
  | 't' => some '\t'
  | _ => none

/-- The pieces of a string up to its closing quote, with what follows the quote. A control character
has to be escaped. -/
def pieces? : Text → Option (List Piece × Text)
  | [] => none
  | '\x22' :: t => some ([], t)
  | '\\' :: 'u' :: a :: b :: c :: d :: t =>
    (Text.valueIn? 16 [a, b, c, d]).bind fun n =>
      (pieces? t).map fun found => (.unit n :: found.1, found.2)
  | '\\' :: e :: t =>
    (escaped? e).bind fun c => (pieces? t).map fun found => (.char c :: found.1, found.2)
  | c :: t =>
    if c.toNat < 0x20 ∨ c = '\\' then none
    else (pieces? t).map fun found => (.char c :: found.1, found.2)

/-- The first of the two units of a character beyond the basic plane. -/
def isLeading (n : Nat) : Bool := 0xD800 ≤ n && n < 0xDC00

/-- The second of the two units of a character beyond the basic plane. -/
def isTrailing (n : Nat) : Bool := 0xDC00 ≤ n && n < 0xE000

/-- The text that pieces make up; none when a unit lacks its partner. -/
def assemble? : List Piece → Option Text
  | [] => some []
  | .char c :: ps => (assemble? ps).map (c :: ·)
  | .unit high :: .unit low :: ps =>
    if isLeading high then
      if isTrailing low then
        (assemble? ps).map (Char.ofNat (0x10000 + (high - 0xD800) * 0x400 + (low - 0xDC00)) :: ·)
      else none
    else if isTrailing high then none
    else (assemble? (.unit low :: ps)).map (Char.ofNat high :: ·)
  | .unit n :: ps =>
    if isLeading n || isTrailing n then none else (assemble? ps).map (Char.ofNat n :: ·)

theorem pieces?_length {t : Text} {found : List Piece × Text} (h : pieces? t = some found) :
    found.2.length < t.length := by
  fun_induction pieces? t generalizing found with
  | case1 => cases h
  | case2 t => cases h; simp
  -- a unit by its number
  | case3 a b c d t ih =>
    obtain ⟨n, -, h⟩ := Option.bind_eq_some_iff.1 h
    obtain ⟨rest, hr, rfl⟩ := Option.map_eq_some_iff.1 h
    have := ih hr
    simp only [List.length_cons]
    omega
  -- an escape of one letter
  | case4 e t _ ih =>
    obtain ⟨n, -, h⟩ := Option.bind_eq_some_iff.1 h
    obtain ⟨rest, hr, rfl⟩ := Option.map_eq_some_iff.1 h
    have := ih hr
    simp only [List.length_cons]
    omega
  | case5 => cases h
  -- a character that stands for itself
  | case6 c t _ _ _ _ ih =>
    obtain ⟨rest, hr, rfl⟩ := Option.map_eq_some_iff.1 h
    have := ih hr
    simp only [List.length_cons]
    omega

/-! ## The tokens of a text -/

/-- The characters that may stand between tokens. -/
def isGap (c : Char) : Bool := c = ' ' || c = '\t' || c = '\n' || c = '\r'

/-- A literal at the start of a text. -/
def literal? : Text → Option (Token × Text)
  | 'n' :: 'u' :: 'l' :: 'l' :: t => some (.null, t)
  | 't' :: 'r' :: 'u' :: 'e' :: t => some (.bool true, t)
  | 'f' :: 'a' :: 'l' :: 's' :: 'e' :: t => some (.bool false, t)
  | _ => none

/-- A bracket or separator. -/
def mark? : Char → Option Token
  | '\x7b' => some .openBrace
  | '\x7d' => some .closeBrace
  | '[' => some .openBracket
  | ']' => some .closeBracket
  | ':' => some .colon
  | ',' => some .comma
  | _ => none

/-- The **token at the start** of a text, with what follows it. -/
def first? : Text → Option (Token × Text)
  | [] => none
  | '\x22' :: t => (pieces? t).map fun found => (.string (assemble? found.1), found.2)
  | c :: t =>
    match mark? c with
    | some m => some (m, t)
    | none =>
      if c = '-' || c.isDigit then
        (Numeral.take? (c :: t)).map fun found => (.number found.1, found.2)
      else
        literal? (c :: t)

/-- A token takes at least one character. -/
theorem first?_length {t : Text} {found : Token × Text} (h : first? t = some found) :
    found.2.length < t.length := by
  unfold first? at h
  split at h
  · cases h
  · obtain ⟨rest, hr, rfl⟩ := Option.map_eq_some_iff.1 h
    have := pieces?_length hr
    simp only [List.length_cons]
    omega
  · split at h
    · cases h; simp
    · split at h
      · obtain ⟨rest, hr, rfl⟩ := Option.map_eq_some_iff.1 h
        exact Numeral.take?_length hr
      · -- each literal has its length
        unfold literal? at h
        split at h
        · cases h; rename_i he; simp [he]; omega
        · cases h; rename_i he; simp [he]; omega
        · cases h; rename_i he; simp [he]; omega
        · cases h

/-- The **tokens of a text**. A character at which none begins ends the list. -/
def ofText : Text → List Token
  | [] => []
  | c :: t =>
    if isGap c then
      ofText t
    else
      match _taken : first? (c :: t) with
      | none => [.unreadable]
      | some found => found.1 :: ofText found.2
termination_by t => t.length
decreasing_by
  · simp
  · exact first?_length _taken

end Token

end SequenceBridge
