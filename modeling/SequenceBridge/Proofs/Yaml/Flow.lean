import SequenceBridge.Proofs.Yaml.Quoted
import SequenceBridge.Yaml.Flow

/-! # Values of JSON within brackets of YAML
A value of JSON that is written without white space is a node within brackets: its arrays are
sequences, its objects mappings, its strings double-quoted scalars, and everything else is a plain
scalar. A key has to stand close enough to its colon.

* **`Json.toYaml`** — the data of a value, as a node.
* **`Json.isCarried`** — the values whose strings and keys come through.
* **`Yaml.flowContent_compact`** — a written value is read as its data.
-/

namespace SequenceBridge

namespace Json

mutual

/-- The **data of a value** as a node. Strings are quoted, so that none of them can be taken for
anything else. -/
def toYaml {ref : Type} : Json → Yaml ref
  | .null => .scalar {} true "null".toList
  | .bool b => .scalar {} true (if b then "true" else "false").toList
  | .number n => .scalar {} true (decimal n)
  | .string t => .scalar {} false t
  | .array items => .sequence {} (toYamlItems items)
  | .object fields => .mapping {} (toYamlFields fields)

/-- The data of the items of an array. -/
def toYamlItems {ref : Type} : List Json → List (Yaml ref)
  | [] => []
  | j :: js => j.toYaml :: toYamlItems js

/-- The data of the fields of an object. -/
def toYamlFields {ref : Type} : List (Text × Json) → List (Yaml ref × Yaml ref)
  | [] => []
  | (key, j) :: fields => (.scalar {} false key, j.toYaml) :: toYamlFields fields

end

/-- The keys that YAML reads as keys: they come through, and their colon is not too far away. -/
def isKey (key : Text) : Bool :=
  key.all Yaml.isCarried && (quote key).length ≤ Yaml.Cursor.longestKey

mutual

/-- Whether a value **comes through** YAML: all of its strings and keys do. -/
def isCarried : Json → Bool
  | .null => true
  | .bool _ => true
  | .number _ => true
  | .string t => t.all Yaml.isCarried
  | .array items => isCarriedItems items
  | .object fields => isCarriedFields fields

/-- Whether the items of an array come through. -/
def isCarriedItems : List Json → Bool
  | [] => true
  | j :: js => j.isCarried && isCarriedItems js

/-- Whether the fields of an object come through. -/
def isCarriedFields : List (Text × Json) → Bool
  | [] => true
  | (key, j) :: fields => isKey key && j.isCarried && isCarriedFields fields

end

end Json

namespace Yaml

open Json (quote)

/-! ## Cursors -/

namespace Cursor

@[simp] theorem sees_cons (x y : Char) (t : Text) (p : Place) (allowed : Bool) :
    (⟨x :: t, p, allowed⟩ : Cursor).sees y = decide (x = y) := by
  simp only [sees, List.head?_cons, Option.some.injEq]

theorem next_cons {x : Char} (h : isBreak x = false) (t : Text) (p : Place) (allowed : Bool) :
    (⟨x :: t, p, allowed⟩ : Cursor).next = ⟨t, p.behind [x], allowed⟩ := by
  rw [← Place.after_eq_behind p h]
  rfl

end Cursor

theorem opensDocument_cons {x : Char} (h : x ≠ '-') (t : Text) :
    opensDocument (x :: t) = false := by
  rw [opensDocument]
  exact fun _ heq => h (List.cons.inj heq).1

theorem closesDocument_cons {x : Char} (h : x ≠ '.') (t : Text) :
    closesDocument (x :: t) = false := by
  rw [closesDocument]
  exact fun _ heq => h (List.cons.inj heq).1

/-- A document does not begin or end within what begins with a mark of neither. -/
theorem Cursor.isAtMark_cons {x : Char} (hopen : x ≠ '-') (hclose : x ≠ '.') (t : Text) (p : Place)
    (allowed : Bool) : (⟨x :: t, p, allowed⟩ : Cursor).isAtMark = false := by
  rw [isAtMark, opensDocument_cons hopen, closesDocument_cons hclose, Bool.or_false, Bool.and_false]

/-- A key that is short enough **has its colon** behind it. -/
theorem Cursor.isKeyTo_behind {s : Text} (h : s.length ≤ longestKey) (p : Place) (t u : Text)
    (allowed : Bool) : (⟨t, p, true⟩ : Cursor).isKeyTo ⟨u, p.behind s, allowed⟩ = true := by
  have hindex : (p.behind s).index ≤ p.index + longestKey := by
    rw [Place.index_behind]
    omega
  simp only [isKeyTo, line, Place.line_behind, decide_true, Bool.and_self, hindex]

/-! ## Classes of characters -/

/-- Two characters are different when one of them **belongs to a class** and the other does not. -/
theorem ne_of_class {p : Char → Bool} {x y : Char} (hx : p x = true) (hy : p y = false) :
    x ≠ y := by
  rintro rfl
  rw [hx] at hy
  cases hy

/-- The characters that gaps are made of, with the mark of a comment. -/
def gapChars : Text := ['\n', '\u2028', '\u2029', ' ', '\t', '#']

/-- A character that no gap contains. -/
def IsInk (x : Char) : Prop := x ∉ gapChars

instance (x : Char) : Decidable (IsInk x) := inferInstanceAs (Decidable (x ∉ gapChars))

theorem IsInk.of_class {p : Char → Bool} (hp : gapChars.any p = false) {x : Char}
    (hx : p x = true) : IsInk x := fun hmem => List.any_eq_false.1 hp x hmem hx

theorem IsInk.isBreak {x : Char} (h : IsInk x) : isBreak x = false := by
  simp only [IsInk, gapChars, List.mem_cons, not_or] at h
  simp only [Yaml.isBreak, h, decide_false, Bool.or_false]

theorem IsInk.isSpacing {x : Char} (h : IsInk x) : isSpacing x = false := by
  simp only [IsInk, gapChars, List.mem_cons, not_or] at h
  simp only [Yaml.isSpacing, h, decide_false, Bool.or_false]

/-- There is **no gap** in front of a character that none contains. -/
theorem Cursor.skipGap_of_isInk {x : Char} (h : IsInk x) (t : Text) (p : Place)
    (allowed inFlow : Bool) :
    (⟨x :: t, p, allowed⟩ : Cursor).skipGap inFlow = ⟨x :: t, p, allowed⟩ := by
  have hbreak := h.isBreak
  simp only [IsInk, gapChars, List.mem_cons, not_or] at h
  simp only [skipGap, gapFrom, hbreak, h, decide_false, Bool.false_and, Bool.or_false,
    Bool.false_eq_true, if_false]

/-- The characters that a value can begin with. -/
def beginsValue (x : Char) : Bool := x.isDigit || "[\x7b\x22ntf".toList.contains x

theorem isInk_of_beginsValue {x : Char} (h : beginsValue x = true) : IsInk x :=
  .of_class rfl h

theorem isInk_of_isFlowMark {x : Char} (h : isFlowMark x = true) : IsInk x :=
  .of_class rfl h

end Yaml

/-- A written value has a first character. -/
theorem Json.exists_compact_eq_cons (j : Json) :
    ∃ x t, j.compact = x :: t ∧ Yaml.beginsValue x = true := by
  cases j with
  | null => exact ⟨_, _, rfl, rfl⟩
  | bool b => cases b <;> exact ⟨_, _, rfl, rfl⟩
  | number n =>
      obtain ⟨x, t, hdecimal, hx⟩ := exists_decimal_eq_cons n
      rw [compact, hdecimal]
      exact ⟨x, t, rfl, by rw [Yaml.beginsValue, hx, Bool.true_or]⟩
  | string t => exact ⟨_, _, rfl, rfl⟩
  | array items => rw [compact]; exact ⟨_, _, rfl, rfl⟩
  | object fields => rw [compact]; exact ⟨_, _, rfl, rfl⟩

theorem Json.length_compact_pos (j : Json) : 0 < j.compact.length := by
  obtain ⟨x, t, heq, -⟩ := j.exists_compact_eq_cons
  rw [heq]
  exact Nat.succ_pos _

namespace Yaml

open Json (quote)

variable {ctx : Context}

/-- A node that begins with a value **has no properties**, and is no alias. -/
theorem flowNode_of_beginsValue {x : Char} (h : beginsValue x = true) (n : Nat) (t : Text)
    (p : Place) (allowed : Bool) :
    flowNode (n + 1) ctx ⟨x :: t, p, allowed⟩ = flowContent n ctx {} ⟨x :: t, p, allowed⟩ := by
  have hne : ∀ y : Char, beginsValue y = false → x ≠ y := fun _ hy => ne_of_class h hy
  rw [flowNode, Cursor.isAtMark_cons (hne '-' rfl) (hne '.' rfl)]
  simp only [Cursor.isAtProperty, Cursor.sees_cons, hne '*' rfl, hne '&' rfl, hne '!' rfl,
    decide_false, Bool.or_false, Bool.false_eq_true, if_false]

/-! ## Scalars -/

/-- What stands behind a value within brackets: nothing, or a separator or bracket. -/
def EndsValue (rest : Text) : Prop := ∀ x ∈ rest.head?, isFlowMark x = true

/-- Only a colon can be a stray one. -/
theorem isStrayColon_of_ne {x : Char} (h : x ≠ ':') (inFlow : Bool) (t : Text) :
    isStrayColon inFlow x t = false := by
  cases t with
  | nil => rfl
  | cons y t => rw [isStrayColon, decide_eq_false h, Bool.and_false, Bool.false_and]

/-- A plain scalar **is over** in front of a separator or bracket. -/
theorem plainFrom_of_endsValue {rest : Text} (h : EndsValue rest) (least : Nat) (p : Place) :
    plainFrom true least {} rest p = some ([], ⟨rest, p, false⟩) := by
  cases rest with
  | nil => rfl
  | cons x t =>
      have hx : isFlowMark x = true := h x rfl
      have hink := isInk_of_isFlowMark hx
      have hends : endsPlain true x t = true := by
        rw [endsPlain, hx, Bool.and_true, Bool.or_true]
      rw [plainFrom]
      simp only [hink.isBreak, hink.isSpacing, isStrayColon_of_ne (ne_of_class hx (y := ':') rfl),
        hends, Pending.isNone, List.isEmpty_nil, Bool.not_false, Bool.and_self, Bool.not_true,
        Bool.false_and, Bool.false_eq_true, if_false, if_true]

/-- **Letters and digits** go on with a plain scalar, up to what ends a value. -/
theorem plainFrom_word {word rest : Text} (hword : ∀ x ∈ word, x.isAlphanum = true)
    (hrest : EndsValue rest) (least : Nat) (p : Place) :
    plainFrom true least {} (word ++ rest) p = some (word, ⟨rest, p.behind word, false⟩) := by
  induction word generalizing p with
  | nil => exact plainFrom_of_endsValue hrest least p
  | cons x word ih =>
      have hx : x.isAlphanum = true := hword x List.mem_cons_self
      have hink : IsInk x := .of_class (p := Char.isAlphanum) rfl hx
      have hne : ∀ y : Char, y.isAlphanum = false → x ≠ y := fun _ hy => ne_of_class hx hy
      have hends : endsPlain true x (word ++ rest) = false := by
        simp only [endsPlain, isFlowMark, hne ':' rfl, hne ',' rfl, hne '[' rfl, hne ']' rfl,
          hne '\x7b' rfl, hne '\x7d' rfl, decide_false, Bool.or_false, Bool.and_false,
          Bool.false_and]
      have hmore := ih (fun y hy => hword y (List.mem_cons_of_mem x hy)) (p.behind [x])
      rw [Place.behind_behind] at hmore
      rw [List.cons_append, plainFrom]
      simp only [hink.isBreak, hink.isSpacing, isStrayColon_of_ne (hne ':' rfl), hends,
        Pending.isNone, List.isEmpty_nil, Bool.not_false, Bool.and_self, Bool.not_true,
        Bool.false_and, Bool.false_eq_true, if_false, Place.after_eq_behind p hink.isBreak, hmore]
      rfl

/-- **A word** of letters and digits is a plain scalar. -/
theorem flowContent_word {word rest : Text} (hne : word ≠ [])
    (hword : ∀ x ∈ word, x.isAlphanum = true) (hrest : EndsValue rest) (n : Nat) (p : Place)
    (allowed : Bool) :
    flowContent (n + 1) ctx {} ⟨word ++ rest, p, allowed⟩ =
      some (.scalar {} true word, ⟨rest, p.behind word, false⟩) := by
  obtain ⟨x, t, rfl⟩ := List.exists_cons_of_ne_nil hne
  have hx : x.isAlphanum = true := hword x List.mem_cons_self
  have hink : IsInk x := .of_class (p := Char.isAlphanum) rfl hx
  have hother : ∀ y : Char, y.isAlphanum = false → x ≠ y := fun _ hy => ne_of_class hx hy
  have hbegins : beginsPlain true (x :: (t ++ rest)) = true := by
    have hspecial : "#&*!|>'\"%@\x60".toList.contains x = false := by
      refine Bool.eq_false_iff.2 fun h => ?_
      have hnone : "#&*!|>'\"%@\x60".toList.any Char.isAlphanum = false := rfl
      exact List.any_eq_false.1 hnone x (List.contains_iff_mem.1 h) hx
    simp only [beginsPlain, hother '-' rfl, hother '?' rfl, hother ':' rfl, hink.isBreak,
      hink.isSpacing, isFlowMark, hother ',' rfl, hother '[' rfl, hother ']' rfl,
      hother '\x7b' rfl, hother '\x7d' rfl, hspecial, decide_false, Bool.or_false, if_false,
      Bool.not_false, Bool.false_eq_true]
  have hread := plainFrom_word hword hrest ctx.least p
  rw [List.cons_append] at hread ⊢
  rw [flowContent, Cursor.isAtMark_cons (hother '-' rfl) (hother '.' rfl)]
  simp only [Cursor.sees_cons, hother '[' rfl, hother '\x7b' rfl, hother '\'' rfl,
    hother '\x22' rfl, decide_false, Bool.false_eq_true, if_false, hbegins, if_true, plain?, hread]
  rfl

/-- **A string** is a double-quoted scalar. -/
theorem flowContent_quote (ctx : Context) {t : Text} (ht : t.all isCarried = true) (n : Nat)
    (rest : Text) (p : Place) (allowed : Bool) :
    flowContent (n + 1) ctx {} ⟨quote t ++ rest, p, allowed⟩ =
      some (.scalar {} false t, ⟨rest, p.behind (quote t), false⟩) := by
  have hread := doubleQuoted?_quote ht rest p allowed
  rw [quote, List.cons_append, List.cons_append] at hread ⊢
  rw [flowContent, Cursor.isAtMark_cons (by decide) (by decide)]
  simp only [Cursor.sees_cons, hread]
  rfl

/-! ## Collections -/

/-- What stands **behind the first piece** of a collection: the other pieces, each behind a comma,
and the closing bracket. -/
def behindFirst (closing : Char) (ts : List Text) : Text := ts.flatMap (',' :: ·) ++ [closing]

theorem behindFirst_cons (closing : Char) (t : Text) (ts : List Text) :
    behindFirst closing (t :: ts) = ',' :: (t ++ behindFirst closing ts) := by
  rw [behindFirst, List.flatMap_cons, List.append_assoc, List.cons_append, behindFirst]

theorem compact_array_cons (j : Json) (js : List Json) :
    (Json.array (j :: js)).compact =
      '[' :: (j.compact ++ behindFirst ']' (Json.compactItems js)) := by
  rw [Json.compact, Json.compactItems, Text.commas_cons, List.cons_append, List.append_assoc,
    behindFirst]

theorem compact_object_cons (key : Text) (j : Json) (fields : List (Text × Json)) :
    (Json.object ((key, j) :: fields)).compact =
      '\x7b' :: (quote key ++
        ':' :: (j.compact ++ behindFirst '\x7d' (Json.compactFields fields))) := by
  rw [Json.compact, Json.compactFields, Text.commas_cons, List.cons_append, List.append_assoc,
    List.append_assoc, List.cons_append, behindFirst]

/-- Behind a piece stands a comma or the closing bracket. -/
theorem exists_behindFirst_eq_cons {closing : Char} (h : isFlowMark closing = true)
    (ts : List Text) (rest : Text) :
    ∃ x t, behindFirst closing ts ++ rest = x :: t ∧ isFlowMark x = true := by
  cases ts with
  | nil => exact ⟨closing, rest, rfl, h⟩
  | cons u us => exact ⟨',', _, rfl, rfl⟩

theorem length_behindFirst_pos (closing : Char) (ts : List Text) :
    0 < (behindFirst closing ts).length := by
  rw [behindFirst, List.length_append]
  exact Nat.succ_pos _

section Steps

variable {closing : Char} {ts : List Text} {j : Json} {n : Nat} {rest : Text} {p q : Place}
  {allowed : Bool}

theorem endsValue_behindFirst (h : isFlowMark closing = true) (ts : List Text) (rest : Text) :
    EndsValue (behindFirst closing ts ++ rest) := by
  obtain ⟨x, t, heq, hx⟩ := exists_behindFirst_eq_cons h ts rest
  rw [heq]
  rintro y hy
  cases hy
  exact hx

/-- What follows a piece **follows without a gap**. -/
theorem skipGap_behindFirst (h : isFlowMark closing = true) (inFlow : Bool) :
    (⟨behindFirst closing ts ++ rest, p, allowed⟩ : Cursor).skipGap inFlow =
      ⟨behindFirst closing ts ++ rest, p, allowed⟩ := by
  obtain ⟨x, t, heq, hx⟩ := exists_behindFirst_eq_cons h ts rest
  rw [heq]
  exact Cursor.skipGap_of_isInk (isInk_of_isFlowMark hx) t p allowed inFlow

/-- What follows a piece is no colon. -/
theorem sees_colon_behindFirst (h : isFlowMark closing = true) :
    (⟨behindFirst closing ts ++ rest, p, allowed⟩ : Cursor).sees ':' = false := by
  obtain ⟨x, t, heq, hx⟩ := exists_behindFirst_eq_cons h ts rest
  rw [heq, Cursor.sees_cons, decide_eq_false (ne_of_class hx rfl)]

/-- A value is read as a node when it is read as one without properties. -/
theorem flowNode_compact {r : NodeReading}
    (h : flowContent n ctx {} ⟨j.compact ++ rest, p, allowed⟩ = r) :
    flowNode (n + 1) ctx ⟨j.compact ++ rest, p, allowed⟩ = r := by
  obtain ⟨x, t, heq, hx⟩ := j.exists_compact_eq_cons
  rw [heq, List.cons_append] at h ⊢
  rw [flowNode_of_beginsValue hx, h]

theorem skipGap_compact (inFlow : Bool) :
    (⟨j.compact ++ rest, p, allowed⟩ : Cursor).skipGap inFlow =
      ⟨j.compact ++ rest, p, allowed⟩ := by
  obtain ⟨x, t, heq, hx⟩ := j.exists_compact_eq_cons
  rw [heq, List.cons_append]
  exact Cursor.skipGap_of_isInk (isInk_of_beginsValue hx) _ p allowed inFlow

/-- A value begins with nothing else. -/
theorem sees_compact {x : Char} (hx : beginsValue x = false) :
    (⟨j.compact ++ rest, p, allowed⟩ : Cursor).sees x = false := by
  obtain ⟨y, t, heq, hy⟩ := j.exists_compact_eq_cons
  rw [heq, List.cons_append, Cursor.sees_cons, decide_eq_false (ne_of_class hy hx)]

/-- **One item** of a sequence, and what follows it. -/
theorem flowItems_compact {y : Yaml Text}
    (h : flowContent n ctx {} ⟨j.compact ++ (behindFirst ']' ts ++ rest), p, true⟩ =
      some (y, ⟨behindFirst ']' ts ++ rest, q, false⟩)) :
    flowItems (n + 2) ctx ⟨j.compact ++ (behindFirst ']' ts ++ rest), p, allowed⟩ =
      flowItemsBehind (n + 1) ctx y ⟨behindFirst ']' ts ++ rest, q, false⟩ := by
  have hitem := flowNode_compact h
  have hmark : isFlowMark ']' = true := rfl
  rw [flowItems]
  simp only [skipGap_compact, Cursor.withKeys, sees_compact (x := ']') rfl,
    sees_compact (x := '?') rfl, Bool.false_eq_true, if_false, hitem, Option.bind_some,
    skipGap_behindFirst hmark, sees_colon_behindFirst hmark]

/-- **The value** behind a colon, and what follows the entry. -/
theorem flowEntry_compact (key : Yaml Text) {y : Yaml Text}
    (h : flowContent n ctx {}
        ⟨j.compact ++ (behindFirst '\x7d' ts ++ rest), p.behind [':'], false⟩ =
      some (y, ⟨behindFirst '\x7d' ts ++ rest, q, false⟩)) :
    flowEntry (n + 3) ctx key ⟨':' :: (j.compact ++ (behindFirst '\x7d' ts ++ rest)), p, false⟩ =
      flowEntriesBehind (n + 2) ctx (key, y) ⟨behindFirst '\x7d' ts ++ rest, q, false⟩ := by
  have hvalue := flowNode_compact h
  have hmark : isFlowMark '\x7d' = true := rfl
  rw [flowEntry, Cursor.sees_cons, decide_eq_true rfl, if_pos rfl, flowValue,
    Cursor.next_cons (x := ':') rfl]
  simp only [skipGap_compact, sees_compact (x := ',') rfl, sees_compact (x := '\x7d') rfl,
    Bool.or_self, Bool.false_eq_true, if_false, hvalue, Option.bind_some,
    skipGap_behindFirst hmark]

/-- **One entry** of a mapping, and what follows it. -/
theorem flowEntries_compact {key : Text} (hkey : Json.isKey key = true) {y : Yaml Text}
    (h : flowContent n ctx {}
        ⟨j.compact ++ (behindFirst '\x7d' ts ++ rest), p.behind (quote key ++ [':']), false⟩ =
      some (y, ⟨behindFirst '\x7d' ts ++ rest, q, false⟩)) :
    flowEntries (n + 4) ctx
        ⟨quote key ++ ':' :: (j.compact ++ (behindFirst '\x7d' ts ++ rest)), p, allowed⟩ =
      flowEntriesBehind (n + 2) ctx (.scalar {} false key, y)
        ⟨behindFirst '\x7d' ts ++ rest, q, false⟩ := by
  rw [Json.isKey, Bool.and_eq_true, decide_eq_true_eq] at hkey
  rw [← Place.behind_behind] at h
  -- the key is a value of its own, a string
  have hstring : quote key = (Json.string key).compact := rfl
  have hname := flowNode_compact (j := .string key)
    (flowContent_quote ctx hkey.1 (n + 1)
      (':' :: (j.compact ++ (behindFirst '\x7d' ts ++ rest))) p true)
  have hnear := Cursor.isKeyTo_behind hkey.2 p
  have hcolon : IsInk ':' := by decide
  have hentry := flowEntry_compact (.scalar {} false key) h
  rw [hstring] at hname hnear hentry ⊢
  rw [flowEntries]
  simp only [skipGap_compact, Cursor.withKeys, sees_compact (x := '\x7d') rfl,
    sees_compact (x := '?') rfl, Bool.false_eq_true, if_false, hname, Option.bind_some,
    Cursor.skipGap_of_isInk hcolon, hnear, Bool.not_true, Bool.and_false, hentry]

end Steps

/-- A sequence begins behind its bracket. -/
theorem flowContent_bracket (ctx : Context) (n : Nat) (t : Text) (p : Place) (allowed : Bool) :
    flowContent (n + 1) ctx {} ⟨'[' :: t, p, allowed⟩ =
      (flowItems n ctx ⟨t, p.behind ['['], allowed⟩).map fun found =>
        (.sequence {} found.1, found.2.withKeys false) := by
  rw [flowContent, Cursor.isAtMark_cons (by decide) (by decide), Cursor.sees_cons,
    Cursor.next_cons rfl]
  rfl

/-- A mapping begins behind its brace. -/
theorem flowContent_brace (ctx : Context) (n : Nat) (t : Text) (p : Place) (allowed : Bool) :
    flowContent (n + 1) ctx {} ⟨'\x7b' :: t, p, allowed⟩ =
      (flowEntries n ctx ⟨t, p.behind ['\x7b'], allowed⟩).map fun found =>
        (.mapping {} found.1, found.2.withKeys false) := by
  rw [flowContent, Cursor.isAtMark_cons (by decide) (by decide), Cursor.sees_cons,
    Cursor.sees_cons, Cursor.next_cons rfl]
  rfl

/-- A sequence without items ends behind its bracket. -/
theorem flowItems_nil (n : Nat) (rest : Text) (p : Place) (allowed : Bool) :
    flowItems (n + 1) ctx ⟨']' :: rest, p, allowed⟩ =
      some ([], ⟨rest, p.behind [']'], true⟩) := by
  rw [flowItems]
  simp only [Cursor.skipGap_of_isInk (x := ']') (by decide), Cursor.withKeys, Cursor.sees_cons,
    decide_true, if_true, Cursor.next_cons (x := ']') rfl]

/-- A mapping without entries ends behind its brace. -/
theorem flowEntries_nil (n : Nat) (rest : Text) (p : Place) (allowed : Bool) :
    flowEntries (n + 1) ctx ⟨'\x7d' :: rest, p, allowed⟩ =
      some ([], ⟨rest, p.behind ['\x7d'], true⟩) := by
  rw [flowEntries]
  simp only [Cursor.skipGap_of_isInk (x := '\x7d') (by decide), Cursor.withKeys,
    Cursor.sees_cons, decide_true, if_true, Cursor.next_cons (x := '\x7d') rfl]

/-- Behind a comma there are more items. -/
theorem flowItemsBehind_comma (n : Nat) (y : Yaml Text) (t : Text) (p : Place) (allowed : Bool) :
    flowItemsBehind (n + 1) ctx y ⟨',' :: t, p, allowed⟩ =
      (flowItems n ctx ⟨t, p.behind [','], allowed⟩).map fun found => (y :: found.1, found.2) := by
  rw [flowItemsBehind, Cursor.sees_cons, Cursor.next_cons rfl]
  rfl

/-- Behind a comma there are more entries. -/
theorem flowEntriesBehind_comma (n : Nat) (entry : Yaml Text × Yaml Text) (t : Text) (p : Place)
    (allowed : Bool) :
    flowEntriesBehind (n + 1) ctx entry ⟨',' :: t, p, allowed⟩ =
      (flowEntries n ctx ⟨t, p.behind [','], allowed⟩).map fun found =>
        (entry :: found.1, found.2) := by
  rw [flowEntriesBehind, Cursor.sees_cons, Cursor.next_cons rfl]
  rfl

/-! ## Values -/

/-- A value **is read as its data**, in front of anything that ends a value. It takes three steps
for each character at most. -/
def ReadsValue (ctx : Context) (j : Json) : Prop :=
  ∀ (n : Nat) (rest : Text) (p : Place) (allowed : Bool), EndsValue rest →
    3 * j.compact.length ≤ n + 1 →
    flowContent n ctx {} ⟨j.compact ++ rest, p, allowed⟩ =
      some (j.toYaml, ⟨rest, p.behind j.compact, false⟩)

/-- Items behind another one are read as their data, up to the closing bracket. -/
def ReadsItems (ctx : Context) (js : List Json) : Prop :=
  ∀ (n : Nat) (rest : Text) (p : Place) (y : Yaml Text),
    3 * (behindFirst ']' (Json.compactItems js)).length ≤ n →
    flowItemsBehind n ctx y ⟨behindFirst ']' (Json.compactItems js) ++ rest, p, false⟩ =
      some (y :: Json.toYamlItems js,
        ⟨rest, p.behind (behindFirst ']' (Json.compactItems js)), false⟩)

/-- Entries behind another one are read as their data, up to the closing brace. -/
def ReadsFields (ctx : Context) (fields : List (Text × Json)) : Prop :=
  ∀ (n : Nat) (rest : Text) (p : Place) (entry : Yaml Text × Yaml Text),
    3 * (behindFirst '\x7d' (Json.compactFields fields)).length ≤ n →
    flowEntriesBehind n ctx entry
        ⟨behindFirst '\x7d' (Json.compactFields fields) ++ rest, p, false⟩ =
      some (entry :: Json.toYamlFields fields,
        ⟨rest, p.behind (behindFirst '\x7d' (Json.compactFields fields)), false⟩)

/-- A word of letters and digits is read as a plain scalar. -/
theorem ReadsValue.word {j : Json} {word : Text} (hcompact : j.compact = word)
    (hdata : (j.toYaml : Yaml Text) = .scalar {} true word) (hne : word ≠ [])
    (hword : ∀ x ∈ word, x.isAlphanum = true) : ReadsValue ctx j := by
  intro n rest p allowed hrest hn
  have hlength := List.length_pos_iff.2 hne
  rw [hcompact] at hn ⊢
  obtain ⟨m, rfl⟩ := Nat.exists_eq_add_of_le' (show 1 ≤ n by omega)
  rw [flowContent_word hne hword hrest, hdata]

/-- A string is read as a scalar in quotes. -/
theorem ReadsValue.string {t : Text} (ht : t.all isCarried = true) :
    ReadsValue ctx (.string t) := by
  intro n rest p allowed _ hn
  rw [Json.compact] at hn ⊢
  have hlength : 0 < (quote t).length := Nat.succ_pos _
  obtain ⟨m, rfl⟩ := Nat.exists_eq_add_of_le' (show 1 ≤ n by omega)
  rw [flowContent_quote ctx ht, Json.toYaml]

section Collections

variable {j : Json} {js : List Json} {key : Text} {fields : List (Text × Json)}

/-- The items of a sequence are read when **the first** is, and those behind it. -/
theorem ReadsValue.flowItems (hj : ReadsValue ctx j) (hjs : ReadsItems ctx js) (n : Nat)
    (rest : Text) (p : Place) (allowed : Bool)
    (hn : 3 * (j.compact ++ behindFirst ']' (Json.compactItems js)).length ≤ n) :
    flowItems n ctx ⟨j.compact ++ (behindFirst ']' (Json.compactItems js) ++ rest), p, allowed⟩ =
      some (j.toYaml :: Json.toYamlItems js,
        ⟨rest, p.behind (j.compact ++ behindFirst ']' (Json.compactItems js)), false⟩) := by
  have hpos := j.length_compact_pos
  have hclosing := length_behindFirst_pos ']' (Json.compactItems js)
  rw [List.length_append] at hn
  -- one step for the item's node, and one for what follows the item
  obtain ⟨m, rfl⟩ := Nat.exists_eq_add_of_le' (show 2 ≤ n by omega)
  have hmark : isFlowMark ']' = true := rfl
  have hends := endsValue_behindFirst hmark (Json.compactItems js) rest
  have hfirst := hj m _ p true hends (by omega)
  have hmore := hjs (m + 1) rest (p.behind j.compact) j.toYaml (by omega)
  rw [flowItems_compact hfirst, hmore, Place.behind_behind]

/-- The entries of a mapping are read when **the first** is, and those behind it. -/
theorem ReadsValue.flowEntries (hkey : Json.isKey key = true) (hj : ReadsValue ctx j)
    (hfields : ReadsFields ctx fields) (n : Nat) (rest : Text) (p : Place) (allowed : Bool)
    (hn : 3 * (quote key ++ ':' :: (j.compact ++
      behindFirst '\x7d' (Json.compactFields fields))).length ≤ n) :
    flowEntries n ctx
        ⟨quote key ++ ':' :: (j.compact ++
          (behindFirst '\x7d' (Json.compactFields fields) ++ rest)), p, allowed⟩ =
      some ((.scalar {} false key, j.toYaml) :: Json.toYamlFields fields,
        ⟨rest, p.behind (quote key ++ ':' :: (j.compact ++
          behindFirst '\x7d' (Json.compactFields fields))), false⟩) := by
  have hpos := j.length_compact_pos
  rw [List.length_append, List.length_cons, List.length_append] at hn
  -- the key takes two steps in front of those of its value
  obtain ⟨m, rfl⟩ := Nat.exists_eq_add_of_le' (show 4 ≤ n by omega)
  have hmark : isFlowMark '\x7d' = true := rfl
  have hends := endsValue_behindFirst hmark (Json.compactFields fields) rest
  have hfirst := hj m _ (p.behind (quote key ++ [':'])) false hends (by omega)
  have hmore := hfields (m + 2) rest ((p.behind (quote key ++ [':'])).behind j.compact)
    (.scalar {} false key, j.toYaml) (by omega)
  rw [flowEntries_compact hkey hfirst, hmore]
  simp only [Place.behind_behind, List.append_assoc, List.cons_append, List.nil_append]

theorem ReadsItems.nil : ReadsItems ctx [] := by
  intro n rest p y hn
  obtain ⟨m, rfl⟩ := Nat.exists_eq_add_of_le' (show 1 ≤ n from Nat.le_trans (by decide) hn)
  rfl

theorem ReadsItems.cons (hj : ReadsValue ctx j) (hjs : ReadsItems ctx js) :
    ReadsItems ctx (j :: js) := by
  intro n rest p y hn
  rw [Json.compactItems, behindFirst_cons, List.length_cons] at hn
  obtain ⟨m, rfl⟩ := Nat.exists_eq_add_of_le' (show 1 ≤ n by omega)
  rw [Json.compactItems, behindFirst_cons, List.cons_append, List.append_assoc,
    flowItemsBehind_comma, hj.flowItems hjs m rest _ false (by omega), Json.toYamlItems]
  simp only [Option.map_some, Place.behind_behind, List.singleton_append]

theorem ReadsFields.nil : ReadsFields ctx [] := by
  intro n rest p entry hn
  obtain ⟨m, rfl⟩ := Nat.exists_eq_add_of_le' (show 1 ≤ n from Nat.le_trans (by decide) hn)
  rfl

theorem ReadsFields.cons (hkey : Json.isKey key = true) (hj : ReadsValue ctx j)
    (hfields : ReadsFields ctx fields) : ReadsFields ctx ((key, j) :: fields) := by
  intro n rest p entry hn
  rw [Json.compactFields, behindFirst_cons] at hn ⊢
  simp only [List.cons_append, List.append_assoc, List.length_cons] at hn ⊢
  obtain ⟨m, rfl⟩ := Nat.exists_eq_add_of_le' (show 1 ≤ n by omega)
  rw [flowEntriesBehind_comma, hj.flowEntries hkey hfields m rest _ false (by omega),
    Json.toYamlFields]
  simp only [Option.map_some, Place.behind_behind, List.singleton_append]

theorem ReadsValue.array_nil : ReadsValue ctx (.array []) := by
  intro n rest p allowed _ hn
  obtain ⟨m, rfl⟩ := Nat.exists_eq_add_of_le'
    (show 2 ≤ n from Nat.le_of_succ_le_succ (Nat.le_trans (by decide) hn))
  have hopen := flowContent_bracket ctx (m + 1) (']' :: rest) p allowed
  rw [flowItems_nil] at hopen
  exact hopen

theorem ReadsValue.array_cons (hj : ReadsValue ctx j) (hjs : ReadsItems ctx js) :
    ReadsValue ctx (.array (j :: js)) := by
  intro n rest p allowed _ hn
  rw [compact_array_cons, List.length_cons] at hn
  obtain ⟨m, rfl⟩ := Nat.exists_eq_add_of_le' (show 1 ≤ n by omega)
  rw [compact_array_cons, List.cons_append, List.append_assoc, flowContent_bracket,
    hj.flowItems hjs m rest _ allowed (by omega), Json.toYaml, Json.toYamlItems]
  simp only [Option.map_some, Cursor.withKeys, Place.behind_behind, List.singleton_append]

theorem ReadsValue.object_nil : ReadsValue ctx (.object []) := by
  intro n rest p allowed _ hn
  obtain ⟨m, rfl⟩ := Nat.exists_eq_add_of_le'
    (show 2 ≤ n from Nat.le_of_succ_le_succ (Nat.le_trans (by decide) hn))
  have hopen := flowContent_brace ctx (m + 1) ('\x7d' :: rest) p allowed
  rw [flowEntries_nil] at hopen
  exact hopen

theorem ReadsValue.object_cons (hkey : Json.isKey key = true) (hj : ReadsValue ctx j)
    (hfields : ReadsFields ctx fields) : ReadsValue ctx (.object ((key, j) :: fields)) := by
  intro n rest p allowed _ hn
  rw [compact_object_cons] at hn ⊢
  simp only [List.cons_append, List.append_assoc, List.length_cons] at hn ⊢
  obtain ⟨m, rfl⟩ := Nat.exists_eq_add_of_le' (show 1 ≤ n by omega)
  rw [flowContent_brace, hj.flowEntries hkey hfields m rest _ allowed (by omega), Json.toYaml,
    Json.toYamlFields]
  simp only [Option.map_some, Cursor.withKeys, Place.behind_behind, List.singleton_append]

end Collections

mutual

/-- **Every value that comes through is read as its data.** -/
theorem readsValue (ctx : Context) : ∀ (j : Json), j.isCarried = true → ReadsValue ctx j
  | .null, _ => .word rfl rfl (List.cons_ne_nil _ _) (List.all_eq_true.1 rfl)
  | .bool true, _ => .word rfl rfl (List.cons_ne_nil _ _) (List.all_eq_true.1 rfl)
  | .bool false, _ => .word rfl rfl (List.cons_ne_nil _ _) (List.all_eq_true.1 rfl)
  | .number n, _ =>
      .word rfl rfl (decimal_ne_nil n) fun x hx => by
        rw [Char.isAlphanum, isDigit_of_mem_decimal hx, Bool.or_true]
  | .string t, h => .string h
  | .array [], _ => .array_nil
  | .array (j :: js), h => by
      rw [Json.isCarried, Json.isCarriedItems, Bool.and_eq_true] at h
      exact .array_cons (readsValue ctx j h.1) (readsItems ctx js h.2)
  | .object [], _ => .object_nil
  | .object ((key, j) :: fields), h => by
      rw [Json.isCarried, Json.isCarriedFields, Bool.and_eq_true, Bool.and_eq_true] at h
      exact .object_cons h.1.1 (readsValue ctx j h.1.2) (readsFields ctx fields h.2)

/-- So are items behind another one. -/
theorem readsItems (ctx : Context) :
    ∀ (js : List Json), Json.isCarriedItems js = true → ReadsItems ctx js
  | [], _ => .nil
  | j :: js, h => by
      rw [Json.isCarriedItems, Bool.and_eq_true] at h
      exact .cons (readsValue ctx j h.1) (readsItems ctx js h.2)

/-- So are fields behind another one. -/
theorem readsFields (ctx : Context) :
    ∀ (fields : List (Text × Json)), Json.isCarriedFields fields = true → ReadsFields ctx fields
  | [], _ => .nil
  | (key, j) :: fields, h => by
      rw [Json.isCarriedFields, Bool.and_eq_true, Bool.and_eq_true] at h
      exact .cons h.1.1 (readsValue ctx j h.1.2) (readsFields ctx fields h.2)

end

end Yaml

end SequenceBridge
