import SequenceBridge.Proofs.Yaml.Flow
import SequenceBridge.Yaml.Document

/-! # JSON texts as YAML documents
A text that is one array or object of JSON is a YAML document, and its node is the data of the value.
There are no anchors in it, so nothing is left for an alias to name.

* **`Json.IsReadAsData`** — YAML reads a written value as its data.
* **`Json.isReadAsData_of_isCarried`** — this holds of collections that come through.
* **`Yaml.Document.ofText?_compact`** — the document that such a text holds.
-/

namespace SequenceBridge

namespace Json

/-- YAML reads a written value **as the data it denotes**. -/
def IsReadAsData (j : Json) : Prop := Yaml.ofText? j.compact = some j.toYaml

/-- An array or an object. -/
def IsCollection (j : Json) : Prop :=
  (∃ items, j = .array items) ∨ ∃ fields, j = .object fields

/-- A collection begins with a bracket or a brace. -/
theorem IsCollection.exists_compact_eq_cons {j : Json} (h : j.IsCollection) :
    ∃ x t, j.compact = x :: t ∧ (x = '[' ∨ x = '\x7b') := by
  rcases h with ⟨items, rfl⟩ | ⟨fields, rfl⟩
  · exact ⟨_, _, by rw [compact]; rfl, .inl rfl⟩
  · exact ⟨_, _, by rw [compact]; rfl, .inr rfl⟩

end Json

namespace Yaml

/-! ## Texts that are kept -/

/-- The characters of a YAML text that stand for themselves before anything is read. -/
def isKept (c : Char) : Bool := isAllowed c && c ≠ '\r' && c ≠ '\x85'

theorem isAllowed_of_isKept {c : Char} (h : isKept c = true) : isAllowed c = true := by
  rw [isKept, Bool.and_eq_true, Bool.and_eq_true] at h
  exact h.1.1

/-- A text of such characters **is unified** already. -/
theorem unified_eq_self {t : Text} (h : ∀ c ∈ t, isKept c = true) : unified t = t := by
  induction t with
  | nil => rfl
  | cons c t ih =>
      have hc := h c List.mem_cons_self
      simp only [isKept, Bool.and_eq_true, decide_eq_true_eq] at hc
      rw [unified, if_neg (not_or.2 ⟨hc.1.2, hc.2⟩), ih fun d hd => h d (List.mem_cons_of_mem c hd)]
      exact fun _ hr _ => hc.1.2 hr

end Yaml

namespace Json

open Yaml (isKept)

/-- What stands for a character between quotes is kept. -/
theorem isKept_of_mem_quoteChar {c d : Char} (hc : Yaml.isCarried c = true)
    (hd : d ∈ quoteChar c) : isKept d = true := by
  by_cases hcontrol : c.toNat < 0x20
  · -- controls have an escape each
    have hescape : ∀ n < 0x20, (quoteChar (Char.ofNat n)).all isKept = true := by decide
    have hkept := hescape c.toNat hcontrol
    rw [Char.ofNat_toNat] at hkept
    exact List.all_eq_true.1 hkept d hd
  by_cases hletter : c = '\x22' ∨ c = '\\'
  · rcases hletter with rfl | rfl
    · exact List.all_eq_true.1 (show (quoteChar '\x22').all isKept = true from rfl) d hd
    · exact List.all_eq_true.1 (show (quoteChar '\\').all isKept = true from rfl) d hd
  -- any other character stands for itself
  rw [not_or] at hletter
  have hne : ∀ e : Char, e.toNat < 0x20 → c ≠ e := by
    rintro e he rfl
    exact hcontrol he
  simp only [quoteChar, hletter, hne '\x08' (by decide), hne '\t' (by decide),
    hne '\n' (by decide), hne '\x0c' (by decide), hne '\r' (by decide), hcontrol, if_false,
    List.mem_singleton] at hd
  rw [Yaml.isCarried, decide_eq_false hcontrol, Bool.false_or, Bool.and_eq_true,
    Bool.and_eq_true] at hc
  rw [hd, isKept, hc.1.1, hc.1.2, decide_eq_true (hne '\r' (by decide))]
  rfl

/-- A string is kept. -/
theorem isKept_of_mem_quote {t : Text} (ht : t.all Yaml.isCarried = true) {d : Char}
    (hd : d ∈ quote t) : isKept d = true := by
  have hquote : isKept '\x22' = true := by decide
  simp only [quote, List.cons_append, List.mem_cons, List.mem_append, List.mem_flatMap,
    List.not_mem_nil, or_false] at hd
  rcases hd with rfl | ⟨c, hc, hd⟩ | rfl
  · exact hquote
  · exact isKept_of_mem_quoteChar (List.all_eq_true.1 ht c hc) hd
  · exact hquote

/-- Joined pieces are kept when the pieces are. -/
theorem isKept_of_mem_commas {ts : List Text} (h : ∀ t ∈ ts, ∀ c ∈ t, isKept c = true) {c : Char}
    (hc : c ∈ Text.commas ts) : isKept c = true := by
  rcases Text.mem_intercalate hc with rfl | ⟨t, ht, hc⟩
  · decide
  · exact h t ht c hc

mutual

/-- A value that comes through **is kept** before anything is read. -/
theorem isKept_of_mem_compact :
    ∀ (j : Json), j.isCarried = true → ∀ c ∈ j.compact, isKept c = true
  | .null, _ => List.all_eq_true.1 rfl
  | .bool true, _ => List.all_eq_true.1 rfl
  | .bool false, _ => List.all_eq_true.1 rfl
  | .number n, _ => fun c hc => by
      have hdigits : ∀ n < 10, isKept (Char.ofNat (48 + n)) = true := by decide
      have hdigit := toNat_of_isDigit (isDigit_of_mem_decimal hc)
      have hkept := hdigits (c.toNat - 48) (by omega)
      rw [Nat.add_sub_cancel' hdigit.1, Char.ofNat_toNat] at hkept
      exact hkept
  | .string t, h => fun c hc => isKept_of_mem_quote h hc
  | .array items, h => fun c hc => by
      simp only [compact, List.cons_append, List.mem_cons, List.mem_append, List.not_mem_nil,
        or_false] at hc
      rcases hc with rfl | hc | rfl
      · decide
      · exact isKept_of_mem_commas (isKept_of_mem_compactItems items h) hc
      · decide
  | .object fields, h => fun c hc => by
      simp only [compact, List.cons_append, List.mem_cons, List.mem_append, List.not_mem_nil,
        or_false] at hc
      rcases hc with rfl | hc | rfl
      · decide
      · exact isKept_of_mem_commas (isKept_of_mem_compactFields fields h) hc
      · decide

/-- So are the items of an array. -/
theorem isKept_of_mem_compactItems :
    ∀ (js : List Json), isCarriedItems js = true →
      ∀ t ∈ compactItems js, ∀ c ∈ t, isKept c = true
  | [], _ => fun _ ht => absurd ht List.not_mem_nil
  | j :: js, h => fun t ht c hc => by
      rw [isCarriedItems, Bool.and_eq_true] at h
      rw [compactItems] at ht
      rcases List.mem_cons.1 ht with rfl | ht
      · exact isKept_of_mem_compact j h.1 c hc
      · exact isKept_of_mem_compactItems js h.2 t ht c hc

/-- So are the fields of an object. -/
theorem isKept_of_mem_compactFields :
    ∀ (fields : List (Text × Json)), isCarriedFields fields = true →
      ∀ t ∈ compactFields fields, ∀ c ∈ t, isKept c = true
  | [], _ => fun _ ht => absurd ht List.not_mem_nil
  | (key, j) :: fields, h => fun t ht c hc => by
      rw [isCarriedFields, isKey, Bool.and_eq_true, Bool.and_eq_true, Bool.and_eq_true] at h
      rw [compactFields] at ht
      rcases List.mem_cons.1 ht with rfl | ht
      · rw [List.mem_append, List.mem_cons] at hc
        rcases hc with hc | rfl | hc
        · exact isKept_of_mem_quote h.1.1.1 hc
        · decide
        · exact isKept_of_mem_compact j h.1.2 c hc
      · exact isKept_of_mem_compactFields fields h.2 t ht c hc

end

end Json

namespace Yaml

/-! ## From the top -/

theorem beginsValue_of_collection {x : Char} (h : x = '[' ∨ x = '\x7b') : beginsValue x = true := by
  rcases h with rfl | rfl <;> rfl

/-- Outside brackets a collection in brackets is read **as within brackets**. -/
theorem inlineNode_eq_flowContent {x : Char} (hx : x = '[' ∨ x = '\x7b') (n : Nat) (ctx : Context)
    (t : Text) (p : Place) (allowed : Bool) :
    inlineNode n ctx ⟨x :: t, p, allowed⟩ = flowContent (n + 1) ctx {} ⟨x :: t, p, allowed⟩ := by
  rcases hx with rfl | rfl
  · rw [flowContent_bracket, inlineNode, inlineContent, Cursor.next_cons rfl]
    rfl
  · rw [flowContent_brace, inlineNode, inlineContent, Cursor.next_cons rfl]
    rfl

theorem Cursor.isAt_cons_of_ne {x y : Char} (h : x ≠ y) (t : Text) (p : Place) (allowed : Bool) :
    (⟨x :: t, p, allowed⟩ : Cursor).isAt y = false := by
  simp only [isAt, h, decide_false, Bool.false_and]

/-- A collection that is **all there is** is the whole node. -/
theorem blockNode_eq_flowContent {x : Char} (hx : x = '[' ∨ x = '\x7b') {n : Nat} {ctx : Context}
    (hctx : ctx.least = 0) {t : Text} {p q : Place} {y : Yaml Text} (hy : attach? {} y = some y)
    (h : flowContent (n + 1) ctx {} ⟨x :: t, p, true⟩ = some (y, ⟨[], q, false⟩)) :
    blockNode (n + 2) ctx false {} ⟨x :: t, p, true⟩ = some (y, ⟨[], q, false⟩) := by
  have hbegins := beginsValue_of_collection hx
  have hne : ∀ y : Char, beginsValue y = false → x ≠ y := fun _ hy => ne_of_class hbegins hy
  have hend : (⟨x :: t, p, true⟩ : Cursor).isAtEnd = false := by
    rw [Cursor.isAtEnd, Cursor.isAtMark_cons (hne '-' rfl) (hne '.' rfl)]
    rfl
  have hproperty : (⟨x :: t, p, true⟩ : Cursor).isAtProperty = false := by
    simp only [Cursor.isAtProperty, Cursor.sees_cons, hne '&' rfl, hne '!' rfl, decide_false,
      Bool.or_self]
  have hinline := inlineNode_eq_flowContent hx n ctx t p true
  rw [h] at hinline
  rw [blockNode, Cursor.skipGap_of_isInk (isInk_of_beginsValue hbegins)]
  simp only [hend, hctx, Nat.not_lt_zero, Cursor.isAt_cons_of_ne (hne '-' rfl),
    Cursor.isAt_cons_of_ne (hne '?' rfl), Cursor.sees_cons, hne '|' rfl, hne '>' rfl, decide_false,
    Bool.or_self, Bool.false_eq_true, if_false]
  rw [blockContent]
  simp only [hproperty, Bool.false_and, Bool.false_eq_true, if_false, hinline, Option.bind_some]
  rw [hy]
  rfl

/-- The data of a collection has no properties to add to. -/
theorem attach?_toYaml {j : Json} (h : j.IsCollection) : attach? {} j.toYaml = some j.toYaml := by
  rcases h with ⟨items, rfl⟩ | ⟨fields, rfl⟩ <;> rw [Json.toYaml] <;> rfl

end Yaml

namespace Yaml

/-- A text that is a collection holds a document **without directives or marks**. -/
theorem ofText?_of_blockNode {x : Char} (hx : x = '[' ∨ x = '\x7b') {t : Text} {y : Yaml Text}
    {q : Place} (hkept : ∀ c ∈ x :: t, isKept c = true)
    (h : blockNode (4 * (x :: t).length + 16) ⟨defaultHandles, 0⟩ false {} (.ofText (x :: t)) =
      some (y, ⟨[], q, false⟩)) :
    ofText? (x :: t) = some y := by
  have hbegins := beginsValue_of_collection hx
  have hne : ∀ y : Char, beginsValue y = false → x ≠ y := fun _ hy => ne_of_class hbegins hy
  have hallowed : (x :: t).all isAllowed = true :=
    List.all_eq_true.2 fun c hc => isAllowed_of_isKept (hkept c hc)
  have hgap := Cursor.skipGap_of_isInk (isInk_of_beginsValue hbegins) t ⟨0, 0, 0⟩ true false
  have hdirectives : ∀ n, directives? (n + 1) {} ⟨x :: t, ⟨0, 0, 0⟩, true⟩ =
      some ({}, ⟨x :: t, ⟨0, 0, 0⟩, true⟩) := by
    intro n
    rw [directives?, Cursor.sees_cons, decide_eq_false (hne '%' rfl), Bool.and_false]
    rfl
  have hcontent : content? (4 * (x :: t).length + 16) {} ⟨x :: t, ⟨0, 0, 0⟩, true⟩ =
      some (y, ⟨[], q, false⟩) := by
    rw [content?, opensDocument_cons (hne '-' rfl), closesDocument_cons (hne '.' rfl)]
    exact h
  have hover : ∀ n, isOver (n + 1) ⟨[], q, false⟩ = true := fun n => rfl
  rw [ofText?, if_pos hallowed, unified_eq_self hkept, Cursor.ofText]
  simp only [Cursor.sees_cons, hne '\ufeff' rfl, decide_false, Bool.false_eq_true, if_false, hgap,
    hdirectives, Option.bind_some, hcontent, hover, if_true]

end Yaml

/-- A collection that comes through **is read as its data**. -/
theorem Json.isReadAsData_of_isCarried {j : Json} (hcarried : j.isCarried = true)
    (hcollection : j.IsCollection) : j.IsReadAsData := by
  have hkept := isKept_of_mem_compact j hcarried
  have hread := Yaml.readsValue ⟨Yaml.defaultHandles, 0⟩ j hcarried
    (4 * j.compact.length + 15) [] ⟨0, 0, 0⟩ true (fun _ h => by cases h) (by omega)
  obtain ⟨x, t, heq, hx⟩ := hcollection.exists_compact_eq_cons
  rw [List.append_nil] at hread
  rw [IsReadAsData]
  rw [heq] at hkept hread ⊢
  exact Yaml.ofText?_of_blockNode hx hkept
    (Yaml.blockNode_eq_flowContent hx rfl (Yaml.attach?_toYaml hcollection) hread)

namespace Yaml

/-! ## Anchors -/

mutual

/-- The data of a value **has no anchors** and no aliases, so that numbering them changes nothing. -/
theorem number?_toYaml :
    ∀ (j : Json) (anchors : Anchors), number? j.toYaml anchors = some (j.toYaml, anchors)
  | .null, _ => rfl
  | .bool _, _ => rfl
  | .number _, _ => rfl
  | .string _, _ => rfl
  | .array items, anchors => by
      have hitems := numberItems?_toYamlItems items anchors
      rw [Json.toYaml, Json.toYaml, number?]
      exact congrArg (Option.map _) hitems
  | .object fields, anchors => by
      have hfields := numberEntries?_toYamlFields fields anchors
      rw [Json.toYaml, Json.toYaml, number?]
      exact congrArg (Option.map _) hfields

theorem numberItems?_toYamlItems :
    ∀ (js : List Json) (anchors : Anchors),
      numberItems? (Json.toYamlItems js) anchors = some (Json.toYamlItems js, anchors)
  | [], _ => rfl
  | j :: js, anchors => by
      rw [Json.toYamlItems, numberItems?, number?_toYaml j, Option.bind_some,
        numberItems?_toYamlItems js]
      rfl

theorem numberEntries?_toYamlFields :
    ∀ (fields : List (Text × Json)) (anchors : Anchors),
      numberEntries? (Json.toYamlFields fields) anchors = some (Json.toYamlFields fields, anchors)
  | [], _ => rfl
  | (key, j) :: fields, anchors => by
      rw [Json.toYamlFields, numberEntries?, number?, Option.bind_some, number?_toYaml j,
        Option.bind_some, Properties.register, numberEntries?_toYamlFields fields]
      rfl

end

mutual

/-- Nothing in the data of a value can be named by an alias. -/
theorem anchored_toYaml : ∀ (j : Json), anchored j.toYaml = []
  | .null => rfl
  | .bool _ => rfl
  | .number _ => rfl
  | .string _ => rfl
  | .array items => by
      rw [Json.toYaml, anchored, anchoredItems_toYamlItems items]
      rfl
  | .object fields => by
      rw [Json.toYaml, anchored, anchoredEntries_toYamlFields fields]
      rfl

theorem anchoredItems_toYamlItems : ∀ (js : List Json), anchoredItems (Json.toYamlItems js) = []
  | [] => rfl
  | j :: js => by
      rw [Json.toYamlItems, anchoredItems, anchored_toYaml j, anchoredItems_toYamlItems js]
      rfl

theorem anchoredEntries_toYamlFields :
    ∀ (fields : List (Text × Json)), anchoredEntries (Json.toYamlFields fields) = []
  | [] => rfl
  | (key, j) :: fields => by
      rw [Json.toYamlFields, anchoredEntries, anchored_toYaml j,
        anchoredEntries_toYamlFields fields]
      rfl

end

/-- The **document** that a written value holds when YAML reads it as its data. -/
theorem Document.ofText?_compact {j : Json} (h : j.IsReadAsData) :
    ofText? j.compact = some ⟨j.toYaml, []⟩ := by
  rw [ofText?, h, Option.bind_some, number?_toYaml, Option.map_some, anchored_toYaml]
  rfl

end Yaml

end SequenceBridge
