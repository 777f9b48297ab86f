import SequenceBridge.Json.Report
import SequenceBridge.Load
import SequenceBridge.Proofs.Json.Tokens
import SequenceBridge.Proofs.Text.Utf8
import SequenceBridge.Proofs.Tree.Path

/-! # Written trees are read back
A syntax tree is written as an object for each node, with an array around the children of a node that
has some. A path of `k` nodes so nests `2 * k - 1` brackets, the leaf having no array; within that many
brackets the reader gives the tree itself, and in any fewer it runs out of them.

* **`Node.readObject_header`** — the three fields that every node has.
* **`Node.read_tokens`** — a written tree at the start of some tokens, within any number of brackets.
* **`Node.ofJsonText_toJson`** — a text that is a written tree.
* **`loadTree_toJson_iff`** — a file that holds a written tree.
-/

namespace SequenceBridge

/-! ## Names -/

/-- The field of its own name. -/
theorem NodeField.ofLabel?_label (f : NodeField) : ofLabel? f.label.toList = some f := by
  cases f <;> rfl

/-- The kind of its own name. -/
theorem Kind.ofLabel?_label (k : Kind) : ofLabel? k.label.toList = some k := by
  have hall : ∀ k ∈ Kind.all, ofLabel? k.label.toList = some k := by decide +kernel
  exact hall k (mem_all k)

namespace Node

/-! ## The fields of a node -/

/-- The name of a kind is read as **that kind**. -/
theorem readKind_label (depth : Nat) (k : Kind) (rest : List Token) :
    readKind depth (.string (some k.label.toList) :: rest) = .ok (k, rest) := by
  rw [readKind, kindNamed, Kind.ofLabel?_label]

/-- The number of an offset is read as **that offset**. -/
theorem readOffset_toNat (offset : UInt64) (rest : List Token) :
    readOffset (.number (.ofNat offset.toNat) :: rest) = .ok (offset, rest) := by
  rw [readOffset, Numeral.value?_ofNat offset.toNat_lt]
  simp only [UInt64.ofNat_toNat]

namespace Draft

variable (depth : Nat) (children : List Token → Reading (List Node)) {d : Draft} {f : NodeField}

/-- A field that has not been read yet is **read behind its name**. -/
theorem readField_label (h : d.has f = false) (rest : List Token) :
    d.readField depth children f.label.toList (.colon :: rest) =
      d.readValue depth children f rest := by
  unfold readField
  rw [NodeField.ofLabel?_label]
  exact if_neg (Bool.eq_false_iff.1 h)

/-- Behind a comma a further field is read, and then the rest of them. -/
theorem readMore_label (h : d.has f = false) (most : Nat) (rest : List Token) :
    readMore depth children (most + 1) d
        (.comma :: .string (some f.label.toList) :: .colon :: rest) =
      (d.readValue depth children f rest).bind fun found =>
        readMore depth children most found.1 found.2 := by
  rw [readMore, readField_label depth children h]

end Draft

/-- The tokens of the **fields that every node has**, in the order in which they are written. -/
def headerTokens (kind : Kind) (span : Span) : List Token :=
  [.string (some (NodeField.label .kind).toList), .colon, .string (some kind.label.toList), .comma,
   .string (some (NodeField.label .start).toList), .colon, .number (.ofNat span.start.toNat), .comma,
   .string (some (NodeField.label .stop).toList), .colon, .number (.ofNat span.stop.toNat)]

/-- Behind the fields that every node has **they are known**, and there are steps left to read more
fields. -/
theorem readObject_header (depth : Nat) (children : List Token → Reading (List Node)) (kind : Kind)
    (span : Span) (rest : List Token) :
    readObject depth children (headerTokens kind span ++ rest) =
      Draft.readMore depth children (rest.length + 8)
        ⟨some kind, some span.start, some span.stop, none⟩ rest := by
  have hstart := Draft.readMore_label depth children (d := ⟨some kind, none, none, none⟩)
    (f := .start) rfl (rest.length + 9)
    (.number (.ofNat span.start.toNat) :: .comma :: .string (some (NodeField.label .stop).toList) ::
      .colon :: .number (.ofNat span.stop.toNat) :: rest)
  have hstop := Draft.readMore_label depth children
    (d := ⟨some kind, some span.start, none, none⟩) (f := .stop) rfl (rest.length + 8)
    (.number (.ofNat span.stop.toNat) :: rest)
  simp only [Draft.readValue, readOffset_toNat] at hstart hstop
  simp only [headerTokens, List.cons_append, List.nil_append, readObject,
    Draft.readField_label depth children (d := {}) (f := .kind) rfl, Draft.readValue,
    readKind_label]
  exact hstart.trans hstop

/-- A node without children ends behind the fields that every node has. -/
theorem readObject_leaf (depth : Nat) (children : List Token → Reading (List Node)) (kind : Kind)
    (span : Span) (rest : List Token) :
    readObject depth children (headerTokens kind span ++ .closeBrace :: rest) =
      .ok (⟨kind, span, []⟩, rest) := by
  rw [readObject_header, Draft.readMore]
  rfl

/-- A node with children ends behind them, if they can be read. -/
theorem readObject_children (depth : Nat) {children : List Token → Reading (List Node)}
    (kind : Kind) (span : Span) {ns : List Node} {tokens rest : List Token} {fits : Prop}
    [Decidable fits]
    (h : children tokens = if fits then .ok (ns, .closeBrace :: rest) else .error .malformed) :
    readObject depth children (headerTokens kind span ++ .comma ::
        .string (some (NodeField.label .children).toList) :: .colon :: tokens) =
      if fits then .ok (⟨kind, span, ns⟩, rest) else .error .malformed := by
  have hchildren := Draft.readMore_label depth children
    (d := ⟨some kind, some span.start, some span.stop, none⟩) (f := .children) rfl
    (tokens.length + 10) tokens
  rw [readObject_header]
  refine Eq.trans hchildren ?_
  simp only [Draft.readValue, h]
  split
  · simp only [Except.map, Except.bind]
    rw [Draft.readMore]
    rfl
  · rfl

/-! ## Trees -/

/-- The tokens of a written leaf. -/
theorem tokens_toJson_leaf (kind : Kind) (span : Span) (rest : List Token) :
    (Node.toJson ⟨kind, span, []⟩).tokens ++ rest =
      .openBrace :: (headerTokens kind span ++ .closeBrace :: rest) := by
  rw [Node.toJson]
  rfl

/-- The tokens of a written node with children. -/
theorem tokens_toJson_cons (kind : Kind) (span : Span) (child : Node) (others : List Node)
    (rest : List Token) :
    (Node.toJson ⟨kind, span, child :: others⟩).tokens ++ rest =
      .openBrace :: (headerTokens kind span ++ .comma ::
        .string (some (NodeField.label .children).toList) :: .colon :: .openBracket ::
          (child.toJson.tokens ++ (Json.moreItems (Node.toJsonAll others) ++ .closeBrace :: rest))) := by
  rw [Node.toJson]
  simp only [Json.tokens, Json.moreFields, List.cons_append, List.append_assoc, List.nil_append]
  rfl

/-- A written node begins with a brace. -/
theorem exists_tokens_toJson (n : Node) : ∃ tokens, n.toJson.tokens = .openBrace :: tokens := by
  obtain ⟨kind, span, children⟩ := n
  cases children with
  | nil => exact ⟨_, (List.append_nil _).symm.trans (tokens_toJson_leaf kind span [])⟩
  | cons child others =>
      exact ⟨_, (List.append_nil _).symm.trans (tokens_toJson_cons kind span child others [])⟩

/-- A first node and some more are read when the first and the others are. -/
theorem bind_map_of_fits {p q : Prop} [Decidable p] [Decidable q] {n : Node} {ns : List Node}
    {tokens rest : List Token} {more : List Token → Reading (List Node)}
    (h : more tokens = if q then .ok (ns, rest) else .error .malformed) :
    ((if p then .ok (n, tokens) else .error .malformed : Reading Node).bind fun first =>
        (more first.2).map fun found => (first.1 :: found.1, found.2)) =
      if p ∧ q then .ok (n :: ns, rest) else .error .malformed := by
  by_cases hp : p
  · rw [if_pos hp]
    by_cases hq : q
    · rw [if_pos hq] at h
      rw [if_pos ⟨hp, hq⟩, Except.bind, h]
      rfl
    · rw [if_neg hq] at h
      rw [if_neg fun hpq => hq hpq.2, Except.bind, h]
      rfl
  · rw [if_neg hp, if_neg fun hpq => hp hpq.1]
    rfl

/-- There is room for some nodes exactly when there is for the first and for the others. -/
theorem heightAll_cons_fits {n : Node} {ns : List Node} {depth : Nat} :
    (2 * n.height ≤ depth + 1 ∧ 2 * heightAll ns ≤ depth + 1) ↔
      2 * heightAll (n :: ns) ≤ depth + 1 := by
  rw [heightAll]
  omega

/-- There are at least as many tokens as nodes. -/
theorem length_le_length_moreItems (ns : List Node) :
    ns.length ≤ (Json.moreItems (Node.toJsonAll ns)).length := by
  induction ns with
  | nil => exact Nat.zero_le _
  | cons n ns ih =>
      rw [Node.toJsonAll, Json.moreItems]
      simp only [List.length_cons, List.length_append]
      omega

theorem height_pos (n : Node) : 0 < n.height := by
  rw [height_eq]
  exact Nat.succ_pos _

mutual

/-- A written tree **is read back** within two brackets for each node of a path but the last, which
takes one; within fewer it is not. -/
theorem read_tokens :
    ∀ (n : Node) (depth : Nat) (rest : List Token),
      read depth (n.toJson.tokens ++ rest) =
        if 2 * n.height ≤ depth + 1 then .ok (n, rest) else .error .malformed
  | n, 0, rest => by
      obtain ⟨tokens, htokens⟩ := exists_tokens_toJson n
      have hpos := height_pos n
      rw [htokens, List.cons_append, read, if_neg (by omega)]
  | ⟨kind, span, []⟩, depth + 1, rest => by
      rw [tokens_toJson_leaf, read, readObject_leaf, height_eq, heightAll, if_pos (by omega)]
  | ⟨kind, span, child :: others⟩, depth + 1, rest => by
      rw [tokens_toJson_cons, read]
      have hchildren : readChildren depth (.openBracket :: (child.toJson.tokens ++
          (Json.moreItems (Node.toJsonAll others) ++ .closeBrace :: rest))) =
          if 2 * heightAll (child :: others) ≤ depth then
            .ok (child :: others, .closeBrace :: rest)
          else .error .malformed := by
        -- the brackets around the children are one more pair
        cases depth with
        | zero =>
            have hpos := height_pos child
            rw [readChildren, if_neg (by rw [heightAll]; omega)]
        | succ depth =>
            obtain ⟨tokens, htokens⟩ := exists_tokens_toJson child
            have hchild := read_tokens child depth
              (Json.moreItems (Node.toJsonAll others) ++ .closeBrace :: rest)
            have hothers := readMoreItems_moreItems others depth
              (child.toJson.tokens ++
                (Json.moreItems (Node.toJsonAll others) ++ .closeBrace :: rest)).length
              (.closeBrace :: rest) (by
                have hlength := length_le_length_moreItems others
                simp only [List.length_append]
                omega)
            rw [htokens, List.cons_append] at hchild hothers ⊢
            rw [readChildren, readItems, hchild, bind_map_of_fits hothers]
            · simp only [heightAll_cons_fits]
            · exact fun _ h => by cases h
      rw [readObject_children depth kind span hchildren, height_eq]
      -- two brackets for this node, and what the children need
      have hfits : 2 * heightAll (child :: others) ≤ depth ↔
          2 * (heightAll (child :: others) + 1) ≤ depth + 1 + 1 := by omega
      simp only [hfits]

/-- So are the nodes of an array behind its first one. -/
theorem readMoreItems_moreItems :
    ∀ (ns : List Node) (depth most : Nat) (rest : List Token), ns.length ≤ most →
      readMoreItems (read depth) most (Json.moreItems (Node.toJsonAll ns) ++ rest) =
        if 2 * heightAll ns ≤ depth + 1 then .ok (ns, rest) else .error .malformed
  | [], depth, most, rest, _ => by
      rw [heightAll, if_pos (Nat.zero_le _), Node.toJsonAll, Json.moreItems]
      cases most <;> rfl
  | n :: ns, depth, 0, rest, h => absurd h (Nat.not_succ_le_zero _)
  | n :: ns, depth, most + 1, rest, h => by
      have hn := read_tokens n depth (Json.moreItems (Node.toJsonAll ns) ++ rest)
      have hns := readMoreItems_moreItems ns depth most rest (Nat.le_of_succ_le_succ h)
      rw [Node.toJsonAll, Json.moreItems, List.cons_append, List.append_assoc, readMoreItems, hn,
        bind_map_of_fits hns]
      simp only [heightAll_cons_fits]

end

/-- A text that is a written tree is **that tree**, when no path through it has more than 64 nodes;
otherwise it nests too many brackets. -/
theorem ofJsonText_toJson (root : Node) :
    ofJsonText root.toJson.compact = if root.height ≤ 64 then .ok root else .error .malformed := by
  have hends : EndsNumeral [] := fun _ h => by cases h
  have htokens := Json.ofText_compact root.toJson hends
  rw [List.append_nil, Token.ofText] at htokens
  rw [ofJsonText, htokens, read_tokens, greatestDepth]
  by_cases hheight : root.height ≤ 64
  · rw [if_pos hheight, if_pos (by omega)]
  · rw [if_neg hheight, if_neg (by omega)]

end Node

/-! ## Files -/

/-- A file that holds a written tree is loaded as that tree when no path through it has more than 64
nodes. -/
theorem loadTree_toJson (path : Path) (root : Node) :
    loadTree path (.ok root.toJson.compact.toBytes) =
      if root.height ≤ 64 then .ok root else .error (.tree path .malformed) := by
  have htext : loadText path (.ok root.toJson.compact.toBytes) = .ok root.toJson.compact := by
    rw [loadText, readText, Bytes.text?_toBytes]
  have hroot := Node.ofJsonText_toJson root
  by_cases hheight : root.height ≤ 64
  · rw [if_pos hheight] at hroot ⊢
    simp only [loadTree, htext, hroot]
  · rw [if_neg hheight] at hroot ⊢
    simp only [loadTree, htext, hroot]

/-- A file that holds a written tree **is loaded as that tree exactly when** no path from its root to a
leaf has more than 64 nodes. The file of a deeper tree is refused, because its brackets nest too
deep. -/
theorem loadTree_toJson_iff (path : Path) (root : Node) :
    (loadTree path (.ok root.toJson.compact.toBytes) = .ok root ↔
      ∀ p, root.IsPath p → p.length ≤ 64) ∧
    ((∃ p, root.IsPath p ∧ 64 < p.length) →
      loadTree path (.ok root.toJson.compact.toBytes) = .error (.tree path .malformed)) := by
  rw [loadTree_toJson, ← Node.height_le_iff]
  constructor
  · by_cases hheight : root.height ≤ 64
    · rw [if_pos hheight]
      exact iff_of_true rfl hheight
    · rw [if_neg hheight]
      exact iff_of_false (fun h => by cases h) hheight
  · rintro ⟨p, hp, hlength⟩
    have hheight := hp.length_le_height
    rw [if_neg (by omega)]

/-- A chain of nodes above a leaf whose span ends at the greatest offset, each node the only child of the
one above it. -/
def Node.chain : Nat → Node
  | 0 => ⟨.error, ⟨0, 18446744073709551615⟩, []⟩
  | above + 1 => ⟨.repeatArg, ⟨0, 0⟩, [chain above]⟩

theorem Node.height_chain (above : Nat) : (chain above).height = above + 1 := by
  induction above with
  | zero => rfl
  | succ above ih => rw [chain, height_eq, heightAll, heightAll, Nat.max_zero, ih]

/-- A chain of 64 nodes is loaded, one of 65 is not. -/
theorem loadTree_toJson_chain :
    loadTree [] (.ok (Node.chain 63).toJson.compact.toBytes) = .ok (.chain 63) ∧
      loadTree [] (.ok (Node.chain 64).toJson.compact.toBytes) = .error (.tree [] .malformed) := by
  obtain ⟨p, hp, hlength⟩ := Node.exists_isPath (.chain 64)
  rw [Node.height_chain] at hlength
  exact ⟨(loadTree_toJson_iff [] (.chain 63)).1.2
      (Node.height_le_iff.1 (Nat.le_of_eq (Node.height_chain 63))),
    (loadTree_toJson_iff [] (.chain 64)).2 ⟨p, hp, by omega⟩⟩

end SequenceBridge
