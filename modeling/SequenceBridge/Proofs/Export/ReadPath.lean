import Mathlib.Data.List.Forall2
import SequenceBridge.Proofs.Argument.Visit
import SequenceBridge.Proofs.Export.Time
import SequenceBridge.Proofs.Tree.Child

/-! # What an export reads
Of a whole document, an export reads a few slices of the source: for each command those of its time, its
stem, its argument nodes and its comment, and those of the comments between the commands. Two documents
in which these match have the same text, wherever the nodes lie, whatever else stands beside them, and
whatever the sources say elsewhere. So a document can be pruned down to the nodes that are read.

* **`ArgumentMatch`** — argument nodes of two documents that are read as the same.
* **`value_convert_of_match`** — they become the same argument, under any definition and at any depth.
* **`Command.Matches`**, **`Step.Matches`**, **`Node.Matches`** — commands, steps and documents that are
  read as the same.
* **`value_line_of_matches`** — matching steps have the same line.
* **`Node.pruned`** — a document without anything that is not read.
* **`exportTree_reads_nothing_else`** — matching documents have the same text, and a pruned document has
  the text that it had.
-/

namespace SequenceBridge

section

variable {source₁ source₂ : Text}

/-! ## Argument nodes -/

/-- Argument nodes of two documents **match**, each over its own source. -/
inductive ArgumentMatch (source₁ source₂ : Text) : Node → Node → Prop
  /-- Two repeated arguments whose nodes match one by one. -/
  | repeated {m n : Node} (hm : m.kind = .repeatArg) (hn : n.kind = .repeatArg)
      (inside : List.Forall₂ (ArgumentMatch source₁ source₂) m.children n.children) :
      ArgumentMatch source₁ source₂ m n
  /-- Two other nodes that cover the same text, or none, and are both errors of the grammar or both
  not. -/
  | plain {m n : Node} (hm : m.kind ≠ .repeatArg) (hn : n.kind ≠ .repeatArg)
      (slice : m.text? source₁ = n.text? source₂) (error : m.kind = .error ↔ n.kind = .error) :
      ArgumentMatch source₁ source₂ m n

/-- The text of a plain argument node is its slice, unless it is an error. -/
theorem scalar?_of_match {m n : Node} (slice : m.text? source₁ = n.text? source₂)
    (error : m.kind = .error ↔ n.kind = .error) : m.scalar? source₁ = n.scalar? source₂ := by
  have hkind : (m.kind != .error) = (n.kind != .error) := by
    rw [Bool.eq_iff_iff, bne_iff_ne, bne_iff_ne]
    exact not_congr error
  rw [Node.scalar?, Node.scalar?, slice, hkind]

mutual

/-- **Matching argument nodes** become the same argument, or are both dropped. -/
theorem value_convert_of_match (definition : Option ArgumentDefinition) (depth : Nat) :
    ∀ m n : Node, ArgumentMatch source₁ source₂ m n →
      (m.convert source₁ definition depth).value = (n.convert source₂ definition depth).value
  | ⟨kind, span, children⟩, n, h => by
      obtain ⟨kind', span', children'⟩ := n
      rw [Node.convert, Node.convert]
      cases h with
      | repeated hm hn inside =>
          -- both are entered or both stand too deep, whatever their spans
          have hinside := values_convertAll_of_match (groupDefinition? definition) (depth + 1) 0
            children children' inside
          rw [if_pos hm, if_pos hn]
          by_cases hd : depth < maxRepeatDepth <;> simp [hd, hinside]
      | plain hm hn slice error =>
          rw [if_neg hm, if_neg hn, scalar?_of_match slice error]
          cases Node.scalar? ⟨kind', span', children'⟩ source₂ <;> rfl

/-- Argument nodes that match one by one become the same arguments. -/
theorem values_convertAll_of_match (definitionAt : Nat → Option ArgumentDefinition)
    (depth index : Nat) :
    ∀ ms ns : List Node, List.Forall₂ (ArgumentMatch source₁ source₂) ms ns →
      (Node.convertAll source₁ definitionAt depth index ms).value =
        (Node.convertAll source₂ definitionAt depth index ns).value
  | [], ns, h => by
      cases h
      rw [Node.convertAll, Node.convertAll]
  | m :: ms, ns, h => by
      cases h with
      | cons hfirst hothers =>
          rw [Node.convertAll, Node.convertAll]
          simp only [value_convert_of_match (definitionAt index) depth m _ hfirst,
            values_convertAll_of_match definitionAt depth (index + 1) ms _ hothers]

end

/-! ## Commands -/

/-- The argument nodes of a command: what stands below its first node for them. -/
def Command.argumentNodes (c : Command) : List Node := (c.args?.map Node.children).getD []

/-- What is read **for the time** of a command: the kind and the slice of the first absolute time in its
first time tag, or else of the first relative one. -/
def Command.timeRead? (c : Command) (source : Text) : Option (Kind × Text) :=
  (c.timeTag?.bind Node.expressibleTime?).bind fun n => (n.text? source).map (n.kind, ·)

/-- What is read for the stem of a command. -/
def Command.stemRead? (c : Command) (source : Text) : Option Text := c.stem?.bind (·.text? source)

/-- What is read for the comment at the end of a command. -/
def Command.commentRead? (c : Command) (source : Text) : Option Text :=
  c.comment?.bind (·.text? source)

/-- Commands of two documents **match** when the same is read for each part of them. A part that is
missing counts as one without a slice. -/
structure Command.Matches (source₁ source₂ : Text) (c₁ c₂ : Command) : Prop where
  time : c₁.timeRead? source₁ = c₂.timeRead? source₂
  stem : c₁.stemRead? source₁ = c₂.stemRead? source₂
  arguments : List.Forall₂ (ArgumentMatch source₁ source₂) c₁.argumentNodes c₂.argumentNodes
  comment : c₁.commentRead? source₁ = c₂.commentRead? source₂

/-- The time tag that is made of a kind and a slice. -/
def TimeTag.ofRead? (read : Kind × Text) : Option TimeTag :=
  let body := Text.trim read.2.tail
  if read.1 = .timeAbsolute then some (.absolute body) else (relativeDuration? body).map .relative

/-- **The time tag of a command** is made of what is read for its time. -/
theorem ofCommand?_eq_read (c : Command) (source : Text) :
    TimeTag.ofCommand? c source = (c.timeRead? source).bind TimeTag.ofRead? := by
  rw [Command.timeRead?]
  cases htag : c.timeTag? with
  | none => rw [TimeTag.ofCommand?, htag]; rfl
  | some tag =>
      rw [Option.bind_some, Node.expressibleTime?]
      cases habsolute : tag.child? .timeAbsolute with
      | some n =>
          have hkind : n.kind = .timeAbsolute := (child?_eq_some_iff.1 habsolute).1
          rw [TimeTag.ofCommand?_of_absolute htag habsolute, TimeTag.body?]
          cases hslice : n.text? source <;> simp [hslice, TimeTag.ofRead?, hkind]
      | none =>
          cases hrelative : tag.child? .timeRelative with
          | none => rw [TimeTag.ofCommand?_of_neither htag habsolute hrelative]; rfl
          | some n =>
              have hkind : n.kind = .timeRelative := (child?_eq_some_iff.1 hrelative).1
              have hform := TimeTag.ofTag?_of_relative habsolute hrelative
              rw [TimeTag.ofCommand?_of_relative htag hform, TimeTag.body?]
              cases hslice : n.text? source <;> simp [hslice, TimeTag.ofRead?, hkind]

/-- The comment at the end of a command is made of what is read for it. -/
theorem exportTrailer_eq_read (c : Command) (source : Text) :
    exportTrailer c source =
      match commentText ((c.commentRead? source).getD []).tail with
      | [] => []
      | comment => ' ' :: ';' :: comment := by
  rw [exportTrailer, Command.commentRead?]
  cases c.comment? <;> rfl

/-- The arguments of a command are made of its argument nodes. -/
theorem arguments_eq_nodes (c : Command) (source : Text) (dictionary : Option Dictionary) :
    c.arguments source dictionary =
      (Node.convertAll source ((argumentDefinitions dictionary (sourceStem c source))[·]?) 0 0
        c.argumentNodes).value.filterMap id := by
  rw [Command.arguments, Command.argumentNodes]
  cases c.args? with
  | none => simp [Node.convertAll]
  | some args => rfl

namespace Command.Matches

variable {c₁ c₂ : Command}

theorem exportTime_eq (h : c₁.Matches source₁ source₂ c₂) :
    exportTime c₁ source₁ = exportTime c₂ source₂ := by
  simp only [exportTime, TimeTag.encode?, ofCommand?_eq_read, h.time]

theorem sourceStem_eq (h : c₁.Matches source₁ source₂ c₂) :
    sourceStem c₁ source₁ = sourceStem c₂ source₂ :=
  congrArg (·.getD unknownText) h.stem

theorem exportArguments_eq (h : c₁.Matches source₁ source₂ c₂) (dictionary : Option Dictionary) :
    (exportArguments c₁ source₁ dictionary).value =
      (exportArguments c₂ source₂ dictionary).value := by
  -- equal stems find the same definitions
  rw [exportArguments_value, exportArguments_value, arguments_eq_nodes, arguments_eq_nodes,
    h.sourceStem_eq, values_convertAll_of_match _ 0 0 _ _ h.arguments]

theorem exportTrailer_eq (h : c₁.Matches source₁ source₂ c₂) :
    exportTrailer c₁ source₁ = exportTrailer c₂ source₂ := by
  rw [exportTrailer_eq_read, exportTrailer_eq_read, h.comment]

/-- **Matching commands** have the same line. -/
theorem exportCommand_eq (h : c₁.Matches source₁ source₂ c₂) (dictionary : Option Dictionary) :
    (exportCommand c₁ source₁ dictionary).value = (exportCommand c₂ source₂ dictionary).value := by
  simp only [exportCommand, h.exportTime_eq, h.sourceStem_eq, h.exportArguments_eq dictionary,
    h.exportTrailer_eq]

end Command.Matches

/-! ## Documents -/

/-- Steps of two documents **match**. -/
inductive Step.Matches (source₁ source₂ : Text) : Step → Step → Prop
  /-- Two commands that match. -/
  | command {c₁ c₂ : Command} (h : c₁.Matches source₁ source₂ c₂) :
      Matches source₁ source₂ (.command c₁) (.command c₂)
  /-- Two comments that cover the same text, or none. -/
  | comment {m n : Node} (slice : m.text? source₁ = n.text? source₂) :
      Matches source₁ source₂ (.comment m) (.comment n)

/-- Two documents **match** when their commands and comments match one by one. -/
def Node.Matches (source₁ source₂ : Text) (root₁ root₂ : Node) : Prop :=
  List.Forall₂ (Step.Matches source₁ source₂) root₁.writtenSteps root₂.writtenSteps

/-- **Matching steps** have the same line. -/
theorem value_line_of_matches {s₁ s₂ : Step} (h : s₁.Matches source₁ source₂ s₂)
    (dictionary : Option Dictionary) :
    (s₁.line source₁ dictionary).value = (s₂.line source₂ dictionary).value := by
  cases h with
  | command h => exact h.exportCommand_eq dictionary
  | comment slice => rw [Step.line, Step.line, exportComment, exportComment, slice]

/-- Steps that match one by one have the same lines. -/
theorem map_line_of_matches {ss₁ ss₂ : List Step}
    (h : List.Forall₂ (Step.Matches source₁ source₂) ss₁ ss₂) (dictionary : Option Dictionary) :
    ss₁.map (fun s => (s.line source₁ dictionary).value) =
      ss₂.map (fun s => (s.line source₂ dictionary).value) := by
  induction h with
  | nil => rfl
  | cons hstep _ ih => rw [List.map_cons, List.map_cons, value_line_of_matches hstep, ih]

/-- **Matching documents** have the same text. -/
theorem text_exportTree_of_matches {root₁ root₂ : Node} (h : root₁.Matches source₁ source₂ root₂)
    (dictionary : Option Dictionary) :
    (exportTree root₁ source₁ dictionary).text = (exportTree root₂ source₂ dictionary).text := by
  rw [exportTree_text, exportTree_text, map_line_of_matches h dictionary]

end

/-! ## Pruning

Every node that is read keeps its span, and loses its children unless they are read too. The others are
left out, and so are the spans of the nodes that only hold them. -/

/-- A node of a kind in the place of another, without children. -/
def Node.leaf (k : Kind) (n : Node) : Node := ⟨k, n.span, []⟩

/-- A node that only holds others. -/
def Node.holder (k : Kind) (children : List Node) : Node := ⟨k, ⟨0, 0⟩, children⟩

@[simp] theorem text?_leaf (k : Kind) (n : Node) (source : Text) :
    (n.leaf k).text? source = n.text? source := rfl

mutual

/-- An argument node **without what is not read**: plain nodes lose their children, repeated arguments
their spans. -/
def Node.prunedArgument : Node → Node
  | ⟨kind, span, children⟩ =>
    if kind = .repeatArg then Node.holder .repeatArg (prunedArguments children)
    else Node.leaf kind ⟨kind, span, children⟩

/-- Some argument nodes without what is not read. -/
def Node.prunedArguments : List Node → List Node
  | [] => []
  | n :: ns => n.prunedArgument :: prunedArguments ns

end

/-- A time tag without what is not read: the time that can be expressed, if there is one. -/
def Node.prunedTag (tag : Node) : Node :=
  Node.holder .timeTag (tag.expressibleTime?.map fun n => n.leaf n.kind).toList

/-- The node for the arguments of a command without what is not read. -/
def Node.prunedArgs (args : Node) : Node :=
  Node.holder .args (prunedArguments args.children)

/-- A command **without what is not read**, its parts in a fixed order. -/
def Command.pruned (c : Command) : Command where
  node := Node.holder .command
    ((c.timeTag?.map Node.prunedTag).toList ++ (c.stem?.map (Node.leaf .stem)).toList ++
      (c.args?.map Node.prunedArgs).toList ++ (c.comment?.map (Node.leaf .lineComment)).toList)
  isCommand := rfl

/-- A step without what is not read. -/
def Step.pruned : Step → Node
  | .command c => c.pruned.node
  | .comment n => n.leaf .lineComment

/-- A **document without anything that is not read**: the spans, children and neighbours of its nodes
that make no difference. -/
def Node.pruned (root : Node) : Node :=
  Node.holder .sequence [Node.holder .commands (root.writtenSteps.map Step.pruned)]

section

variable (source : Text)

mutual

/-- A pruned argument node matches the node. -/
theorem argumentMatch_pruned : ∀ n : Node, ArgumentMatch source source n.prunedArgument n
  | ⟨kind, span, children⟩ => by
      rw [Node.prunedArgument]
      by_cases hk : kind = .repeatArg
      · rw [if_pos hk]
        exact .repeated rfl hk (argumentMatches_pruned children)
      · rw [if_neg hk]
        exact .plain hk hk rfl Iff.rfl

/-- Pruned argument nodes match the nodes one by one. -/
theorem argumentMatches_pruned :
    ∀ ns : List Node, List.Forall₂ (ArgumentMatch source source) (Node.prunedArguments ns) ns
  | [] => by rw [Node.prunedArguments]; exact .nil
  | n :: ns => by
      rw [Node.prunedArguments]
      exact .cons (argumentMatch_pruned n) (argumentMatches_pruned ns)

end

end

/-- Looking for a kind where there is at most one node, of a known kind. -/
theorem find?_toList_map {f : Node → Node} {k : Kind} (hf : ∀ n, (f n).kind = k)
    (o : Option Node) (j : Kind) :
    (o.map f).toList.find? (·.kind = j) = if k = j then o.map f else none := by
  cases o with
  | none => simp
  | some n => by_cases hj : k = j <;> simp [hf n, hj]

section

variable (c : Command)

/-- **The first child of a kind** of a pruned command is looked for among its parts. -/
theorem child?_pruned (k : Kind) :
    c.pruned.node.child? k =
      (if .timeTag = k then c.timeTag?.map Node.prunedTag else none).or
        ((if .stem = k then c.stem?.map (Node.leaf .stem) else none).or
          ((if .args = k then c.args?.map Node.prunedArgs else none).or
            (if .lineComment = k then c.comment?.map (Node.leaf .lineComment) else none))) := by
  simp only [Command.pruned, Node.holder, Node.child?, List.find?_append, Option.or_assoc,
    find?_toList_map (f := Node.prunedTag) (k := .timeTag) fun _ => rfl,
    find?_toList_map (f := Node.leaf .stem) (k := .stem) fun _ => rfl,
    find?_toList_map (f := Node.prunedArgs) (k := .args) fun _ => rfl,
    find?_toList_map (f := Node.leaf .lineComment) (k := .lineComment) fun _ => rfl]

theorem timeTag?_pruned : c.pruned.timeTag? = c.timeTag?.map Node.prunedTag := by
  rw [Command.timeTag?, child?_pruned]
  simp

theorem stem?_pruned : c.pruned.stem? = c.stem?.map (Node.leaf .stem) := by
  rw [Command.stem?, child?_pruned]
  simp

theorem args?_pruned : c.pruned.args? = c.args?.map Node.prunedArgs := by
  rw [Command.args?, child?_pruned]
  simp

theorem comment?_pruned : c.pruned.comment? = c.comment?.map (Node.leaf .lineComment) := by
  rw [Command.comment?, child?_pruned]
  simp

end

/-- A pruned time tag holds the time that can be expressed. -/
theorem expressibleTime?_prunedTag (tag : Node) :
    tag.prunedTag.expressibleTime? = tag.expressibleTime?.map fun n => n.leaf n.kind := by
  unfold Node.prunedTag
  cases h : tag.expressibleTime? with
  | none => rfl
  | some n =>
      -- it is an absolute or a relative time, and then the only child
      rw [Node.expressibleTime?, Option.orElse_eq_orElse, Option.orElse_eq_or,
        Option.or_eq_some_iff] at h
      rcases h with h | ⟨-, h⟩
      · have hkind : n.kind = .timeAbsolute := (child?_eq_some_iff.1 h).1
        simp [Node.expressibleTime?, Node.child?, Node.holder, Node.leaf, hkind]
      · have hkind : n.kind = .timeRelative := (child?_eq_some_iff.1 h).1
        simp [Node.expressibleTime?, Node.child?, Node.holder, Node.leaf, hkind]

/-- **A pruned command** matches the command. -/
theorem Command.pruned_matches (source : Text) (c : Command) :
    c.pruned.Matches source source c where
  time := by
    rw [Command.timeRead?, Command.timeRead?, timeTag?_pruned]
    cases c.timeTag? with
    | none => rfl
    | some tag =>
        rw [Option.map_some, Option.bind_some, Option.bind_some, expressibleTime?_prunedTag]
        cases tag.expressibleTime? <;> rfl
  stem := by
    rw [Command.stemRead?, Command.stemRead?, stem?_pruned]
    cases c.stem? <;> rfl
  arguments := by
    rw [Command.argumentNodes, Command.argumentNodes, args?_pruned]
    cases c.args? with
    | none => exact .nil
    | some args => exact argumentMatches_pruned source args.children
  comment := by
    rw [Command.commentRead?, Command.commentRead?, comment?_pruned]
    cases c.comment? <;> rfl

/-- The written steps of a pruned document match those of the document. -/
theorem Node.pruned_matches (source : Text) (root : Node) :
    root.pruned.Matches source source root := by
  have hsteps : root.pruned.writtenSteps =
      (root.writtenSteps.map Step.pruned).filterMap Node.step? := rfl
  rw [Node.Matches, hsteps, List.filterMap_map]
  induction root.writtenSteps with
  | nil => exact .nil
  | cons s ss ih =>
      cases s with
      | command c => exact .cons (.command (c.pruned_matches source)) ih
      | comment n => exact .cons (.comment rfl) ih

/-- **An export reads nothing else.** Let the commands and the comments of two documents match one by one:
two comments cover the same; two commands have the same slice for their stem, for their comment, and for
their time with its kind, and argument nodes that match at every depth. Then both documents have the same
text under any dictionary. And a document has the text that it has without anything that is not read:
without the spans of nodes that only hold others, with the parts of a command in a fixed order, and without
further children of a kind, children of plain nodes, and all other nodes. -/
theorem exportTree_reads_nothing_else {source₁ source₂ : Text} {root₁ root₂ : Node}
    (h : root₁.Matches source₁ source₂ root₂) (dictionary : Option Dictionary) :
    (exportTree root₁ source₁ dictionary).text = (exportTree root₂ source₂ dictionary).text ∧
      (exportTree root₁.pruned source₁ dictionary).text =
        (exportTree root₁ source₁ dictionary).text := by
  constructor
  · exact text_exportTree_of_matches h dictionary
  · exact text_exportTree_of_matches (root₁.pruned_matches source₁) dictionary

/-- The syntax tree of `R5 A_B 1 [x] #c`. -/
def tidyDocument : Node :=
  ⟨.sequence, ⟨0, 15⟩, [⟨.commands, ⟨0, 15⟩, [⟨.command, ⟨0, 15⟩,
    [⟨.timeTag, ⟨0, 2⟩, [⟨.timeRelative, ⟨0, 2⟩, []⟩]⟩, ⟨.stem, ⟨3, 6⟩, []⟩,
      ⟨.args, ⟨7, 12⟩,
        [⟨.number, ⟨7, 8⟩, []⟩, ⟨.repeatArg, ⟨9, 12⟩, [⟨.enum, ⟨10, 11⟩, []⟩]⟩]⟩,
      ⟨.lineComment, ⟨13, 15⟩, []⟩]⟩]⟩]⟩

/-- A syntax tree over `#c x 1 A_B R5`. Its parts stand in another order and are of other kinds, nodes that
hold others have broken spans, and there are nodes and children in it that are not read. -/
def scatteredDocument : Node :=
  ⟨.sequence, ⟨9, 2⟩, [⟨.metadata, ⟨0, 1⟩, []⟩, ⟨.commands, ⟨99, 99⟩,
    [⟨.load, ⟨0, 2⟩, []⟩, ⟨.command, ⟨50, 4⟩,
      [⟨.lineComment, ⟨0, 2⟩, []⟩,
        ⟨.args, ⟨8, 0⟩, [⟨.hex, ⟨5, 6⟩, [⟨.number, ⟨0, 1⟩, []⟩]⟩,
          ⟨.repeatArg, ⟨70, 60⟩, [⟨.string, ⟨3, 4⟩, []⟩]⟩]⟩,
        ⟨.stem, ⟨7, 10⟩, []⟩,
        ⟨.timeTag, ⟨0, 0⟩, [⟨.timeComplete, ⟨0, 1⟩, []⟩, ⟨.timeRelative, ⟨11, 13⟩, []⟩,
          ⟨.timeRelative, ⟨0, 1⟩, []⟩]⟩,
        ⟨.stem, ⟨0, 1⟩, []⟩]⟩]⟩,
    ⟨.commands, ⟨0, 2⟩, [⟨.lineComment, ⟨0, 2⟩, []⟩]⟩]⟩

/-- Both documents match, and they have the same text, whole or pruned. -/
theorem exportTree_reads_nothing_else_scattered :
    tidyDocument.Matches "R5 A_B 1 [x] #c".toList "#c x 1 A_B R5".toList scatteredDocument ∧
      (exportTree tidyDocument "R5 A_B 1 [x] #c".toList none).text =
        "R00:00:05 A.B 1,[x] ;c".toList ∧
      (exportTree tidyDocument.pruned "R5 A_B 1 [x] #c".toList none).text =
        (exportTree scatteredDocument "#c x 1 A_B R5".toList none).text := by
  have hmatches : tidyDocument.Matches "R5 A_B 1 [x] #c".toList "#c x 1 A_B R5".toList
      scatteredDocument := by
    refine .cons (.command ⟨by decide +kernel, by decide +kernel, ?_, by decide +kernel⟩) .nil
    refine .cons (.plain ?_ ?_ ?_ ?_) (.cons (.repeated ?_ ?_ (.cons (.plain ?_ ?_ ?_ ?_) .nil)) .nil)
    all_goals decide +kernel
  obtain ⟨hsame, hpruned⟩ := exportTree_reads_nothing_else hmatches none
  exact ⟨hmatches, by decide +kernel, hpruned.trans hsame⟩

end SequenceBridge
