import Mathlib.Data.List.Basic
import SequenceBridge.Export
import SequenceBridge.Proofs.Lint.Reports
import SequenceBridge.Proofs.Tree.Relocation

/-! # Documents that lie elsewhere
Where the nodes of a document lie matters to an export only through the text that they cover, and to a
check not at all. When every node covers in another source what it covered before, the exported text is
the same, and warnings and reports are the same but for their spans. A document behind a text is such a
one, all spans moved by the bytes of that text.

* **`convert_mapSpan`** — an argument node becomes the same argument, at any depth.
* **`exportTree_mapSpan`** — a document becomes the same text, with the warnings on the new spans.
* **`lint_mapSpan`** — a check gives the same reports, on the new spans.
* **`document_moved`** — a document behind a text, with every span moved by the bytes of the text.
-/

namespace SequenceBridge

/-- A warning with a change made to its span. -/
def Warning.mapSpan (f : Span → Span) (w : Warning) : Warning := { w with span := f w.span }

/-- A result with a change made to the spans of its warnings. -/
def Noted.mapSpan {α : Type} (f : Span → Span) (x : Noted α) : Noted α :=
  ⟨x.value, x.warnings.map (Warning.mapSpan f)⟩

/-- An emission with a change made to the spans of its warnings. -/
def Emission.mapSpan (f : Span → Span) (e : Emission) : Emission :=
  ⟨e.text, e.warnings.map (Warning.mapSpan f)⟩

/-- A diagnostic with a change made to its span. -/
def Diagnostic.mapSpan (f : Span → Span) (d : Diagnostic) : Diagnostic := { d with span := f d.span }

section

variable {f : Span → Span} {source other : Text}

/-! ## Arguments -/

theorem scalar?_mapSpan {n : Node} (h : n.KeepsSlices f source other) :
    (n.mapSpan f).scalar? other = n.scalar? source := by
  simp only [Node.scalar?, text?_mapSpan h, Node.mapSpan_kind]

mutual

/-- **An argument node** becomes the same argument, and is dropped with the same warning on its new
span. -/
theorem convert_mapSpan (definition : Option ArgumentDefinition) (depth : Nat) :
    ∀ n : Node, n.KeepsSlices f source other →
      (n.mapSpan f).convert other definition depth =
        (n.convert source definition depth).mapSpan f
  | ⟨kind, span, children⟩, h => by
      have hscalar := scalar?_mapSpan h
      have hchildren := convertAll_mapSpan (groupDefinition? definition) (depth + 1) 0 children
        fun child hchild => h.of_mem hchild
      rw [Node.mapSpan] at hscalar ⊢
      rw [Node.convert, Node.convert, hscalar, hchildren]
      by_cases hk : kind = .repeatArg
      · by_cases hd : depth < maxRepeatDepth <;> simp [hk, hd, Noted.mapSpan, Warning.mapSpan]
      · cases Node.scalar? ⟨kind, span, children⟩ source <;>
          simp [hk, Noted.mapSpan, Warning.mapSpan]

/-- Some argument nodes become the same arguments. -/
theorem convertAll_mapSpan (definitionAt : Nat → Option ArgumentDefinition) (depth index : Nat) :
    ∀ ns : List Node, (∀ n ∈ ns, n.KeepsSlices f source other) →
      Node.convertAll other definitionAt depth index (Node.mapSpans f ns) =
        (Node.convertAll source definitionAt depth index ns).mapSpan f
  | [], _ => by simp [Node.mapSpans, Node.convertAll, Noted.mapSpan]
  | n :: ns, h => by
      have hfirst := convert_mapSpan (definitionAt index) depth n (h n List.mem_cons_self)
      have hothers := convertAll_mapSpan definitionAt depth (index + 1) ns
        fun m hm => h m (List.mem_cons_of_mem n hm)
      rw [Node.mapSpans, Node.convertAll, Node.convertAll, hfirst, hothers]
      simp [Noted.mapSpan]

end

theorem arguments_mapSpan (definitions : List ArgumentDefinition) {args : Node}
    (h : args.KeepsSlices f source other) :
    (args.mapSpan f).arguments other definitions =
      (args.arguments source definitions).mapSpan f := by
  have hchildren := convertAll_mapSpan (definitions[·]?) 0 0 args.children
    fun child hchild => h.of_mem hchild
  rw [Node.mapSpans_eq_map] at hchildren
  rw [Node.arguments, Node.arguments, Node.mapSpan_children, hchildren]
  simp [Noted.mapSpan]

/-! ## Commands -/

theorem body?_mapSpan {n : Node} (h : n.KeepsSlices f source other) :
    TimeTag.body? (n.mapSpan f) other = TimeTag.body? n source := by
  rw [TimeTag.body?, TimeTag.body?, text?_mapSpan h]

/-- **The time tag of a command** is the same. -/
theorem ofCommand?_mapSpan {c : Command} (h : c.node.KeepsSlices f source other) :
    TimeTag.ofCommand? (c.mapSpan f) other = TimeTag.ofCommand? c source := by
  rw [TimeTag.ofCommand?, TimeTag.ofCommand?, timeTag?_mapSpan]
  cases htag : c.timeTag? with
  | none => rfl
  | some tag =>
      simp only [Option.map_some, Option.bind_eq_bind, Option.bind_some, ofTag?_mapSpan]
      cases hform : TimeForm.ofTag? tag with
      | none => rfl
      | some form =>
          have hbody : TimeTag.body? (form.node.mapSpan f) other = TimeTag.body? form.node source :=
            body?_mapSpan ((h.child htag).timeForm hform)
          cases form with
          | absolute n => exact congrArg (Option.map TimeTag.absolute) hbody
          | relative n =>
              exact congrArg (fun body? => (body?.bind TimeTag.relativeDuration?).map
                TimeTag.relative) hbody
          | complete n => rfl
          | epoch n => rfl

theorem exportTime_mapSpan {c : Command} (h : c.node.KeepsSlices f source other) :
    exportTime (c.mapSpan f) other = exportTime c source := by
  simp only [exportTime, TimeTag.encode?, ofCommand?_mapSpan h]

theorem sourceStem_mapSpan {c : Command} (h : c.node.KeepsSlices f source other) :
    sourceStem (c.mapSpan f) other = sourceStem c source := by
  rw [sourceStem, sourceStem, stem?_mapSpan]
  cases hstem : c.stem? with
  | none => rfl
  | some stem => simp [text?_mapSpan (h.child hstem)]

theorem exportComment_mapSpan {n : Node} (h : n.KeepsSlices f source other) :
    exportComment (n.mapSpan f) other = exportComment n source := by
  rw [exportComment, exportComment, text?_mapSpan h]

theorem exportTrailer_mapSpan {c : Command} (h : c.node.KeepsSlices f source other) :
    exportTrailer (c.mapSpan f) other = exportTrailer c source := by
  rw [exportTrailer, exportTrailer, comment?_mapSpan]
  cases hcomment : c.comment? with
  | none => rfl
  | some comment => simp [exportComment_mapSpan (h.child hcomment)]

theorem exportArguments_mapSpan {c : Command} (h : c.node.KeepsSlices f source other)
    (dictionary : Option Dictionary) :
    exportArguments (c.mapSpan f) other dictionary =
      (exportArguments c source dictionary).mapSpan f := by
  rw [exportArguments, exportArguments, args?_mapSpan, sourceStem_mapSpan h]
  cases hargs : c.args? with
  | none => rfl
  | some args => simp [arguments_mapSpan _ (h.child hargs), Noted.mapSpan]

/-- **The line of a command** is the same, with its warnings on the new spans. -/
theorem exportCommand_mapSpan {c : Command} (h : c.node.KeepsSlices f source other)
    (dictionary : Option Dictionary) :
    exportCommand (c.mapSpan f) other dictionary =
      (exportCommand c source dictionary).mapSpan f := by
  rw [exportCommand, exportCommand, exportTime_mapSpan h, sourceStem_mapSpan h,
    exportTrailer_mapSpan h, exportArguments_mapSpan h]
  rfl

/-- **The line of a step** is the same, with its warnings on the new spans. -/
theorem exportStep_mapSpan {n : Node} (h : n.KeepsSlices f source other)
    (dictionary : Option Dictionary) :
    exportStep other dictionary (n.mapSpan f) =
      (exportStep source dictionary n).map (Noted.mapSpan f) := by
  rw [exportStep, exportStep, asCommand?_mapSpan]
  cases hcommand : n.asCommand? with
  | some c =>
      have hc : c.node.KeepsSlices f source other := asCommand?_eq_some_iff.1 hcommand ▸ h
      simp [exportCommand_mapSpan hc]
  | none =>
      by_cases hk : n.kind = .lineComment <;> simp [hk, exportComment_mapSpan h, Noted.mapSpan]

/-! ## Documents -/

/-- **A document** becomes the same text, with its warnings on the new spans. -/
theorem exportTree_mapSpan {root : Node} (h : root.KeepsSlices f source other)
    (dictionary : Option Dictionary) :
    exportTree (root.mapSpan f) other dictionary =
      (exportTree root source dictionary).mapSpan f := by
  have hlines : exportSteps other dictionary (root.mapSpan f).steps =
      (exportSteps source dictionary root.steps).map (Noted.mapSpan f) := by
    rw [exportSteps, exportSteps, steps_mapSpan, List.filterMap_map, List.map_filterMap]
    exact List.filterMap_congr fun n hn => exportStep_mapSpan (h.step hn) dictionary
  rw [exportTree, exportTree, hlines]
  simp [Emission.mapSpan, Noted.mapSpan, List.flatMap_map, List.map_flatMap, Function.comp_def]

/-! ## Checks

A rule looks at kinds and children alone, so it makes no difference what the nodes cover. -/

theorem check_mapSpan (rule : LintRule) (c : Command) :
    rule.check (c.mapSpan f) = (rule.check c).map (Diagnostic.mapSpan f) := by
  cases rule with
  | missingTimeTag =>
      cases htag : c.timeTag? <;>
        simp [LintRule.check, htag, Diagnostic.errorAt, Diagnostic.mapSpan]
  | unsupportedTimeTag =>
      cases htag : c.timeTag? with
      | none => simp [LintRule.check, htag]
      | some tag =>
          simp [LintRule.check, htag, unsupported?_mapSpan, Diagnostic.errorAt,
            Diagnostic.mapSpan, Function.comp_def]

theorem violations_mapSpan (rules : List LintRule) (root : Node) :
    violations rules (root.mapSpan f) = (violations rules root).map (Diagnostic.mapSpan f) := by
  rw [violations, violations, commands_mapSpan, List.flatMap_map, List.map_flatMap]
  simp only [check_mapSpan, List.map_filterMap]

/-- **A check** gives the same reports, on the new spans. -/
theorem lint_mapSpan (rules : List LintRule) (root : Node) (earlier : List Diagnostic) :
    lint rules (root.mapSpan f) (earlier.map (Diagnostic.mapSpan f)) =
      (lint rules root earlier).map (Diagnostic.mapSpan f) := by
  rw [lint, lint, violations_mapSpan, List.map_append]

end

/-! ## Where warnings and reports lie -/

section

variable {p : Span → Prop} {source : Text}

mutual

/-- The warnings of an argument node lie **on nodes of its tree**. -/
theorem forall_warnings_convert (definition : Option ArgumentDefinition) (depth : Nat) :
    ∀ n : Node, n.EverySpan p → ∀ w ∈ (n.convert source definition depth).warnings, p w.span
  | ⟨kind, span, children⟩, h => by
      have hchildren := forall_warnings_convertAll (groupDefinition? definition) (depth + 1) 0
        children fun child hchild => h.of_mem hchild
      have hself : p span := h.self
      rw [Node.convert]
      by_cases hk : kind = .repeatArg
      · by_cases hd : depth < maxRepeatDepth
        · simpa [hk, hd] using hchildren
        · simpa [hk, hd] using hself
      · cases Node.scalar? ⟨kind, span, children⟩ source with
        | some value => simp [hk]
        | none => simpa [hk] using hself

/-- The warnings of some argument nodes lie on nodes of their trees. -/
theorem forall_warnings_convertAll (definitionAt : Nat → Option ArgumentDefinition)
    (depth index : Nat) :
    ∀ ns : List Node, (∀ n ∈ ns, n.EverySpan p) →
      ∀ w ∈ (Node.convertAll source definitionAt depth index ns).warnings, p w.span
  | [], _ => by simp [Node.convertAll]
  | n :: ns, h => by
      intro w hw
      rw [Node.convertAll] at hw
      rcases List.mem_append.1 hw with hfirst | hothers
      · exact forall_warnings_convert _ depth n (h n List.mem_cons_self) w hfirst
      · exact forall_warnings_convertAll definitionAt depth (index + 1) ns
          (fun m hm => h m (List.mem_cons_of_mem n hm)) w hothers

end

/-- The warnings of a document lie **on its nodes**. -/
theorem forall_warnings_exportTree {root : Node} (h : root.EverySpan p)
    (dictionary : Option Dictionary) :
    ∀ w ∈ (exportTree root source dictionary).warnings, p w.span := by
  intro w hw
  obtain ⟨line, hline, hw⟩ := List.mem_flatMap.1 hw
  obtain ⟨n, hn, hstep⟩ := List.mem_filterMap.1 hline
  have hkeeps := h.step hn
  rw [exportStep] at hstep
  cases hcommand : n.asCommand? with
  | none =>
      rw [hcommand] at hstep
      by_cases hk : n.kind = .lineComment
      · simp [hk] at hstep
        simp [← hstep] at hw
      · simp [hk] at hstep
  | some c =>
      rw [hcommand] at hstep
      cases hstep
      rw [exportCommand, exportArguments] at hw
      cases hargs : c.args? with
      | none => simp [hargs] at hw
      | some args =>
          have hc : c.node.EverySpan p := asCommand?_eq_some_iff.1 hcommand ▸ hkeeps
          rw [hargs] at hw
          exact forall_warnings_convertAll _ 0 0 args.children
            (fun child hchild => (hc.child hargs).of_mem hchild) w hw

/-- The reports on a document lie **on its nodes**. -/
theorem forall_violations {root : Node} (h : root.EverySpan p) (rules : List LintRule) :
    ∀ d ∈ violations rules root, p d.span := by
  intro d hd
  obtain ⟨c, hc, hd⟩ := List.mem_flatMap.1 hd
  obtain ⟨rule, -, hcheck⟩ := List.mem_filterMap.1 hd
  have hcommand := h.command hc
  obtain ⟨n, hbroken, rfl⟩ := check_eq_some_iff.1 hcheck
  cases hbroken with
  | noTag => exact hcommand.self
  | complete htag hn => exact ((hcommand.of_mem htag.mem).of_mem hn.mem).self
  | epoch htag _ hn => exact ((hcommand.of_mem htag.mem).of_mem hn.mem).self

end

/-- **A document behind a text** comes to the same, with everything moved by the bytes of the text. Let
every span of a tree, whatever it covers, be moved by the bytes of a text, no offset passing the greatest
one, and put the text in front of the source. Then the exported text is the same, the warnings are the
same but for their spans, and so are the diagnostics that any rules hand back. Every one of these spans
grows by exactly as much. -/
theorem document_moved {root : Node} {before : Text}
    (h : root.EverySpan (Span.CanMove before.byteLength)) (source : Text)
    (dictionary : Option Dictionary) :
    let move := Span.moved before.byteLength
    exportTree (root.mapSpan move) (before ++ source) dictionary =
        ⟨(exportTree root source dictionary).text,
          (exportTree root source dictionary).warnings.map (Warning.mapSpan move)⟩ ∧
      (∀ (rules : List LintRule) (earlier : List Diagnostic),
        LintRequest.answer rules ⟨root.mapSpan move, before ++ source, dictionary,
            earlier.map (Diagnostic.mapSpan move)⟩ =
          (LintRequest.answer rules ⟨root, source, dictionary, earlier⟩).map
            (Diagnostic.mapSpan move)) ∧
      root.EverySpan (Span.IsMovedExactly before.byteLength) ∧
      (∀ w ∈ (exportTree root source dictionary).warnings,
        w.span.IsMovedExactly before.byteLength) ∧
      ∀ rules : List LintRule, ∀ d ∈ LintRequest.answer rules ⟨root, source, dictionary, []⟩,
        d.span.IsMovedExactly before.byteLength := by
  intro move
  have hexact : root.EverySpan (Span.IsMovedExactly before.byteLength) :=
    fun n hn => (h n hn).isMovedExactly
  exact ⟨exportTree_mapSpan (Node.keepsSlices_moved h) dictionary,
    fun rules earlier => lint_mapSpan rules root earlier, hexact,
    forall_warnings_exportTree hexact dictionary, fun rules => forall_violations hexact rules⟩

/-- A command with a stem and four arguments: the span of one begins inside a character, that of another
is reversed, and that of the last lies past the end. -/
def brokenSpans : Node :=
  ⟨.sequence, ⟨0, 4⟩, [⟨.commands, ⟨0, 4⟩, [⟨.command, ⟨0, 4⟩, [⟨.stem, ⟨0, 1⟩, []⟩,
    ⟨.args, ⟨0, 4⟩, [⟨.number, ⟨1, 3⟩, []⟩, ⟨.number, ⟨2, 3⟩, []⟩, ⟨.number, ⟨3, 1⟩, []⟩,
      ⟨.number, ⟨4, 90⟩, []⟩]⟩]⟩]⟩]⟩

/-- Behind a character of two bytes, each of these spans lies two further on. -/
theorem document_moved_brokenSpans :
    let moved := exportTree (brokenSpans.mapSpan (Span.moved 2)) ("é".toList ++ "AñB".toList) none
    moved.text = "UNKNOWN A ñ".toList ∧
      moved.warnings =
        [⟨⟨4, 5⟩, .number, .malformedArgument⟩, ⟨⟨5, 3⟩, .number, .malformedArgument⟩,
          ⟨⟨6, 92⟩, .number, .malformedArgument⟩] := by
  have hmove : brokenSpans.EverySpan (Span.CanMove (Text.byteLength "é".toList)) := by
    show ∀ m ∈ brokenSpans.preorder, m.span.CanMove (Text.byteLength "é".toList)
    decide
  obtain ⟨hexport, -⟩ := document_moved hmove "AñB".toList none
  intro moved
  have hmoved : moved = _ := hexport
  rw [hmoved]
  exact ⟨by decide +kernel, by decide +kernel⟩

end SequenceBridge
