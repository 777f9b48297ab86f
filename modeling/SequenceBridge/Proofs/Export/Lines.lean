import SequenceBridge.Proofs.Export.Converter
import SequenceBridge.Proofs.Export.RoundTrip
import SequenceBridge.Proofs.Export.Time

/-! # One line for each step
What is exported for some steps is made up of what is exported for each of them: lines and warnings come
in the order of the steps, steps without a line can stand anywhere, and steps in another order have
their lines and warnings in that order. As long as no slice of the source that is read has a newline, the
text splits at its newlines into exactly these lines.

* **`getElem?_exportSteps`** — the line at an index is that of the step at the same index among those
  that have one.
* **`Node.slices`** — the slices of the source that are read for a step.
* **`scalar_of_mem_exportArguments`** — arguments are written with their values, brackets and commas.
* **`newline_notMem_exportStep`** — a line has no newline when no slice has one.
* **`exportTree_step_by_step`** — composition, insertion, order and lines of a document.
-/

namespace SequenceBridge

/-! ## Steps and their places -/

section

variable (source : Text) (dictionary : Option Dictionary)

/-- Steps that all have a line keep their places. -/
theorem getElem?_filterMap_exportStep {ns : List Node} (h : ∀ n ∈ ns, n.hasLine = true) (i : Nat) :
    (ns.filterMap (exportStep source dictionary))[i]? =
      ns[i]?.bind (exportStep source dictionary) := by
  induction ns generalizing i with
  | nil => rfl
  | cons n ns ih =>
      rw [List.forall_mem_cons] at h
      obtain ⟨line, hline⟩ := exportStep_of_hasLine source dictionary h.1
      rw [List.filterMap_cons_some hline]
      cases i with
      | zero => rw [List.getElem?_cons_zero, List.getElem?_cons_zero, Option.bind_some, hline]
      | succ i => rw [List.getElem?_cons_succ, List.getElem?_cons_succ, ih h.2]

/-- **The line at an index** is that of the step at the same index, among the steps that have one. -/
theorem getElem?_exportSteps (ns : List Node) (i : Nat) :
    (exportSteps source dictionary ns)[i]? =
      (ns.filter Node.hasLine)[i]?.bind (exportStep source dictionary) := by
  rw [← exportSteps_filter]
  exact getElem?_filterMap_exportStep source dictionary
    (fun n hn => (List.mem_filter.1 hn).2) i

/-- **Steps in another order** have their lines and warnings in that order. -/
theorem exportSteps_perm {ns ms : List Node}
    (h : (ns.filter Node.hasLine).Perm (ms.filter Node.hasLine)) :
    (exportSteps source dictionary ns).Perm (exportSteps source dictionary ms) := by
  rw [← exportSteps_filter source dictionary ns, ← exportSteps_filter source dictionary ms]
  exact h.filterMap _

/-- A step without a line **leaves nothing**, wherever it stands. -/
theorem exportSteps_insert {n : Node} (h : n.hasLine = false) (xs ys : List Node) :
    exportSteps source dictionary (xs ++ n :: ys) = exportSteps source dictionary (xs ++ ys) := by
  rw [← exportSteps_filter, List.filter_append, List.filter_cons, h, if_neg Bool.false_ne_true,
    ← List.filter_append, exportSteps_filter]

/-- The lines of steps that all have one are **those of the steps by themselves**. -/
theorem forall₂_writtenLines {ns : List Node} (h : ∀ n ∈ ns, n.hasLine = true) :
    List.Forall₂ (fun n line => writtenLines source dictionary [n] = [line]) ns
      (writtenLines source dictionary ns) := by
  simp only [writtenLines_eq]
  induction ns with
  | nil => exact .nil
  | cons n ns ih =>
      rw [List.forall_mem_cons] at h
      obtain ⟨line, hline⟩ := exportStep_of_hasLine source dictionary h.1
      rw [exportSteps, List.filterMap_cons_some hline, List.map_cons]
      refine .cons ?_ (ih h.2)
      rw [exportSteps, List.filterMap_cons_some hline, List.filterMap_nil, List.map_singleton]

end

/-! ## Slices that are read -/

/-- The slice that is read for the time of a command: that of the first absolute time in its first time
tag, or else of the first relative one. -/
def Command.timeSlice? (c : Command) (source : Text) : Option Text :=
  (c.timeTag?.bind Node.expressibleTime?).bind (·.text? source)

/-- The **slices of the source** that are read for a command: time, stem, values and comment. -/
def Command.slices (c : Command) (source : Text) : List Text :=
  (c.timeSlice? source).toList ++ (c.stem?.bind (·.text? source)).toList ++
    (c.argumentVisits.filterMap fun v => (v.contribution source).scalar?) ++
    (c.comment?.bind (·.text? source)).toList

/-- The **slices of the source** that are read for a step; none for one without a line. -/
def Node.slices (source : Text) (n : Node) : List Text :=
  match n.step? with
  | none => []
  | some (.comment n) => (n.text? source).toList
  | some (.command c) => c.slices source

/-! ## What a line is made of -/

/-- A comment in writing holds nothing but characters of its slice. -/
theorem mem_of_mem_exportComment {n : Node} {source : Text} {x : Char}
    (h : x ∈ exportComment n source) : ∃ t ∈ n.text? source, x ∈ t := by
  have hx := (unescapeQuotes_sublist _).subset ((Text.trim_isInfix _).subset h)
  cases htext : n.text? source with
  | none =>
      rw [htext] at hx
      exact absurd hx List.not_mem_nil
  | some t =>
      rw [htext] at hx
      exact ⟨t, rfl, List.mem_of_mem_tail hx⟩

/-- **An argument is written** with its values, brackets and commas. -/
theorem scalar_of_mem_text {x : Char} (hx : x ∉ ['[', ']', ',']) (a : Argument) :
    ∀ depth, x ∈ a.text → ∃ p ∈ a.contributions depth, ∃ t ∈ p.2.scalar?, x ∈ t := by
  rw [List.mem_cons, List.mem_cons, List.mem_singleton, not_or, not_or] at hx
  obtain ⟨hopening, hclosing, hcomma⟩ := hx
  induction a using Argument.induction with
  | scalar value =>
      intro depth h
      exact ⟨(depth, .scalar value), List.mem_singleton.2 rfl, value, rfl, h⟩
  | repeated groups ih =>
      intro depth h
      -- no bracket and no comma, so it stands in a member of a group
      rw [text_repeated, List.cons_append, List.mem_cons, List.mem_append, List.mem_singleton] at h
      have hcommas := (h.resolve_left hopening).resolve_right hclosing
      obtain ⟨_, htexts, hjoined⟩ := (Text.mem_intercalate hcommas).resolve_left hcomma
      obtain ⟨group, hgroup, rfl⟩ := List.mem_map.1 htexts
      rw [joinArguments_eq] at hjoined
      obtain ⟨_, hmember, htext⟩ := (Text.mem_intercalate hjoined).resolve_left hcomma
      obtain ⟨a, ha, rfl⟩ := List.mem_map.1 hmember
      have hflat : a ∈ groups.flatten := List.mem_flatten.2 ⟨group, hgroup, ha⟩
      obtain ⟨p, hp, hscalar⟩ := ih a hflat (depth + 1) htext
      refine ⟨p, ?_, hscalar⟩
      rw [Argument.contributions, groupContributions_eq, argumentContributions_eq_flatMap]
      exact List.mem_cons_of_mem _ (List.mem_flatMap.2 ⟨a, hflat, hp⟩)

/-- **The arguments of a command** are written with the values of its visits, brackets and commas. -/
theorem scalar_of_mem_exportArguments {c : Command} {source : Text}
    {dictionary : Option Dictionary} {x : Char} (hx : x ∉ ['[', ']', ','])
    (h : x ∈ (exportArguments c source dictionary).value) :
    ∃ v ∈ c.argumentVisits, ∃ t ∈ (v.contribution source).scalar?, x ∈ t := by
  rw [exportArguments_value, joinArguments_eq] at h
  have hcomma : x ≠ ',' := fun hc => hx (by rw [hc]; decide)
  obtain ⟨_, hmember, htext⟩ := (Text.mem_intercalate h).resolve_left hcomma
  obtain ⟨a, ha, rfl⟩ := List.mem_map.1 hmember
  obtain ⟨p, hp, t, ht, hxt⟩ := scalar_of_mem_text hx a 0 htext
  obtain ⟨v, hv, hvt⟩ := exists_visit_of_scalar ha hp ht
  exact ⟨v, hv, t, hvt, hxt⟩

/-- An absolute time is the trimmed slice of its node behind the marker. -/
theorem timeSlice?_of_absolute {c : Command} {source body : Text}
    (h : TimeTag.ofCommand? c source = some (.absolute body)) :
    ∃ t, c.timeSlice? source = some t ∧ body = Text.trim t.tail := by
  cases htag : c.timeTag? with
  | none =>
      rw [TimeTag.ofCommand?, htag] at h
      cases h
  | some tag =>
      cases habsolute : tag.child? .timeAbsolute with
      | some n =>
          rw [TimeTag.ofCommand?_of_absolute htag habsolute] at h
          obtain ⟨b, hb, hbody⟩ := Option.map_eq_some_iff.1 h
          obtain ⟨t, ht, rfl⟩ := Option.map_eq_some_iff.1 hb
          refine ⟨t, ?_, (TimeTag.absolute.inj hbody).symm⟩
          rw [Command.timeSlice?, htag, Option.bind_some, Node.expressibleTime?, habsolute]
          exact ht
      | none =>
          -- a relative time makes a tag of the other kind, and any other form makes none
          cases hrelative : tag.child? .timeRelative with
          | none =>
              rw [TimeTag.ofCommand?_of_neither htag habsolute hrelative] at h
              cases h
          | some n =>
              have hform := TimeTag.ofTag?_of_relative habsolute hrelative
              rw [TimeTag.ofCommand?_of_relative htag hform] at h
              obtain ⟨d, -, hd⟩ := Option.map_eq_some_iff.1 h
              cases hd

/-! ## Lines without newlines -/

/-- A time in writing has no newline when its slice has none. -/
theorem newline_notMem_exportTime {c : Command} {source : Text}
    (h : ∀ t ∈ c.timeSlice? source, '\n' ∉ t) : '\n' ∉ exportTime c source := by
  cases hencode : TimeTag.encode? c source with
  | none =>
      rw [exportTime_of_encode?_eq_none hencode]
      decide
  | some text =>
      rw [exportTime_of_encode? hencode]
      obtain ⟨tag, htag, rfl⟩ := Option.map_eq_some_iff.1 hencode
      cases tag with
      | absolute body =>
          obtain ⟨t, ht, rfl⟩ := timeSlice?_of_absolute htag
          rw [TimeTag.text, List.mem_cons, not_or]
          refine ⟨by decide, fun hx => h t ht ?_⟩
          exact List.mem_of_mem_tail ((Text.trim_isInfix _).subset hx)
      | relative d =>
          -- a duration is written with digits and four marks
          rw [TimeTag.text, List.mem_cons, not_or]
          refine ⟨by decide, fun hx => ?_⟩
          rcases Duration.isDigit_or_mem_of_mem_text hx with hdigit | hmark
          · exact absurd hdigit (by decide)
          · exact absurd hmark (by decide)

/-- A stem has no newline when its slice has none. -/
theorem newline_notMem_sourceStem {c : Command} {source : Text}
    (h : ∀ t ∈ c.stem?.bind (·.text? source), '\n' ∉ t) : '\n' ∉ sourceStem c source := by
  rw [sourceStem]
  cases hstem : c.stem?.bind (·.text? source) with
  | none => decide
  | some t => exact h t hstem

/-- A description has no newline when the slice of its comment has none. -/
theorem newline_notMem_description {c : Command} {source : Text}
    (h : ∀ t ∈ c.comment?.bind (·.text? source), '\n' ∉ t) : '\n' ∉ c.description source := by
  rw [Command.description]
  cases hcomment : c.comment? with
  | none => exact List.not_mem_nil
  | some n =>
      intro hx
      obtain ⟨t, ht, hxt⟩ := mem_of_mem_exportComment hx
      refine h t ?_ hxt
      rw [hcomment, Option.bind_some]
      exact ht

/-- **The line of a command** has no newline when none of its slices has one. -/
theorem newline_notMem_exportCommand {c : Command} {source : Text}
    (h : ∀ t ∈ c.slices source, '\n' ∉ t) (dictionary : Option Dictionary) :
    '\n' ∉ (exportCommand c source dictionary).value := by
  simp only [Command.slices, List.mem_append, Option.mem_toList] at h
  have htrailer : '\n' ∉ exportTrailer c source :=
    newline_notMem_exportTrailer (newline_notMem_description fun t ht => h t (.inr ht))
  rw [exportCommand_value, List.mem_append, not_or]
  refine ⟨fun hx => ?_, htrailer⟩
  rcases mem_exportBody hx with hx | hx | hx | hx | hx
  · exact newline_notMem_exportTime (fun t ht => h t (.inl (.inl (.inl ht)))) hx
  · exact newline_notMem_sourceStem (fun t ht => h t (.inl (.inl (.inr ht)))) hx
  · obtain ⟨v, hv, t, ht, hxt⟩ := scalar_of_mem_exportArguments (by decide) hx
    exact h t (.inl (.inr (List.mem_filterMap.2 ⟨v, hv, ht⟩))) hxt
  · exact absurd hx (by decide)
  · exact absurd hx (by decide)

/-- **A line has no newline** when no slice that is read for its step has one. -/
theorem newline_notMem_exportStep {n : Node} {source : Text} {dictionary : Option Dictionary}
    {line : Noted Text} (hline : exportStep source dictionary n = some line)
    (h : ∀ t ∈ n.slices source, '\n' ∉ t) : '\n' ∉ line.value := by
  rw [exportStep_eq] at hline
  obtain ⟨s, hs, rfl⟩ := Option.map_eq_some_iff.1 hline
  rw [Node.slices, hs] at h
  cases s with
  | command c => exact newline_notMem_exportCommand h dictionary
  | comment n =>
      rw [Step.line, List.mem_cons, not_or]
      refine ⟨by decide, fun hx => ?_⟩
      obtain ⟨t, ht, hxt⟩ := mem_of_mem_exportComment hx
      exact h t (Option.mem_toList.2 ht) hxt

/-- The text of a document **splits into the lines of its steps**, when there is one and no slice that
is read has a newline. -/
theorem lines_exportTree {root : Node} {source : Text} (dictionary : Option Dictionary)
    (hne : root.steps.filter Node.hasLine ≠ [])
    (h : ∀ n ∈ root.steps, ∀ t ∈ n.slices source, '\n' ∉ t) :
    (exportTree root source dictionary).text.lines =
      writtenLines source dictionary (root.steps.filter Node.hasLine) := by
  have hfilter : writtenLines source dictionary (root.steps.filter Node.hasLine) =
      writtenLines source dictionary root.steps := by
    rw [writtenLines_eq, exportSteps_filter, writtenLines_eq]
  have hunbroken : ∀ l ∈ writtenLines source dictionary root.steps, '\n' ∉ l := by
    rw [writtenLines_eq, List.forall_mem_map]
    intro line hline
    obtain ⟨n, hn, hline⟩ := List.mem_filterMap.1 hline
    exact newline_notMem_exportStep hline (h n hn)
  rw [exportTree_eq_writeSteps, hfilter]
  refine Text.lines_unlines (fun hnil => hne ?_) hunbroken
  -- each step that has a line has left one
  have hall := forall₂_writtenLines source dictionary
    (show ∀ n ∈ root.steps.filter Node.hasLine, n.hasLine = true from
      fun n hn => (List.mem_filter.1 hn).2)
  rw [hfilter, hnil] at hall
  exact List.forall₂_nil_right_iff.1 hall

/-! ## Whole documents -/

/-- **A document is exported step by step.** Its text joins the lines of its steps, and its warnings are
theirs in order. The lines and the warnings of two lists of steps behind one another are those of the
first list followed by those of the second; a step that is neither a command nor a comment can be put
in anywhere; commands and comments in another order have their lines, each with its warnings, in that
order. When there is a command or a comment, and no slice of the source that is read has a newline, the
text splits at its newlines into one line for each of them, in order: the one that is written for it
alone. -/
theorem exportTree_step_by_step (source : Text) (dictionary : Option Dictionary) :
    (∀ root : Node, exportTree root source dictionary =
        ⟨Text.unlines (writtenLines source dictionary root.steps),
          writtenWarnings source dictionary root.steps⟩) ∧
      (∀ xs ys : List Node,
        writtenLines source dictionary (xs ++ ys) =
            writtenLines source dictionary xs ++ writtenLines source dictionary ys ∧
          writtenWarnings source dictionary (xs ++ ys) =
            writtenWarnings source dictionary xs ++ writtenWarnings source dictionary ys) ∧
      (∀ (n : Node) (xs ys : List Node) (root larger : Node),
        n.kind ≠ .command → n.kind ≠ .lineComment → root.steps = xs ++ ys →
          larger.steps = xs ++ n :: ys →
            exportTree larger source dictionary = exportTree root source dictionary) ∧
      (∀ ns : List Node,
        writtenLines source dictionary ns = (exportSteps source dictionary ns).map Noted.value ∧
          writtenWarnings source dictionary ns =
            (exportSteps source dictionary ns).flatMap Noted.warnings) ∧
      (∀ ns ms : List Node, (ns.filter Node.hasLine).Perm (ms.filter Node.hasLine) →
        (exportSteps source dictionary ns).Perm (exportSteps source dictionary ms)) ∧
      (∀ (ns ms : List Node) (place : Nat → Nat),
        (∀ i, (ms.filter Node.hasLine)[i]? = (ns.filter Node.hasLine)[place i]?) →
          ∀ i, (exportSteps source dictionary ms)[i]? =
            (exportSteps source dictionary ns)[place i]?) ∧
      ∀ root : Node, root.steps.filter Node.hasLine ≠ [] →
        (∀ n ∈ root.steps, ∀ t ∈ n.slices source, '\n' ∉ t) →
          List.Forall₂ (fun n line => writtenLines source dictionary [n] = [line])
            (root.steps.filter Node.hasLine) (exportTree root source dictionary).text.lines := by
  refine ⟨fun root => exportTree_eq_writeSteps root source dictionary,
    fun xs ys => ⟨writtenLines_append source dictionary xs ys,
      writtenWarnings_append source dictionary xs ys⟩, ?_,
    fun ns => ⟨writtenLines_eq source dictionary ns, writtenWarnings_eq source dictionary ns⟩,
    fun ns ms => exportSteps_perm source dictionary, ?_, ?_⟩
  · intro n xs ys root larger hcommand hcomment hroot hlarger
    have hn : n.hasLine = false := by
      rw [Node.hasLine, decide_eq_false hcommand, decide_eq_false hcomment, Bool.or_false]
    rw [exportTree, exportTree, hroot, hlarger, exportSteps_insert source dictionary hn]
  · intro ns ms place hplace i
    rw [getElem?_exportSteps, getElem?_exportSteps, hplace]
  · intro root hne hslices
    rw [lines_exportTree dictionary hne hslices]
    exact forall₂_writtenLines source dictionary fun n hn => (List.mem_filter.1 hn).2

/-- `twoCommands` with a step in front that has no line, and its steps the other way round. Its three
steps have three lines. -/
theorem exportTree_step_by_step_twoCommands :
    exportTree ⟨.sequence, ⟨0, 72⟩, [⟨.commands, ⟨0, 72⟩, ⟨.load, ⟨0, 3⟩, []⟩ :: twoCommands.steps⟩]⟩
        twoCommandsSource none = exportTree twoCommands twoCommandsSource none ∧
      (exportSteps twoCommandsSource none twoCommands.steps).Perm
        (exportSteps twoCommandsSource none twoCommands.steps.reverse) ∧
      (∀ i, (exportSteps twoCommandsSource none twoCommands.steps.reverse)[i]? =
        (exportSteps twoCommandsSource none twoCommands.steps)[if i < 3 then 2 - i else i]?) ∧
      (exportTree twoCommands twoCommandsSource none).text.lines.length = 3 := by
  obtain ⟨-, -, hinsert, -, hperm, hplace, hlines⟩ :=
    exportTree_step_by_step twoCommandsSource none
  refine ⟨?_, ?_, ?_, ?_⟩
  · exact hinsert ⟨.load, ⟨0, 3⟩, []⟩ [] twoCommands.steps twoCommands _ (by decide) (by decide)
      rfl rfl
  · exact hperm _ _ (List.reverse_perm _).symm
  · refine hplace _ _ _ fun i => ?_
    match i with
    | 0 | 1 | 2 => rfl
    | i + 3 => rfl
  · have hne : twoCommands.steps.filter Node.hasLine ≠ [] := List.cons_ne_nil _ _
    have hslices : ∀ n ∈ twoCommands.steps, ∀ t ∈ n.slices twoCommandsSource, '\n' ∉ t := by
      decide +kernel
    exact (hlines twoCommands hne hslices).length_eq.symm

end SequenceBridge
