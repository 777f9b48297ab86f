import SequenceBridge.Proofs.Argument.Ungrouping
import SequenceBridge.Proofs.Argument.Visit
import SequenceBridge.Proofs.Import.Line
import SequenceBridge.Proofs.Text.Blank

/-! # Exported and taken over again
A document whose pieces have no marks comes back from its exported text in a canonical form: each
command with its time as FPrime writes it, its stem as it stands in the source, and its arguments with
spaces for commas. Only a stem whose first underscore stands before something other than a letter does
not come back, and then the document does not.

* **`Step.canonicalLine`** — the canonical line of a step.
* **`Step.HasPlainPieces`** — no piece of a step has a mark.
* **`importLine_line_iff`** — which steps come back in their canonical line.
* **`importText_exportTree_iff`** — a document comes back exactly when all its stems do.
-/

namespace SequenceBridge

/-! ## Canonical lines -/

/-- The description of a command: its trailing comment in the normal form, empty when it has none. -/
def Command.description (c : Command) (source : Text) : Text :=
  (c.comment?.map (exportComment · source)).getD []

/-- The end of a command's canonical line; a description without text is left out. -/
def Command.canonicalTrailer (c : Command) (source : Text) : Text :=
  match c.description source with
  | [] => []
  | description => ' ' :: '#' :: description

/-- The **canonical line** of a step: time, stem as it was written, arguments with spaces for commas,
and the description. -/
def Step.canonicalLine (source : Text) (dictionary : Option Dictionary) : Step → Text
  | .command c =>
    exportTime c source ++ ' ' :: sourceStem c source ++
      ' ' :: spaced (exportArguments c source dictionary).value ++ c.canonicalTrailer source
  | .comment n => '#' :: exportComment n source

/-! ## Plain pieces -/

/-- **The pieces of a command are plain**: its time, its stem and the values among its arguments have
no mark, and its description no newline. Values may have commas. -/
structure Command.HasPlainPieces (c : Command) (source : Text) : Prop where
  time : ∀ t ∈ TimeTag.encode? c source, t.IsPlain
  stem : ∀ n ∈ c.stem?, ∀ t ∈ n.text? source, t.IsPlain
  scalars : ∀ v ∈ c.argumentVisits, ∀ t ∈ (v.contribution source).scalar?, t.IsUnmarked
  description : '\n' ∉ c.description source

/-- The pieces of a step are plain; those of a comment are, when it has no newline. -/
def Step.HasPlainPieces (source : Text) : Step → Prop
  | .command c => c.HasPlainPieces source
  | .comment n => '\n' ∉ exportComment n source

instance (c : Command) (source : Text) : Decidable (c.HasPlainPieces source) :=
  decidable_of_iff
    ((∀ t ∈ TimeTag.encode? c source, t.IsPlain) ∧
      (∀ n ∈ c.stem?, ∀ t ∈ n.text? source, t.IsPlain) ∧
        (∀ v ∈ c.argumentVisits, ∀ t ∈ (v.contribution source).scalar?, t.IsUnmarked) ∧
          '\n' ∉ c.description source)
    ⟨fun h => ⟨h.1, h.2.1, h.2.2.1, h.2.2.2⟩, fun h => ⟨h.time, h.stem, h.scalars, h.description⟩⟩

instance (source : Text) : DecidablePred (Step.HasPlainPieces source)
  | .command c => inferInstanceAs (Decidable (c.HasPlainPieces source))
  | .comment n => inferInstanceAs (Decidable ('\n' ∉ exportComment n source))

theorem isPlain_unknownText : unknownText.IsPlain := by decide

/-- A plain time stays plain in the line; what stands in for it is plain too. -/
theorem isPlain_exportTime {c : Command} {source : Text} (h : c.HasPlainPieces source) :
    (exportTime c source).IsPlain := by
  rw [exportTime]
  cases htime : TimeTag.encode? c source with
  | none => exact isPlain_unknownText
  | some t =>
      rw [Option.map_some, Option.filter_some]
      split
      · exact (h.time t htime).part t.trim_isInfix
      · exact isPlain_unknownText

/-- A plain stem stays plain in the line; what stands in for it is plain too. -/
theorem isPlain_sourceStem {c : Command} {source : Text} (h : c.HasPlainPieces source) :
    (sourceStem c source).IsPlain := by
  rw [sourceStem]
  cases hstem : c.stem? with
  | none => exact isPlain_unknownText
  | some n =>
      rw [Option.bind_some]
      cases htext : n.text? source with
      | none => exact isPlain_unknownText
      | some t => exact h.stem n hstem t htext

/-! ## Arguments without marks -/

/-- Arguments with unmarked texts are joined to an unmarked text. -/
theorem isUnmarked_joinArguments {as : List Argument} (h : ∀ a ∈ as, a.text.IsUnmarked) :
    (joinArguments as).IsUnmarked := by
  rw [joinArguments_eq]
  exact Text.isUnmarked_commas (List.forall_mem_map.2 h)

/-- **An argument whose values are unmarked** is unmarked: brackets and commas make no marks. -/
theorem isUnmarked_text (a : Argument) :
    ∀ depth, (∀ p ∈ a.contributions depth, ∀ t ∈ p.2.scalar?, t.IsUnmarked) →
      a.text.IsUnmarked := by
  induction a using Argument.induction with
  | scalar value =>
      intro depth h
      rw [Argument.text]
      exact h (depth, .scalar value) (List.mem_singleton.2 rfl) value rfl
  | repeated groups ih =>
      intro depth h
      rw [Argument.contributions, List.forall_mem_cons, groupContributions_eq,
        argumentContributions_eq_flatMap] at h
      have hmembers : ∀ a ∈ groups.flatten, a.text.IsUnmarked := by
        intro a ha
        refine ih a ha (depth + 1) fun p hp => ?_
        exact h.2 p (List.mem_flatMap.2 ⟨a, ha, hp⟩)
      have hgroups : (Text.commas (groups.map joinArguments)).IsUnmarked := by
        refine Text.isUnmarked_commas (List.forall_mem_map.2 fun g hg => ?_)
        exact isUnmarked_joinArguments fun a ha => hmembers a (List.mem_flatten.2 ⟨g, hg, ha⟩)
      -- the brackets keep the groups apart from what is around them
      rw [text_repeated]
      exact (Text.isUnmarked_nil.append_cons hgroups (by decide)).append_cons Text.isUnmarked_nil
        (by decide)

/-- **Arguments in writing have no marks**: their values are those of the visits, whatever the
dictionary. -/
theorem isUnmarked_exportArguments {c : Command} {source : Text} (h : c.HasPlainPieces source)
    (dictionary : Option Dictionary) : (exportArguments c source dictionary).value.IsUnmarked := by
  rw [exportArguments_value]
  refine isUnmarked_joinArguments fun a ha => isUnmarked_text a 0 fun p hp t ht => ?_
  -- the value comes from a visit, where it is known to be unmarked
  obtain ⟨v, hv, hvt⟩ := exists_visit_of_scalar ha hp ht
  exact h.scalars v hv t hvt

/-! ## The line of a step -/

/-- What stands in the line of a command in front of its description. -/
def exportBody (c : Command) (source : Text) (dictionary : Option Dictionary) : Text :=
  exportTime c source ++ ' ' :: exportStem (sourceStem c source) ++
    ' ' :: (exportArguments c source dictionary).value

/-- The description of a command follows the body of its line. -/
theorem exportCommand_value (c : Command) (source : Text) (dictionary : Option Dictionary) :
    (exportCommand c source dictionary).value =
      exportBody c source dictionary ++ exportTrailer c source := rfl

/-- What stands in the body of a line stands in one of its pieces, or joins them. -/
theorem mem_exportBody {c : Command} {source : Text} {dictionary : Option Dictionary} {x : Char}
    (hx : x ∈ exportBody c source dictionary) :
    x ∈ exportTime c source ∨ x ∈ sourceStem c source ∨
      x ∈ (exportArguments c source dictionary).value ∨ x = ' ' ∨ x = '.' := by
  rw [exportBody, List.mem_append, List.mem_append, List.mem_cons, List.mem_cons] at hx
  rcases hx with (htime | hspace | hstem) | hspace | harguments
  · exact .inl htime
  · exact .inr (.inr (.inr (.inl hspace)))
  · rcases mem_of_mem_exportStem hstem with hstem | hperiod
    · exact .inr (.inl hstem)
    · exact .inr (.inr (.inr (.inr hperiod)))
  · exact .inr (.inr (.inr (.inl hspace)))
  · exact .inr (.inr (.inl harguments))

/-- The body of a line has **no newline**. -/
theorem newline_notMem_exportBody {c : Command} {source : Text} (h : c.HasPlainPieces source)
    (dictionary : Option Dictionary) : '\n' ∉ exportBody c source dictionary := by
  intro hx
  rcases mem_exportBody hx with hx | hx | hx | hx | hx
  · exact (isPlain_exportTime h).newline hx
  · exact (isPlain_sourceStem h).newline hx
  · exact (isUnmarked_exportArguments h dictionary).newline hx
  · exact absurd hx (by decide)
  · exact absurd hx (by decide)

/-- The body of a line has **no comment marker**. -/
theorem marker_notMem_exportBody {c : Command} {source : Text} (h : c.HasPlainPieces source)
    (dictionary : Option Dictionary) : ';' ∉ exportBody c source dictionary := by
  intro hx
  rcases mem_exportBody hx with hx | hx | hx | hx | hx
  · exact (isPlain_exportTime h).marker hx
  · exact (isPlain_sourceStem h).marker hx
  · exact (isUnmarked_exportArguments h dictionary).marker hx
  · exact absurd hx (by decide)
  · exact absurd hx (by decide)

/-- The trailer of a command is a space and its description behind a marker, when it has one. -/
theorem exportTrailer_eq (c : Command) (source : Text) :
    exportTrailer c source =
      match c.description source with
      | [] => []
      | description => ' ' :: ';' :: description := rfl

/-- The trailer of a command is taken over as the **canonical one**. -/
theorem importLine_exportTrailer (c : Command) (source : Text) :
    importLine (exportTrailer c source) = c.canonicalTrailer source := by
  rw [exportTrailer_eq, Command.canonicalTrailer]
  cases c.description source with
  | nil => rfl
  | cons d description =>
      show importLine (' ' :: ';' :: d :: description) = _
      rw [importLine_cons (by decide), importLine_marker]
      rfl

/-- The trailer of a command does not begin with a letter. -/
theorem head?_exportTrailer (c : Command) (source : Text) :
    ∀ d ∈ (exportTrailer c source).head?, isAsciiLetter d = false := by
  intro d hd
  rw [exportTrailer_eq] at hd
  cases hdescription : c.description source with
  | nil =>
      rw [hdescription] at hd
      exact nomatch hd
  | cons e description =>
      rw [hdescription] at hd
      rw [← Option.some.inj hd]
      decide

/-- The trailer of a command has no newline when its description has none. -/
theorem newline_notMem_exportTrailer {c : Command} {source : Text}
    (h : '\n' ∉ c.description source) : '\n' ∉ exportTrailer c source := by
  rw [exportTrailer_eq]
  cases hd : c.description source with
  | nil => exact List.not_mem_nil
  | cons d description =>
      rw [hd] at h
      show '\n' ∉ ' ' :: ';' :: d :: description
      rw [List.mem_cons, List.mem_cons]
      rintro (hc | hc | hc)
      · exact absurd hc (by decide)
      · exact absurd hc (by decide)
      · exact h hc

/-- The **line of a step** with plain pieces has no newline. -/
theorem newline_notMem_line {source : Text} {s : Step} (h : s.HasPlainPieces source)
    (dictionary : Option Dictionary) : '\n' ∉ (s.line source dictionary).value := by
  cases s with
  | comment n =>
      rw [Step.line, List.mem_cons]
      rintro (hc | hc)
      · exact absurd hc (by decide)
      · exact h hc
  | command c =>
      have h : c.HasPlainPieces source := h
      rw [Step.line, exportCommand_value, List.mem_append]
      rintro (hc | hc)
      · exact newline_notMem_exportBody h dictionary hc
      · exact newline_notMem_exportTrailer h.description hc

/-- The body of a line is taken over **piece by piece**. -/
theorem importLine_exportBody {c : Command} {source : Text} (h : c.HasPlainPieces source)
    (dictionary : Option Dictionary) :
    importLine (exportBody c source dictionary) =
      exportTime c source ++ ' ' :: importLine (exportStem (sourceStem c source)) ++
        ' ' :: spaced (exportArguments c source dictionary).value := by
  have htime := isPlain_exportTime h
  have hmarker : ';' ∉ exportTime c source ++ ' ' :: exportStem (sourceStem c source) := by
    intro hc
    refine marker_notMem_exportBody h dictionary ?_
    rw [exportBody]
    exact List.mem_append_left _ hc
  rw [exportBody, importLine_append_cons hmarker (by decide) (by decide),
    importLine_append_cons htime.marker (by decide) (by decide), importLine_of_isPlain htime,
    importLine_of_isUnmarked (isUnmarked_exportArguments h dictionary)]

/-- The **line of a command** is taken over piece by piece; only the stem may change. -/
theorem importLine_exportCommand {c : Command} {source : Text} (h : c.HasPlainPieces source)
    (dictionary : Option Dictionary) :
    importLine (exportCommand c source dictionary).value =
      exportTime c source ++ ' ' :: importLine (exportStem (sourceStem c source)) ++
        ' ' :: spaced (exportArguments c source dictionary).value ++ c.canonicalTrailer source := by
  have hmarker := marker_notMem_exportBody h dictionary
  rw [exportCommand_value, importLine_append hmarker (head?_exportTrailer c source),
    importLine_exportBody h dictionary, importLine_exportTrailer]

/-- A step with plain pieces **comes back in its canonical line** exactly when its stem comes back. -/
theorem importLine_line_iff {source : Text} {s : Step} (h : s.HasPlainPieces source)
    (dictionary : Option Dictionary) :
    importLine (s.line source dictionary).value = s.canonicalLine source dictionary ↔
      ∀ c, s = .command c → StemReturns (sourceStem c source) := by
  cases s with
  | comment n => exact ⟨fun _ c hc => (nomatch hc), fun _ => importLine_marker _⟩
  | command c =>
      have h : c.HasPlainPieces source := h
      rw [Step.line, importLine_exportCommand h dictionary, Step.canonicalLine, List.append_left_inj,
        List.append_left_inj, List.append_right_inj, List.cons.injEq,
        importLine_exportStem_iff (isPlain_sourceStem h)]
      -- time, arguments and trailer agree on both sides, which leaves the stems
      constructor
      · rintro ⟨-, hstem⟩ c' hc'
        cases hc'
        exact hstem
      · intro hstem
        exact ⟨rfl, hstem c rfl⟩

/-- The stem of a command keeps its length in both directions. -/
theorem length_exportStem (stem : Text) : (exportStem stem).length = stem.length := by
  induction stem with
  | nil => rfl
  | cons c stem ih =>
      rw [exportStem]
      split
      · rfl
      · rw [List.length_cons, List.length_cons, ih]

/-- A line and the canonical one have the **same length**. -/
theorem length_canonicalLine {source : Text} {s : Step} (h : s.HasPlainPieces source)
    (dictionary : Option Dictionary) :
    (importLine (s.line source dictionary).value).length =
      (s.canonicalLine source dictionary).length := by
  cases s with
  | comment n => exact length_importLine _
  | command c =>
      have h : c.HasPlainPieces source := h
      rw [Step.line, importLine_exportCommand h dictionary, Step.canonicalLine]
      simp only [List.length_append, List.length_cons, length_importLine, length_exportStem]

/-! ## The text of a document -/

/-- **When a document comes back.** A document whose pieces are plain comes back from its exported
text in its canonical lines exactly when the first underscore of every stem that has one stands
directly before a letter. -/
theorem importText_exportTree_iff (root : Node) (source : Text) (dictionary : Option Dictionary)
    (h : ∀ s ∈ root.writtenSteps, s.HasPlainPieces source) :
    importText (exportTree root source dictionary).text =
        Text.unlines (root.writtenSteps.map (Step.canonicalLine source dictionary)) ↔
      ∀ c ∈ root.commands, StemReturns (sourceStem c source) := by
  have hnewline : ∀ l ∈ root.writtenSteps.map fun s => (s.line source dictionary).value,
      '\n' ∉ l :=
    List.forall_mem_map.2 fun s hs => newline_notMem_line (h s hs) dictionary
  have hlength : ∀ s ∈ root.writtenSteps,
      ((importLine ∘ fun s => (s.line source dictionary).value) s).length =
        (s.canonicalLine source dictionary).length :=
    fun s hs => length_canonicalLine (h s hs) dictionary
  -- line by line: no line has a newline, and each is as long as the canonical one
  rw [exportTree_text, importText_unlines hnewline, List.map_map,
    Text.unlines_map_eq_iff hlength]
  constructor
  · intro hlines c hc
    have hs := mem_commands_iff.1 hc
    exact (importLine_line_iff (h _ hs) dictionary).1 (hlines _ hs) c rfl
  · intro hstems s hs
    refine (importLine_line_iff (h s hs) dictionary).2 fun c hc => hstems c ?_
    exact mem_commands_iff.2 (hc ▸ hs)

/-- Two commands and a comment between them. The first command has all four parts, one of its
arguments repeated; the second has no arguments. -/
def twoCommandsSource : Text :=
  "R30 fsw_ECHO \"a.1, b\" [1 2 3] # wait; go\n# note\nA2024-001T00:00:00 NO_OP".toList

/-- The syntax tree of `twoCommandsSource`. -/
def twoCommands : Node :=
  ⟨.sequence, ⟨0, 72⟩, [⟨.commands, ⟨0, 72⟩,
    [⟨.command, ⟨0, 40⟩,
      [⟨.timeTag, ⟨0, 3⟩, [⟨.timeRelative, ⟨0, 3⟩, []⟩]⟩, ⟨.stem, ⟨4, 12⟩, []⟩,
        ⟨.args, ⟨13, 29⟩, [⟨.string, ⟨13, 21⟩, []⟩, ⟨.repeatArg, ⟨22, 29⟩,
          [⟨.number, ⟨23, 24⟩, []⟩, ⟨.number, ⟨25, 26⟩, []⟩, ⟨.number, ⟨27, 28⟩, []⟩]⟩]⟩,
        ⟨.lineComment, ⟨30, 40⟩, []⟩]⟩,
      ⟨.lineComment, ⟨41, 47⟩, []⟩,
      ⟨.command, ⟨48, 72⟩,
        [⟨.timeTag, ⟨48, 66⟩, [⟨.timeAbsolute, ⟨48, 66⟩, []⟩]⟩, ⟨.stem, ⟨67, 72⟩, []⟩]⟩]⟩]⟩

/-- Both stems have their first underscore before a letter, so the document comes back. -/
theorem importText_exportTree_twoCommands :
    twoCommands.commands.length = 2 ∧
      (∀ s ∈ twoCommands.writtenSteps, s.HasPlainPieces twoCommandsSource) ∧
        importText (exportTree twoCommands twoCommandsSource none).text =
          Text.unlines
            (twoCommands.writtenSteps.map (Step.canonicalLine twoCommandsSource none)) := by
  have hcount : twoCommands.commands.length = 2 := by decide
  have hplain : ∀ s ∈ twoCommands.writtenSteps, s.HasPlainPieces twoCommandsSource := by
    decide +kernel
  have hstems : ∀ c ∈ twoCommands.commands, StemReturns (sourceStem c twoCommandsSource) := by
    decide +kernel
  exact ⟨hcount, hplain,
    (importText_exportTree_iff twoCommands twoCommandsSource none hplain).2 hstems⟩

end SequenceBridge
