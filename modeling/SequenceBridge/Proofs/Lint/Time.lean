import SequenceBridge.Lint
import SequenceBridge.Proofs.Export.Step
import SequenceBridge.Proofs.Export.Time

/-! # Reports and unknown times
The rules on time tags and the export look at the same commands, but at different forms of time: the
rules for those that FPrime cannot express, the export for those that it can. A tag with forms of both
kinds is reported and still exported with its time. Where a tag holds one form at most, every command
that is reported is exported with the unknown time, and a command that is not reported has the unknown
time only when its tag is empty or cannot be read.

* **`Command.reports`** — what some rules report of one command.
* **`reports_eq_nil_iff`** — which commands are not reported.
* **`Node.timeForms`** — the forms of time that a tag holds.
* **`timeUnknown_of_reports`**, **`unusable_of_reports_eq_nil`** — reported commands, and commands with
  the unknown time that are not reported.
* **`lint_agrees_with_exportTime`** — both sides on a whole document.
-/

namespace SequenceBridge

/-! ## Reports on one command -/

/-- What some rules **report** of one command. -/
def Command.reports (rules : List LintRule) (c : Command) : List Diagnostic :=
  rules.filterMap (·.check c)

/-- The reports on a document are those on its commands, in order. -/
theorem lint_eq (rules : List LintRule) (root : Node) (earlier : List Diagnostic) :
    lint rules root earlier = earlier ++ root.commands.flatMap (Command.reports rules) := rfl

/-- The rule on missing tags is silent when there is a tag. -/
theorem check_missingTimeTag_eq_none_iff {c : Command} :
    LintRule.check .missingTimeTag c = none ↔ ∃ tag, c.timeTag? = some tag := by
  rw [LintRule.check]
  cases c.timeTag? with
  | none => exact ⟨fun h => (nomatch h), fun ⟨tag, htag⟩ => (nomatch htag)⟩
  | some tag => exact ⟨fun _ => ⟨tag, rfl⟩, fun _ => rfl⟩

/-- The rule on unsupported tags is silent when the tag holds neither a complete nor an epoch time. -/
theorem check_unsupportedTimeTag_eq_none_iff {c : Command} {tag : Node}
    (htag : c.timeTag? = some tag) :
    LintRule.check .unsupportedTimeTag c = none ↔
      tag.child? .timeComplete = none ∧ tag.child? .timeEpoch = none := by
  rw [LintRule.check, htag, Option.map_eq_none_iff, Option.bind_some, TimeForm.unsupported?,
    Option.orElse_eq_orElse, Option.orElse_eq_or, Option.or_eq_none_iff]

/-- **A command is not reported** exactly when its first time tag holds neither a complete nor an epoch
time. -/
theorem reports_eq_nil_iff {c : Command} :
    c.reports LintRule.all = [] ↔
      ∃ tag, c.timeTag? = some tag ∧ tag.child? .timeComplete = none ∧
        tag.child? .timeEpoch = none := by
  rw [Command.reports, List.filterMap_eq_nil_iff, LintRule.all, List.forall_mem_cons,
    List.forall_mem_singleton, check_missingTimeTag_eq_none_iff]
  constructor
  · rintro ⟨⟨tag, htag⟩, hunsupported⟩
    exact ⟨tag, htag, (check_unsupportedTimeTag_eq_none_iff htag).1 hunsupported⟩
  · rintro ⟨tag, htag, hneither⟩
    exact ⟨⟨tag, htag⟩, (check_unsupportedTimeTag_eq_none_iff htag).2 hneither⟩

/-! ## Forms of time -/

/-- The four **forms of time**. -/
def Kind.timeForms : List Kind := [.timeAbsolute, .timeRelative, .timeComplete, .timeEpoch]

/-- The **forms of time that a tag holds**. -/
def Node.timeForms (tag : Node) : List Kind :=
  Kind.timeForms.filter fun k => (tag.child? k).isSome

theorem mem_timeForms_iff {tag : Node} {k : Kind} :
    k ∈ tag.timeForms ↔ k ∈ Kind.timeForms ∧ tag.child? k ≠ none := by
  rw [Node.timeForms, List.mem_filter, Option.isSome_iff_ne_none]

/-- A tag that holds **one form at most** holds no other beside the one. -/
theorem child?_eq_none_of_timeForms {tag : Node} {j k : Kind} (hone : tag.timeForms.length ≤ 1)
    (hj : j ∈ tag.timeForms) (hk : k ∈ Kind.timeForms) (hne : k ≠ j) : tag.child? k = none := by
  by_contra hchild
  have hmem : k ∈ tag.timeForms := mem_timeForms_iff.2 ⟨hk, hchild⟩
  match tag.timeForms, hone, hj, hmem with
  | [form], _, hj, hmem => exact hne ((List.mem_singleton.1 hmem).trans (List.mem_singleton.1 hj).symm)

/-! ## Reported commands and unknown times -/

/-- **A reported command** has no known time, when its tag holds one form at most. -/
theorem timeUnknown_of_reports {c : Command} (source : Text)
    (hone : ∀ tag ∈ c.timeTag?, tag.timeForms.length ≤ 1) (h : c.reports LintRule.all ≠ []) :
    c.TimeUnknown source := by
  rw [Ne, reports_eq_nil_iff] at h
  cases htag : c.timeTag? with
  | none => exact .noTag htag
  | some tag =>
      have hone := hone tag htag
      -- the form that is reported leaves no place for one that can be expressed
      obtain ⟨form, hform, habsolute, hrelative⟩ : ∃ form ∈ tag.timeForms,
          Kind.timeAbsolute ≠ form ∧ Kind.timeRelative ≠ form := by
        by_cases hcomplete : tag.child? .timeComplete = none
        · have hepoch : tag.child? .timeEpoch ≠ none := fun hepoch =>
            h ⟨tag, htag, hcomplete, hepoch⟩
          exact ⟨.timeEpoch, mem_timeForms_iff.2 ⟨by decide, hepoch⟩, by decide, by decide⟩
        · exact ⟨.timeComplete, mem_timeForms_iff.2 ⟨by decide, hcomplete⟩, by decide, by decide⟩
      exact .noForm htag (child?_eq_none_of_timeForms hone hform (by decide) habsolute)
        (child?_eq_none_of_timeForms hone hform (by decide) hrelative)

/-- **A command that is not reported** has an unknown time only when its tag holds no form of time, or
one that cannot be read. -/
theorem unusable_of_reports_eq_nil {c : Command} {source : Text}
    (h : c.reports LintRule.all = []) (hunknown : c.TimeUnknown source) :
    ∃ tag, c.timeTag? = some tag ∧
      (tag.timeForms = [] ∨ tag.TimeUnreadable source ∨ tag.TimeUnparseable source) := by
  obtain ⟨tag, htag, hcomplete, hepoch⟩ := reports_eq_nil_iff.1 h
  cases hunknown with
  | noTag hnone => exact nomatch htag.symm.trans hnone
  | noForm htag' habsolute hrelative =>
      obtain rfl := Option.some.inj (htag.symm.trans htag')
      have hforms : tag.timeForms = [] := by
        simp [Node.timeForms, Kind.timeForms, habsolute, hrelative, hcomplete, hepoch]
      exact ⟨tag, htag, .inl hforms⟩
  | unreadable htag' hunreadable => exact ⟨_, htag', .inr (.inl hunreadable)⟩
  | unparseable htag' hunparseable => exact ⟨_, htag', .inr (.inr hunparseable)⟩

/-! ## Whole documents -/

/-- The line of a command begins with its time. -/
theorem exportCommand_eq_time (c : Command) (source : Text) (dictionary : Option Dictionary) :
    ∃ rest, (exportCommand c source dictionary).value = exportTime c source ++ ' ' :: rest := by
  refine ⟨exportStem (sourceStem c source) ++ ' ' :: (exportArguments c source dictionary).value ++
    exportTrailer c source, ?_⟩
  rw [exportCommand]
  simp only [List.append_assoc, List.cons_append]

/-- **Rules and export agree on times.** The commands that are reported on are those that have a line,
in the same order. The line of each begins with its time, which is the unknown one exactly when the
time is unknown, and otherwise the time as it is written. Of the commands whose tag holds one form of
time at most, every reported one has the unknown time; and a command that is not reported has it only
when its tag holds no form of time, or one that cannot be read. -/
theorem lint_agrees_with_exportTime (root : Node) (source : Text) :
    root.writtenSteps.filterMap Step.command? = root.commands ∧
      (∀ rules earlier, lint rules root earlier =
        earlier ++ root.commands.flatMap (Command.reports rules)) ∧
      (∀ dictionary, (exportTree root source dictionary).text =
        Text.unlines (root.writtenSteps.map fun s => (s.line source dictionary).value)) ∧
      ∀ c : Command,
        (∀ dictionary, ∃ rest, ((Step.command c).line source dictionary).value =
          exportTime c source ++ ' ' :: rest) ∧
        (exportTime c source = unknownText ↔ c.TimeUnknown source) ∧
        (¬ c.TimeUnknown source → TimeTag.encode? c source = some (exportTime c source)) ∧
        ((∀ tag ∈ c.timeTag?, tag.timeForms.length ≤ 1) → c.reports LintRule.all ≠ [] →
          exportTime c source = unknownText) ∧
        (c.reports LintRule.all = [] → exportTime c source = unknownText →
          ∃ tag, c.timeTag? = some tag ∧
            (tag.timeForms = [] ∨ tag.TimeUnreadable source ∨ tag.TimeUnparseable source)) := by
  refine ⟨(commands_eq root).symm, fun rules earlier => lint_eq rules root earlier,
    exportTree_text root source, fun c => ⟨exportCommand_eq_time c source,
      exportTime_eq_unknownText_iff, encode?_of_not_timeUnknown, ?_, ?_⟩⟩
  · intro hone hreported
    exact exportTime_eq_unknownText_iff.2 (timeUnknown_of_reports source hone hreported)
  · intro hsilent hunknown
    exact unusable_of_reports_eq_nil hsilent (exportTime_eq_unknownText_iff.1 hunknown)

/-- Four commands: one waits for a completion, one has no time tag, one has a relative time that is no
duration, and one has a relative time of five seconds. -/
def mixedTimesSource : Text := "C A\nB\nRx D\nR5 E".toList

/-- The syntax tree of `mixedTimesSource`. -/
def mixedTimes : Node :=
  ⟨.sequence, ⟨0, 15⟩, [⟨.commands, ⟨0, 15⟩,
    [⟨.command, ⟨0, 3⟩, [⟨.timeTag, ⟨0, 1⟩, [⟨.timeComplete, ⟨0, 1⟩, []⟩]⟩, ⟨.stem, ⟨2, 3⟩, []⟩]⟩,
      ⟨.command, ⟨4, 5⟩, [⟨.stem, ⟨4, 5⟩, []⟩]⟩,
      ⟨.command, ⟨6, 10⟩,
        [⟨.timeTag, ⟨6, 8⟩, [⟨.timeRelative, ⟨6, 8⟩, []⟩]⟩, ⟨.stem, ⟨9, 10⟩, []⟩]⟩,
      ⟨.command, ⟨11, 15⟩,
        [⟨.timeTag, ⟨11, 13⟩, [⟨.timeRelative, ⟨11, 13⟩, []⟩]⟩, ⟨.stem, ⟨14, 15⟩, []⟩]⟩]⟩]⟩

/-- The first two are reported, the first three have the unknown time, and the third has it because its
time is no duration. -/
theorem lint_agrees_with_exportTime_mixedTimes :
    ∃ complete untagged garbled known : Command,
      mixedTimes.commands = [complete, untagged, garbled, known] ∧
        (complete.reports LintRule.all ≠ [] ∧
          exportTime complete mixedTimesSource = unknownText) ∧
        (untagged.reports LintRule.all ≠ [] ∧
          exportTime untagged mixedTimesSource = unknownText) ∧
        (garbled.reports LintRule.all = [] ∧
          exportTime garbled mixedTimesSource = unknownText ∧
          ∃ tag, garbled.timeTag? = some tag ∧ (tag.timeForms = [] ∨
            tag.TimeUnreadable mixedTimesSource ∨ tag.TimeUnparseable mixedTimesSource)) ∧
        TimeTag.encode? known mixedTimesSource = some (exportTime known mixedTimesSource) := by
  obtain ⟨-, -, -, hagree⟩ := lint_agrees_with_exportTime mixedTimes mixedTimesSource
  refine ⟨_, _, _, _, rfl, ⟨?_, ?_⟩, ⟨?_, ?_⟩, ⟨rfl, ?_, ?_⟩, ?_⟩
  · exact List.cons_ne_nil _ _
  · obtain ⟨-, -, -, hreported, -⟩ := hagree _
    refine hreported ?_ (List.cons_ne_nil _ _)
    rintro _ ⟨⟩
    decide
  · exact List.cons_ne_nil _ _
  · obtain ⟨-, -, -, hreported, -⟩ := hagree _
    exact hreported (fun _ htag => nomatch htag) (List.cons_ne_nil _ _)
  · decide +kernel
  · obtain ⟨-, -, -, -, hsilent⟩ := hagree _
    exact hsilent rfl (by decide +kernel)
  · obtain ⟨-, -, hknown, -⟩ := hagree _
    refine hknown fun hunknown => ?_
    have hnone := TimeTag.encode?_eq_none_iff.2 hunknown
    revert hnone
    decide +kernel

end SequenceBridge
