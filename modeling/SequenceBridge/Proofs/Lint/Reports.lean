import Mathlib.Data.List.Perm.Basic
import SequenceBridge.Proofs.Lint.Time
import SequenceBridge.Proofs.Tree.Child

/-! # What rules append
Rules visit the commands of a document one after the other, and every rule that a command breaks puts
one error behind the diagnostics so far. Nothing else is put there, and nothing that was there before
is touched. A command without a time tag breaks one rule, a command whose tag FPrime cannot express the
other, so none breaks both.

* **`LintRule.BrokenAt`** — a command breaks a rule, at a node.
* **`check_eq_some_iff`** — a rule reports exactly the commands that break it.
* **`Command.visit`** — some rules on one command, each putting its report behind those so far.
* **`foldl_visit`** — visits to some commands append what the rules report of them, in order.
* **`lint_append_perm`** — rules in two runs append what they append in one, in another order.
* **`violations_ne_nil_iff`** — a document is reported exactly when it has a faulty command.
* **`lint_appends_reports`** — what a linter hands back, on any document.
-/

namespace SequenceBridge

/-! ## Broken rules -/

/-- A command **breaks a rule at a node**, which is where the report of the rule belongs. -/
inductive LintRule.BrokenAt : LintRule → Command → Node → Prop
  /-- A command without a time tag is at fault itself. -/
  | noTag {c : Command} (h : ∀ n ∈ c.node.children, n.kind ≠ .timeTag) :
      BrokenAt .missingTimeTag c c.node
  /-- The first complete time in the first time tag is at fault. -/
  | complete {c : Command} {tag n : Node} (htag : c.node.FirstChild .timeTag tag)
      (hn : tag.FirstChild .timeComplete n) : BrokenAt .unsupportedTimeTag c n
  /-- The first epoch time is, when the tag holds no complete time. -/
  | epoch {c : Command} {tag n : Node} (htag : c.node.FirstChild .timeTag tag)
      (hcomplete : ∀ m ∈ tag.children, m.kind ≠ .timeComplete) (hn : tag.FirstChild .timeEpoch n) :
      BrokenAt .unsupportedTimeTag c n

/-- The time of a tag that FPrime cannot express is the first complete one, or else the first epoch
one. -/
theorem unsupported?_eq_some_iff {tag n : Node} :
    TimeForm.unsupported? tag = some n ↔
      tag.FirstChild .timeComplete n ∨
        (∀ m ∈ tag.children, m.kind ≠ .timeComplete) ∧ tag.FirstChild .timeEpoch n := by
  rw [TimeForm.unsupported?, Option.orElse_eq_orElse, Option.orElse_eq_or, Option.or_eq_some_iff,
    child?_eq_some_iff, child?_eq_none_iff, child?_eq_some_iff]

/-- **A rule reports** exactly the commands that break it: one error, where they break it. -/
theorem check_eq_some_iff {rule : LintRule} {c : Command} {d : Diagnostic} :
    rule.check c = some d ↔
      ∃ n, rule.BrokenAt c n ∧ d = ⟨n.span, rule.message, .error⟩ := by
  cases rule with
  | missingTimeTag =>
      rw [LintRule.check, Command.timeTag?]
      constructor
      · intro h
        split at h
        · rename_i hnone
          exact ⟨c.node, .noTag (child?_eq_none_iff.1 (Option.isNone_iff_eq_none.1 hnone)),
            (Option.some.inj h).symm⟩
        · cases h
      · rintro ⟨n, hbroken, rfl⟩
        cases hbroken with
        | noTag h => rw [child?_eq_none_iff.2 h]; rfl
  | unsupportedTimeTag =>
      rw [LintRule.check, Command.timeTag?, Option.map_eq_some_iff]
      constructor
      · rintro ⟨n, hn, rfl⟩
        obtain ⟨tag, htag, hn⟩ := Option.bind_eq_some_iff.1 hn
        rw [child?_eq_some_iff] at htag
        rcases unsupported?_eq_some_iff.1 hn with hcomplete | ⟨hcomplete, hepoch⟩
        · exact ⟨n, .complete htag hcomplete, rfl⟩
        · exact ⟨n, .epoch htag hcomplete hepoch, rfl⟩
      · rintro ⟨n, hbroken, rfl⟩
        refine ⟨n, Option.bind_eq_some_iff.2 ?_, rfl⟩
        cases hbroken with
        | complete htag hn =>
            exact ⟨_, child?_eq_some_iff.2 htag, unsupported?_eq_some_iff.2 (.inl hn)⟩
        | epoch htag hcomplete hn =>
            exact ⟨_, child?_eq_some_iff.2 htag, unsupported?_eq_some_iff.2 (.inr ⟨hcomplete, hn⟩)⟩

/-- **No command breaks both rules**: one asks for a time tag, the other for what is in it. -/
theorem not_brokenAt_both {c : Command} {m n : Node} (hmissing : LintRule.missingTimeTag.BrokenAt c m) :
    ¬ LintRule.unsupportedTimeTag.BrokenAt c n := by
  cases hmissing with
  | noTag hnone =>
      have hnone := child?_eq_none_iff.2 hnone
      intro hunsupported
      cases hunsupported with
      | complete htag _ => exact nomatch hnone.symm.trans (child?_eq_some_iff.2 htag)
      | epoch htag _ _ => exact nomatch hnone.symm.trans (child?_eq_some_iff.2 htag)

/-- Under both rules a command is reported **at most once**. -/
theorem length_reports_all_le (c : Command) : (c.reports LintRule.all).length ≤ 1 := by
  rw [Command.reports, LintRule.all, List.filterMap_cons, List.filterMap_cons, List.filterMap_nil]
  cases hmissing : LintRule.missingTimeTag.check c with
  | none => cases LintRule.unsupportedTimeTag.check c <;> simp
  | some d =>
      cases hunsupported : LintRule.unsupportedTimeTag.check c with
      | none => simp
      | some e =>
          obtain ⟨m, hm, -⟩ := check_eq_some_iff.1 hmissing
          obtain ⟨n, hn, -⟩ := check_eq_some_iff.1 hunsupported
          exact absurd hn (not_brokenAt_both hm)

/-! ## Visits one after the other -/

/-- A **visit of a rule** to a command: its report, if it has one, goes behind those so far. -/
def LintRule.visit (c : Command) (found : List Diagnostic) (rule : LintRule) : List Diagnostic :=
  match rule.check c with
  | some d => found ++ [d]
  | none => found

/-- **Some rules visit a command**, one after the other. -/
def Command.visit (rules : List LintRule) (found : List Diagnostic) (c : Command) :
    List Diagnostic :=
  rules.foldl (LintRule.visit c) found

/-- Visits to one command append what the rules report of it, rule by rule. -/
theorem visit_eq (rules : List LintRule) (found : List Diagnostic) (c : Command) :
    c.visit rules found = found ++ c.reports rules := by
  rw [Command.visit, Command.reports]
  induction rules generalizing found with
  | nil => rw [List.foldl_nil, List.filterMap_nil, List.append_nil]
  | cons rule rules ih =>
      rw [List.foldl_cons, ih, LintRule.visit, List.filterMap_cons]
      cases rule.check c with
      | none => rfl
      | some d => exact List.append_assoc found [d] _

/-- **Visits to some commands** append what the rules report of them, command by command. -/
theorem foldl_visit (rules : List LintRule) (commands : List Command) (found : List Diagnostic) :
    commands.foldl (Command.visit rules) found =
      found ++ commands.flatMap (Command.reports rules) := by
  induction commands generalizing found with
  | nil => rw [List.foldl_nil, List.flatMap_nil, List.append_nil]
  | cons c commands ih => rw [List.foldl_cons, ih, visit_eq, List.flatMap_cons, List.append_assoc]

/-! ## Rules in two runs -/

/-- Rules behind other rules report of a command what they do behind each other. -/
theorem reports_append (rules others : List LintRule) (c : Command) :
    c.reports (rules ++ others) = c.reports rules ++ c.reports others := List.filterMap_append

/-- **Rules in two runs** append what they append in one: there the reports of the second run stand
between those of the first, command by command. -/
theorem lint_append_perm (rules others : List LintRule) (root : Node) :
    (violations rules root ++ violations others root).Perm (violations (rules ++ others) root) := by
  have hone : violations (rules ++ others) root =
      root.commands.flatMap fun c => c.reports rules ++ c.reports others :=
    List.flatMap_congr fun c _ => reports_append rules others c
  rw [hone]
  exact List.flatMap_append_perm root.commands (Command.reports rules) (Command.reports others)

/-! ## Faulty commands -/

/-- **Linting appends the reports on broken rules, and nothing else.** The commands of a document are
those below its first block of commands. A linter visits them in order, rule by rule, so the
diagnostics that it is given stay in front, and what it appends depends on the syntax tree and the rules
alone. Each visit appends at most one error, where the command breaks the rule, and none when it does
not. No command breaks both rules, so under both it is reported at most once. A second run with other
rules appends, in another order, what one run with all the rules does. -/
theorem lint_appends_reports (rules : List LintRule) (request : LintRequest) :
    ((∃ block, request.root.FirstChild .commands block ∧
          request.root.commands.map Command.node = block.children.filter (·.kind = .command)) ∨
        (∀ n ∈ request.root.children, n.kind ≠ .commands) ∧ request.root.commands = []) ∧
      request.answer rules = request.root.commands.foldl (Command.visit rules) request.earlier ∧
      request.answer rules =
        request.earlier ++ (request.root.commands.flatMap fun c => rules.filterMap (·.check c)) ∧
      (∀ (rule : LintRule) (c : Command) (d : Diagnostic), rule.check c = some d ↔
        ∃ n, rule.BrokenAt c n ∧ d = ⟨n.span, rule.message, .error⟩) ∧
      (∀ c : Command, ¬ ((∃ n, LintRule.missingTimeTag.BrokenAt c n) ∧
        ∃ n, LintRule.unsupportedTimeTag.BrokenAt c n)) ∧
      (∀ c : Command, (c.reports LintRule.all).length ≤ 1) ∧
      ∀ others : List LintRule, ∃ appended,
        LintRequest.answer others
            ⟨request.root, request.source, request.dictionary, request.answer rules⟩ =
          request.earlier ++ appended ∧
        appended.Perm (violations (rules ++ others) request.root) := by
  refine ⟨?_, (foldl_visit rules _ _).symm, rfl, fun _ _ _ => check_eq_some_iff, ?_,
    length_reports_all_le, fun others => ?_⟩
  · cases hblock : request.root.child? .commands with
    | none =>
        have hnone := child?_eq_none_iff.1 hblock
        exact .inr ⟨hnone, commands_eq_nil_of_forall hnone⟩
    | some block =>
        have hfirst := child?_eq_some_iff.1 hblock
        exact .inl ⟨block, hfirst, commands_of_firstChild hfirst⟩
  · rintro c ⟨⟨m, hm⟩, n, hn⟩
    exact not_brokenAt_both hm hn
  · refine ⟨violations rules request.root ++ violations others request.root, ?_,
      lint_append_perm rules others request.root⟩
    exact List.append_assoc _ _ _

end SequenceBridge
