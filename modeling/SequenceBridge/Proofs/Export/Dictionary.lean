import Mathlib.Algebra.Order.BigOperators.Group.List
import Mathlib.Algebra.Order.Group.Nat
import SequenceBridge.Proofs.Argument.Definition
import SequenceBridge.Proofs.Dictionary.Lookup
import SequenceBridge.Proofs.Export.Step

/-! # The dictionary in the exported text
A dictionary only groups the nodes of repeated arguments, and groups leave no brackets. But a group
that lost all its members leaves a comma, so the exported text does depend on the dictionary when
nodes are dropped: `[1 ⚠]` is `[1]` without a dictionary and `[1,]` in groups of one.

* **`exportTree_text_sublist`** — a dictionary takes nothing out of the exported text.
* **`length_exportTree_text`** — it puts in one comma for each empty group beside another group.
* **`exportTree_text_eq_none_iff`** — the text is the one without a dictionary exactly when no
  converted argument has such a group.
* **`exportTree_text_dictionary_irrelevant_iff`** — no dictionary can be told from another exactly
  when every repeated argument of the document keeps the places of its nodes.
-/

namespace SequenceBridge

/-! ## The arguments of a command -/

/-- Without groups, the arguments of a command **do not depend on the dictionary**. -/
theorem ungroup_arguments (c : Command) (source : Text) (d₁ d₂ : Option Dictionary) :
    (c.arguments source d₁).map Argument.ungroup = (c.arguments source d₂).map Argument.ungroup := by
  rw [Command.arguments, Command.arguments]
  cases c.args? with
  | none => rfl
  | some args => exact ungroup_convertAll source _ _ 0 0 args.children

/-- The arguments of a command have no surplus commas without a dictionary, or when all places are
kept in them. -/
theorem surplus_arguments (c : Command) (source : Text) (dictionary : Option Dictionary)
    (h : dictionary = none ∨ ∀ v ∈ c.argumentVisits, v.KeepsPlaces source) :
    argumentsSurplus (c.arguments source dictionary) = 0 := by
  rw [Command.argumentVisits] at h
  rw [Command.arguments]
  cases hargs : c.args? with
  | none => rfl
  | some args =>
      rw [hargs] at h
      refine surplus_convertAll source _ 0 0 args.children (h.imp_left fun hd i => ?_)
      rw [hd]
      rfl

/-- Without a dictionary, arguments are written as if they had no groups. -/
theorem exportArguments_none (c : Command) (source : Text) (dictionary : Option Dictionary) :
    (exportArguments c source none).value =
      joinArguments ((c.arguments source dictionary).map Argument.ungroup) := by
  rw [exportArguments_value, ungroup_arguments c source dictionary none]
  exact (joinArguments_ungroup_of_surplus (surplus_arguments c source none (.inl rfl))).symm

/-! ## The line of a step -/

/-- The surplus commas that a dictionary leaves in the line of a step. -/
def Step.surplus (source : Text) (dictionary : Option Dictionary) : Step → Nat
  | .command c => argumentsSurplus (c.arguments source dictionary)
  | .comment _ => 0

/-- A dictionary takes nothing out of the line of a step. -/
theorem line_sublist (source : Text) (dictionary : Option Dictionary) (s : Step) :
    (s.line source none).value.Sublist (s.line source dictionary).value := by
  cases s with
  | comment n => exact List.Sublist.refl _
  | command c =>
      have hargs := joinArguments_ungroup_sublist (c.arguments source dictionary)
      rw [← exportArguments_none, ← exportArguments_value] at hargs
      rw [Step.line, Step.line, exportCommand, exportCommand]
      exact ((hargs.cons_cons ' ').append_left _).append_right _

/-- A dictionary makes the line of a step longer by its surplus commas. -/
theorem length_line (source : Text) (dictionary : Option Dictionary) (s : Step) :
    (s.line source dictionary).value.length =
      (s.line source none).value.length + s.surplus source dictionary := by
  cases s with
  | comment n => rfl
  | command c =>
      have hargs := length_joinArguments (c.arguments source dictionary)
      rw [← exportArguments_none, ← exportArguments_value] at hargs
      rw [Step.line, Step.line, exportCommand, exportCommand, Step.surplus]
      simp only [List.length_append, List.length_cons]
      omega

/-! ## The text of a document -/

/-- **A dictionary takes nothing out** of the exported text. -/
theorem exportTree_text_sublist (root : Node) (source : Text) (dictionary : Option Dictionary) :
    (exportTree root source none).text.Sublist (exportTree root source dictionary).text := by
  rw [exportTree_text, exportTree_text]
  refine Text.intercalate_sublist '\n' ?_
  rw [List.forall₂_map_right_iff, List.forall₂_map_left_iff, List.forall₂_same]
  exact fun s _ => line_sublist source dictionary s

/-- **A dictionary puts in** as many characters as it leaves surplus commas in the lines. -/
theorem length_exportTree_text (root : Node) (source : Text) (dictionary : Option Dictionary) :
    (exportTree root source dictionary).text.length =
      (exportTree root source none).text.length +
        (root.writtenSteps.map (Step.surplus source dictionary)).sum := by
  rw [exportTree_text, exportTree_text, Text.unlines, Text.unlines, Text.length_intercalate,
    Text.length_intercalate]
  simp only [List.length_map, List.map_map]
  have hsum : (root.writtenSteps.map
      (List.length ∘ fun s => (s.line source dictionary).value)).sum =
        (root.writtenSteps.map (List.length ∘ fun s => (s.line source none).value)).sum +
          (root.writtenSteps.map (Step.surplus source dictionary)).sum := by
    induction root.writtenSteps with
    | nil => rfl
    | cons s ss ih =>
        have hs := length_line source dictionary s
        simp only [List.map_cons, List.sum_cons, Function.comp_apply] at ih ⊢
        omega
  omega

/-- There are no surplus commas exactly when all converted arguments are gapless. -/
theorem sum_surplus_eq_zero_iff (root : Node) (source : Text) (dictionary : Option Dictionary) :
    (root.writtenSteps.map (Step.surplus source dictionary)).sum = 0 ↔
      ∀ c ∈ root.commands, ∀ a ∈ c.arguments source dictionary, a.Gapless := by
  rw [List.sum_eq_zero_iff_forall_eq_nat, List.forall_mem_map]
  constructor
  · intro h c hc a ha
    have hs := h (.command c) (mem_commands_iff.1 hc)
    exact (surplus_eq_zero_iff a).1 (argumentsSurplus_eq_zero_iff.1 hs a ha)
  · intro h s hs
    cases s with
    | comment n => rfl
    | command c =>
        exact argumentsSurplus_eq_zero_iff.2 fun a ha =>
          (surplus_eq_zero_iff a).2 (h c (mem_commands_iff.2 hs) a ha)

/-- The text is **the one without a dictionary** exactly when all converted arguments are gapless. -/
theorem exportTree_text_eq_none_iff (root : Node) (source : Text)
    (dictionary : Option Dictionary) :
    (exportTree root source dictionary).text = (exportTree root source none).text ↔
      ∀ c ∈ root.commands, ∀ a ∈ c.arguments source dictionary, a.Gapless := by
  rw [← sum_surplus_eq_zero_iff]
  have hlength := length_exportTree_text root source dictionary
  constructor
  · intro h
    rw [h] at hlength
    omega
  · intro h
    refine ((exportTree_text_sublist root source dictionary).eq_of_length ?_).symm
    omega

/-! ## A dictionary that tells -/

/-- The most nodes that stand side by side as arguments of a command of some commands, or more. -/
def argumentCount (cs : List Command) : Nat :=
  (cs.map fun c => (c.args?.map fun args => args.children.length).getD 0).sum

/-- The dictionary that gives every node of a repeated argument a group of its own, for all commands of
a document. -/
def unitDictionary (root : Node) (source : Text) : Dictionary :=
  Dictionary.ofList (root.commands.map fun c =>
    ⟨sourceStem c source, none,
      List.replicate (argumentCount root.commands) (unitDefinition maxRepeatDepth)⟩)

/-- All commands of a document have the same definitions in that dictionary. -/
theorem argumentDefinitions_unitDictionary {root : Node} {source : Text} {c : Command}
    (hc : c ∈ root.commands) :
    argumentDefinitions (some (unitDictionary root source)) (sourceStem c source) =
      List.replicate (argumentCount root.commands) (unitDefinition maxRepeatDepth) := by
  rw [argumentDefinitions, Option.bind_some, unitDictionary, Dictionary.get?_ofList]
  cases hfind : List.find? _ _ with
  | none =>
      -- the command itself stands in the dictionary
      have hnone := List.find?_eq_none.1 hfind _
        (List.mem_reverse.2 (List.mem_map.2 ⟨c, hc, rfl⟩))
      exact absurd (decide_eq_true rfl) hnone
  | some d =>
      obtain ⟨e, _, rfl⟩ := List.mem_map.1 (List.mem_reverse.1 (List.mem_of_find?_eq_some hfind))
      rfl

/-- Where that dictionary leaves no surplus commas, a document keeps all places. -/
theorem keepsPlaces_of_unitDictionary {root : Node} {source : Text} {c : Command}
    (hc : c ∈ root.commands)
    (h : argumentsSurplus (c.arguments source (some (unitDictionary root source))) = 0) :
    ∀ v ∈ c.argumentVisits, v.KeepsPlaces source := by
  rw [Command.arguments, argumentDefinitions_unitDictionary hc] at h
  rw [Command.argumentVisits]
  cases hargs : c.args? with
  | none => exact List.forall_mem_nil _
  | some args =>
      rw [hargs] at h
      have hcount : args.children.length ≤ argumentCount root.commands := by
        refine List.le_sum_of_mem (List.mem_map.2 ⟨c, hc, ?_⟩)
        rw [hargs]
        rfl
      refine keepsPlaces_of_surplusAll source (Nat.zero_add _) _ 0 args.children
        (fun i hi => ?_) h
      rw [List.getElem?_replicate, if_pos (by omega)]

/-- **When no dictionary can be told from another.** The exported text is the same under any two
dictionaries exactly when every repeated argument that is visited has at most one node or drops none
of its nodes. For a single dictionary, the text is the one without any exactly when no converted
argument has an empty group beside another group. -/
theorem exportTree_text_dictionary_irrelevant_iff (root : Node) (source : Text) :
    ((∀ d₁ d₂ : Option Dictionary,
        (exportTree root source d₁).text = (exportTree root source d₂).text) ↔
      ∀ v ∈ root.argumentVisits, v.KeepsPlaces source) ∧
    ∀ d : Option Dictionary,
      ((exportTree root source d).text = (exportTree root source none).text ↔
        ∀ c ∈ root.commands, ∀ a ∈ c.arguments source d, a.Gapless) := by
  refine ⟨⟨fun h v hv => ?_, fun h d₁ d₂ => ?_⟩, exportTree_text_eq_none_iff root source⟩
  · -- the dictionary that gives every node a group of its own can be told from none
    obtain ⟨c, hc, hv⟩ := List.mem_flatMap.1 hv
    have hgapless := (exportTree_text_eq_none_iff root source _).1
      (h (some (unitDictionary root source)) none) c hc
    refine keepsPlaces_of_unitDictionary hc ?_ v hv
    exact argumentsSurplus_eq_zero_iff.2 fun a ha => (surplus_eq_zero_iff a).2 (hgapless a ha)
  · have hnone : ∀ d : Option Dictionary,
        (exportTree root source d).text = (exportTree root source none).text := by
      intro d
      refine (exportTree_text_eq_none_iff root source d).2 fun c hc a ha => ?_
      have hplaces := surplus_arguments c source d
        (.inr fun v hv => h v (List.mem_flatMap.2 ⟨c, hc, hv⟩))
      exact (surplus_eq_zero_iff a).1 (argumentsSurplus_eq_zero_iff.1 hplaces a ha)
    rw [hnone d₁, hnone d₂]

/-- The syntax tree of `R30 CMD [1 ?]`, a command with a repeated argument whose second node is an
error of the grammar. -/
def lostMember : Node :=
  ⟨.sequence, ⟨0, 13⟩, [⟨.commands, ⟨0, 13⟩, [⟨.command, ⟨0, 13⟩,
    [⟨.timeTag, ⟨0, 3⟩, [⟨.timeRelative, ⟨0, 3⟩, []⟩]⟩, ⟨.stem, ⟨4, 7⟩, []⟩,
      ⟨.args, ⟨8, 13⟩, [⟨.repeatArg, ⟨8, 13⟩,
        [⟨.number, ⟨9, 10⟩, []⟩, ⟨.error, ⟨11, 12⟩, []⟩]⟩]⟩]⟩]⟩]⟩

/-- **Dictionaries can be told apart.** In groups of one the lost node leaves a comma. -/
theorem exportTree_text_lostMember :
    ¬ ∀ d₁ d₂ : Option Dictionary,
      (exportTree lostMember "R30 CMD [1 ?]".toList d₁).text =
        (exportTree lostMember "R30 CMD [1 ?]".toList d₂).text := by
  intro h
  have hone : (exportTree lostMember "R30 CMD [1 ?]".toList
      (some (Dictionary.ofList [⟨"CMD".toList, none, [unitDefinition 1]⟩]))).text =
        "R00:00:30 CMD [1,]".toList := by decide +kernel
  have hnone : (exportTree lostMember "R30 CMD [1 ?]".toList none).text =
      "R00:00:30 CMD [1]".toList := by decide +kernel
  have hsame := h (some (Dictionary.ofList [⟨"CMD".toList, none, [unitDefinition 1]⟩])) none
  rw [hone, hnone] at hsame
  exact absurd hsame (by decide)

end SequenceBridge
