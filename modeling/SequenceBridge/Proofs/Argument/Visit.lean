import Mathlib.Data.List.Basic
import SequenceBridge.Proofs.Argument.Grouping
import SequenceBridge.Proofs.Export.Step

/-! # What every argument node comes to
The conversion of a document visits argument nodes in the order of the document, and goes below a
repeated argument as long as the nesting allows. Every node that is visited comes to exactly one
thing: a value, the opening of a repeated value, or a warning.

* **`Node.argumentVisits`** — the argument nodes of a document that are visited, parents first.
* **`Visit.contribution`** — what a visited node comes to.
* **`Argument.contributions`** — the values of a converted argument, parents first.
* **`exportTree_accounts_for_every_visit`** — the converted arguments and the warnings of a document
  are what its visited nodes come to, each once and in order.
-/

namespace SequenceBridge

/-! ## Visits -/

/-- A **visit** to an argument node: the node, and the number of repeated arguments around it. A
repeated argument that stands in no other has depth zero, so its level is one. -/
structure Visit where
  depth : Nat
  node : Node

/-- What an argument node **comes to**. -/
inductive Contribution
  /-- A value, the text that the node covers. -/
  | scalar (value : Text)
  /-- A repeated value; what stands in it comes to something by itself. -/
  | repeated
  /-- Nothing but a warning. -/
  | dropped (w : Warning)
  deriving DecidableEq, Repr

namespace Contribution

/-- The text of a value. -/
def scalar? : Contribution → Option Text
  | .scalar value => some value
  | _ => none

/-- The warning of a node that was dropped. -/
def warning? : Contribution → Option Warning
  | .dropped w => some w
  | _ => none

/-- Whether a node was dropped. -/
def isDropped (o : Contribution) : Bool := o.warning?.isSome

end Contribution

/-- **What a visited node comes to.** A repeated argument of a level up to the greatest one is a
repeated value, a deeper one is dropped. Any other node is the text it covers; it is dropped when it
is an error of the grammar, has no text, or covers none. -/
def Visit.contribution (source : Text) (v : Visit) : Contribution :=
  if v.node.kind = .repeatArg then
    if v.depth + 1 ≤ maxRepeatDepth then .repeated
    else .dropped ⟨v.node.span, v.node.kind, .repeatTooDeep⟩
  else
    match v.node.text? source with
    | some value =>
      if v.node.kind ≠ .error ∧ value ≠ [] then .scalar value
      else .dropped ⟨v.node.span, v.node.kind, .malformedArgument⟩
    | none => .dropped ⟨v.node.span, v.node.kind, .malformedArgument⟩

/-- A visit with what its node comes to. -/
def Visit.located (source : Text) (v : Visit) : Nat × Contribution := (v.depth, v.contribution source)

mutual

/-- The **visits** to a node and to what stands below it, parents first. Only repeated arguments up to
the greatest level are entered. -/
def Node.visits (depth : Nat) : Node → List Visit
  | ⟨kind, span, children⟩ =>
    ⟨depth, ⟨kind, span, children⟩⟩ ::
      if kind = .repeatArg ∧ depth + 1 ≤ maxRepeatDepth then Node.visitsAll (depth + 1) children
      else []

/-- The visits to some nodes and to what stands below them. -/
def Node.visitsAll (depth : Nat) : List Node → List Visit
  | [] => []
  | n :: ns => n.visits depth ++ Node.visitsAll depth ns

end

/-- The visits to the arguments of a command. -/
def Command.argumentVisits (c : Command) : List Visit :=
  (c.args?.map fun args => Node.visitsAll 0 args.children).getD []

/-- The **visits to the arguments of a document**, command by command. -/
def Node.argumentVisits (root : Node) : List Visit := root.commands.flatMap Command.argumentVisits

/-! ## Values of converted arguments -/

mutual

/-- The **values of an argument**, parents first, each with the number of repeated values around
it. -/
def Argument.contributions (depth : Nat) : Argument → List (Nat × Contribution)
  | .scalar value => [(depth, .scalar value)]
  | .repeated groups => (depth, .repeated) :: groupContributions (depth + 1) groups

/-- The values of some arguments. -/
def argumentContributions (depth : Nat) : List Argument → List (Nat × Contribution)
  | [] => []
  | a :: as => a.contributions depth ++ argumentContributions depth as

/-- The values of some groups. -/
def groupContributions (depth : Nat) : List (List Argument) → List (Nat × Contribution)
  | [] => []
  | g :: gs => argumentContributions depth g ++ groupContributions depth gs

end

/-- The values of some arguments, one argument after the other. -/
theorem argumentContributions_eq_flatMap (depth : Nat) (as : List Argument) :
    argumentContributions depth as = as.flatMap (Argument.contributions depth) := by
  induction as with
  | nil => rw [argumentContributions, List.flatMap_nil]
  | cons a as ih => rw [argumentContributions, ih, List.flatMap_cons]

theorem argumentContributions_append (depth : Nat) (as bs : List Argument) :
    argumentContributions depth (as ++ bs) =
      argumentContributions depth as ++ argumentContributions depth bs := by
  rw [argumentContributions_eq_flatMap, List.flatMap_append, ← argumentContributions_eq_flatMap,
    ← argumentContributions_eq_flatMap]

/-- Where groups begin and end does not matter for the values in them. -/
theorem groupContributions_eq (depth : Nat) (gs : List (List Argument)) :
    groupContributions depth gs = argumentContributions depth gs.flatten := by
  induction gs with
  | nil => rw [groupContributions, List.flatten_nil, argumentContributions]
  | cons g gs ih => rw [groupContributions, List.flatten_cons, argumentContributions_append, ih]

/-- The converted **arguments of a command**. -/
def Command.arguments (c : Command) (source : Text) (dictionary : Option Dictionary) :
    List Argument :=
  (c.args?.map fun args =>
    (args.arguments source (argumentDefinitions dictionary (sourceStem c source))).value).getD []

/-- The exported text of a command's arguments joins the converted ones. -/
theorem exportArguments_value (c : Command) (source : Text) (dictionary : Option Dictionary) :
    (exportArguments c source dictionary).value = joinArguments (c.arguments source dictionary) := by
  rw [exportArguments, Command.arguments]
  cases c.args? with
  | none => simp [joinArguments, argumentTexts]
  | some args => rfl

/-! ## One step of the conversion -/

/-- A node that is no repeated argument comes to its text, or is dropped as malformed. -/
theorem contribution_of_ne_repeatArg (source : Text) (depth : Nat) {n : Node}
    (h : n.kind ≠ .repeatArg) :
    (Visit.mk depth n).contribution source =
      match n.scalar? source with
      | some value => .scalar value
      | none => .dropped ⟨n.span, n.kind, .malformedArgument⟩ := by
  rw [Visit.contribution, if_neg h, Node.scalar?]
  cases n.text? source with
  | none => rfl
  | some value =>
      rw [Option.filter_some]
      cases value <;> by_cases he : n.kind = .error <;> simp [he]

/-- Repeated values are the repeated arguments of a level that is allowed. -/
theorem contribution_eq_repeated_iff {source : Text} {v : Visit} :
    v.contribution source = .repeated ↔
      v.node.kind = .repeatArg ∧ v.depth + 1 ≤ maxRepeatDepth := by
  by_cases hk : v.node.kind = .repeatArg
  · by_cases hd : v.depth + 1 ≤ maxRepeatDepth
    · rw [Visit.contribution, if_pos hk, if_pos hd]
      exact ⟨fun _ => ⟨hk, hd⟩, fun _ => rfl⟩
    · rw [Visit.contribution, if_pos hk, if_neg hd]
      exact ⟨fun h => (by cases h), fun h => absurd h.2 hd⟩
  · rw [contribution_of_ne_repeatArg source v.depth hk]
    refine ⟨fun h => ?_, fun h => absurd h.1 hk⟩
    split at h <;> cases h

/-- **The conversion of a node** by what the node comes to. -/
theorem convert_eq (source : Text) (definition : Option ArgumentDefinition) (depth : Nat)
    (n : Node) :
    n.convert source definition depth =
      match (Visit.mk depth n).contribution source with
      | .scalar value => ⟨some (.scalar value), []⟩
      | .dropped w => ⟨none, [w]⟩
      | .repeated =>
        ⟨some (.repeated (groupsOf (definition.bind ArgumentDefinition.arity?)
            (Node.convertAll source (groupDefinition? definition) (depth + 1) 0
              n.children).value)),
          (Node.convertAll source (groupDefinition? definition) (depth + 1) 0
            n.children).warnings⟩ := by
  obtain ⟨kind, span, children⟩ := n
  by_cases hk : kind = .repeatArg
  · rw [Node.convert, if_pos hk, Visit.contribution, if_pos hk]
    by_cases hd : depth < maxRepeatDepth
    · rw [if_pos hd, if_pos (show depth + 1 ≤ maxRepeatDepth from hd)]
    · rw [if_neg hd, if_neg (show ¬ depth + 1 ≤ maxRepeatDepth from hd)]
  · rw [Node.convert, if_neg hk, contribution_of_ne_repeatArg source depth hk]
    cases Node.scalar? ⟨kind, span, children⟩ source <;> rfl

/-- **The visits of a node**: the node itself, and below it only when it comes to a repeated
value. -/
theorem visits_eq (source : Text) (depth : Nat) (n : Node) :
    n.visits depth =
      ⟨depth, n⟩ ::
        match (Visit.mk depth n).contribution source with
        | .repeated => Node.visitsAll (depth + 1) n.children
        | _ => [] := by
  obtain ⟨kind, span, children⟩ := n
  rw [Node.visits]
  congr 1
  by_cases hk : kind = .repeatArg
  · by_cases hd : depth + 1 ≤ maxRepeatDepth
    · rw [if_pos ⟨hk, hd⟩, Visit.contribution, if_pos hk, if_pos hd]
    · rw [if_neg fun h => hd h.2, Visit.contribution, if_pos hk, if_neg hd]
  · rw [if_neg fun h => hk h.1, contribution_of_ne_repeatArg source depth hk]
    cases Node.scalar? ⟨kind, span, children⟩ source <;> rfl

/-! ## Accounting -/

mutual

/-- The **warnings of a node** are those of its visits, in order. -/
theorem warnings_convert (source : Text) (definition : Option ArgumentDefinition) (depth : Nat) :
    ∀ n : Node, (n.convert source definition depth).warnings =
      (n.visits depth).filterMap fun v => (v.contribution source).warning?
  | ⟨kind, span, children⟩ => by
      rw [convert_eq, visits_eq source, List.filterMap_cons]
      -- a value has no warning, a dropped node its own, a repeated value those of its children
      cases (Visit.mk depth ⟨kind, span, children⟩).contribution source with
      | scalar value => rfl
      | dropped w => rfl
      | repeated => exact warnings_convertAll source _ (depth + 1) 0 children

/-- The warnings of some nodes are those of their visits, in order. -/
theorem warnings_convertAll (source : Text) (definitionAt : Nat → Option ArgumentDefinition)
    (depth index : Nat) :
    ∀ ns : List Node, (Node.convertAll source definitionAt depth index ns).warnings =
      (Node.visitsAll depth ns).filterMap fun v => (v.contribution source).warning?
  | [] => by rw [Node.convertAll, Node.visitsAll, List.filterMap_nil]
  | n :: ns => by
      rw [Node.convertAll, Node.visitsAll, List.filterMap_append,
        ← warnings_convert source (definitionAt index) depth n,
        ← warnings_convertAll source definitionAt depth (index + 1) ns]

end

/-- The values among what some visits come to. -/
def keptContributions (source : Text) (visits : List Visit) : List (Nat × Contribution) :=
  (visits.map (·.located source)).filter fun p => !p.2.isDropped

theorem keptContributions_append (source : Text) (us vs : List Visit) :
    keptContributions source (us ++ vs) =
      keptContributions source us ++ keptContributions source vs := by
  rw [keptContributions, List.map_append, List.filter_append]; rfl

mutual

/-- The **values of a converted node** are those of its visits, in order. -/
theorem contributions_convert (source : Text) (definition : Option ArgumentDefinition)
    (depth : Nat) :
    ∀ n : Node, argumentContributions depth (n.convert source definition depth).value.toList =
      keptContributions source (n.visits depth)
  | ⟨kind, span, children⟩ => by
      rw [convert_eq, visits_eq source, keptContributions, List.map_cons, Visit.located]
      cases (Visit.mk depth ⟨kind, span, children⟩).contribution source with
      | scalar value => rfl
      | dropped w => rfl
      | repeated =>
          -- the groups hold the converted children in order, whatever the arity
          have ih := contributions_convertAll source (groupDefinition? definition) (depth + 1) 0
            children
          rw [← flatten_groupsOf (definition.bind ArgumentDefinition.arity?),
            ← groupContributions_eq] at ih
          rw [Option.toList_some, argumentContributions, argumentContributions, List.append_nil,
            Argument.contributions, ih]
          rfl

/-- The values of some converted nodes are those of their visits, in order. -/
theorem contributions_convertAll (source : Text) (definitionAt : Nat → Option ArgumentDefinition)
    (depth index : Nat) :
    ∀ ns : List Node,
      argumentContributions depth
          ((Node.convertAll source definitionAt depth index ns).value.filterMap id) =
        keptContributions source (Node.visitsAll depth ns)
  | [] => by rw [Node.convertAll, Node.visitsAll]; rfl
  | n :: ns => by
      rw [Node.convertAll, Node.visitsAll, filterMap_id_cons, argumentContributions_append,
        keptContributions_append, contributions_convert source (definitionAt index) depth n,
        contributions_convertAll source definitionAt depth (index + 1) ns]

end

/-! ## Whole documents -/

/-- The values of a command's converted arguments are those of its visits. -/
theorem contributions_arguments (c : Command) (source : Text) (dictionary : Option Dictionary) :
    argumentContributions 0 (c.arguments source dictionary) =
      keptContributions source c.argumentVisits := by
  rw [Command.arguments, Command.argumentVisits]
  cases c.args? with
  | none => rfl
  | some args => exact contributions_convertAll source _ 0 0 args.children

/-- The warnings of a command are those of its visits. -/
theorem warnings_exportCommand (c : Command) (source : Text) (dictionary : Option Dictionary) :
    (exportCommand c source dictionary).warnings =
      c.argumentVisits.filterMap fun v => (v.contribution source).warning? := by
  rw [exportCommand, exportArguments, Command.argumentVisits]
  cases c.args? with
  | none => rfl
  | some args => exact warnings_convertAll source _ 0 0 args.children

/-- Steps warn about what stands in their commands and about nothing else. -/
theorem warnings_steps (source : Text) (dictionary : Option Dictionary) (steps : List Step) :
    (steps.flatMap fun s => (s.line source dictionary).warnings) =
      (steps.filterMap Step.command?).flatMap fun c =>
        (exportCommand c source dictionary).warnings := by
  induction steps with
  | nil => rfl
  | cons s ss ih =>
      rw [List.flatMap_cons, ih]
      cases s with
      | command c => rfl
      | comment n => rfl

/-- Values are not dropped, so what is kept has all of them. -/
theorem scalars_keptContributions (source : Text) (visits : List Visit) :
    (keptContributions source visits).filterMap (·.2.scalar?) =
      visits.filterMap fun v => (v.contribution source).scalar? := by
  induction visits with
  | nil => rfl
  | cons v vs ih =>
      rw [keptContributions] at ih ⊢
      rw [List.map_cons, List.filterMap_cons, ← ih, Visit.located]
      cases v.contribution source <;> rfl

/-- A scalar in an argument of a command **comes from a visit**. -/
theorem exists_visit_of_scalar {c : Command} {source : Text} {dictionary : Option Dictionary}
    {a : Argument} {p : Nat × Contribution} {t : Text} (ha : a ∈ c.arguments source dictionary)
    (hp : p ∈ a.contributions 0) (ht : t ∈ p.2.scalar?) :
    ∃ v ∈ c.argumentVisits, t ∈ (v.contribution source).scalar? := by
  have hkept : p ∈ keptContributions source c.argumentVisits := by
    rw [← contributions_arguments c source dictionary, argumentContributions_eq_flatMap]
    exact List.mem_flatMap.2 ⟨a, ha, hp⟩
  refine List.mem_filterMap.1 ?_
  rw [← scalars_keptContributions]
  exact List.mem_filterMap.2 ⟨p, hkept, ht⟩

/-- The **scalars of some arguments**, read from left to right. -/
def argumentScalars (as : List Argument) : List Text :=
  (argumentContributions 0 as).filterMap (·.2.scalar?)

/-- **No argument is lost, doubled or moved.** Every visited node of a document comes to one thing.
The converted arguments of all commands hold, at their depths and in order, the values of the visits;
their scalars are the scalars of the visits; and the warnings are the warnings of the visits. -/
theorem exportTree_accounts_for_every_visit (root : Node) (source : Text)
    (dictionary : Option Dictionary) :
    (root.commands.flatMap fun c => argumentContributions 0 (c.arguments source dictionary)) =
        keptContributions source root.argumentVisits ∧
      (root.commands.flatMap fun c => argumentScalars (c.arguments source dictionary)) =
        (root.argumentVisits.filterMap fun v => (v.contribution source).scalar?) ∧
      (exportTree root source dictionary).warnings =
        root.argumentVisits.filterMap fun v => (v.contribution source).warning? := by
  refine ⟨?_, ?_, ?_⟩
  · rw [Node.argumentVisits, keptContributions, List.map_flatMap, List.filter_flatMap]
    exact List.flatMap_congr fun c _ => contributions_arguments c source dictionary
  · rw [Node.argumentVisits, List.filterMap_flatMap]
    refine List.flatMap_congr fun c _ => ?_
    rw [argumentScalars, contributions_arguments, scalars_keptContributions]
  · rw [Node.argumentVisits, List.filterMap_flatMap, exportTree_warnings, warnings_steps,
      ← commands_eq]
    exact List.flatMap_congr fun c _ => warnings_exportCommand c source dictionary

end SequenceBridge
