import SequenceBridge.Proofs.Argument.Grouping

/-! # Conversions that share a converter
A converter is handed from node to node, and from one conversion to the next, and takes down every
warning as it comes up. Nothing that it has taken down has a part in a conversion: each one makes what it
makes over a fresh converter, and puts its own warnings behind those that are there. So the arguments
of a command can also be converted child by child, in as many calls as there are children.

* **`Converter.walk`**, **`Converter.walkAll`** — argument nodes converted over a converter that is handed
  on; **`walk_eq`** says that they come to what they come to by themselves.
* **`Converter.walkGroups`** — the nodes of a repeated argument, each put into the groups so far;
  **`walkGroups_eq`** says which these are at every node.
* **`Converter.serve`** — a call made by that walk; **`serve_eq_run`** says that it is a run of the call.
* **`Converter.after`** — the converter behind some calls.
* **`getElem?_runAll`**, **`runAll_append`** — what each of some calls makes, and calls behind other calls.
* **`Node.childCalls`** — the calls for the children of a node, one for each.
* **`conversions_share_nothing`** — calls one after the other, and calls in place of another.
-/

namespace SequenceBridge

namespace Converter

/-! ## A converter that is handed on -/

/-- A converter that has taken down one more warning. -/
def note (c : Converter) (w : Warning) : Converter := { c with warnings := c.warnings ++ [w] }

mutual

/-- An argument node converted **over a converter**, inside `depth` repeated arguments: what it becomes,
and the converter behind it. -/
def walk (c : Converter) (definition : Option ArgumentDefinition) (depth : Nat) :
    Node → Option Argument × Converter
  | ⟨kind, span, children⟩ =>
    if kind = .repeatArg then
      if depth < maxRepeatDepth then
        let (groups, last) := c.walkGroups definition (depth + 1) 0 [] children
        (some (.repeated groups), last)
      else
        (none, c.note ⟨span, kind, .repeatTooDeep⟩)
    else
      match Node.scalar? ⟨kind, span, children⟩ c.source with
      | some value => (some (.scalar value), c)
      | none => (none, c.note ⟨span, kind, .malformedArgument⟩)

/-- The nodes of a repeated argument converted over a converter, each in its turn **put into the groups**
so far. -/
def walkGroups (c : Converter) (definition : Option ArgumentDefinition) (depth index : Nat)
    (groups : List (List Argument)) : List Node → List (List Argument) × Converter
  | [] => (groups, c)
  | n :: ns =>
    let (made, next) := c.walk (groupDefinition? definition index) depth n
    let turn := groupTurn (definition.bind ArgumentDefinition.arity?) index groups made
    next.walkGroups definition depth (index + 1) turn ns

end

/-- Argument nodes converted over a converter, each with the definition for its index. -/
def walkAll (c : Converter) (definitionAt : Nat → Option ArgumentDefinition) (depth index : Nat) :
    List Node → List (Option Argument) × Converter
  | [] => ([], c)
  | n :: ns =>
    let (first, next) := c.walk (definitionAt index) depth n
    let (others, last) := next.walkAll definitionAt depth (index + 1) ns
    (first :: others, last)

mutual

/-- **A node converted over a converter** becomes what it becomes by itself, and its warnings are put
behind those that were taken down before. -/
theorem walk_eq (c : Converter) (definition : Option ArgumentDefinition) (depth : Nat) :
    ∀ n : Node, c.walk definition depth n =
      ((n.convert c.source definition depth).value,
        ⟨c.source, c.warnings ++ (n.convert c.source definition depth).warnings⟩)
  | ⟨kind, span, children⟩ => by
      have hinner := walkGroups_eq c definition (depth + 1) [] children
      rw [groupsOf_nil, List.length_nil, List.nil_append] at hinner
      rw [walk, Node.convert, hinner]
      by_cases hk : kind = .repeatArg
      · by_cases hd : depth < maxRepeatDepth <;> simp [hk, hd, note]
      · cases Node.scalar? ⟨kind, span, children⟩ c.source <;> simp [hk, note]

/-- **Node by node**, the groups are those of what was done before and of what has become of the nodes by
then. -/
theorem walkGroups_eq (c : Converter) (definition : Option ArgumentDefinition) (depth : Nat)
    (done : List (Option Argument)) :
    ∀ ns : List Node,
      c.walkGroups definition depth done.length
          (groupsOf (definition.bind ArgumentDefinition.arity?) done) ns =
        (groupsOf (definition.bind ArgumentDefinition.arity?) (done ++
            (Node.convertAll c.source (groupDefinition? definition) depth done.length ns).value),
          ⟨c.source, c.warnings ++ (Node.convertAll c.source (groupDefinition? definition) depth
            done.length ns).warnings⟩)
  | [] => by simp [walkGroups, Node.convertAll]
  | n :: ns => by
      have harity : ∀ a ∈ definition.bind ArgumentDefinition.arity?, 0 < a := fun a ha => by
        obtain ⟨d, -, hd⟩ := Option.bind_eq_some_iff.1 ha
        exact ArgumentDefinition.arity?_pos hd
      -- the groups behind the first node are those that the others begin with
      have hfirst := walk_eq c (groupDefinition? definition done.length) depth n
      have hothers := walkGroups_eq
        ⟨c.source, c.warnings ++
          (n.convert c.source (groupDefinition? definition done.length) depth).warnings⟩
        definition depth
        (done ++ [(n.convert c.source (groupDefinition? definition done.length) depth).value]) ns
      rw [← groupTurn_groupsOf harity, List.length_append, List.length_singleton] at hothers
      rw [walkGroups, hfirst, Node.convertAll]
      simp only [hothers, List.append_assoc, List.singleton_append]

end

/-- Nodes converted over a converter become what they become by themselves. -/
theorem walkAll_eq (c : Converter) (definitionAt : Nat → Option ArgumentDefinition)
    (depth index : Nat) (ns : List Node) :
    c.walkAll definitionAt depth index ns =
      ((Node.convertAll c.source definitionAt depth index ns).value,
        ⟨c.source, c.warnings ++ (Node.convertAll c.source definitionAt depth index ns).warnings⟩) := by
  induction ns generalizing c index with
  | nil => simp [walkAll, Node.convertAll]
  | cons n ns ih =>
      -- the others are converted over the converter that the first leaves
      rw [walkAll, walk_eq, Node.convertAll]
      simp only [ih, List.append_assoc]

/-- The nodes of a repeated argument, **put into groups one after the other**, come to its groups. -/
theorem walkGroups_eq_groupsOf (c : Converter) (definition : Option ArgumentDefinition) (depth : Nat)
    (ns : List Node) :
    c.walkGroups definition depth 0 [] ns =
      (groupsOf (definition.bind ArgumentDefinition.arity?)
          (Node.convertAll c.source (groupDefinition? definition) depth 0 ns).value,
        ⟨c.source, c.warnings ++
          (Node.convertAll c.source (groupDefinition? definition) depth 0 ns).warnings⟩) := by
  have hgroups := walkGroups_eq c definition depth [] ns
  rwa [groupsOf_nil, List.length_nil, List.nil_append] at hgroups

/-- **One call over a converter**, made by a walk that hands it on. -/
def serve (c : Converter) : ConversionCall → Conversion × Converter
  | .arguments args definitions =>
    let (made, last) := c.walkAll (definitions[·]?) 0 0 args.children
    (.arguments (made.filterMap id), last)
  | .repeated n definition =>
    let (groups, last) := c.walkGroups definition 1 0 [] n.children
    (.repeated (.repeated groups), last)

/-- **The walk is a run** of the call, whatever was taken down before. -/
theorem serve_eq_run (c : Converter) (call : ConversionCall) : c.serve call = c.run call := by
  cases call with
  | arguments args definitions => simp only [serve, walkAll_eq]; rfl
  | repeated n definition => simp only [serve, walkGroups_eq_groupsOf]; rfl

/-! ## Calls one after the other -/

/-- The converter **behind some calls**. -/
def after (c : Converter) (calls : List ConversionCall) : Converter :=
  calls.foldl (fun c call => (c.run call).2) c

@[simp] theorem after_nil (c : Converter) : c.after [] = c := rfl

@[simp] theorem after_cons (c : Converter) (call : ConversionCall) (calls : List ConversionCall) :
    c.after (call :: calls) = (c.run call).2.after calls := rfl

@[simp] theorem runAll_nil (c : Converter) : c.runAll [] = [] := rfl

@[simp] theorem runAll_cons (c : Converter) (call : ConversionCall) (calls : List ConversionCall) :
    c.runAll (call :: calls) =
      ⟨(c.run call).1, (c.run call).2.warnings⟩ :: (c.run call).2.runAll calls := rfl

/-- **Behind some calls** a converter has their warnings behind those it had, call by call. -/
theorem after_eq (c : Converter) (calls : List ConversionCall) :
    c.after calls = ⟨c.source, c.warnings ++ calls.flatMap fun call =>
      (call.result c.source).warnings⟩ := by
  induction calls generalizing c with
  | nil => simp
  | cons call calls ih => simp [ih, run]

@[simp] theorem length_runAll (c : Converter) (calls : List ConversionCall) :
    (c.runAll calls).length = calls.length := by
  induction calls generalizing c with
  | nil => rfl
  | cons call calls ih => simp [ih]

/-- **Calls behind other calls** go on with the converter that these leave. -/
theorem runAll_append (c : Converter) (xs ys : List ConversionCall) :
    c.runAll (xs ++ ys) = c.runAll xs ++ (c.after xs).runAll ys := by
  induction xs generalizing c with
  | nil => rfl
  | cons x xs ih => simp [ih]

/-- **What each of some calls makes** is what it makes by itself; by then the converter has the warnings
of all calls up to it. -/
theorem getElem?_runAll (c : Converter) (calls : List ConversionCall) (i : Nat) :
    (c.runAll calls)[i]? = calls[i]?.map fun call =>
      ⟨(call.result c.source).value, c.warnings ++ (calls.take (i + 1)).flatMap fun earlier =>
        (earlier.result c.source).warnings⟩ := by
  induction calls generalizing c i with
  | nil => rfl
  | cons call calls ih =>
      cases i with
      | zero => simp [run]
      | succ i => simp [ih, run]

/-- What some calls make, without the warnings. -/
theorem map_value_runAll (c : Converter) (calls : List ConversionCall) :
    (c.runAll calls).map Noted.value = calls.map fun call => (call.result c.source).value := by
  induction calls generalizing c with
  | nil => rfl
  | cons call calls ih => simp [ih, run]

end Converter

/-! ## Child by child -/

/-- The arguments that a conversion makes. -/
def Conversion.values : Conversion → List Argument
  | .arguments values => values
  | .repeated value => [value]

/-- The call for **one child** of a node: a repeated argument is asked for by itself, any other child as
the only one of the node. -/
def Node.childCall (args : Node) (definition : Option ArgumentDefinition) (child : Node) :
    ConversionCall :=
  if child.kind = .repeatArg then .repeated child definition
  else .arguments { args with children := [child] } definition.toList

/-- The calls for **the children of a node**, the `i`-th child with the `i`-th definition. -/
def Node.childCalls (args : Node) (definitions : List ArgumentDefinition) : List ConversionCall :=
  args.children.mapIdx fun i child => args.childCall definitions[i]? child

/-- A child by itself comes to **what it comes to among the arguments**. A repeated argument stands in no
other either way, so both begin to count the nesting at the same level. -/
theorem result_childCall (source : Text) (args : Node) (definition : Option ArgumentDefinition)
    (child : Node) :
    ((args.childCall definition child).result source).value.values =
        (child.convert source definition 0).value.toList ∧
      ((args.childCall definition child).result source).warnings =
        (child.convert source definition 0).warnings := by
  obtain ⟨kind, span, children⟩ := child
  unfold Node.childCall
  by_cases hk : kind = .repeatArg
  · have hdepth : 0 < maxRepeatDepth := by decide
    simp [hk, ConversionCall.result, Conversion.values, Node.repeatedArgument, Node.convert, hdepth]
  · -- the only child of a node has the first definition
    have hfirst : definition.toList[0]? = definition := by cases definition <;> rfl
    simp only [hk, if_false, ConversionCall.result, Conversion.values, Node.arguments,
      Node.convertAll, hfirst, filterMap_id_cons, List.filterMap_nil, List.append_nil, and_self]

/-- Children that are asked for one by one come to **what they come to together**. -/
theorem results_childCalls (source : Text) (args : Node)
    (definitionAt : Nat → Option ArgumentDefinition) (index : Nat) (ns : List Node) :
    let calls := ns.mapIdx fun i child => args.childCall (definitionAt (index + i)) child
    (calls.flatMap fun call => (call.result source).value.values) =
        (Node.convertAll source definitionAt 0 index ns).value.filterMap id ∧
      (calls.flatMap fun call => (call.result source).warnings) =
        (Node.convertAll source definitionAt 0 index ns).warnings := by
  induction ns generalizing index with
  | nil => simp [Node.convertAll]
  | cons n ns ih =>
      obtain ⟨hvalue, hwarnings⟩ := result_childCall source args (definitionAt index) n
      obtain ⟨hvalues, hothers⟩ := ih (index + 1)
      have hshift : (fun (i : Nat) child => args.childCall (definitionAt (index + (i + 1))) child) =
          fun (i : Nat) child => args.childCall (definitionAt (index + 1 + i)) child := by
        funext i child
        rw [Nat.add_right_comm, Nat.add_assoc]
      simp only [List.mapIdx_cons, hshift, List.flatMap_cons, Nat.add_zero, Node.convertAll,
        filterMap_id_cons]
      exact ⟨by rw [hvalue, hvalues], by rw [hwarnings, hothers]⟩

/-- The arguments of a command **child by child**: the same values, and the same converter behind
them. -/
theorem run_arguments_eq_childCalls (c : Converter) (args : Node)
    (definitions : List ArgumentDefinition) :
    (c.run (.arguments args definitions)).1.values =
        (c.runAll (args.childCalls definitions)).flatMap (·.value.values) ∧
      (c.run (.arguments args definitions)).2 = c.after (args.childCalls definitions) := by
  have hchildren := results_childCalls c.source args (definitions[·]?) 0 args.children
  simp only [Nat.zero_add] at hchildren
  obtain ⟨hvalues, hwarnings⟩ := hchildren
  constructor
  · rw [← List.flatMap_map Noted.value, Converter.map_value_runAll, List.flatMap_map]
    exact hvalues.symm
  · rw [Converter.after_eq, Node.childCalls, hwarnings]
    rfl

/-- **Conversions that share a converter** have nothing to do with one another. Whatever a converter has
taken down, a call that hands it through all nodes is a run of that call. Of calls one after the other,
each makes what it makes over a fresh converter, and by then the warnings are those of the fresh runs up to
it, in the order of the calls. And wherever a call for the arguments of a command stands among other
calls, the calls for its children can stand in its place: they make the same arguments, leave the same
converter, and the calls behind them make the same. -/
theorem conversions_share_nothing (source : Text) :
    (∀ (c : Converter) (call : ConversionCall), c.serve call = c.run call) ∧
      (∀ (calls : List ConversionCall) (i : Nat),
        ((Converter.ofSource source).runAll calls)[i]? = calls[i]?.map fun call =>
          ⟨((Converter.ofSource source).run call).1, (calls.take (i + 1)).flatMap fun earlier =>
            ((Converter.ofSource source).run earlier).2.warnings⟩) ∧
      (∀ calls : List ConversionCall, (Converter.ofSource source).after calls =
        ⟨source, calls.flatMap fun call => ((Converter.ofSource source).run call).2.warnings⟩) ∧
      ∀ (before behind : List ConversionCall) (args : Node) (definitions : List ArgumentDefinition),
        let c := (Converter.ofSource source).after before
        (c.run (.arguments args definitions)).1.values =
            (c.runAll (args.childCalls definitions)).flatMap (·.value.values) ∧
          (c.run (.arguments args definitions)).2 = c.after (args.childCalls definitions) ∧
          (c.runAll (.arguments args definitions :: behind)).drop 1 =
            (c.runAll (args.childCalls definitions ++ behind)).drop args.children.length := by
  refine ⟨Converter.serve_eq_run, ?_, ?_, ?_⟩
  · intro calls i
    rw [Converter.getElem?_runAll]
    simp [Converter.ofSource, Converter.run]
  · intro calls
    rw [Converter.after_eq]
    simp [Converter.ofSource, Converter.run]
  · intro before behind args definitions c
    obtain ⟨hvalues, hconverter⟩ := run_arguments_eq_childCalls c args definitions
    refine ⟨hvalues, hconverter, ?_⟩
    have hlength : (c.runAll (args.childCalls definitions)).length = args.children.length := by
      simp [Node.childCalls]
    rw [Converter.runAll_append, ← hconverter, ← hlength, List.drop_left]
    rfl

end SequenceBridge
