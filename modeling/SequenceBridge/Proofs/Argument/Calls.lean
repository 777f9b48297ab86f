import SequenceBridge.Proofs.Argument.Definition
import SequenceBridge.Proofs.Export.Step

/-! # Conversions under different definitions
Two conversions of the same nodes under different definitions record the same warnings, and make the
same arguments but for their groups. Two dictionaries for a whole document record the same warnings.

* **`arguments_eq_but_groups`**, **`repeatedArgument_eq_but_groups`** — the arguments of a command, and one
  repeated argument.
* **`warnings_exportTree_eq`** — the warnings of a document.
* **`definitions_only_group`** — all of it together.
-/

namespace SequenceBridge

/-! ## Warnings and members -/

/-- **The warnings of converted nodes** do not depend on their definitions: they are those of the
visits. -/
theorem warnings_convertAll_eq (source : Text) (f₁ f₂ : Nat → Option ArgumentDefinition)
    (depth index : Nat) (ns : List Node) :
    (Node.convertAll source f₁ depth index ns).warnings =
      (Node.convertAll source f₂ depth index ns).warnings := by
  rw [warnings_convertAll, warnings_convertAll]

/-- **The arguments below a node** have the same warnings under any definitions, and are the same once
their groups are forgotten. -/
theorem arguments_eq_but_groups (source : Text) (args : Node) (ds₁ ds₂ : List ArgumentDefinition) :
    (args.arguments source ds₁).warnings = (args.arguments source ds₂).warnings ∧
      (args.arguments source ds₁).value.map Argument.ungroup =
        (args.arguments source ds₂).value.map Argument.ungroup :=
  ⟨warnings_convertAll_eq source (ds₁[·]?) (ds₂[·]?) 0 0 args.children,
    ungroup_convertAll source (ds₁[·]?) (ds₂[·]?) 0 0 args.children⟩

/-- **A repeated argument** has the same warnings under any definition, and is the same once its groups
are forgotten. -/
theorem repeatedArgument_eq_but_groups (source : Text) (n : Node)
    (d₁ d₂ : Option ArgumentDefinition) :
    (n.repeatedArgument source d₁).warnings = (n.repeatedArgument source d₂).warnings ∧
      (n.repeatedArgument source d₁).value.ungroup =
        (n.repeatedArgument source d₂).value.ungroup := by
  refine ⟨warnings_convertAll_eq source (groupDefinition? d₁) (groupDefinition? d₂) 1 0 n.children,
    ?_⟩
  -- under either arity the groups flatten to the same members
  have hmembers := ungroup_convertAll source (groupDefinition? d₁) (groupDefinition? d₂) 1 0
    n.children
  rw [Node.repeatedArgument, Node.repeatedArgument, ungroup_repeated, ungroup_repeated,
    flatten_groupsOf, flatten_groupsOf, hmembers]

/-- **The warnings of a document** do not depend on the dictionary. -/
theorem warnings_exportTree_eq (root : Node) (source : Text) (d₁ d₂ : Option Dictionary) :
    (exportTree root source d₁).warnings = (exportTree root source d₂).warnings := by
  have hcommand : ∀ c : Command,
      (exportCommand c source d₁).warnings = (exportCommand c source d₂).warnings := fun c => by
    rw [warnings_exportCommand, warnings_exportCommand]
  rw [exportTree_warnings, exportTree_warnings, warnings_steps, warnings_steps]
  exact List.flatMap_congr fun c _ => hcommand c

/-! ## Commands and documents -/

/-- **Definitions only group.** Under any two lists of definitions, the arguments of a command have the
same warnings and are the same without groups, and so is a single repeated argument under any two
definitions. A document has the same warnings under any two dictionaries. -/
theorem definitions_only_group (source : Text) :
    (∀ (args : Node) (ds₁ ds₂ : List ArgumentDefinition),
      (args.arguments source ds₁).warnings = (args.arguments source ds₂).warnings ∧
        (args.arguments source ds₁).value.map Argument.ungroup =
          (args.arguments source ds₂).value.map Argument.ungroup) ∧
      (∀ (n : Node) (d₁ d₂ : Option ArgumentDefinition),
        (n.repeatedArgument source d₁).warnings = (n.repeatedArgument source d₂).warnings ∧
          (n.repeatedArgument source d₁).value.ungroup =
            (n.repeatedArgument source d₂).value.ungroup) ∧
      ∀ (root : Node) (dictionary₁ dictionary₂ : Option Dictionary),
        (exportTree root source dictionary₁).warnings =
          (exportTree root source dictionary₂).warnings :=
  ⟨arguments_eq_but_groups source, repeatedArgument_eq_but_groups source,
    fun root dictionary₁ dictionary₂ => warnings_exportTree_eq root source dictionary₁ dictionary₂⟩

end SequenceBridge
