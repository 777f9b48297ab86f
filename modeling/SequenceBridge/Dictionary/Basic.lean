import SequenceBridge.Dictionary.Definition

/-! # Command dictionaries
A dictionary knows each stem once. It keeps its commands in the order of their stems, so that two
dictionaries with the same commands are equal.

* **`Dictionary`** — commands, each under its own stem.
* **`Dictionary.insert`** — one more command; it replaces a command with the same stem.
* **`Dictionary.ofList`** — the dictionary of some commands; of two with one stem the later counts.
* **`Dictionary.get?`** — the command with a stem.
* **`DictionaryDocument`** — a list of commands with a header, as a dictionary file has it.
-/

namespace SequenceBridge

/-- What a dictionary says about its origin. -/
structure DictionaryHeader where
  missionName : Option Text
  version : Option Text
  deriving DecidableEq, Repr

/-- A **dictionary document**: commands as they were listed, and a header. -/
structure DictionaryDocument where
  header : Option DictionaryHeader
  commands : List CommandDefinition
  deriving Repr

/-- A **command dictionary**: commands in the strict order of their stems, so each stem once. -/
structure Dictionary where
  header : Option DictionaryHeader
  commands : List CommandDefinition
  sorted : commands.Pairwise fun c d => c.stem < d.stem

namespace Dictionary

/-- A command put at its place among commands in the order of their stems. -/
def insertSorted (c : CommandDefinition) : List CommandDefinition → List CommandDefinition
  | [] => [c]
  | d :: ds =>
    if c.stem < d.stem then c :: d :: ds
    else if c.stem = d.stem then c :: ds
    else d :: insertSorted c ds

/-- What an insertion leaves is the new command and commands that were there. -/
theorem eq_or_mem_of_mem_insertSorted {c d : CommandDefinition} {ds : List CommandDefinition}
    (h : d ∈ insertSorted c ds) : d = c ∨ d ∈ ds := by
  induction ds with
  | nil => simpa [insertSorted] using h
  | cons e es ih =>
    rw [insertSorted] at h
    split at h
    · simpa using h
    · split at h
      · rcases List.mem_cons.1 h with h | h
        · exact .inl h
        · exact .inr (List.mem_cons_of_mem e h)
      · rcases List.mem_cons.1 h with h | h
        · exact .inr (h ▸ List.mem_cons_self)
        · exact (ih h).imp id (List.mem_cons_of_mem e)

/-- Of two different stems that are not in order, the second goes first. -/
theorem stem_lt_of_not_lt {s t : Text} (h : ¬ s < t) (hne : s ≠ t) : t < s :=
  Decidable.byContradiction fun h' =>
    hne (List.le_antisymm (List.not_lt.1 h') (List.not_lt.1 h))

/-- An insertion keeps the order. -/
theorem pairwise_insertSorted (c : CommandDefinition) {ds : List CommandDefinition}
    (h : ds.Pairwise fun c d => c.stem < d.stem) :
    (insertSorted c ds).Pairwise fun c d => c.stem < d.stem := by
  induction ds with
  | nil => simp [insertSorted]
  | cons d ds ih =>
    have hd := List.pairwise_cons.1 h
    rw [insertSorted]
    split
    -- the command goes in front of the first one
    · rename_i hlt
      refine List.pairwise_cons.2 ⟨fun e he => ?_, h⟩
      rcases List.mem_cons.1 he with rfl | he
      · exact hlt
      · exact List.lt_trans hlt (hd.1 e he)
    · split
      -- the command replaces the first one
      · rename_i heq
        exact List.pairwise_cons.2 ⟨fun e he => heq ▸ hd.1 e he, hd.2⟩
      -- the command goes further behind
      · rename_i hnlt hne
        refine List.pairwise_cons.2 ⟨fun e he => ?_, ih hd.2⟩
        rcases eq_or_mem_of_mem_insertSorted he with rfl | he
        · exact stem_lt_of_not_lt hnlt hne
        · exact hd.1 e he

/-- The dictionary without any command. -/
def empty : Dictionary := ⟨none, [], .nil⟩

/-- A dictionary with one more command, in the place of a command with the same stem. -/
def insert (d : Dictionary) (c : CommandDefinition) : Dictionary :=
  ⟨d.header, insertSorted c d.commands, pairwise_insertSorted c d.sorted⟩

/-- The **dictionary of some commands**. Of several with one stem the last counts. -/
def ofList (cs : List CommandDefinition) : Dictionary := cs.foldl insert empty

/-- A dictionary with another header. -/
def withHeader (d : Dictionary) (header : Option DictionaryHeader) : Dictionary :=
  ⟨header, d.commands, d.sorted⟩

/-- The dictionary of a document: its commands, and its header. -/
def ofDocument (document : DictionaryDocument) : Dictionary :=
  (ofList document.commands).withHeader document.header

/-- The **command with a stem**. -/
def get? (d : Dictionary) (stem : Text) : Option CommandDefinition :=
  d.commands.find? (·.stem = stem)

/-- The definition of a command's argument at an index. -/
def argument? (d : Dictionary) (stem : Text) (index : Nat) : Option ArgumentDefinition :=
  (d.get? stem).bind fun c => c.arguments[index]?

/-- The number of commands. -/
def size (d : Dictionary) : Nat := d.commands.length

/-- Whether a dictionary has no command. -/
def isEmpty (d : Dictionary) : Bool := d.commands.isEmpty

@[simp] theorem size_empty : empty.size = 0 := rfl

@[simp] theorem get?_empty (stem : Text) : empty.get? stem = none := rfl

end Dictionary

end SequenceBridge
