import SequenceBridge.Dictionary.Basic

/-! # Looking up commands
What a dictionary knows after commands were put into it.

* **`Dictionary.get?_insert`** — an insertion changes what is known of one stem and of no other.
* **`Dictionary.get?_ofList`** — a dictionary of some commands knows the last one with each stem.
* **`Dictionary.withHeader_none_ofList`** — a dictionary of some commands has no header.
-/

namespace SequenceBridge

namespace Dictionary

/-- A command put among others is found under its stem, and hides no command with another stem. -/
theorem find?_insertSorted (c : CommandDefinition) (ds : List CommandDefinition) (stem : Text) :
    (insertSorted c ds).find? (·.stem = stem) =
      if c.stem = stem then some c else ds.find? (·.stem = stem) := by
  induction ds with
  | nil =>
      rw [insertSorted, List.find?_cons]
      by_cases hc : c.stem = stem <;> simp [hc]
  | cons d ds ih =>
      rw [insertSorted]
      split
      -- the command goes in front
      · rw [List.find?_cons]
        by_cases hc : c.stem = stem <;> simp [hc]
      · split
        -- the command replaces the first one
        · rename_i heq
          rw [List.find?_cons, List.find?_cons, ← heq]
          by_cases hc : c.stem = stem <;> simp [hc]
        -- the command goes further behind, and the first one has another stem
        · rename_i hne
          rw [List.find?_cons, List.find?_cons, ih]
          by_cases hd : d.stem = stem
          · have hc : c.stem ≠ stem := fun h => hne (h.trans hd.symm)
            simp [hd, hc]
          · simp [hd]

/-- **An insertion** changes what is known of one stem, and of no other. -/
theorem get?_insert (d : Dictionary) (c : CommandDefinition) (stem : Text) :
    (d.insert c).get? stem = if c.stem = stem then some c else d.get? stem :=
  find?_insertSorted c d.commands stem

/-- Insertions one after the other: the last command with a stem counts. -/
theorem get?_foldl_insert (d : Dictionary) (cs : List CommandDefinition) (stem : Text) :
    (cs.foldl insert d).get? stem = (cs.reverse.find? (·.stem = stem)).or (d.get? stem) := by
  induction cs generalizing d with
  | nil => rfl
  | cons c cs ih =>
      rw [List.foldl_cons, ih, get?_insert, List.reverse_cons, List.find?_append, Option.or_assoc]
      congr 1
      rw [List.find?_singleton]
      by_cases hc : c.stem = stem <;> simp [hc]

/-- **A dictionary of some commands** knows the last one with each stem. -/
theorem get?_ofList (cs : List CommandDefinition) (stem : Text) :
    (ofList cs).get? stem = cs.reverse.find? (·.stem = stem) := by
  rw [ofList, get?_foldl_insert, get?_empty, Option.or_none]

/-! ## Headers -/

/-- Insertions keep the header. -/
theorem header_foldl_insert (d : Dictionary) (cs : List CommandDefinition) :
    (cs.foldl insert d).header = d.header := by
  induction cs generalizing d with
  | nil => rfl
  | cons c cs ih =>
      rw [List.foldl_cons, ih]
      rfl

/-- A dictionary of some commands has **no header**. -/
theorem withHeader_none_ofList (cs : List CommandDefinition) :
    (ofList cs).withHeader none = ofList cs := by
  have hheader : (ofList cs).header = none := header_foldl_insert empty cs
  rw [withHeader, ← hheader]

end Dictionary

end SequenceBridge
