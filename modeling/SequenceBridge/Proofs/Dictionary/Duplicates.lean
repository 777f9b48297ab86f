import Mathlib.Data.Finset.Dedup
import Mathlib.Data.Finset.Card
import Mathlib.Logic.Function.Basic
import SequenceBridge.Proofs.Dictionary.Lookup

/-! # Several commands with one stem
A list of commands may name a stem again and again. The dictionary of the list is a map into which the
commands were put one after the other, each under its own stem: the last command with a stem counts, and
nothing is left of those in front of it.

* **`lastWithStem?`** — the last command with a stem in a list.
* **`IsReordering`** — lists that differ only in the order of commands with different stems.
* **`putInTurn`** — a map into which commands were put one after the other.
* **`Dictionary.mem_commands_iff`** — a dictionary has a command exactly when it knows it under its stem.
* **`Dictionary.eq_of_get?`** — a dictionary is determined by its header and by what it knows.
* **`Dictionary.KeepsLast`** — a dictionary of the last commands of a list.
* **`Dictionary.get?_ofList_append`** — what a later list says overrides what an earlier list says.
* **`Dictionary.ofList_keeps_last`** — the dictionary of some commands, and of a document with them, is
  made of the last ones.
-/

namespace SequenceBridge

/-! ## Lists of commands -/

/-- The **last command with a stem** in a list. -/
def lastWithStem? (cs : List CommandDefinition) (stem : Text) : Option CommandDefinition :=
  (cs.filter (·.stem = stem)).getLast?

/-- There is a last command with a stem unless the list does not name the stem. -/
theorem lastWithStem?_eq_none_iff {cs : List CommandDefinition} {stem : Text} :
    lastWithStem? cs stem = none ↔ stem ∉ cs.map (·.stem) := by
  simp [lastWithStem?]

/-- Of two lists, the later one has the last command with a stem if it has any. -/
theorem lastWithStem?_append (cs ds : List CommandDefinition) (stem : Text) :
    lastWithStem? (cs ++ ds) stem = (lastWithStem? ds stem).or (lastWithStem? cs stem) := by
  rw [lastWithStem?, List.filter_append, List.getLast?_append]
  rfl

/-- Two lists are **reorderings** of each other when commands with different stems have changed places, and
commands with one stem follow each other as before: for every stem the lists name the same commands in the
same order. -/
def IsReordering (cs ds : List CommandDefinition) : Prop :=
  ∀ stem : Text, cs.filter (·.stem = stem) = ds.filter (·.stem = stem)

/-- Neighbours with different stems may change places. -/
theorem IsReordering.swap {c d : CommandDefinition} (h : c.stem ≠ d.stem)
    (before behind : List CommandDefinition) :
    IsReordering (before ++ c :: d :: behind) (before ++ d :: c :: behind) := by
  intro stem
  by_cases hc : c.stem = stem
  · -- one of the two has the stem at most
    have hd : d.stem ≠ stem := fun hd => h (hc.trans hd.symm)
    simp [hc, hd]
  · simp [List.filter_cons, hc]

/-- What is **known of each stem** when commands are put down one after the other, each under its own
stem and in the place of what was known of it. -/
def putInTurn (known : Text → Option CommandDefinition) (cs : List CommandDefinition) :
    Text → Option CommandDefinition :=
  cs.foldl (fun known c => Function.update known c.stem (some c)) known

namespace Dictionary

/-! ## What a dictionary has and what it knows -/

/-- A dictionary **has a command** exactly when it knows it under its stem. -/
theorem mem_commands_iff {d : Dictionary} {c : CommandDefinition} :
    c ∈ d.commands ↔ d.get? c.stem = some c := by
  constructor
  · intro hc
    obtain ⟨before, behind, hsplit⟩ := List.append_of_mem hc
    have hsorted := d.sorted
    rw [hsplit, List.pairwise_append] at hsorted
    rw [get?, List.find?_eq_some_iff_append]
    refine ⟨by simp, before, behind, hsplit, ?_⟩
    -- what stands in front of the command has a smaller stem
    intro b hb
    have hlt : b.stem < c.stem := hsorted.2.2 b hb c List.mem_cons_self
    simpa using fun heq : b.stem = c.stem => List.lt_irrefl c.stem (heq ▸ hlt)
  · exact List.mem_of_find?_eq_some

/-- A dictionary **knows nothing** of a stem exactly when no command of it has that stem. -/
theorem get?_eq_none_iff {d : Dictionary} {stem : Text} :
    d.get? stem = none ↔ stem ∉ d.commands.map (·.stem) := by
  simp [get?]

/-- No two commands of a dictionary have one stem. -/
theorem nodup_stems (d : Dictionary) : (d.commands.map (·.stem)).Nodup := by
  rw [List.nodup_iff_pairwise_ne, List.pairwise_map]
  apply d.sorted.imp
  intro b c hlt heq
  exact List.lt_irrefl c.stem (heq ▸ hlt)

/-- A dictionary is **determined** by its header and by what it knows of each stem. -/
theorem eq_of_get? {d e : Dictionary} (hheader : d.header = e.header) (hget : d.get? = e.get?) :
    d = e := by
  have hcommands : d.commands = e.commands := by
    -- both have the same commands, and each has them in the order of their stems
    apply List.Perm.eq_of_pairwise ?_ d.sorted e.sorted
    · rw [List.perm_ext_iff_of_nodup d.nodup_stems.of_map e.nodup_stems.of_map]
      intro c
      rw [mem_commands_iff, mem_commands_iff, hget]
    · intro a b _ _ hab hba
      exact absurd (List.lt_trans hab hba) (List.lt_irrefl a.stem)
  cases d
  cases e
  simp_all

/-! ## Commands put one after the other -/

/-- A command is put **under its own stem**, over what was known there. -/
theorem get?_insert_eq_update (d : Dictionary) (c : CommandDefinition) :
    (d.insert c).get? = Function.update d.get? c.stem (some c) := by
  funext stem
  simp [get?_insert, Function.update_apply, eq_comm]

/-- Commands are put under their stems **one after the other**. -/
theorem get?_foldl_insert_eq_putInTurn (d : Dictionary) (cs : List CommandDefinition) :
    (cs.foldl insert d).get? = putInTurn d.get? cs := by
  induction cs generalizing d with
  | nil => rfl
  | cons c cs ih =>
      rw [List.foldl_cons, ih, get?_insert_eq_update]
      rfl

/-- What the dictionary of some commands knows of a stem is **the last command** with it. -/
theorem get?_ofList_eq_last (cs : List CommandDefinition) (stem : Text) :
    (ofList cs).get? stem = lastWithStem? cs stem := by
  rw [get?_ofList, lastWithStem?, List.getLast?_filter]

/-- What a **later list** says overrides what an earlier list says. -/
theorem get?_ofList_append (cs ds : List CommandDefinition) (stem : Text) :
    (ofList (cs ++ ds)).get? stem =
      if stem ∈ ds.map (·.stem) then (ofList ds).get? stem else (ofList cs).get? stem := by
  rw [get?_ofList_eq_last, lastWithStem?_append, get?_ofList_eq_last, get?_ofList_eq_last]
  split
  · next hmem =>
      have hsome : lastWithStem? ds stem ≠ none := by
        rw [Ne, lastWithStem?_eq_none_iff]
        exact not_not_intro hmem
      obtain ⟨d, hd⟩ := Option.ne_none_iff_exists'.1 hsome
      rw [hd, Option.some_or]
  · next hmem => rw [lastWithStem?_eq_none_iff.2 hmem, Option.none_or]

/-- **Reordered** commands have the same dictionary, unless commands with one stem change places. -/
theorem ofList_eq_of_isReordering {cs ds : List CommandDefinition} (h : IsReordering cs ds) :
    ofList cs = ofList ds := by
  apply eq_of_get?
  · rw [ofList, ofList, header_foldl_insert, header_foldl_insert]
  · funext stem
    rw [get?_ofList_eq_last, get?_ofList_eq_last, lastWithStem?, lastWithStem?, h stem]

/-! ## Dictionaries of last commands -/

/-- A dictionary **keeps the last** commands of a list: under each stem that the list names it has one
command, the last with that stem, and it has no others. -/
structure KeepsLast (d : Dictionary) (cs : List CommandDefinition) : Prop where
  /-- It knows what a map knows into which the commands are put one after the other. -/
  get?_eq_putInTurn : d.get? = putInTurn (fun _ => none) cs
  /-- It knows the last command with a stem, and nothing of a stem that is not named. -/
  get?_eq_last : ∀ stem, d.get? stem = lastWithStem? cs stem
  /-- It has the commands that are the last with their stems. -/
  mem_iff : ∀ c, c ∈ d.commands ↔ lastWithStem? cs c.stem = some c
  /-- It has every command under the command's own stem. -/
  mem_iff_get? : ∀ c, c ∈ d.commands ↔ d.get? c.stem = some c
  /-- It has each stem of the list once. -/
  stems_perm : (d.commands.map (·.stem)).Perm (cs.map (·.stem)).dedup
  /-- It has as many commands as there are different stems. -/
  size_eq : d.size = (cs.map (·.stem)).toFinset.card
  /-- It knows the arguments of the last command with a stem. -/
  argument?_eq : ∀ stem index, d.argument? stem index =
    (lastWithStem? cs stem).bind fun c => c.arguments[index]?

/-- The dictionary of some commands **keeps the last** of them, whatever header it is given. -/
theorem keepsLast_withHeader_ofList (cs : List CommandDefinition)
    (header : Option DictionaryHeader) : ((ofList cs).withHeader header).KeepsLast cs := by
  -- a header changes nothing of what is known
  have hlast : ∀ stem, ((ofList cs).withHeader header).get? stem = lastWithStem? cs stem :=
    get?_ofList_eq_last cs
  have hstems : (((ofList cs).withHeader header).commands.map (·.stem)).Perm
      (cs.map (·.stem)).dedup := by
    rw [List.perm_ext_iff_of_nodup (nodup_stems _) (List.nodup_dedup _)]
    intro stem
    rw [List.mem_dedup, ← not_iff_not, ← get?_eq_none_iff, hlast, lastWithStem?_eq_none_iff]
  refine ⟨get?_foldl_insert_eq_putInTurn empty cs, hlast, ?_, fun _ => mem_commands_iff, hstems, ?_, ?_⟩
  · intro c
    rw [mem_commands_iff, hlast]
  · rw [List.card_toFinset, ← hstems.length_eq, List.length_map, size]
  · intro stem index
    rw [argument?, hlast]

/-- **The last command with a stem counts**, and nothing else. The dictionary of some commands keeps the
last of them. When further commands follow, those decide about every stem that they name, and the earlier
ones about all other stems. The order of commands with different stems does not matter. The dictionary of
a document has the same commands, and the header of the document. -/
theorem ofList_keeps_last (cs : List CommandDefinition) :
    (ofList cs).KeepsLast cs ∧
      (∀ ds stem, (ofList (cs ++ ds)).get? stem =
        if stem ∈ ds.map (·.stem) then (ofList ds).get? stem else (ofList cs).get? stem) ∧
      (∀ ds, IsReordering cs ds → ofList ds = ofList cs) ∧
      ∀ header, (ofDocument ⟨header, cs⟩).KeepsLast cs ∧
        (ofDocument ⟨header, cs⟩).commands = (ofList cs).commands ∧
        (ofDocument ⟨header, cs⟩).header = header := by
  refine ⟨?_, get?_ofList_append cs, ?_, ?_⟩
  · rw [← withHeader_none_ofList cs]
    exact keepsLast_withHeader_ofList cs none
  · intro ds h
    exact (ofList_eq_of_isReordering h).symm
  · intro header
    exact ⟨keepsLast_withHeader_ofList cs header, rfl, rfl⟩

/-- A command without arguments, another one, and the first again with an argument. -/
def redefined : List CommandDefinition :=
  [⟨"A".toList, none, []⟩, ⟨"B".toList, none, []⟩,
    ⟨"A".toList, none, [⟨"x".toList, .integer, none, none⟩]⟩]

/-- Its dictionary has two commands, of which the first takes an argument. It stays the same when the
second command goes to the end, and changes when a further command follows. -/
theorem ofList_keeps_last_redefined :
    IsReordering redefined [redefined[0], redefined[2], redefined[1]] ∧
      ofList [redefined[0], redefined[2], redefined[1]] = ofList redefined ∧
      (ofList redefined).size = 2 ∧
      ((ofList redefined).argument? "A".toList 0).map (·.name) = some "x".toList ∧
      (ofList (redefined ++ [redefined[0]])).get? "A".toList = some redefined[0] := by
  obtain ⟨hlast, happend, hreordering, -⟩ := ofList_keeps_last redefined
  have hswap : IsReordering redefined [redefined[0], redefined[2], redefined[1]] :=
    IsReordering.swap (by decide) [redefined[0]] []
  refine ⟨hswap, hreordering _ hswap, ?_, ?_, ?_⟩
  · rw [hlast.size_eq]
    decide
  · rw [hlast.argument?_eq]
    decide
  · rw [happend, if_pos (by decide)]
    rfl

end Dictionary

end SequenceBridge
