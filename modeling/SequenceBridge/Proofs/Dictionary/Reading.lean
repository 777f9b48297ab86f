import SequenceBridge.Dictionary.Reader
import SequenceBridge.Json.Report
import SequenceBridge.Proofs.Text.Decimal
import SequenceBridge.Proofs.Yaml.Flow

/-! # Definitions are read from their data
Every definition that is written as JSON is read back from the data of what was written: the fields of
an object have different names, a field that is left out stands for a missing value, and a text in
quotes is never taken for one. Each repetition takes three collections, so that the number of levels
bounds the depth that is needed.

* **`ArgumentDefinition.levels`**, **`CommandDefinition.levels`** — how deep repetitions nest.
* **`Dictionary.readFields_object`** — the fields of an object.
* **`Dictionary.readDefinition_toJson`** — an argument definition.
* **`Dictionary.readCommands_toJson`** — a list of command definitions.
-/

namespace SequenceBridge

/-! ## Levels -/

mutual

/-- The **levels** of a definition: how many repetitions stand inside one another. -/
def ArgumentDefinition.levels : ArgumentDefinition → Nat
  | ⟨_, _, _, none⟩ => 0
  | ⟨_, _, _, some ⟨arguments, _, _⟩⟩ => ArgumentDefinition.levelsAll arguments + 1

/-- The greatest number of levels of some definitions. -/
def ArgumentDefinition.levelsAll : List ArgumentDefinition → Nat
  | [] => 0
  | d :: ds => max d.levels (ArgumentDefinition.levelsAll ds)

end

/-- The levels of a command: the most that one of its arguments has. -/
def CommandDefinition.levels (c : CommandDefinition) : Nat :=
  ArgumentDefinition.levelsAll c.arguments

/-! ## What is written -/

/-- The fields of what a repeat argument repeats. -/
def Repetition.fields (r : Repetition ArgumentDefinition) : List (Text × Json) :=
  ("arguments".toList, .array (ArgumentDefinition.toJsonAll r.arguments)) ::
    (Json.optionalField "min" Json.ofWord r.least ++ Json.optionalField "max" Json.ofWord r.most)

/-- The **fields of an argument definition**: two that it always has, and two that may be left out. -/
def ArgumentDefinition.fields (x : ArgumentDefinition) : List (Text × Json) :=
  ("name".toList, .string x.name) :: ("arg_type".toList, .string x.type.label.toList) ::
    (Json.optionalField "description" Json.string x.description ++
      Json.optionalField "repeat" (fun r => .object r.fields) x.repetition)

theorem ArgumentDefinition.toJson_eq (x : ArgumentDefinition) : x.toJson = .object x.fields := by
  obtain ⟨name, type, description, _ | ⟨arguments, least, most⟩⟩ := x
  · rw [toJson, fields]
    simp only [Json.optionalField, List.append_nil, List.cons_append, List.nil_append]
  · rw [toJson, fields]
    simp only [Json.optionalField, Repetition.fields, List.cons_append, List.nil_append]

/-- The **fields of a command definition**. -/
def CommandDefinition.fields (c : CommandDefinition) : List (Text × Json) :=
  ("stem".toList, .string c.stem) ::
    (Json.optionalField "description" Json.string c.description ++
      [("arguments".toList, .array (ArgumentDefinition.toJsonAll c.arguments))])

theorem CommandDefinition.toJson_eq (c : CommandDefinition) : c.toJson = .object c.fields := rfl

namespace Json

/-- Only its own name can stand where a field may have been left out. -/
theorem keys_optionalField {α : Type} (key : String) (write : α → Json) (o : Option α) :
    ((optionalField key write o).map Prod.fst).Sublist [key.toList] := by
  cases o with
  | none => exact List.nil_sublist _
  | some b => exact List.Sublist.refl _

theorem not_mem_keys_optionalField {α : Type} {name key : String} (h : name.toList ≠ key.toList)
    (write : α → Json) (o : Option α) :
    name.toList ∉ (optionalField key write o).map Prod.fst := fun hmem =>
  h (List.mem_singleton.1 ((keys_optionalField key write o).subset hmem))

end Json

/-! ### No field comes twice -/

theorem Repetition.nodup_fields (r : Repetition ArgumentDefinition) :
    (r.fields.map Prod.fst).Nodup := by
  have hkeys := ((Json.keys_optionalField "min" Json.ofWord r.least).append
    (Json.keys_optionalField "max" Json.ofWord r.most)).cons_cons "arguments".toList
  rw [← List.map_append] at hkeys
  exact hkeys.nodup (by decide)

theorem ArgumentDefinition.nodup_fields (x : ArgumentDefinition) :
    (x.fields.map Prod.fst).Nodup := by
  have hkeys := (((Json.keys_optionalField "description" Json.string x.description).append
    (Json.keys_optionalField "repeat" (fun r => .object r.fields) x.repetition)).cons_cons
      "arg_type".toList).cons_cons "name".toList
  rw [← List.map_append] at hkeys
  exact hkeys.nodup (by decide)

theorem CommandDefinition.nodup_fields (c : CommandDefinition) :
    (c.fields.map Prod.fst).Nodup := by
  have hkeys := ((Json.keys_optionalField "description" Json.string c.description).append
    (List.Sublist.refl ["arguments".toList])).cons_cons "stem".toList
  rw [fields, List.map_cons, List.map_append]
  exact hkeys.nodup (by decide)

/-- The argument type of its own name. -/
theorem ArgumentType.ofLabel?_label (t : ArgumentType) : ofLabel? t.label.toList = some t := by
  cases t <;> rfl

/-! ## Numbers -/

namespace Text

/-- Digits behind a number **go on with it**. -/
theorem valueFrom?_of_isDigit {t : Text} (h : ∀ c ∈ t, c.isDigit = true) (n : Nat) :
    valueFrom? 10 n t = some (Nat.ofDigitChars 10 t n) := by
  induction t generalizing n with
  | nil => rw [valueFrom?, Nat.ofDigitChars_nil]
  | cons c t ih =>
      have hc : c.isDigit = true := h c List.mem_cons_self
      have hdigit := toNat_of_isDigit hc
      have hzero : '0'.toNat = 48 := rfl
      have hvalue : digitIn? 10 c = some (c.toNat - '0'.toNat) := by
        rw [digitIn?, hexDigit?, if_pos hc, Option.bind_some, if_pos (by omega)]
      rw [valueFrom?, hvalue, Option.bind_some, ih fun d hd => h d (List.mem_cons_of_mem c hd),
        Nat.ofDigitChars_cons, Nat.mul_comm]

/-- A written number is worth its number. -/
theorem valueIn?_decimal (n : Nat) : valueIn? 10 (decimal n) = some n := by
  have hne : ¬ (decimal n).isEmpty = true := fun h => decimal_ne_nil n (List.isEmpty_iff.1 h)
  rw [valueIn?, if_neg hne, valueFrom?_of_isDigit fun c hc => isDigit_of_mem_decimal hc, decimal,
    Nat.ofDigitChars_ten_toDigits]

end Text

namespace Dictionary

/-- A written number has **no mark of another base** in front. -/
theorem markedValue?_decimal (mark : String) {x y : Char} (hmark : mark.toList = [x, y])
    (hy : y.isDigit = false) (base n : Nat) :
    markedValue? mark base (decimal n) = none := by
  rw [markedValue?, if_neg]
  intro hprefix
  obtain ⟨t, ht⟩ := List.isPrefixOf_iff_prefix.1 hprefix
  rw [hmark] at ht
  have hmem : y ∈ decimal n := ht ▸ List.mem_cons_of_mem x List.mem_cons_self
  rw [isDigit_of_mem_decimal hmem] at hy
  cases hy

/-- A written number is read as a **number in base ten**. -/
theorem numberOf?_decimal (n : Nat) : numberOf? (decimal n) = some n := by
  obtain ⟨c, t, hdecimal, hc⟩ := exists_decimal_eq_cons n
  have hplus : ¬ (decimal n).head? = some '+' := by
    rw [hdecimal]
    rintro ⟨⟩
    cases hc
  have hpadded : ¬ (1 < (decimal n).length ∧ (decimal n).head? = some '0') := by
    rintro ⟨hlength, hzero⟩
    rw [eq_zero_of_head?_decimal hzero] at hlength
    exact absurd hlength (by decide)
  simp only [numberOf?, if_neg hplus, markedValue?_decimal "0x" rfl rfl,
    markedValue?_decimal "0o" rfl rfl, markedValue?_decimal "0b" rfl rfl,
    Option.none_or, hpadded, decide_false, Bool.false_eq_true, if_false, Text.valueIn?_decimal]

/-! ## Values -/

section Values

variable {d : Yaml.Document} {α : Type}

/-- Data is no alias. -/
theorem resolve_toYaml (j : Json) : resolve d j.toYaml = pure j.toYaml := by
  cases j <;> rw [Json.toYaml] <;> rfl

theorem readText_string (d : Yaml.Document) (t : Text) :
    readText d (Json.string t).toYaml = pure t := rfl

/-- A value that is there is **read**. -/
theorem readOptional_toYaml {read : Yaml Nat → NodeReader α} {j : Json} {a : α}
    (hpresent : isPresent? (j.toYaml : Yaml Nat) = some true) (h : read j.toYaml = pure a) :
    readOptional d read j.toYaml = pure (some a) := by
  rw [readOptional, resolve_toYaml, pure_bind, hpresent, ofOption, pure_bind, if_pos rfl, h,
    map_pure]

/-- Null is **no value**. -/
theorem readOptional_null (read : Yaml Nat → NodeReader α) :
    readOptional d read Json.null.toYaml = pure none := rfl

/-- A text in quotes is a text, whatever it says. -/
theorem readOptional_ofText? (o : Option Text) :
    readOptional d (readText d) (Json.ofText? o).toYaml = pure o := by
  cases o with
  | none => rfl
  | some t => exact readOptional_toYaml rfl (readText_string d t)

/-- A number is a value. -/
theorem isPresent?_ofWord (n : UInt32) :
    isPresent? ((Json.ofWord n).toYaml : Yaml Nat) = some true := by
  obtain ⟨c, t, hdecimal, hc⟩ := exists_decimal_eq_cons n.toNat
  have hne : ∀ s ∈ ["null", "Null", "NULL", "~"], s.toList ≠ c :: t := by
    have hletter : ∀ s ∈ ["null", "Null", "NULL", "~"], s.toList.head?.any Char.isDigit = false := by
      decide
    intro s hs heq
    have hfirst := hletter s hs
    rw [heq, List.head?_cons, Option.any_some, hc] at hfirst
    cases hfirst
  have hnull : isNullText (c :: t) = false := by
    rw [isNullText, List.any_eq_false]
    exact fun s hs => by simpa using hne s hs
  rw [Json.ofWord, Json.toYaml, hdecimal, isPresent?, hnull]
  rfl

theorem readWord_ofWord (d : Yaml.Document) (n : UInt32) :
    readWord d (Json.ofWord n).toYaml = pure n := by
  rw [readWord, resolve_toYaml, pure_bind, Json.ofWord, Json.toYaml]
  simp only [numberOf?_decimal, n.toNat_lt, if_true, UInt32.ofNat_toNat]

theorem readType_label (t : ArgumentType) :
    readType d (Json.string t.label.toList).toYaml = pure t := by
  rw [readType, resolve_toYaml, pure_bind, Json.toYaml]
  simp only [ArgumentType.ofLabel?_label, ofOption]

end Values

/-! ## Fields -/

/-- The **fields of an object** as they are read: names with the data behind them. -/
def dataFields (fields : List (Text × Json)) : List (Text × Yaml Nat) :=
  fields.map fun field => (field.1, field.2.toYaml)

/-- No field of some different names comes twice. -/
theorem isUnique_dataFields {fields : List (Text × Json)} (h : (fields.map Prod.fst).Nodup)
    (names : List String) : isUnique names (dataFields fields) = true := by
  rw [isUnique, List.all_eq_true]
  intro name _
  have hcount := List.nodup_iff_count.1 h name.toList
  rw [List.count, List.countP_map] at hcount
  rw [decide_eq_true_eq, ← List.countP_eq_length_filter, dataFields, List.countP_map]
  refine Nat.le_trans (Nat.le_of_eq (List.countP_congr fun field _ => ?_)) hcount
  simp only [Function.comp_apply, decide_eq_true_eq, beq_iff_eq]

section Fields

variable {d : Yaml.Document} {α : Type}

theorem readKeys_toYamlFields (fields : List (Text × Json)) :
    readKeys d (Json.toYamlFields fields) = pure (dataFields fields) := by
  induction fields with
  | nil => rfl
  | cons field fields ih =>
      obtain ⟨key, j⟩ := field
      rw [Json.toYamlFields, readKeys, ih]
      rfl

/-- The fields of an object **with different names** are read within any brackets. -/
theorem readFields_object (d : Yaml.Document) (fields : List (Text × Json))
    (h : (fields.map Prod.fst).Nodup) (depth : Nat) (names : List String) :
    readFields d (depth + 1) names (Json.object fields).toYaml = pure (dataFields fields) := by
  rw [readFields, resolve_toYaml, pure_bind, Json.toYaml]
  simp only [Nat.succ_ne_zero, if_false, readKeys_toYamlFields, pure_bind, isUnique_dataFields h,
    if_true]

/-- A list is read within any brackets when its items are. -/
theorem readList_array {read : Yaml Nat → NodeReader α} {js : List Json} {as : List α} {depth : Nat}
    (h : readItems read (Json.toYamlItems js) = pure as) :
    readList d (depth + 1) read (Json.array js).toYaml = pure as := by
  rw [readList, resolve_toYaml, pure_bind, Json.toYaml]
  exact h

variable {name key : String} {missing : NodeReader α} {read : Yaml Nat → NodeReader α}
  {fields : List (Text × Json)}

/-- A field that is not there is missing. -/
theorem readField_nil : readField (dataFields []) name missing read = missing := rfl

/-- A field that stands first is read. -/
theorem readField_cons_self (j : Json) :
    readField (dataFields ((name.toList, j) :: fields)) name missing read = read j.toYaml := by
  simp only [readField, dataFields, List.map_cons, List.find?_cons, decide_true]

/-- A field of another name is passed over. -/
theorem readField_cons_of_ne (name : String) (h : key.toList ≠ name.toList) (j : Json) :
    readField (dataFields ((key.toList, j) :: fields)) name missing read =
      readField (dataFields fields) name missing read := by
  simp only [readField, dataFields, List.map_cons, List.find?_cons, h, decide_false]

/-- So is one of another name that may have been left out. -/
theorem readField_optional_of_ne {β : Type} (name : String) (h : key.toList ≠ name.toList)
    (write : β → Json) (o : Option β) :
    readField (dataFields (Json.optionalField key write o ++ fields)) name missing read =
      readField (dataFields fields) name missing read := by
  cases o with
  | none => rfl
  | some b => exact readField_cons_of_ne name h (write b)

/-- A field that **may have been left out** is read as what was written, or as missing. -/
theorem readField_optional_self (d : Yaml.Document) (name : String) (write : α → Json)
    (o : Option α) (fields : List (Text × Json))
    (hpresent : ∀ a, isPresent? ((write a).toYaml : Yaml Nat) = some true)
    (hread : ∀ a ∈ o, read (write a).toYaml = pure a)
    (hleft : name.toList ∉ fields.map Prod.fst) :
    readField (dataFields (Json.optionalField name write o ++ fields)) name (pure none)
      (readOptional d read) = pure o := by
  cases o with
  | none =>
      have hfind : (dataFields fields).find? (fun field => field.1 = name.toList) = none := by
        rw [List.find?_eq_none]
        intro field hfield hname
        obtain ⟨found, hfound, rfl⟩ := List.mem_map.1 hfield
        exact hleft (List.mem_map.2 ⟨found, hfound, of_decide_eq_true hname⟩)
      rw [Json.optionalField, List.nil_append, readField, hfind]
  | some a =>
      rw [Json.optionalField, List.singleton_append, readField_cons_self]
      exact readOptional_toYaml (hpresent a) (hread a rfl)

end Fields

/-! ## Definitions -/

section Definitions

variable {d : Yaml.Document}

/-- An argument definition is read when **its repetition** is. -/
theorem readDefinition_of_repetition {x : ArgumentDefinition} (depth : Nat)
    (h : ∀ r ∈ x.repetition, readRepetition d depth (Json.object r.fields).toYaml = pure r) :
    readDefinition d (depth + 1) x.toJson.toYaml = pure x := by
  have hfields := readFields_object d x.fields x.nodup_fields depth
    ["name", "arg_type", "description", "repeat"]
  have hdescription := readField_optional_self d "description" Json.string x.description
    (Json.optionalField "repeat" (fun r => .object r.fields) x.repetition) (fun _ => rfl)
    (fun t _ => readText_string d t) (Json.not_mem_keys_optionalField (by decide) _ _)
  have hrepetition := readField_optional_self d "repeat" (fun r => Json.object r.fields) x.repetition
    [] (fun r => by rw [Json.toYaml]; rfl) h List.not_mem_nil
  rw [List.append_nil] at hrepetition
  rw [x.toJson_eq, readDefinition, hfields, pure_bind, ArgumentDefinition.fields,
    readField_cons_self, readText_string, pure_bind,
    readField_cons_of_ne "arg_type" (by decide), readField_cons_self, readType_label,
    pure_bind, readField_cons_of_ne "description" (by decide),
    readField_cons_of_ne "description" (by decide), hdescription, pure_bind,
    readField_cons_of_ne "repeat" (by decide),
    readField_cons_of_ne "repeat" (by decide),
    readField_optional_of_ne "repeat" (by decide), hrepetition, pure_bind]
  cases x
  rfl

/-- A repetition is read when **its arguments** are. -/
theorem readRepetition_of_arguments {r : Repetition ArgumentDefinition} {depth : Nat}
    (h : readItems (readDefinition d depth)
      (Json.toYamlItems (ArgumentDefinition.toJsonAll r.arguments)) = pure r.arguments) :
    readRepetition d (depth + 2) (Json.object r.fields).toYaml = pure r := by
  have hfields := readFields_object d r.fields r.nodup_fields (depth + 1) ["arguments", "min", "max"]
  have hleast := readField_optional_self d "min" Json.ofWord r.least
    (Json.optionalField "max" Json.ofWord r.most) isPresent?_ofWord
    (fun n _ => readWord_ofWord d n) (Json.not_mem_keys_optionalField (by decide) _ _)
  have hmost := readField_optional_self d "max" Json.ofWord r.most [] isPresent?_ofWord
    (fun n _ => readWord_ofWord d n) List.not_mem_nil
  rw [List.append_nil] at hmost
  have harguments : readDefinitions d (depth + 1)
      (Json.array (ArgumentDefinition.toJsonAll r.arguments)).toYaml = pure r.arguments :=
    readList_array h
  rw [readRepetition, hfields, pure_bind, Repetition.fields, readField_cons_self, harguments,
    pure_bind, readField_cons_of_ne "min" (by decide), hleast, pure_bind,
    readField_cons_of_ne "max" (by decide),
    readField_optional_of_ne "max" (by decide), hmost, pure_bind]

mutual

/-- An argument definition **is read back** within three collections for each of its levels, and one
more. -/
theorem readDefinition_toJson :
    ∀ (x : ArgumentDefinition) (depth : Nat), 3 * x.levels + 1 ≤ depth →
      readDefinition d depth x.toJson.toYaml = pure x
  | ⟨name, type, description, none⟩, depth, h => by
      obtain ⟨depth, rfl⟩ := Nat.exists_eq_add_of_le' (show 1 ≤ depth by omega)
      exact readDefinition_of_repetition depth fun r hr => by cases hr
  | ⟨name, type, description, some ⟨arguments, least, most⟩⟩, depth, h => by
      rw [ArgumentDefinition.levels] at h
      obtain ⟨depth, rfl⟩ := Nat.exists_eq_add_of_le' (show 3 ≤ depth by omega)
      have harguments := readItems_toJsonAll arguments depth (by omega)
      refine readDefinition_of_repetition (depth + 2) fun r hr => ?_
      cases hr
      exact readRepetition_of_arguments harguments

/-- So are some argument definitions. -/
theorem readItems_toJsonAll :
    ∀ (xs : List ArgumentDefinition) (depth : Nat),
      3 * ArgumentDefinition.levelsAll xs + 1 ≤ depth →
      readItems (readDefinition d depth) (Json.toYamlItems (ArgumentDefinition.toJsonAll xs)) =
        pure xs
  | [], _, _ => rfl
  | x :: xs, depth, h => by
      rw [ArgumentDefinition.levelsAll] at h
      rw [ArgumentDefinition.toJsonAll, Json.toYamlItems, readItems,
        readDefinition_toJson x depth (by omega), pure_bind, readItems_toJsonAll xs depth (by omega),
        pure_bind]

end

/-- A command definition **is read back** within two collections more than its arguments need. -/
theorem readCommand_toJson (c : CommandDefinition) {depth : Nat} (h : 3 * c.levels + 3 ≤ depth) :
    readCommand d depth c.toJson.toYaml = pure c := by
  obtain ⟨depth, rfl⟩ := Nat.exists_eq_add_of_le' (show 2 ≤ depth by omega)
  have hfields := readFields_object d c.fields c.nodup_fields (depth + 1)
    ["stem", "description", "arguments"]
  have hother : "description".toList ∉ ["arguments".toList] := by decide
  have hdescription := readField_optional_self d "description" Json.string c.description
    [("arguments".toList, .array (ArgumentDefinition.toJsonAll c.arguments))] (fun _ => rfl)
    (fun t _ => readText_string d t) hother
  rw [CommandDefinition.levels] at h
  have harguments : readDefinitions d (depth + 1)
      (Json.array (ArgumentDefinition.toJsonAll c.arguments)).toYaml = pure c.arguments :=
    readList_array (readItems_toJsonAll c.arguments depth (by omega))
  rw [c.toJson_eq, readCommand, hfields, pure_bind, CommandDefinition.fields, readField_cons_self,
    readText_string, pure_bind, readField_cons_of_ne "description" (by decide),
    hdescription, pure_bind, readField_cons_of_ne "arguments" (by decide),
    readField_optional_of_ne "arguments" (by decide), readField_cons_self]
  exact congrArg (· >>= _) harguments

/-- A list of commands **is read back**. -/
theorem readCommands_toJson {cs : List CommandDefinition} {depth : Nat}
    (h : ∀ c ∈ cs, 3 * c.levels + 4 ≤ depth) (hdepth : 0 < depth) :
    readCommands d depth (Json.array (cs.map CommandDefinition.toJson)).toYaml = pure cs := by
  obtain ⟨depth, rfl⟩ := Nat.exists_eq_add_of_le' hdepth
  refine readList_array ?_
  induction cs with
  | nil => rfl
  | cons c cs ih =>
      have hc := h c List.mem_cons_self
      rw [List.map_cons, Json.toYamlItems, readItems, readCommand_toJson c (by omega), pure_bind,
        ih fun e he => h e (List.mem_cons_of_mem c he), pure_bind]

/-- A header **is read back**. -/
theorem readHeader_toJson (header : DictionaryHeader) {depth : Nat} (hdepth : 0 < depth) :
    readHeader d depth header.toJson.toYaml = pure header := by
  obtain ⟨depth, rfl⟩ := Nat.exists_eq_add_of_le' hdepth
  have hunique : ["missionName".toList, "version".toList].Nodup := by decide
  have hfields := readFields_object d
    [("missionName".toList, Json.ofText? header.missionName),
      ("version".toList, Json.ofText? header.version)] hunique depth ["missionName", "version"]
  rw [DictionaryHeader.toJson, readHeader, hfields, pure_bind, readField_cons_self,
    readOptional_ofText?, pure_bind, readField_cons_of_ne "version" (by decide), readField_cons_self,
    readOptional_ofText?, pure_bind]

/-- A document **is read back** within one collection more than its commands need. -/
theorem readDocument_toJson {document : DictionaryDocument} {depth : Nat}
    (h : ∀ c ∈ document.commands, 3 * c.levels + 5 ≤ depth) (hdepth : 2 ≤ depth) :
    readDocument d depth document.toJson.toYaml = pure document := by
  obtain ⟨depth, rfl⟩ := Nat.exists_eq_add_of_le' hdepth
  obtain ⟨header, commands⟩ := document
  have hunique : ["header".toList, "fswCommands".toList].Nodup := by decide
  have hfields := readFields_object d
    [("header".toList, (header.map DictionaryHeader.toJson).getD .null),
      ("fswCommands".toList, .array (commands.map CommandDefinition.toJson))] hunique (depth + 1)
    ["header", "fswCommands"]
  have hheader : readOptional d (readHeader d (depth + 1))
      ((header.map DictionaryHeader.toJson).getD .null).toYaml = pure header := by
    cases header with
    | none => exact readOptional_null _
    | some header => exact readOptional_toYaml rfl (readHeader_toJson header (Nat.succ_pos depth))
  have hcommands : readCommands d (depth + 1)
      (Json.array (commands.map CommandDefinition.toJson)).toYaml = pure commands :=
    readCommands_toJson (fun c hc => Nat.le_of_succ_le_succ (h c hc)) (Nat.succ_pos depth)
  -- both fields are read within one collection less
  have hinner : depth + 2 - 1 = depth + 1 := rfl
  rw [DictionaryDocument.toJson, readDocument, hfields, pure_bind, hinner, readField_cons_self,
    hheader, pure_bind, readField_cons_of_ne "fswCommands" (by decide), readField_cons_self,
    hcommands, pure_bind]

/-! ## What is read as nothing -/

/-- What cannot be read first is not read. -/
theorem fail_bind {α β : Type} (f : α → NodeReader β) : (fail >>= f) = fail := rfl

/-- A list has no fields. -/
theorem readFields_array (js : List Json) (depth : Nat) (names : List String) :
    readFields d depth names (Json.array js).toYaml = fail := by
  rw [readFields, resolve_toYaml, pure_bind, Json.toYaml]
  rfl

/-- A list **is no document**. -/
theorem readDocument_array (js : List Json) (depth : Nat) :
    readDocument d depth (Json.array js).toYaml = fail := by
  rw [readDocument, readFields_array, fail_bind]

/-- An object **is no list**. -/
theorem readCommands_object (fields : List (Text × Json)) (depth : Nat) :
    readCommands d depth (Json.object fields).toYaml = fail := by
  rw [readCommands, readList, resolve_toYaml, pure_bind, Json.toYaml]
  rfl

/-- A command **is no document**: it has no list of commands. -/
theorem readDocument_toJson_command (c : CommandDefinition) {depth : Nat} (hdepth : 0 < depth) :
    readDocument d depth c.toJson.toYaml = fail := by
  obtain ⟨depth, rfl⟩ := Nat.exists_eq_add_of_le' hdepth
  have hfields := readFields_object d c.fields c.nodup_fields depth ["header", "fswCommands"]
  rw [c.toJson_eq, readDocument, hfields, pure_bind, CommandDefinition.fields,
    readField_cons_of_ne "header" (by decide),
    readField_optional_of_ne "header" (by decide),
    readField_cons_of_ne "header" (by decide), readField_nil, pure_bind,
    readField_cons_of_ne "fswCommands" (by decide),
    readField_optional_of_ne "fswCommands" (by decide),
    readField_cons_of_ne "fswCommands" (by decide), readField_nil, fail_bind]

end Definitions

end Dictionary

end SequenceBridge
