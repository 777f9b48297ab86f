import SequenceBridge.Proofs.Dictionary.Lookup
import SequenceBridge.Proofs.Dictionary.Reading
import SequenceBridge.Proofs.Yaml.Document

/-! # Written dictionaries are read back
A dictionary file holds a document with a header, a list of commands, or a single command. Whatever is
written in one of these layouts is read by the attempt that is made for it, because every attempt in
front of that one fails: a list has no fields, an object is no list, and a command has no list of
commands. All of it is about the data of what was written, and YAML reads JSON as its data.

* **`Dictionary.Layout`** — the layouts of a file with some commands.
* **`Dictionary.Layout.IsReachedIn`** — the attempt for a layout is the first that succeeds.
* **`Dictionary.Layout.isReadAsData`** — YAML reads a layout as its data when its texts come through.
* **`Dictionary.Layout.ofYamlText?_json`** — the dictionary that a written layout holds.
-/

namespace SequenceBridge

/-! ## Texts -/

mutual

/-- The **texts** of an argument definition: its name and its description, and those of the arguments
that it repeats. -/
def ArgumentDefinition.texts : ArgumentDefinition → List Text
  | ⟨name, _, description, none⟩ => name :: description.toList
  | ⟨name, _, description, some ⟨arguments, _, _⟩⟩ =>
    name :: (description.toList ++ ArgumentDefinition.textsAll arguments)

/-- The texts of some argument definitions. -/
def ArgumentDefinition.textsAll : List ArgumentDefinition → List Text
  | [] => []
  | d :: ds => d.texts ++ ArgumentDefinition.textsAll ds

end

/-- The **texts** of a command: its stem and its description, and those of its arguments. -/
def CommandDefinition.texts (c : CommandDefinition) : List Text :=
  c.stem :: (c.description.toList ++ ArgumentDefinition.textsAll c.arguments)

/-- The texts of a header. -/
def DictionaryHeader.texts (h : DictionaryHeader) : List Text :=
  h.missionName.toList ++ h.version.toList

/-- Texts that come through YAML as they are. -/
def AreCarried (ts : List Text) : Prop := ∀ t ∈ ts, t.all Yaml.isCarried = true

theorem AreCarried.append_iff {ss ts : List Text} :
    AreCarried (ss ++ ts) ↔ AreCarried ss ∧ AreCarried ts := List.forall_mem_append

theorem AreCarried.cons_iff {t : Text} {ts : List Text} :
    AreCarried (t :: ts) ↔ t.all Yaml.isCarried = true ∧ AreCarried ts := List.forall_mem_cons

/-- Texts of ASCII characters come through, as long as none of these is the delete character. -/
theorem AreCarried.of_ascii {ts : List Text} (h : ∀ t ∈ ts, ∀ x ∈ t, x.toNat < 0x7F) :
    AreCarried ts := fun t ht =>
  List.all_eq_true.2 fun x hx => Yaml.isCarried_of_ascii (h t ht x hx)

/-! ## What is written comes through -/

namespace Json

/-- A field that may be left out comes through when what is written does. -/
theorem isCarriedFields_optional {α : Type} (key : String) (write : α → Json) {o : Option α}
    {fields : List (Text × Json)} (hkey : isKey key.toList = true)
    (hwrite : ∀ a ∈ o, (write a).isCarried = true) (hfields : isCarriedFields fields = true) :
    isCarriedFields (optionalField key write o ++ fields) = true := by
  cases o with
  | none => exact hfields
  | some a =>
      rw [optionalField, List.singleton_append, isCarriedFields, hkey, hwrite a rfl, hfields]
      rfl

/-- A text that may be missing comes through. -/
theorem isCarried_ofText? {o : Option Text} (h : AreCarried o.toList) :
    (ofText? o).isCarried = true := by
  cases o with
  | none => rfl
  | some t => exact h t List.mem_cons_self

theorem isCarriedItems_of_forall {js : List Json} (h : ∀ j ∈ js, j.isCarried = true) :
    isCarriedItems js = true := by
  induction js with
  | nil => rfl
  | cons j js ih =>
      rw [isCarriedItems, h j List.mem_cons_self, ih fun k hk => h k (List.mem_cons_of_mem j hk)]
      rfl

end Json

/-- The fields of an argument definition come through when its texts and its repetition do. -/
theorem ArgumentDefinition.isCarriedFields_fields {x : ArgumentDefinition}
    (hname : x.name.all Yaml.isCarried = true) (hdescription : AreCarried x.description.toList)
    (hrepetition : ∀ r ∈ x.repetition, (Json.object r.fields).isCarried = true) :
    Json.isCarriedFields x.fields = true := by
  have hlabel : (x.type.label.toList).all Yaml.isCarried = true := by
    cases x.type <;> decide
  have hlast := Json.isCarriedFields_optional "repeat"
    (fun r : Repetition ArgumentDefinition => .object r.fields) (by decide) hrepetition
    (show Json.isCarriedFields [] = true from rfl)
  rw [List.append_nil] at hlast
  have hmore := Json.isCarriedFields_optional "description" Json.string (by decide)
    (fun t ht => hdescription t (Option.mem_toList.2 ht)) hlast
  have hname' : Json.isKey "name".toList = true := by decide
  have htype : Json.isKey "arg_type".toList = true := by decide
  rw [fields, Json.isCarriedFields, Json.isCarriedFields, hmore, hname', htype, Json.isCarried,
    Json.isCarried, hname, hlabel]
  rfl

/-- What a repeat argument repeats comes through when its arguments do. -/
theorem Repetition.isCarried_fields {r : Repetition ArgumentDefinition}
    (h : Json.isCarriedItems (ArgumentDefinition.toJsonAll r.arguments) = true) :
    (Json.object r.fields).isCarried = true := by
  have hmost := Json.isCarriedFields_optional "max" Json.ofWord (o := r.most) (by decide)
    (fun _ _ => rfl) (show Json.isCarriedFields [] = true from rfl)
  rw [List.append_nil] at hmost
  have hmore := Json.isCarriedFields_optional "min" Json.ofWord (o := r.least) (by decide)
    (fun _ _ => rfl) hmost
  have hkey : Json.isKey "arguments".toList = true := by decide
  rw [Json.isCarried, fields, Json.isCarriedFields, hkey, Json.isCarried, h, hmore]
  rfl

mutual

/-- An argument definition **comes through** when its texts do. -/
theorem ArgumentDefinition.isCarried_toJson :
    ∀ (x : ArgumentDefinition), AreCarried x.texts → x.toJson.isCarried = true
  | ⟨name, type, description, none⟩, h => by
      rw [texts, AreCarried.cons_iff] at h
      rw [toJson_eq, Json.isCarried]
      exact isCarriedFields_fields h.1 h.2 fun r hr => by cases hr
  | ⟨name, type, description, some ⟨arguments, least, most⟩⟩, h => by
      rw [texts, AreCarried.cons_iff, AreCarried.append_iff] at h
      have harguments := isCarriedItems_toJsonAll arguments h.2.2
      rw [toJson_eq, Json.isCarried]
      refine isCarriedFields_fields h.1 h.2.1 fun r hr => ?_
      cases hr
      exact Repetition.isCarried_fields harguments

/-- So do some argument definitions. -/
theorem ArgumentDefinition.isCarriedItems_toJsonAll :
    ∀ (xs : List ArgumentDefinition), AreCarried (textsAll xs) →
      Json.isCarriedItems (toJsonAll xs) = true
  | [], _ => rfl
  | x :: xs, h => by
      rw [textsAll, AreCarried.append_iff] at h
      rw [toJsonAll, Json.isCarriedItems, isCarried_toJson x h.1, isCarriedItems_toJsonAll xs h.2]
      rfl

end

/-- A command **comes through** when its texts do. -/
theorem CommandDefinition.isCarried_toJson {c : CommandDefinition} (h : AreCarried c.texts) :
    c.toJson.isCarried = true := by
  rw [texts, AreCarried.cons_iff, AreCarried.append_iff] at h
  have hkey : Json.isKey "arguments".toList = true := by decide
  have hstem : Json.isKey "stem".toList = true := by decide
  have hlast : Json.isCarriedFields
      [("arguments".toList, .array (ArgumentDefinition.toJsonAll c.arguments))] = true := by
    rw [Json.isCarriedFields, hkey, Json.isCarried,
      ArgumentDefinition.isCarriedItems_toJsonAll c.arguments h.2.2]
    rfl
  have hmore := Json.isCarriedFields_optional "description" Json.string (by decide)
    (fun t ht => h.2.1 t (Option.mem_toList.2 ht)) hlast
  rw [toJson_eq, Json.isCarried, fields, Json.isCarriedFields, hstem, Json.isCarried, h.1, hmore]
  rfl

/-- Some commands come through when their texts do. -/
theorem CommandDefinition.isCarriedItems_toJson {cs : List CommandDefinition}
    (h : ∀ c ∈ cs, AreCarried c.texts) : Json.isCarriedItems (cs.map toJson) = true :=
  Json.isCarriedItems_of_forall fun j hj => by
    obtain ⟨c, hc, rfl⟩ := List.mem_map.1 hj
    exact isCarried_toJson (h c hc)

/-- A header comes through when its texts do. -/
theorem DictionaryHeader.isCarried_toJson {header : DictionaryHeader}
    (h : AreCarried header.texts) : header.toJson.isCarried = true := by
  rw [texts, AreCarried.append_iff] at h
  have hmission : Json.isKey "missionName".toList = true := by decide
  have hversion : Json.isKey "version".toList = true := by decide
  rw [toJson, Json.isCarried, Json.isCarriedFields, Json.isCarriedFields, hmission, hversion,
    Json.isCarried_ofText? h.1, Json.isCarried_ofText? h.2]
  rfl

/-- A document **comes through** when the texts of its header and of its commands do. -/
theorem DictionaryDocument.isCarried_toJson {document : DictionaryDocument}
    (hheader : ∀ header ∈ document.header, AreCarried header.texts)
    (hcommands : ∀ c ∈ document.commands, AreCarried c.texts) :
    document.toJson.isCarried = true := by
  have hfirst : ((document.header.map DictionaryHeader.toJson).getD .null).isCarried = true := by
    cases hsome : document.header with
    | none => rfl
    | some header => exact DictionaryHeader.isCarried_toJson (hheader header hsome)
  have hkey : Json.isKey "header".toList = true := by decide
  have hlist : Json.isKey "fswCommands".toList = true := by decide
  rw [toJson, Json.isCarried, Json.isCarriedFields, Json.isCarriedFields, hkey, hlist, hfirst,
    Json.isCarried, CommandDefinition.isCarriedItems_toJson hcommands]
  rfl

namespace Dictionary

/-! ## Layouts -/

/-- The **layouts** of a dictionary file with some commands. -/
inductive Layout : List CommandDefinition → Type
  /-- A document, with a header or without. -/
  | document (header : Option DictionaryHeader) {cs : List CommandDefinition} : Layout cs
  /-- A list of commands. -/
  | list {cs : List CommandDefinition} : Layout cs
  /-- A command that is the only one. -/
  | single (c : CommandDefinition) : Layout [c]

namespace Layout

variable {cs : List CommandDefinition}

/-- What a file of a layout says, in JSON. -/
def json {cs : List CommandDefinition} : Layout cs → Json
  | document header => DictionaryDocument.toJson ⟨header, cs⟩
  | list => .array (cs.map CommandDefinition.toJson)
  | single c => c.toJson

/-- The header that a layout has. -/
def header {cs : List CommandDefinition} : Layout cs → Option DictionaryHeader
  | document header => header
  | list => none
  | single _ => none

/-- The dictionary of the commands, with the header of the layout. -/
def dictionary {cs : List CommandDefinition} (layout : Layout cs) : Dictionary :=
  (ofList cs).withHeader layout.header

theorem dictionary_list : (list : Layout cs).dictionary = ofList cs := withHeader_none_ofList cs

theorem dictionary_single (c : CommandDefinition) : (single c).dictionary = ofList [c] :=
  withHeader_none_ofList [c]

/-- A layout **is reached** in a document: its own attempt gives what was written, and every attempt
in front of that one fails. -/
def IsReachedIn {cs : List CommandDefinition} : Layout cs → Yaml.Document → Prop
  | document header, d => readRoot d (readDocument d) = some ⟨header, cs⟩
  | list, d => readRoot d (readDocument d) = none ∧ readRoot d (readCommands d) = some cs
  | single c, d =>
    readRoot d (readDocument d) = none ∧ readRoot d (readCommands d) = none ∧
      readRoot d (readCommand d) = some c

/-- Every layout is an array or an object. -/
theorem isCollection_json (layout : Layout cs) : layout.json.IsCollection := by
  cases layout with
  | document header => exact .inr ⟨_, rfl⟩
  | list => exact .inl ⟨_, rfl⟩
  | single c => exact .inr ⟨_, rfl⟩

/-- YAML **reads a layout as its data** when the texts of the commands and of the header come
through. -/
theorem isReadAsData (layout : Layout cs) (hcommands : ∀ c ∈ cs, AreCarried c.texts)
    (hheader : ∀ header ∈ layout.header, AreCarried header.texts) : layout.json.IsReadAsData := by
  refine Json.isReadAsData_of_isCarried ?_ layout.isCollection_json
  cases layout with
  | document header => exact DictionaryDocument.isCarried_toJson hheader hcommands
  | list => exact CommandDefinition.isCarriedItems_toJson hcommands
  | single c => exact CommandDefinition.isCarried_toJson (hcommands c List.mem_cons_self)

/-- What is read without following aliases is what a document holds. -/
theorem readRoot_of_eq_pure {α : Type} {d : Yaml.Document} {read : Nat → Yaml Nat → NodeReader α}
    {a : α} (h : read greatestDepth d.root = pure a) : readRoot d read = some a := by
  rw [readRoot, h]
  rfl

theorem readRoot_of_eq_fail {α : Type} {d : Yaml.Document} {read : Nat → Yaml Nat → NodeReader α}
    (h : read greatestDepth d.root = fail) : readRoot d read = none := by
  rw [readRoot, h]
  rfl

/-- A layout is reached **in its own data**, if its repetitions do not nest too deep. -/
theorem isReachedIn_toYaml (layout : Layout cs) (h : ∀ c ∈ cs, c.levels ≤ 30) :
    layout.IsReachedIn ⟨layout.json.toYaml, []⟩ := by
  -- a collection for the document, one for the list and what a command needs leave room
  have hroom : ∀ c ∈ cs, 3 * c.levels + 5 ≤ greatestDepth := fun c hc => by
    have hc := h c hc
    rw [greatestDepth]
    omega
  cases layout with
  | document header => exact readRoot_of_eq_pure (readDocument_toJson hroom (by decide))
  | list =>
      refine ⟨readRoot_of_eq_fail (readDocument_array _ _), readRoot_of_eq_pure ?_⟩
      exact readCommands_toJson (fun c hc => Nat.le_of_succ_le (hroom c hc)) (by decide)
  | single c =>
      have hc := hroom c List.mem_cons_self
      refine ⟨readRoot_of_eq_fail (readDocument_toJson_command c (by decide)),
        readRoot_of_eq_fail (readCommands_object c.fields _), readRoot_of_eq_pure ?_⟩
      exact readCommand_toJson c (by omega)

/-- The dictionary of a document **in which a layout is reached**. -/
theorem ofYaml?_of_isReachedIn {layout : Layout cs} {d : Yaml.Document}
    (h : layout.IsReachedIn d) : ofYaml? d = some layout.dictionary := by
  cases layout with
  | document header =>
      have hread : readRoot d (readDocument d) = some ⟨header, cs⟩ := h
      rw [ofYaml?, hread]
      rfl
  | list =>
      rw [ofYaml?, h.1, h.2, dictionary_list]
      rfl
  | single c =>
      rw [ofYaml?, h.1, h.2.1, h.2.2, dictionary_single]
      rfl

end Layout

/-- **A written dictionary is read back** in each of its layouts, with the header that the layout has.
Its texts may be any of ASCII without the delete character, whatever they look like, and its
repetitions may nest in thirty levels. -/
theorem ofYamlText?_json {cs : List CommandDefinition}
    (hascii : ∀ c ∈ cs, ∀ t ∈ c.texts, ∀ x ∈ t, x.toNat < 0x7F)
    (hlevels : ∀ c ∈ cs, c.levels ≤ 30) (layout : Layout cs) :
    ((∀ header ∈ layout.header, AreCarried header.texts) → layout.json.IsReadAsData) ∧
      (layout.json.IsReadAsData →
        ofYamlText? layout.json.compact = some layout.dictionary ∧
        (∃ d, Yaml.Document.ofText? layout.json.compact = some d ∧ layout.IsReachedIn d) ∧
        layout.dictionary.header = layout.header ∧
        ∀ stem : Text,
          layout.dictionary.get? stem = cs.reverse.find? (·.stem = stem) ∧
          ∀ index : Nat, layout.dictionary.argument? stem index =
            (cs.reverse.find? (·.stem = stem)).bind fun c => c.arguments[index]?) := by
  refine ⟨layout.isReadAsData fun c hc => .of_ascii (hascii c hc), fun hread => ?_⟩
  have hdocument := Yaml.Document.ofText?_compact hread
  have hreached := layout.isReachedIn_toYaml hlevels
  have hget : ∀ stem, layout.dictionary.get? stem = cs.reverse.find? (·.stem = stem) :=
    fun stem => get?_ofList cs stem
  refine ⟨?_, ⟨_, hdocument, hreached⟩, rfl, fun stem => ⟨hget stem, fun index => ?_⟩⟩
  · rw [ofYamlText?, hdocument, Option.bind_some, Layout.ofYaml?_of_isReachedIn hreached]
  · rw [argument?, hget stem]

/-- A command whose texts **look like something else**: like null, a truth value, a number, a comment
and brackets, with characters that are escaped. -/
def lookalike : CommandDefinition :=
  ⟨"null".toList, some "true".toList,
    [⟨"1".toList, .repeated, some "# \"a\\: [~]\n".toList,
      some ⟨[⟨"".toList, .repeated, some "".toList, some ⟨[], none, some 0⟩⟩], some 4294967295, none⟩⟩]⟩

/-- A command that looks like something else is read back in every layout. -/
theorem ofYamlText?_json_lookalike :
    (∀ c ∈ [lookalike], ∀ t ∈ c.texts, ∀ x ∈ t, x.toNat < 0x7F) ∧
      (∀ c ∈ [lookalike], c.levels ≤ 30) ∧
      ofYamlText? (DictionaryDocument.toJson
          ⟨some ⟨some "~".toList, none⟩, [lookalike]⟩).compact =
        some (ofDocument ⟨some ⟨some "~".toList, none⟩, [lookalike]⟩) ∧
      ofYamlText? (Json.array [lookalike.toJson]).compact = some (ofList [lookalike]) ∧
      ofYamlText? lookalike.toJson.compact = some (ofList [lookalike]) := by
  have hall : ([lookalike].all fun c => c.texts.all fun t => t.all fun x => x.toNat < 0x7F) = true := by
    decide
  have hascii : ∀ c ∈ [lookalike], ∀ t ∈ c.texts, ∀ x ∈ t, x.toNat < 0x7F := by
    simpa only [List.all_eq_true, decide_eq_true_eq] using hall
  have hlevels : ∀ c ∈ [lookalike], c.levels ≤ 30 := by decide
  have hheader : ∀ header ∈ some (⟨some "~".toList, none⟩ : DictionaryHeader),
      AreCarried header.texts := by
    rintro header ⟨⟩ t ht
    cases List.mem_singleton.1 ht
    decide
  have hdocument := ofYamlText?_json hascii hlevels (.document (some ⟨some "~".toList, none⟩))
  have hlist := ofYamlText?_json hascii hlevels .list
  have hsingle := ofYamlText?_json hascii hlevels (.single lookalike)
  have hlistRead := (hlist.2 (hlist.1 fun _ h => by cases h)).1
  have hsingleRead := (hsingle.2 (hsingle.1 fun _ h => by cases h)).1
  rw [Layout.dictionary_list] at hlistRead
  rw [Layout.dictionary_single] at hsingleRead
  exact ⟨hascii, hlevels, (hdocument.2 (hdocument.1 hheader)).1, hlistRead, hsingleRead⟩

end Dictionary

end SequenceBridge
