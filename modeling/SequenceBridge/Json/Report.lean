import SequenceBridge.Diagnostic
import SequenceBridge.Dictionary.Basic
import SequenceBridge.Json.Basic

/-! # Documents in JSON
How syntax trees, diagnostics and dictionary documents are written. A field without content is left
out where a reader takes its absence for that; the fields of an object keep a fixed order.

* **`Node.toJson`** — a syntax tree.
* **`Diagnostic.toJson`** — one remark of a lint report.
* **`ArgumentDefinition.toJson`**, **`CommandDefinition.toJson`** — definitions.
* **`DictionaryDocument.toJson`** — a dictionary file with its header.
-/

namespace SequenceBridge

mutual

/-- A **syntax tree** in JSON. A node without children has no field for them. -/
def Node.toJson : Node → Json
  | ⟨kind, span, []⟩ =>
    .object
      [("kind".toList, .string kind.label.toList), ("from".toList, .number span.start.toNat),
       ("to".toList, .number span.stop.toNat)]
  | ⟨kind, span, child :: children⟩ =>
    .object
      [("kind".toList, .string kind.label.toList), ("from".toList, .number span.start.toNat),
       ("to".toList, .number span.stop.toNat),
       ("children".toList, .array (child.toJson :: Node.toJsonAll children))]

/-- Some syntax trees in JSON. -/
def Node.toJsonAll : List Node → List Json
  | [] => []
  | n :: ns => n.toJson :: Node.toJsonAll ns

end

/-- A **diagnostic** in JSON. -/
def Diagnostic.toJson (d : Diagnostic) : Json :=
  .object
    [("from".toList, .number d.span.start.toNat), ("to".toList, .number d.span.stop.toNat),
     ("message".toList, .string d.message.toList),
     ("severity".toList, .string d.severity.label.toList)]

namespace Json

/-- A field of an object that is left out when it has no content. -/
def optionalField {α : Type} (key : String) (write : α → Json) : Option α → List (Text × Json)
  | none => []
  | some a => [(key.toList, write a)]

/-- A text, or null. -/
def ofText? : Option Text → Json
  | none => .null
  | some t => .string t

/-- A 32-bit number. -/
def ofWord (n : UInt32) : Json := .number n.toNat

end Json

mutual

/-- An **argument definition** in JSON. -/
def ArgumentDefinition.toJson : ArgumentDefinition → Json
  | ⟨name, type, description, none⟩ =>
    .object
      ([("name".toList, .string name), ("arg_type".toList, .string type.label.toList)] ++
        Json.optionalField "description" Json.string description)
  | ⟨name, type, description, some ⟨arguments, least, most⟩⟩ =>
    .object
      ([("name".toList, .string name), ("arg_type".toList, .string type.label.toList)] ++
        Json.optionalField "description" Json.string description ++
        [("repeat".toList,
          .object
            (("arguments".toList, .array (ArgumentDefinition.toJsonAll arguments)) ::
              (Json.optionalField "min" Json.ofWord least ++
                Json.optionalField "max" Json.ofWord most)))])

/-- Some argument definitions in JSON. -/
def ArgumentDefinition.toJsonAll : List ArgumentDefinition → List Json
  | [] => []
  | d :: ds => d.toJson :: ArgumentDefinition.toJsonAll ds

end

/-- A **command definition** in JSON. -/
def CommandDefinition.toJson (c : CommandDefinition) : Json :=
  .object
    (("stem".toList, .string c.stem) ::
      (Json.optionalField "description" Json.string c.description ++
        [("arguments".toList, .array (ArgumentDefinition.toJsonAll c.arguments))]))

/-- The header of a dictionary in JSON. -/
def DictionaryHeader.toJson (h : DictionaryHeader) : Json :=
  .object
    [("missionName".toList, Json.ofText? h.missionName), ("version".toList, Json.ofText? h.version)]

/-- A **dictionary document** in JSON. -/
def DictionaryDocument.toJson (d : DictionaryDocument) : Json :=
  .object
    [("header".toList, (d.header.map DictionaryHeader.toJson).getD .null),
     ("fswCommands".toList, .array (d.commands.map CommandDefinition.toJson))]

end SequenceBridge
