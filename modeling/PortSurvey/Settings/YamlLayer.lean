import PortSurvey.Settings.Layer
import PortSurvey.Yaml.Record

/-!
# Layers from YAML documents

`Layer.ofYaml` reads what an operator gives out of a document. The document itself is closed:
unknown fields are refused. Overrides, patterns and policies pass over what they do not know. A
pattern is read as a text; the other fields beside it are read as values first, so that what is to
be a text must not look like a number.
-/

namespace PortSurvey.Settings

open Yaml

/-- Reads a list of texts. -/
def readTexts (d : Document) (node : Node) : Reading (List String) := do
  (← d.readItems node).mapM d.readText

/-- Reads the key of an override: a whole number that is a port, or a text. -/
def readPortKey (d : Document) (node : Node) : Reading PortKey := do
  match ← d.readValueAt (maxDepth - 2) node with
  | .number (.whole n) =>
    if 0 ≤ n ∧ n ≤ Text.maxPort then return .number n.toNat else throw .shape
  | .string s => return .text s
  | _ => throw .shape

/-- The fields of an override, in their order. -/
def overrideFields : List String :=
  ["protocol", "service_name", "description", "default_encryption", "typical_auth",
    "data_classification", "security_level", "direction"]

/-- Reads an override. -/
def readOverride (d : Document) (node : Node) : Reading Override := do
  let fields ← d.readRecord overrideFields false node
  return {
    protocol := ← readField fields "protocol" d.readText
    service := ← readField fields "service_name" d.readText
    description := ← readFieldOr fields "description" none (d.readOptional d.readText)
    encrypted := ← readFieldOr fields "default_encryption" false d.readBool
    auth := ← readFieldOr fields "typical_auth" none (d.readOptional d.readText)
    sensitivity := ← readFieldOr fields "data_classification" none
      (d.readOptional (d.readNamed Sensitivity.ofName?))
    grade := ← readFieldOr fields "security_level" none
      (d.readOptional (d.readNamed Grade.ofName?))
    direction := ← readFieldOr fields "direction" none
      (d.readOptional (d.readNamed Direction.ofName?)) }

/-- Reads the overrides of a document; of equal keys the last prevails. -/
def readOverrides (d : Document) (node : Node) : Reading (Dict PortKey Override) := do
  let entries ← (← d.readEntries node).mapM fun entry => do
    return (← readPortKey d entry.1, ← readOverride d entry.2)
  return Dict.ofList entries

/-- The fields of a policy, in their order. -/
def policyFields : List String :=
  ["encrypted_services", "strong_auth_services", "default_auth"]

/-- Reads a policy. -/
def readPolicy (d : Document) (node : Node) : Reading PolicyLayer := do
  let fields ← d.readRecord policyFields false node
  return {
    encrypted := ← readFieldOr fields "encrypted_services" none (some <$> readTexts d ·)
    strongAuth := ← readFieldOr fields "strong_auth_services" none (some <$> readTexts d ·)
    defaultAuth := ← readFieldOr fields "default_auth" none (some <$> d.readText ·) }

/-! ## Patterns -/

/-- The text that a value is. -/
def textOf? : Value → Option String
  | .string s => some s
  | _ => none

/-- The truth value that a value is. -/
def boolOf? : Value → Option Bool
  | .bool b => some b
  | _ => none

/-- The port that a value is. -/
def portOf? : Value → Option Nat
  | .number (.whole n) => if 0 ≤ n ∧ n ≤ Text.maxPort then some n.toNat else none
  | _ => none

/-- The items of a list, if each is one. -/
def listOf? {α : Type} (item? : Value → Option α) : Value → Option (List α)
  | .sequence items => items.mapM item?
  | _ => none

/-- The kind of data that a value names: by its name, or as the only key of a mapping by its name or
its place, where the key has no value. -/
def sensitivityOf? : Value → Option Sensitivity
  | .string s => Sensitivity.ofName? s
  | .mapping [(key, value)] =>
    let isVoid := match value with
      | .null | .mapping [] => true
      | _ => false
    match isVoid, key with
    | true, .string s => Sensitivity.ofName? s
    | true, .number (.whole (.ofNat n)) => Sensitivity.all[n]?
    | _, _ => none
  | _ => none

/-- What a list of fields holds under a name, unless it comes twice. -/
def onlyField? {β : Type} (fields : List (String × β)) (name : String) : Option (Option β) :=
  match fields.filter (·.1 == name) with
  | [] => some none
  | [field] => some (some field.2)
  | _ => none

/-- A field that has to be there. -/
def fieldOf? {α β : Type} (fields : List (String × β)) (name : String) (read? : β → Option α) :
    Option α := do
  read? (← ← onlyField? fields name)

/-- A field that may be missing, for which `usual` stands then. -/
def fieldOrOf? {α β : Type} (fields : List (String × β)) (name : String) (usual : α)
    (read? : β → Option α) : Option α := do
  match ← onlyField? fields name with
  | some value => read? value
  | none => some usual

/-- The kind of services that fields describe. -/
def archetypeOf? (fields : List (String × Value)) : Option Archetype := do
  return {
    kind := ← fieldOf? fields "service_type" textOf?
    ports := ← fieldOrOf? fields "typical_ports" [] (listOf? portOf?)
    protocols := ← fieldOf? fields "protocols" (listOf? textOf?)
    encrypted := ← fieldOrOf? fields "requires_encryption" false boolOf?
    auth := ← fieldOf? fields "typical_auth" textOf?
    sensitivity := ← fieldOf? fields "data_classification" sensitivityOf?
    considerations := ← fieldOrOf? fields "security_considerations" [] (listOf? textOf?) }

/-- Reads a pattern and the kind of services that it tells. -/
def readPattern (d : Document) (node : Node) : Reading ServicePattern := do
  let fields ← d.readFields node
  let values ← (fields.filter (·.1 != "pattern")).mapM fun field => do
    return (field.1, ← d.readValueAt (maxDepth - 3) field.2)
  match onlyField? fields "pattern", archetypeOf? values with
  | some (some pattern), some archetype => return ⟨← d.readText pattern, archetype⟩
  | _, _ => throw .shape

/-! ## Layers -/

/-- The fields of a layer, in their order. -/
def layerFields : List String :=
  ["environment", "confidence_threshold", "port_overrides", "service_patterns", "security_policy"]

/-- Reads a layer. -/
def readLayer (d : Document) (node : Node) : Reading Layer := do
  let fields ← d.readRecord layerFields true node
  return {
    environment := ← readFieldOr fields "environment" none (d.readOptional d.readText)
    threshold := ← readFieldOr fields "confidence_threshold" none (d.readOptional d.readText)
    overrides := ← readFieldOr fields "port_overrides" [] (readOverrides d)
    patterns := ← readFieldOr fields "service_patterns" [] (fun node => do
      (← d.readItems node).mapM (readPattern d))
    policy := ← readFieldOr fields "security_policy" none (d.readOptional (readPolicy d)) }

/-- The layer that a text gives. A text without a document gives nothing. -/
def Layer.ofYaml (text : String) : Except Yaml.Fault Layer := do
  let d ← Document.onlyOfText text
  match d.root with
  | some node => (readLayer d node).run' 0
  | none => return Layer.empty

end PortSurvey.Settings
