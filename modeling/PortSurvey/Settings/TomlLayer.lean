import PortSurvey.Settings.Layer
import PortSurvey.Toml.Document

/-!
# Layers from TOML documents

`Layer.ofToml?` reads what an operator gives out of a document. The document itself is closed:
unknown keys are refused. Overrides, patterns and policies pass over what they do not know.
Overrides and policies may also be arrays in which each field has its place.
-/

namespace PortSurvey.Settings.Table

open Toml

/-- The text that a value is. -/
def text? : Value → Option String
  | .string s => some s
  | _ => none

/-- The truth value that a value is. -/
def bool? : Value → Option Bool
  | .bool b => some b
  | _ => none

/-- The port that a value is. -/
def port? : Value → Option Nat
  | .whole n => if 0 ≤ n ∧ n ≤ Text.maxPort then some n.toNat else none
  | _ => none

/-- The items of an array. -/
def items? : Value → Option (List Value)
  | .array items => some items
  | .rows tables => some tables
  | _ => none

/-- The items of an array, if each is one. -/
def list? {α : Type} (item? : Value → Option α) (v : Value) : Option (List α) :=
  (items? v).bind (·.mapM item?)

/-- The entries of a table. -/
def entries? : Value → Option (List (String × Value))
  | .table _ entries => some entries
  | _ => none

/-- The fields of a record: the entries of a table, or the items of an array as the fields of their
places. A moment is a record that has none of the fields. -/
def record? (names : List String) : Value → Option (List (String × Value))
  | .table _ entries => some entries
  | .array items => some (names.zip items)
  | .rows tables => some (names.zip tables)
  | .moment _ => some []
  | _ => none

/-- A name out of a fixed set: a text, or the only key of a table, where the key has no value. -/
def named? {α : Type} (isVoid : Value → Bool) (ofName? : String → Option α) : Value → Option α
  | .string s => ofName? s
  | .table _ [(key, value)] => if isVoid value then ofName? key else none
  | _ => none

/-- Whether a value is a table without entries. -/
def isEmptyTable : Value → Bool
  | .table _ [] => true
  | _ => false

/-- Whether a value is a table or an array without anything in it. -/
def isEmpty : Value → Bool
  | .array [] => true
  | v => isEmptyTable v

/-- A field that has to be there. -/
def field? {α : Type} (fields : List (String × Value)) (name : String)
    (read? : Value → Option α) : Option α :=
  (Value.valueOf? fields name).bind read?

/-- A field that may be missing, for which `usual` stands then. -/
def fieldOr? {α : Type} (fields : List (String × Value)) (name : String) (usual : α)
    (read? : Value → Option α) : Option α :=
  match Value.valueOf? fields name with
  | some v => read? v
  | none => some usual

/-- A field that may be missing. -/
def optional? {α : Type} (fields : List (String × Value)) (name : String)
    (read? : Value → Option α) : Option (Option α) :=
  fieldOr? fields name none fun v => (read? v).map some

/-- The override that a value is. -/
def override? (v : Value) : Option Override := do
  let fields ← record? ["protocol", "service_name", "description", "default_encryption",
    "typical_auth", "data_classification", "security_level", "direction"] v
  return {
    protocol := ← field? fields "protocol" text?
    service := ← field? fields "service_name" text?
    description := ← optional? fields "description" text?
    encrypted := ← fieldOr? fields "default_encryption" false bool?
    auth := ← optional? fields "typical_auth" text?
    sensitivity := ← optional? fields "data_classification" (named? isEmpty Sensitivity.ofName?)
    grade := ← optional? fields "security_level" (named? isEmpty Grade.ofName?)
    direction := ← optional? fields "direction" (named? isEmpty Direction.ofName?) }

/-- The overrides that a table holds. -/
def overrides? (v : Value) : Option (Dict PortKey Override) := do
  let entries ← (← entries? v).mapM fun e => do
    return (PortKey.text e.1, ← override? e.2)
  return Dict.ofList entries

/-- The policy that a value is. -/
def policy? (v : Value) : Option PolicyLayer := do
  let fields ← record? ["encrypted_services", "strong_auth_services", "default_auth"] v
  return {
    encrypted := ← optional? fields "encrypted_services" (list? text?)
    strongAuth := ← optional? fields "strong_auth_services" (list? text?)
    defaultAuth := ← optional? fields "default_auth" text? }

/-- The pattern that a table is, with the kind of services that it tells. -/
def pattern? (v : Value) : Option ServicePattern := do
  let fields ← entries? v
  return {
    text := ← field? fields "pattern" text?
    archetype := {
      kind := ← field? fields "service_type" text?
      ports := ← fieldOr? fields "typical_ports" [] (list? port?)
      protocols := ← field? fields "protocols" (list? text?)
      encrypted := ← fieldOr? fields "requires_encryption" false bool?
      auth := ← field? fields "typical_auth" text?
      sensitivity := ← field? fields "data_classification"
        (named? isEmptyTable Sensitivity.ofName?)
      considerations := ← fieldOr? fields "security_considerations" [] (list? text?) } }

/-- The keys of a layer. -/
def layerKeys : List String :=
  ["environment", "confidence_threshold", "port_overrides", "service_patterns", "security_policy"]

/-- The layer that a table is. -/
def layer? (v : Value) : Option Layer := do
  let entries ← entries? v
  if entries.all (·.1 ∈ layerKeys) then
    return {
      environment := ← optional? entries "environment" text?
      threshold := ← optional? entries "confidence_threshold" text?
      overrides := ← fieldOr? entries "port_overrides" [] overrides?
      patterns := ← fieldOr? entries "service_patterns" [] (list? pattern?)
      policy := ← optional? entries "security_policy" policy? }
  else none

end PortSurvey.Settings.Table

namespace PortSurvey.Settings

/-- The layer that a text gives. -/
def Layer.ofToml? (text : String) : Option Layer :=
  (Toml.Value.ofText? text).bind Table.layer?

end PortSurvey.Settings
