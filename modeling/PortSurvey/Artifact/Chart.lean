import PortSurvey.Artifact.Basic
import PortSurvey.Port.Range
import PortSurvey.Yaml.Read

/-!
# Values of a chart

The values of a chart have no fixed form, so that all of them are searched for keys `port` with a
number and `ports` with a list. The search keeps a list of places still to be looked at, each with
its path; what a place holds is put in front, in the order of the document.
-/

namespace PortSurvey.Artifact.Chart

open Text
open Yaml (Value)

/-- Names at the front of a path that say what a part of a chart is, and not which service. -/
def genericNames : List String :=
  ["service", "container", "deployment", "server", "ports", "port"]

/-- The path of a key below a path. -/
def joinKey (path key : String) : String :=
  if path.isEmpty then key else path ++ "." ++ key

/-- The path of an item below a path. -/
def joinIndex (path : String) (index : Nat) : String :=
  path ++ "[" ++ toString index ++ "]"

/-- The front of a path: what stands before its first dot and bracket. -/
def frontName (path : String) : String :=
  String.ofList ((path.toList.takeWhile (· != '.')).takeWhile (· != '['))

/-- The service that a path speaks of. -/
def serviceOf (file : File) (path : String) : String :=
  let front := frontName path
  if front.isEmpty || front ∈ genericNames then file.service else front

/-- The declaration of a port whose key lies below `path` and has the path `keyPath`. -/
def declare (file : File) (path : String) (port : Nat) (keyPath : String) : Declaration :=
  (Declaration.basic (serviceOf file path) port .chartValues file.display).withContext
    "values_path" keyPath

/-- The port inside the container and the port outside it that an item of a list of ports names. -/
def itemPorts? (item : Value) : Option (Nat × Option Nat) :=
  match (item.get? "containerPort").bind Port.ofValue?, (item.get? "port").bind Port.ofValue? with
  | some container, host => some (container, host.filter (· != container))
  | none, some port => some (port, none)
  | none, none => none

/-- The declaration of an item of a list of ports. -/
def ofItem? (file : File) (path : String) (item : Value) (itemPath : String) :
    Option Declaration :=
  (itemPorts? item).map fun (container, host) =>
    let declared := { declare file path container itemPath with hostPort := host }
    (declared.withProtocol (((item.get? "protocol").bind Value.text?).getD "TCP")).withContext?
      "port_name" ((item.get? "name").bind Value.text?)

/-- Whether the value of a key is a port or a list of ports, and not a place to look at. -/
def isPorts (key : String) (child : Value) : Bool :=
  match child with
  | .number _ => key == "port"
  | .sequence _ => key == "ports"
  | _ => false

/-- The declarations that a key of a mapping makes. -/
def ofEntry (file : File) (path : String) (entry : Value × Value) : List Declaration :=
  match entry.1.text?, entry.2 with
  | some "port", .number n =>
    (Port.ofNumber? n).toList.map fun port => declare file path port (joinKey path "port")
  | some "ports", .sequence items =>
    items.zipIdx.filterMap fun (item, i) =>
      ofItem? file path item (joinIndex (joinKey path "ports") i)
  | _, _ => []

/-- The place that a key of a mapping leads to, with its path. -/
def placeOf? (path : String) (entry : Value × Value) : Option (String × Value) :=
  match entry.1.text? with
  | some key => if isPorts key entry.2 then none else some (joinKey path key, entry.2)
  | none => none

/-- The declarations that a value makes by its own keys. -/
def ofNode (file : File) (path : String) : Value → List Declaration
  | .mapping entries => entries.flatMap (ofEntry file path)
  | _ => []

/-- The places inside a value, with their paths. -/
def places (path : String) : Value → List (String × Value)
  | .mapping entries => entries.filterMap (placeOf? path)
  | .sequence items => items.zipIdx.map fun x => (joinIndex path x.2, x.1)
  | _ => []

mutual

/-- The number of values that a value consists of. -/
def weight : Value → Nat
  | .sequence items => 1 + weightItems items
  | .mapping entries => 1 + weightEntries entries
  | _ => 1

/-- The number of values that items consist of. -/
def weightItems : List Value → Nat
  | [] => 0
  | v :: rest => weight v + weightItems rest

/-- The number of values that the values of entries consist of. -/
def weightEntries : List (Value × Value) → Nat
  | [] => 0
  | (_, v) :: rest => weight v + weightEntries rest

end

/-- The number of values that places consist of. -/
def weightPlaces : List (String × Value) → Nat
  | [] => 0
  | (_, v) :: rest => weight v + weightPlaces rest

theorem weightPlaces_append (xs ys : List (String × Value)) :
    weightPlaces (xs ++ ys) = weightPlaces xs + weightPlaces ys := by
  induction xs with
  | nil => simp [weightPlaces]
  | cons x xs ih => simp [weightPlaces, ih]; omega

theorem weightPlaces_filterMap_le (path : String) (entries : List (Value × Value)) :
    weightPlaces (entries.filterMap (placeOf? path)) ≤ weightEntries entries := by
  induction entries with
  | nil => simp [weightPlaces, weightEntries]
  | cons e rest ih =>
    have key : ∀ p, placeOf? path e = some p → p.2 = e.2 := by
      intro p h
      simp only [placeOf?] at h
      split at h
      · split at h
        · cases h
        · cases h; rfl
      · cases h
    obtain ⟨k, v⟩ := e
    rw [List.filterMap_cons, weightEntries]
    split
    · omega
    · rename_i p h
      obtain ⟨q, u⟩ := p
      have := key _ h
      simp only at this
      subst this
      rw [weightPlaces]
      omega

theorem weightPlaces_zipIdx (path : String) (items : List Value) (n : Nat) :
    weightPlaces ((items.zipIdx n).map fun x => (joinIndex path x.2, x.1)) =
      weightItems items := by
  induction items generalizing n with
  | nil => simp [weightPlaces, weightItems]
  | cons v rest ih =>
    rw [List.zipIdx_cons, List.map_cons, weightPlaces, weightItems]
    simp only
    rw [ih]

/-- The places inside a value consist of fewer values than it does. -/
theorem weightPlaces_places_lt (path : String) (v : Value) :
    weightPlaces (places path v) < weight v := by
  cases v with
  | mapping entries =>
    have := weightPlaces_filterMap_le path entries
    simp only [places, weight]
    omega
  | sequence items =>
    have := weightPlaces_zipIdx path items 0
    simp only [places, weight]
    omega
  | _ => simp [places, weight, weightPlaces]

/-- The declarations of places, of which the first is looked at next. -/
def ofPlaces (file : File) : List (String × Value) → List Declaration
  | [] => []
  | (path, v) :: rest => ofNode file path v ++ ofPlaces file (places path v ++ rest)
termination_by todo => weightPlaces todo
decreasing_by
  have := weightPlaces_places_lt path v
  rw [weightPlaces_append, weightPlaces]
  omega

/-- The declarations of the values of a chart. -/
def read (file : File) (content : String) : Except Fault (List Declaration) :=
  match Value.ofText content with
  | .ok root => .ok (ofPlaces file [("", root)])
  | .error _ => .error .malformed

end PortSurvey.Artifact.Chart
