import PortSurvey.Inventory.Basic

/-!
# Inventories by place

The place of a declaration is the number of declarations that were found before it. `index` lists
the places of each service, and `place?` goes through the declarations like `lookup?` does but tells
the place of the one that it finds, so that two declarations that say the same are told apart.
-/

namespace PortSurvey.Inventory

variable (inventory : Inventory)

/-- The places at which each service is declared, in the order in which they were found. -/
def index : Dict String (List Nat) :=
  inventory.declarations.zipIdx.foldl
    (fun index x => index.update x.1.service [x.2] (· ++ [x.2])) []

/-- The places at which a service is declared. -/
def placesOf (service : String) : List Nat :=
  (inventory.index.find? service).getD []

/-- The declarations at places, each with its place. -/
def atPlaces (places : List Nat) : List (Declaration × Nat) :=
  places.filterMap fun i => inventory.declarations[i]?.map (·, i)

/-- The declarations by which a service may be judged, each with its place. -/
def placedCandidates (service : String) : List (Declaration × Nat) :=
  let exact := inventory.atPlaces (inventory.placesOf service)
  if exact.isEmpty then
    inventory.declarations.zipIdx.filter (fun x => resembles service x.1.service)
  else exact

/-- The first of the declarations of the highest confidence, with its place. -/
def bestPlaced? (placed : List (Declaration × Nat)) : Option (Declaration × Nat) :=
  placed.foldl (fun best x =>
    match best with
    | some b => if x.1.confidence ≤ b.1.confidence then some b else some x
    | none => some x) none

/-- The declaration by which a service is judged with its place, if any; `port` is the port in
question. -/
def placed? (service : String) (port : Option Nat) : Option (Declaration × Nat) :=
  let all := inventory.placedCandidates service
  let onPort := port.bind fun p => bestPlaced? (all.filter (·.1.containerPort == p))
  onPort.or (bestPlaced? all)

/-- The place of the declaration by which a service is judged, if any. -/
def place? (service : String) (port : Option Nat) : Option Nat :=
  (inventory.placed? service port).map (·.2)

end PortSurvey.Inventory
