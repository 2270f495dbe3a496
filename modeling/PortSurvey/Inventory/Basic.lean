import PortSurvey.Inventory.Report
import PortSurvey.Path
import PortSurvey.Text.Split

/-!
# Inventories

An `Inventory` holds the declarations that a survey found below a root, in the order in which they
were found. `lookup?` answers by which declaration a service is to be judged: a service of exactly
that name is preferred to one whose name is a part of it or has it as a part, a declaration of the
port in question to others, higher confidence to lower, and what was found earlier to what came
later.
-/

namespace PortSurvey

open Text

/-- The declarations found below a root. -/
structure Inventory where
  /-- The root of the survey, as it was spelled. -/
  root : Path
  /-- The declarations, in the order in which they were found. -/
  declarations : List Declaration
  deriving DecidableEq

namespace Inventory

/-- An inventory without declarations. -/
def empty (root : Path) : Inventory :=
  ⟨root, []⟩

/-- The number of declarations. -/
def size (inventory : Inventory) : Nat :=
  inventory.declarations.length

/-- Whether there are no declarations. -/
def isEmpty (inventory : Inventory) : Bool :=
  inventory.declarations.isEmpty

/-- The services that have a declaration, in ascending order and each once. -/
def services (inventory : Inventory) : List String :=
  ascending (inventory.declarations.map (·.service))

/-- The declarations of the service with exactly this name. -/
def ofService (inventory : Inventory) (service : String) : List Declaration :=
  inventory.declarations.filter (·.service == service)

/-- The ports inside the containers of a service, in ascending order and each once. -/
def portsOf (inventory : Inventory) (service : String) : List Nat :=
  ascending ((inventory.ofService service).map (·.containerPort))

/-- A name without blanks around it and in lower case. -/
def foldName (name : String) : String :=
  lower (trim name)

/-- Whether a declared name resembles a query: one holds the other, in any case. Blank names
resemble nothing. -/
def resembles (query name : String) : Bool :=
  let query := foldName query
  let name := foldName name
  !query.isEmpty && !name.isEmpty && (holds name query || holds query name)

/-- The declarations by which a service may be judged. -/
def candidates (inventory : Inventory) (service : String) : List Declaration :=
  let exact := inventory.ofService service
  if exact.isEmpty then inventory.declarations.filter (fun d => resembles service d.service)
  else exact

/-- The first of the declarations of the highest confidence. -/
def best? (declarations : List Declaration) : Option Declaration :=
  declarations.foldl (fun best d =>
    match best with
    | some b => if d.confidence ≤ b.confidence then some b else some d
    | none => some d) none

/-- The declaration by which a service is judged, if any; `port` is the port in question. -/
def lookup? (inventory : Inventory) (service : String) (port : Option Nat) :
    Option Declaration :=
  let all := inventory.candidates service
  let onPort := port.bind fun p => best? (all.filter (·.containerPort == p))
  onPort.or (best? all)

/-- The summary of an inventory. -/
def report (inventory : Inventory) : Report :=
  Report.ofDeclarations inventory.declarations

end Inventory

end PortSurvey
