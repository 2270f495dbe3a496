import Mathlib.Algebra.Order.Ring.Unbundled.Rat
import PortSurvey.Inventory.Basic
import PortSurvey.Proofs.Dict
import PortSurvey.Proofs.FirstGreatest

/-!
# The declaration that a look-up finds

Of several declarations a look-up takes the first of those that are believed most
(`Inventory.best?_eq_some_iff`): it goes through them in order and lets a later one take the place
of an earlier one only if it is believed more. A question about a port that a service declares is
therefore answered by the first best declaration of that port by that very service
(`Inventory.lookup?_eq_some_iff_of_mem_portsOf`); declarations of other ports, and of services with
a similar name, do not matter.
-/

namespace PortSurvey.Inventory

/-! ## The first best -/

/-- Of a list of declarations `d` is the first of those that are believed most. -/
structure FirstBest (l : List Declaration) (d : Declaration) : Prop where
  /-- It is one of them. -/
  mem : d ∈ l
  /-- None is believed more. -/
  greatest : ∀ x ∈ l, x.confidence ≤ d.confidence
  /-- None that is believed as much comes before it. -/
  first : ∀ x ∈ l, d.confidence ≤ x.confidence → l.idxOf d ≤ l.idxOf x

/-- The best of declarations is the first at which their confidence is greatest. -/
theorem best?_eq_argmax (l : List Declaration) : best? l = l.argmax (·.confidence) := by
  refine foldl_eq_argmax (fun _ => rfl) (fun b x h => ?_) (fun b x h => ?_) l
  · exact if_pos h
  · exact if_neg (not_le_of_gt h)

/-- What is found best is the first best. -/
theorem best?_eq_some_iff {l : List Declaration} {d : Declaration} :
    best? l = some d ↔ FirstBest l d := by
  rw [best?_eq_argmax, List.argmax_eq_some_iff]
  exact ⟨fun ⟨hmem, hgreatest, hfirst⟩ => ⟨hmem, hgreatest, hfirst⟩,
    fun h => ⟨h.mem, h.greatest, h.first⟩⟩

/-- There is a best declaration unless there is none at all. -/
theorem best?_eq_none_iff {l : List Declaration} : best? l = none ↔ l = [] := by
  rw [best?_eq_argmax, List.argmax_eq_none]

/-! ## Questions about declared ports -/

variable (inventory : Inventory) (service : String)

/-- The declarations by which a service may be judged are declarations of the inventory. -/
theorem mem_of_mem_candidates {d : Declaration} (h : d ∈ inventory.candidates service) :
    d ∈ inventory.declarations := by
  unfold candidates ofService at h
  dsimp only at h
  split_ifs at h
  · exact List.mem_of_mem_filter h
  · exact List.mem_of_mem_filter h

/-- The declaration by which a service is judged is a declaration of the inventory. -/
theorem mem_of_lookup? {port : Option Nat} {d : Declaration}
    (h : inventory.lookup? service port = some d) : d ∈ inventory.declarations := by
  unfold lookup? at h
  rcases Option.or_eq_some_iff.mp h with hport | ⟨-, hall⟩
  · obtain ⟨p, -, hp⟩ := Option.bind_eq_some_iff.mp hport
    exact inventory.mem_of_mem_candidates service
      (List.mem_of_mem_filter (best?_eq_some_iff.mp hp).mem)
  · exact inventory.mem_of_mem_candidates service (best?_eq_some_iff.mp hall).mem

/-- The declarations of a port by a service. -/
def ofServiceOnPort (port : Nat) : List Declaration :=
  inventory.declarations.filter fun d => d.service == service && d.containerPort == port

/-- The declarations of a port by a service name that service and that port. -/
theorem of_mem_ofServiceOnPort {port : Nat} {d : Declaration}
    (h : d ∈ inventory.ofServiceOnPort service port) : d.service = service ∧ d.containerPort = port := by
  have hsame := (List.mem_filter.mp h).2
  rwa [Bool.and_eq_true, beq_iff_eq, beq_iff_eq] at hsame

/-- The ports of a service are those that its declarations declare. -/
theorem mem_portsOf_iff_exists {port : Nat} : port ∈ inventory.portsOf service ↔
    ∃ d ∈ inventory.declarations, d.service = service ∧ d.containerPort = port := by
  unfold portsOf ofService
  rw [Dict.mem_ascending, List.mem_map]
  simp only [List.mem_filter, beq_iff_eq, and_assoc]

/-- A service has a port exactly if it has a declaration of the port. -/
theorem mem_portsOf_iff {port : Nat} :
    port ∈ inventory.portsOf service ↔ inventory.ofServiceOnPort service port ≠ [] := by
  unfold ofServiceOnPort
  rw [mem_portsOf_iff_exists, Ne, List.filter_eq_nil_iff]
  simp only [Bool.and_eq_true, beq_iff_eq, not_forall, not_not, exists_prop]

/-- A service that declares a port is judged by the first best of its declarations of that port. -/
theorem lookup?_eq_some_iff_of_mem_portsOf {port : Nat}
    (h : port ∈ inventory.portsOf service) {d : Declaration} :
    inventory.lookup? service (some port) = some d ↔
      FirstBest (inventory.ofServiceOnPort service port) d := by
  have hnonempty : inventory.ofServiceOnPort service port ≠ [] :=
    (inventory.mem_portsOf_iff service).mp h
  -- The service is declared under its very name, so no similar name is considered.
  have hsame : (inventory.ofService service).filter (·.containerPort == port) =
      inventory.ofServiceOnPort service port := by
    unfold ofService ofServiceOnPort
    rw [List.filter_filter]
    exact List.filter_congr fun x _ => Bool.and_comm _ _
  have hexact : inventory.candidates service = inventory.ofService service := by
    unfold candidates
    rw [if_neg]
    intro hempty
    rw [List.isEmpty_iff] at hempty
    rw [hempty, List.filter_nil] at hsame
    exact hnonempty hsame.symm
  -- Some declaration is of the port, so no other port is considered.
  obtain ⟨best, hbest⟩ := Option.ne_none_iff_exists'.mp (mt best?_eq_none_iff.mp hnonempty)
  unfold lookup?
  dsimp only
  rw [hexact, Option.bind_some, hsame, hbest, Option.some_or, ← hbest]
  exact best?_eq_some_iff

end PortSurvey.Inventory
