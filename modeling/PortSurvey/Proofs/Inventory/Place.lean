import PortSurvey.Proofs.Inventory.Index
import PortSurvey.Proofs.Inventory.Lookup

/-!
# The place that a look-up finds

`Inventory.place?` goes through the declarations with their places just as `Inventory.lookup?` goes
through them without, and so it tells where that stands which the look-up finds
(`lookup?_eq_bind_place?`). Places are all different, so a service that is judged by the declaration
at a place is judged by the one at the very same place in questions about its port
(`placed?_containerPort`), whatever other declarations say the same.
-/

namespace PortSurvey.Inventory

/-! ## The look-up by places -/

/-- The best of placed declarations is the first at which their confidence is greatest. -/
theorem bestPlaced?_eq_argmax (placed : List (Declaration × Nat)) :
    bestPlaced? placed = placed.argmax (·.1.confidence) := by
  refine foldl_eq_argmax (fun _ => rfl) (fun b x h => ?_) (fun b x h => ?_) placed
  · exact if_pos h
  · exact if_neg (not_le_of_gt h)

/-- Of placed declarations the best is the best of the declarations. -/
theorem map_bestPlaced? (placed : List (Declaration × Nat)) :
    (bestPlaced? placed).map (·.1) = best? (placed.map (·.1)) := by
  rw [bestPlaced?_eq_argmax, best?_eq_argmax, argmax_map]
  rfl

variable (inventory : Inventory) (service : String) (port : Option Nat)

/-- The candidates stand at their places. -/
theorem mem_zipIdx_of_mem_placedCandidates {x : Declaration × Nat}
    (h : x ∈ inventory.placedCandidates service) : x ∈ inventory.declarations.zipIdx := by
  unfold placedCandidates at h
  rw [atPlaces_placesOf] at h
  dsimp only at h
  split_ifs at h
  · exact List.mem_of_mem_filter h
  · exact List.mem_of_mem_filter h

/-- Without their places the candidates are those of the look-up. -/
theorem map_placedCandidates :
    (inventory.placedCandidates service).map (·.1) = inventory.candidates service := by
  unfold placedCandidates candidates
  dsimp only
  rw [ofService_eq_atPlaces, List.isEmpty_map]
  split_ifs
  · -- No declaration has the name, so that those with a similar one are taken.
    exact map_filter_zipIdx (fun d : Declaration => resembles service d.service) _
  · rfl

/-- What is found with its place is what the look-up finds. -/
theorem map_placed? :
    (inventory.placed? service port).map (·.1) = inventory.lookup? service port := by
  have hport : ∀ p, (bestPlaced? ((inventory.placedCandidates service).filter
      (·.1.containerPort == p))).map (·.1) =
        best? ((inventory.candidates service).filter (·.containerPort == p)) := by
    intro p
    rw [map_bestPlaced?, ← map_placedCandidates, List.filter_map]
    rfl
  unfold placed? lookup?
  dsimp only
  rw [Option.map_or, Option.map_bind, map_bestPlaced?, map_placedCandidates]
  simp only [Function.comp_def, hport]

/-- What is found stands at the place that is told. -/
theorem getElem?_of_placed? {x : Declaration × Nat} (h : inventory.placed? service port = some x) :
    inventory.declarations[x.2]? = some x.1 := by
  have hbest : ∀ {placed : List (Declaration × Nat)}, bestPlaced? placed = some x → x ∈ placed := by
    intro placed hx
    rw [bestPlaced?_eq_argmax] at hx
    exact List.argmax_mem hx
  refine List.mem_zipIdx_iff_getElem?.mp
    (inventory.mem_zipIdx_of_mem_placedCandidates service ?_)
  unfold placed? at h
  rcases Option.or_eq_some_iff.mp h with hport | ⟨-, hall⟩
  · obtain ⟨p, -, hp⟩ := Option.bind_eq_some_iff.mp hport
    exact List.mem_of_mem_filter (hbest hp)
  · exact hbest hall

/-- The look-up finds the declaration that stands at the place. -/
theorem lookup?_eq_bind_place? : inventory.lookup? service port =
    (inventory.place? service port).bind (inventory.declarations[·]?) := by
  rw [← map_placed?, place?]
  cases h : inventory.placed? service port with
  | none => rfl
  | some x => exact (inventory.getElem?_of_placed? service port h).symm

/-! ## Questions about the own port -/

/-- A service that is judged by the declaration at a place is judged by the one at this place in
questions about its port too. -/
theorem placed?_containerPort {x : Declaration × Nat}
    (h : inventory.placed? service none = some x) :
    inventory.placed? service (some x.1.containerPort) = some x := by
  have hall : bestPlaced? (inventory.placedCandidates service) = some x := h
  -- Items with their places are all different, so it is this very one that stays the best.
  have hport : bestPlaced? ((inventory.placedCandidates service).filter
      (·.1.containerPort == x.1.containerPort)) = some x := by
    rw [bestPlaced?_eq_argmax] at hall ⊢
    exact argmax_filter_of_argmax hall (beq_self_eq_true _)
  unfold placed?
  dsimp only
  rw [Option.bind_some, hport, Option.some_or]

/-- A service that is judged by a declaration is judged by it in questions about its port too. -/
theorem lookup?_containerPort {d : Declaration} (h : inventory.lookup? service none = some d) :
    inventory.lookup? service (some d.containerPort) = some d := by
  rw [← map_placed?] at h ⊢
  obtain ⟨x, hx, rfl⟩ := Option.map_eq_some_iff.mp h
  rw [inventory.placed?_containerPort service hx]
  rfl

end PortSurvey.Inventory
