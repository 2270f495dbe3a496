import Mathlib.Data.List.Sort
import Mathlib.Data.String.Basic
import PortSurvey.Inventory.Index
import PortSurvey.Proofs.Dict
import PortSurvey.Proofs.Grouping

/-!
# What the index lists

The index is filled with one declaration after the other (`Inventory.addPlace`). Each adds its place
behind those of its service and leaves the other services alone, so that in the end the places of a
service are those of the declarations with its name, in order (`placesOf_eq`). The keys of the index
are the services (`keys_index`).

With the declarations that stand there, the places of a service are the part of the inventory that
`ofService` picks out (`ofService_eq_atPlaces`), and the places of all services are all places, each
once (`flatMap_placesOf_perm`).
-/

namespace PortSurvey.Inventory

/-! ## Filling the index -/

/-- The index with one more declaration and its place. -/
def addPlace (index : Dict String (List Nat)) (x : Declaration × Nat) : Dict String (List Nat) :=
  index.update x.1.service [x.2] (· ++ [x.2])

/-- A declaration adds its place behind those of its service, and to no other service. -/
theorem find?_addPlace (index : Dict String (List Nat)) (x : Declaration × Nat) (service : String) :
    ((addPlace index x).find? service).getD [] =
      (index.find? service).getD [] ++ if x.1.service = service then [x.2] else [] := by
  unfold addPlace Dict.update
  rw [Dict.find?_insert]
  split_ifs with h
  · rw [h]
    cases index.find? service <;> rfl
  · rw [List.append_nil]

/-- Declarations add their places to those of their services, in order. -/
theorem find?_foldl_addPlace (placed : List (Declaration × Nat)) (index : Dict String (List Nat))
    (service : String) : ((placed.foldl addPlace index).find? service).getD [] =
      (index.find? service).getD [] ++
        (placed.filter (·.1.service == service)).map (·.2) := by
  -- Every declaration comes to what the ones before it left, so the start is arbitrary.
  induction placed generalizing index with
  | nil => rw [List.foldl_nil, List.filter_nil, List.map_nil, List.append_nil]
  | cons x placed ih =>
    rw [List.foldl_cons, ih, find?_addPlace, List.append_assoc, List.filter_cons]
    simp only [beq_iff_eq]
    split_ifs <;> rfl

/-- The services of an index with more declarations are those that it had and those of the
declarations. -/
theorem mem_keys_foldl_addPlace (placed : List (Declaration × Nat))
    (index : Dict String (List Nat)) (service : String) :
    service ∈ (placed.foldl addPlace index).keys ↔
      service ∈ index.keys ∨ ∃ x ∈ placed, x.1.service = service := by
  induction placed generalizing index with
  | nil => simp
  | cons x placed ih =>
    have hkeys : (addPlace index x).keys = insertOnce x.1.service index.keys :=
      Dict.keys_insert _ _ _
    rw [List.foldl_cons, ih, hkeys, Dict.mem_insertOnce, List.exists_mem_cons_iff,
      or_comm (a := _ = _), or_assoc, eq_comm]

/-- The services of an index stay in order when declarations are added. -/
theorem pairwise_keys_foldl_addPlace (placed : List (Declaration × Nat))
    {index : Dict String (List Nat)} (h : index.keys.Pairwise (· < ·)) :
    (placed.foldl addPlace index).keys.Pairwise (· < ·) := by
  induction placed generalizing index with
  | nil => exact h
  | cons x placed ih =>
    rw [List.foldl_cons]
    refine ih ?_
    rw [addPlace, Dict.update, Dict.keys_insert]
    exact Dict.pairwise_insertOnce h

variable (inventory : Inventory) (service : String)

/-! ## Services and their places -/

/-- A service is a name that some declaration has. -/
theorem mem_services_iff :
    service ∈ inventory.services ↔ ∃ d ∈ inventory.declarations, d.service = service := by
  unfold services
  rw [Dict.mem_ascending, List.mem_map]

/-- The services are in ascending order. -/
theorem pairwise_services : inventory.services.Pairwise (· < ·) :=
  Dict.pairwise_ascending _

/-- The keys of the index are the services. -/
theorem keys_index : inventory.index.keys = inventory.services := by
  -- Both lists ascend, and an ascending list is told by its members.
  have hkeys : inventory.index.keys.Pairwise (· < ·) :=
    pairwise_keys_foldl_addPlace inventory.declarations.zipIdx .nil
  refine hkeys.eq_of_mem_iff inventory.pairwise_services fun {service} => ?_
  unfold index
  rw [mem_services_iff]
  refine (mem_keys_foldl_addPlace _ _ _).trans ((or_iff_right List.not_mem_nil).trans ?_)
  constructor
  · rintro ⟨x, hx, hservice⟩
    exact ⟨x.1, List.mem_of_getElem? (List.mem_zipIdx_iff_getElem?.mp hx), hservice⟩
  · rintro ⟨d, hd, hservice⟩
    obtain ⟨i, hi⟩ := List.mem_iff_getElem?.mp hd
    exact ⟨(d, i), List.mem_zipIdx_iff_getElem?.mpr hi, hservice⟩

/-- The places of a service are those of the declarations with its name, in order. -/
theorem placesOf_eq : inventory.placesOf service =
    (inventory.declarations.zipIdx.filter (·.1.service == service)).map (·.2) :=
  find?_foldl_addPlace inventory.declarations.zipIdx [] service

/-- The places of a service are in ascending order. -/
theorem pairwise_placesOf : (inventory.placesOf service).Pairwise (· < ·) := by
  rw [placesOf_eq, List.pairwise_map]
  exact (zipIdx_pairwise _).filter _

/-- A place is one of a service exactly if a declaration with its name stands there. -/
theorem mem_placesOf_iff {i : Nat} : i ∈ inventory.placesOf service ↔
    ∃ d, inventory.declarations[i]? = some d ∧ d.service = service := by
  rw [placesOf_eq, List.mem_map]
  constructor
  · rintro ⟨x, hx, rfl⟩
    obtain ⟨hmem, hservice⟩ := List.mem_filter.mp hx
    exact ⟨x.1, List.mem_zipIdx_iff_getElem?.mp hmem, beq_iff_eq.mp hservice⟩
  · rintro ⟨d, hd, hservice⟩
    exact ⟨(d, i), List.mem_filter.mpr
      ⟨List.mem_zipIdx_iff_getElem?.mpr hd, beq_iff_eq.mpr hservice⟩, rfl⟩

/-! ## The declarations at the places -/

/-- What stands at the places of placed declarations is those declarations. -/
theorem atPlaces_map {placed : List (Declaration × Nat)}
    (h : ∀ x ∈ placed, x ∈ inventory.declarations.zipIdx) :
    inventory.atPlaces (placed.map (·.2)) = placed := by
  unfold atPlaces
  rw [List.filterMap_map]
  calc placed.filterMap ((fun i => inventory.declarations[i]?.map (·, i)) ∘ (·.2))
      = placed.filterMap some := by
        refine List.filterMap_congr fun x hx => ?_
        show inventory.declarations[x.2]?.map (·, x.2) = some x
        rw [List.mem_zipIdx_iff_getElem?.mp (h x hx)]
        rfl
    _ = placed := List.filterMap_some

/-- At the places of a service stand the declarations with its name. -/
theorem atPlaces_placesOf : inventory.atPlaces (inventory.placesOf service) =
    inventory.declarations.zipIdx.filter (·.1.service == service) := by
  rw [placesOf_eq]
  exact inventory.atPlaces_map fun x hx => List.mem_of_mem_filter hx

/-- The declarations of a service are those at its places. -/
theorem ofService_eq_atPlaces : inventory.ofService service =
    (inventory.atPlaces (inventory.placesOf service)).map (·.1) := by
  rw [atPlaces_placesOf]
  exact (map_filter_zipIdx (fun d : Declaration => d.service == service) _).symm

/-- The declarations of all services, each with its place, are all declarations. -/
theorem flatMap_atPlaces_perm :
    (inventory.services.flatMap fun service =>
      inventory.atPlaces (inventory.placesOf service)).Perm inventory.declarations.zipIdx := by
  have hservices : inventory.services.Nodup :=
    inventory.pairwise_services.imp fun {_ _} hless => hless.ne
  simp only [atPlaces_placesOf]
  -- The services are all different and every declaration has one, so none is lost or met twice.
  refine flatMap_filter_perm hservices fun x hx => (inventory.mem_services_iff _).mpr ?_
  exact ⟨x.1, List.mem_of_getElem? (List.mem_zipIdx_iff_getElem?.mp hx), rfl⟩

/-- The places of all services are all places, each once. -/
theorem flatMap_placesOf_perm :
    (inventory.services.flatMap inventory.placesOf).Perm (List.range inventory.size) := by
  have hplaces : ∀ service, inventory.placesOf service =
      (inventory.atPlaces (inventory.placesOf service)).map (·.2) := by
    intro service
    rw [atPlaces_placesOf, placesOf_eq]
  have hperm := inventory.flatMap_atPlaces_perm.map (·.2)
  rw [List.map_flatMap, List.zipIdx_map_snd] at hperm
  rw [size, List.range_eq_range']
  simpa only [← hplaces] using hperm

/-- The declarations of all services are all declarations, each as often as it was found. -/
theorem flatMap_ofService_perm :
    (inventory.services.flatMap inventory.ofService).Perm inventory.declarations := by
  have hperm := inventory.flatMap_atPlaces_perm.map (·.1)
  rw [List.map_flatMap, List.zipIdx_map_fst] at hperm
  simpa only [← ofService_eq_atPlaces] using hperm

end PortSurvey.Inventory
