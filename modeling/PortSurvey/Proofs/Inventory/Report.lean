import Mathlib.Algebra.Order.Ring.Unbundled.Rat
import PortSurvey.Proofs.Inventory.Index
import PortSurvey.Proofs.Inventory.Lookup
import PortSurvey.Proofs.Tally

/-!
# The report agrees with the index

The report of an inventory is made from the declarations alone. It goes through them for the names
that it has not met yet and sorts these in the end, where the index keeps its keys in order from the
start; both come to the same list (`Report.services_eq`). Its counts by kind of place are a `tally`,
and of the three bands of confidence each declaration falls into one (`Report.sum_bands`), so every
sum in the report is the number of declarations.

`Inventory.index_partitions` puts this together with what the index lists.
-/

namespace PortSurvey

/-! ## Reports -/

namespace Origin

/-- There are no other kinds of places than all of them. -/
theorem mem_all (o : Origin) : o ∈ all := by
  cases o <;> decide

/-- No kind of place is listed twice. -/
theorem nodup_all : all.Nodup := by
  decide

end Origin

namespace Report

variable (declarations : List Declaration)

/-- The services of a report are the names of the declarations in ascending order, each once. -/
theorem services_eq :
    (ofDeclarations declarations).services = ascending (declarations.map (·.service)) := by
  show ((declarations.map (·.service)).eraseDups).mergeSort (fun a b => a ≤ b) = _
  generalize declarations.map (·.service) = names
  have hsorted := List.pairwise_mergeSort' (· ≤ ·) names.eraseDups
  have hnodup : (names.eraseDups.mergeSort (fun a b => a ≤ b)).Nodup :=
    (List.mergeSort_perm _ _).nodup_iff.mpr (nodup_eraseDups names)
  -- Names that are sorted and all different ascend, and an ascending list is told by its members.
  have hascending : (names.eraseDups.mergeSort (fun a b => a ≤ b)).Pairwise (· < ·) :=
    hsorted.imp₂ (fun _ _ hle hne => lt_of_le_of_ne hle hne) hnodup
  refine hascending.eq_of_mem_iff (Dict.pairwise_ascending names) fun {name} => ?_
  rw [List.mem_mergeSort, List.mem_eraseDups, Dict.mem_ascending]

/-- The entries of a report are a tally of the kinds of places. -/
theorem byOrigin_eq : (ofDeclarations declarations).byOrigin =
    tally Origin.all (declarations.map (·.origin)) := by
  have hcount : ∀ o, (declarations.map (·.origin)).count o = declarations.countP (·.origin == o) :=
    fun o => List.countP_map
  unfold tally
  simp only [hcount]
  rfl

/-- The declarations of high confidence are those of at least nine tenths. -/
theorem isHigh_iff (d : Declaration) : isHigh d = true ↔ 9 / 10 ≤ d.confidence :=
  decide_eq_true_iff

/-- The declarations of medium confidence are those of at least seven tenths, but not nine. -/
theorem isMedium_iff (d : Declaration) :
    isMedium d = true ↔ 7 / 10 ≤ d.confidence ∧ d.confidence < 9 / 10 := by
  have hhigh := isHigh_iff d
  unfold isMedium mediumConfidence
  rw [Bool.and_eq_true, Bool.not_eq_true', Bool.eq_false_iff, Ne, hhigh, not_le,
    decide_eq_true_iff, and_comm]

/-- The declarations of low confidence are those of less than seven tenths. -/
theorem isLow_iff (d : Declaration) : isLow d = true ↔ d.confidence < 7 / 10 := by
  have hbands : (7 / 10 : Rat) ≤ 9 / 10 := by decide +kernel
  unfold isLow
  rw [Bool.and_eq_true, Bool.not_eq_true', Bool.not_eq_true', Bool.eq_false_iff,
    Bool.eq_false_iff, Ne, Ne, isHigh_iff, isMedium_iff, not_le, not_and, not_lt]
  constructor
  · rintro ⟨hhigh, hmedium⟩
    by_contra hle
    exact absurd (hmedium (not_lt.mp hle)) (not_le.mpr hhigh)
  · intro hlow
    exact ⟨hlow.trans_le hbands, fun hmedium => absurd hlow (not_lt.mpr hmedium)⟩

/-- Each declaration is of high, of medium or of low confidence, and of one of them only. -/
theorem sum_bands : (ofDeclarations declarations).high + (ofDeclarations declarations).medium +
    (ofDeclarations declarations).low = declarations.length := by
  show declarations.countP isHigh + declarations.countP isMedium + declarations.countP isLow = _
  induction declarations with
  | nil => rfl
  | cons d rest ih =>
    -- The next declaration adds one to the sum, whichever band it falls in.
    have hone : (if isHigh d then 1 else 0) + (if isMedium d then 1 else 0) +
        (if isLow d then 1 else 0) = 1 := by
      unfold isLow isMedium
      cases isHigh d
      · cases decide (mediumConfidence ≤ d.confidence) <;> rfl
      · rfl
    rw [List.countP_cons, List.countP_cons, List.countP_cons, List.length_cons]
    omega

end Report

/-! ## Inventories -/

namespace Inventory

/-- The index of an inventory and its report account for every declaration. -/
structure Partitioned (inventory : Inventory) : Prop where
  /-- The services are in ascending order, each once. -/
  services_ascending : inventory.services.Pairwise (· < ·)
  /-- They are the names that occur. -/
  mem_services : ∀ s, s ∈ inventory.services ↔ ∃ d ∈ inventory.declarations, d.service = s
  /-- They are the keys of the index. -/
  keys : inventory.index.keys = inventory.services
  /-- The places of a service are in ascending order. -/
  places_ascending : ∀ s, (inventory.placesOf s).Pairwise (· < ·)
  /-- They are the places where a declaration with its name stands. -/
  mem_places : ∀ s i, i ∈ inventory.placesOf s ↔
    ∃ d, inventory.declarations[i]? = some d ∧ d.service = s
  /-- The declarations of a service are those at its places, in the order of the inventory. -/
  ofService : ∀ s, inventory.ofService s =
    (inventory.placesOf s).filterMap (inventory.declarations[·]?)
  /-- The places of all services together are all places, each once. -/
  places : (inventory.services.flatMap inventory.placesOf).Perm (List.range inventory.size)
  /-- The declarations of all services together are all declarations. -/
  declarations : (inventory.services.flatMap inventory.ofService).Perm inventory.declarations
  /-- The ports of a service are in ascending order, each once. -/
  ports_ascending : ∀ s, (inventory.portsOf s).Pairwise (· < ·)
  /-- They are the ports that its declarations declare. -/
  mem_ports : ∀ s p, p ∈ inventory.portsOf s ↔
    ∃ d ∈ inventory.declarations, d.service = s ∧ d.containerPort = p
  /-- The report lists the same services. -/
  report_services : inventory.report.services = inventory.services
  /-- Its total is the number of declarations. -/
  total : inventory.report.total = inventory.size
  /-- A kind of place has an entry exactly if a declaration stands in such a place, and the entry is
  their number. -/
  origins : ∀ o n, (o, n) ∈ inventory.report.byOrigin ↔
    0 < n ∧ n = inventory.declarations.countP (·.origin == o)
  /-- The kinds of places stand in their order, each once. -/
  origins_order : (inventory.report.byOrigin.map (·.1)).Sublist Origin.all
  /-- The entries add up to the number of declarations. -/
  sum_origins : (inventory.report.byOrigin.map (·.2)).sum = inventory.size
  /-- The declarations of nine tenths and more are counted as high. -/
  high : inventory.report.high = inventory.declarations.countP (9 / 10 ≤ ·.confidence)
  /-- The declarations between seven tenths and nine are counted as medium. -/
  medium : inventory.report.medium = inventory.declarations.countP fun d =>
    7 / 10 ≤ d.confidence ∧ d.confidence < 9 / 10
  /-- The declarations of less than seven tenths are counted as low. -/
  low : inventory.report.low = inventory.declarations.countP (·.confidence < 7 / 10)
  /-- The bands add up to the number of declarations. -/
  sum_bands : inventory.report.high + inventory.report.medium + inventory.report.low =
    inventory.size

variable (inventory : Inventory)

/-- The index of an inventory divides the declarations among the services, and the report counts
what the index divides. -/
theorem index_partitions : inventory.Partitioned where
  services_ascending := inventory.pairwise_services
  mem_services := inventory.mem_services_iff
  keys := inventory.keys_index
  places_ascending := inventory.pairwise_placesOf
  mem_places s _ := inventory.mem_placesOf_iff s
  ofService s := by
    rw [ofService_eq_atPlaces, atPlaces, List.map_filterMap]
    simp only [Option.map_map, Function.comp_def, Option.map_id']
  places := inventory.flatMap_placesOf_perm
  declarations := inventory.flatMap_ofService_perm
  ports_ascending _ := Dict.pairwise_ascending _
  mem_ports s _ := inventory.mem_portsOf_iff_exists s
  report_services := Report.services_eq _
  total := rfl
  origins o n := by
    show (o, n) ∈ (Report.ofDeclarations inventory.declarations).byOrigin ↔ _
    rw [Report.byOrigin_eq, mem_tally_iff Origin.mem_all]
    exact and_congr_right fun _ => by rw [List.count, List.countP_map]; rfl
  origins_order := by
    show ((Report.ofDeclarations inventory.declarations).byOrigin.map (·.1)).Sublist _
    rw [Report.byOrigin_eq]
    exact map_tally_sublist _ _
  sum_origins := by
    show ((Report.ofDeclarations inventory.declarations).byOrigin.map (·.2)).sum = _
    rw [Report.byOrigin_eq, sum_tally Origin.mem_all Origin.nodup_all, List.length_map]
    rfl
  high := List.countP_congr fun d _ => by rw [Report.isHigh_iff, decide_eq_true_iff]
  medium := List.countP_congr fun d _ => by rw [Report.isMedium_iff, decide_eq_true_iff]
  low := List.countP_congr fun d _ => by rw [Report.isLow_iff, decide_eq_true_iff]
  sum_bands := Report.sum_bands _

end Inventory

end PortSurvey
