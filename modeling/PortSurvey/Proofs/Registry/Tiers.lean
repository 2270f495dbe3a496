import Mathlib.Data.List.Find
import Mathlib.Data.List.Nodup
import PortSurvey.Proofs.Registry

/-!
# What a registry makes of its tiers

A registry has two indexes, which are filled in one pass over the rows of its tiers: the meanings by
their ports, and the ports by the names of their services. A row whose port has a meaning gets into
neither of them, and a row whose name has a port only into the first. One more row is told of each
index by a step lemma (`find?_add`, `ports_find?_add`, `Ordered.add`), and all rows by induction.

`ofTiers_indexes` concludes what the indexes answer (`Indexes`). A port means what the first row
says that claims it. A name has the port of the first row of that name which is kept, so that the two
indexes agree: what has a port by its name is what the port means.
-/

namespace PortSurvey.Registry

open Text

/-! ## The order of the meanings -/

/-- The meanings stand in ascending order of their ports, each under its own. -/
structure Ordered (r : Registry) : Prop where
  /-- The ports ascend. -/
  ascending : r.standards.keys.Pairwise (· < ·)
  /-- Each meaning stands under its port. -/
  own : ∀ e ∈ r.standards, e.2.port = e.1

/-- A registry without ports is in order. -/
theorem ordered_empty : empty.Ordered :=
  ⟨.nil, fun _ he => absurd he List.not_mem_nil⟩

/-- An added meaning is put where the order wants it. -/
theorem Ordered.add {r : Registry} (h : r.Ordered) (s : Standard) : (r.add s).Ordered := by
  unfold Registry.add
  split_ifs
  · exact h
  · refine ⟨?_, fun e he => ?_⟩
    · show (r.standards.insert s.port s).keys.Pairwise (· < ·)
      rw [Dict.keys_insert]
      exact Dict.pairwise_insertOnce h.ascending
    · rcases Dict.mem_of_mem_insert he with rfl | hknown
      · rfl
      · exact h.own e hknown

/-- A registry that is filled with tiers is in order. -/
theorem ordered_ofTiers (tiers : List (Level × List Row)) : (ofTiers tiers).Ordered := by
  unfold ofTiers
  generalize claims tiers = rows
  suffices h : ∀ r : Registry, r.Ordered → (rows.foldl Registry.add r).Ordered from
    h empty ordered_empty
  induction rows with
  | nil => exact fun _ h => h
  | cons s rest ih => exact fun r h => ih (r.add s) (h.add s)

section Ordered

variable {r : Registry} (h : r.Ordered)
include h

/-- The ports of the meanings that are listed are the keys of the first index. -/
theorem Ordered.map_port_toList : r.toList.map (·.port) = r.standards.keys := by
  unfold toList Dict.values Dict.keys
  rw [List.map_map]
  exact List.map_congr_left h.own

/-- The meanings that are listed are those with which the ports answer. -/
theorem Ordered.mem_toList_iff {s : Standard} : s ∈ r.toList ↔ r.find? s.port = some s := by
  unfold toList Dict.values find?
  rw [List.mem_map]
  constructor
  · rintro ⟨e, he, rfl⟩
    rw [h.own e he]
    exact Dict.find?_of_mem h.ascending.nodup he
  · exact fun hfind => ⟨_, Dict.mem_of_find? hfind, rfl⟩

end Ordered

/-! ## The first row of a port -/

/-- In the order of the tiers and their rows, `row` is the first that claims a port, and its tier is
of the level. -/
def FirstClaim (tiers : List (Level × List Row)) (port : Nat) (level : Level) (row : Row) : Prop :=
  ∃ earlier above below later, tiers = earlier ++ (level, above ++ row :: below) :: later ∧
    row.port = port ∧ (∀ tier ∈ earlier, ∀ x ∈ tier.2, x.port ≠ port) ∧ ∀ x ∈ above, x.port ≠ port

/-- No row of a tier claims a port if none of the meanings that the tier gives is of it. -/
theorem find?_tier_eq_none_iff {level : Level} {rows : List Row} {port : Nat} :
    ((rows.map (·.standard level)).find? fun s => s.port = port) = none ↔
      ∀ row ∈ rows, row.port ≠ port := by
  rw [List.find?_eq_none, List.forall_mem_map]
  simp only [decide_eq_true_eq]
  rfl

/-- The first meaning of a port that tiers give is what the first row that claims it says. -/
theorem find?_claims_eq_some_iff {tiers : List (Level × List Row)} {port : Nat} {s : Standard} :
    ((claims tiers).find? fun s => s.port = port) = some s ↔
      ∃ level row, FirstClaim tiers port level row ∧ s = row.standard level := by
  unfold claims FirstClaim
  rw [List.find?_flatMap, List.findSome?_eq_some_iff]
  constructor
  · rintro ⟨earlier, ⟨level, rows⟩, later, rfl, hfind, hearlier⟩
    rw [List.find?_map] at hfind
    obtain ⟨row, hrow, rfl⟩ := Option.map_eq_some_iff.mp hfind
    obtain ⟨hport, above, below, rfl, habove⟩ := List.find?_eq_some_iff_append.mp hrow
    refine ⟨level, row, ⟨earlier, above, below, later, rfl, of_decide_eq_true hport,
      fun tier htier => find?_tier_eq_none_iff.mp (hearlier tier htier), fun x hx => ?_⟩, rfl⟩
    exact of_decide_eq_false ((Bool.not_eq_true' _).mp (habove x hx))
  · rintro ⟨level, row, ⟨earlier, above, below, later, rfl, hport, hearlier, habove⟩, rfl⟩
    refine ⟨earlier, (level, above ++ row :: below), later, rfl, ?_,
      fun tier htier => find?_tier_eq_none_iff.mpr (hearlier tier htier)⟩
    rw [List.find?_map, Option.map_eq_some_iff]
    refine ⟨row, List.find?_eq_some_iff_append.mpr ⟨decide_eq_true hport, above, below, rfl,
      fun x hx => ?_⟩, rfl⟩
    exact (Bool.not_eq_true' _).mpr (decide_eq_false (habove x hx))

/-- Tiers give a port no meaning if none of their rows claims it. -/
theorem find?_claims_eq_none_iff {tiers : List (Level × List Row)} {port : Nat} :
    ((claims tiers).find? fun s => s.port = port) = none ↔
      ∀ tier ∈ tiers, ∀ row ∈ tier.2, row.port ≠ port := by
  unfold claims
  rw [List.find?_flatMap, List.findSome?_eq_none_iff]
  exact forall₂_congr fun _ _ => find?_tier_eq_none_iff

/-! ## Ports and meanings of a filled registry -/

/-- A port means nothing exactly if no row claims it. -/
theorem find?_ofTiers_eq_none_iff {tiers : List (Level × List Row)} {port : Nat} :
    (ofTiers tiers).find? port = none ↔ ∀ tier ∈ tiers, ∀ row ∈ tier.2, row.port ≠ port := by
  rw [find?_ofTiers]
  exact find?_claims_eq_none_iff

/-- A port of which a meaning is kept is the port of that meaning, and some row gives it. -/
theorem of_find?_ofTiers {tiers : List (Level × List Row)} {port : Nat} {s : Standard}
    (h : (ofTiers tiers).find? port = some s) : s.port = port ∧ s ∈ claims tiers := by
  rw [find?_ofTiers] at h
  exact ⟨by simpa using List.find?_some h, List.mem_of_find?_eq_some h⟩

/-- The ports of the listed meanings are those that rows claim. -/
theorem mem_map_port_ofTiers {tiers : List (Level × List Row)} {port : Nat} :
    port ∈ (ofTiers tiers).toList.map (·.port) ↔
      ∃ tier ∈ tiers, ∃ row ∈ tier.2, row.port = port := by
  have hordered := ordered_ofTiers tiers
  have hlisted : port ∈ (ofTiers tiers).toList.map (·.port) ↔
      (ofTiers tiers).find? port ≠ none := by
    rw [List.mem_map, Option.ne_none_iff_exists']
    constructor
    · rintro ⟨s, hs, rfl⟩
      exact ⟨s, hordered.mem_toList_iff.mp hs⟩
    · rintro ⟨s, hs⟩
      obtain ⟨rfl, -⟩ := of_find?_ofTiers hs
      exact ⟨s, hordered.mem_toList_iff.mpr hs, rfl⟩
  rw [hlisted, Ne, find?_ofTiers_eq_none_iff]
  push Not
  rfl

/-! ## The ports of names -/

/-- A name that has no port gets that of an added meaning which is kept and of a service of that
name. -/
theorem ports_find?_add (r : Registry) (s : Standard) (name : String) :
    (r.add s).ports.find? name = (r.ports.find? name).or
      (if r.find? s.port = none ∧ lower s.service = name then some s.port else none) := by
  have hhas := r.standards.has_eq_isSome_find? s.port
  have hnamed := r.ports.has_eq_isSome_find? (lower s.service)
  unfold add find?
  by_cases hkept : r.standards.find? s.port = none
  · rw [hkept, Option.isSome_none] at hhas
    simp only [hhas, hkept, Bool.false_eq_true, if_false, true_and]
    split_ifs with hknown hname hname
    · -- The name has a port already, and keeps it.
      rw [hknown] at hnamed
      obtain ⟨port, hport⟩ := Option.isSome_iff_exists.mp hnamed.symm
      rw [← hname, hport, Option.some_or]
    · rw [Option.or_none]
    · have hnone : r.ports.find? (lower s.service) = none := by
        rw [← Option.isSome_eq_false_iff.trans Option.isNone_iff_eq_none, ← hnamed]
        exact Bool.eq_false_iff.mpr hknown
      rw [Dict.find?_insert, if_pos hname, ← hname, hnone, Option.none_or]
    · rw [Dict.find?_insert, if_neg hname, Option.or_none]
  · rw [Option.isSome_iff_ne_none.mpr hkept] at hhas
    rw [if_pos hhas, if_neg fun h => hkept h.1, Option.or_none]

/-- Of added meanings the first that is kept and of a service of a name gives the name its port,
unless it has one before. -/
theorem ports_find?_foldl_add (rows : List Standard) (r : Registry) (name : String) :
    (rows.foldl Registry.add r).ports.find? name = (r.ports.find? name).or
      ((rows.find? fun s => r.find? s.port = none ∧
        (rows.foldl Registry.add r).find? s.port = some s ∧ lower s.service = name).map
          (·.port)) := by
  induction rows generalizing r with
  | nil => rw [List.foldl_nil, List.find?_nil, Option.map_none, Option.or_none]
  | cons s rest ih =>
    have hs : (rest.foldl Registry.add (r.add s)).find? s.port = (r.find? s.port).or (some s) := by
      rw [find?_foldl_add, find?_add, if_pos rfl, Option.or_assoc, Option.some_or]
    rw [List.foldl_cons, ih, ports_find?_add, Option.or_assoc]
    generalize rest.foldl Registry.add (r.add s) = final at hs ⊢
    congr 1
    rw [List.find?_cons]
    by_cases hkept : r.find? s.port = none ∧ lower s.service = name
    · rw [hkept.1, Option.none_or] at hs
      simp [hkept, hs]
    · -- `s` does not give the name its port, and closes its own to none that could.
      have hskip : (decide (r.find? s.port = none ∧ final.find? s.port = some s ∧
          lower s.service = name)) = false :=
        decide_eq_false fun h => hkept ⟨h.1, h.2.2⟩
      rw [if_neg hkept, Option.none_or, hskip]
      congr 1
      refine List.find?_congr fun t _ => ?_
      rw [find?_add]
      by_cases hport : s.port = t.port
      · -- What the port of `s` is kept for is `s` itself, and that is not of the name.
        rw [← hport, if_pos rfl, decide_eq_decide]
        constructor
        · rintro ⟨hopen, -⟩
          exact absurd (Option.or_eq_none_iff.mp hopen).2 (Option.some_ne_none s)
        · rintro ⟨hopen, hfinal, hname⟩
          rw [hopen, Option.none_or, hfinal] at hs
          obtain rfl := Option.some.inj hs
          exact absurd ⟨hopen, hname⟩ hkept
      · rw [if_neg hport, Option.or_none]

/-- The port of a name is that of the first row, in the order of the tiers and their rows, which is
kept and is of a service of that name. -/
theorem portOf?_ofTiers (tiers : List (Level × List Row)) (name : String) :
    (ofTiers tiers).portOf? name = ((claims tiers).find? fun s =>
      (ofTiers tiers).find? s.port = some s ∧ lower s.service = lower (trim name)).map
        (·.port) := by
  have hempty : ∀ port, empty.find? port = none := fun _ => rfl
  have hnone : empty.ports.find? (lower (trim name)) = none := rfl
  unfold portOf? ofTiers
  rw [ports_find?_foldl_add, hnone, Option.none_or]
  simp only [hempty, true_and]

/-! ## Trust -/

/-- What is trusted at a threshold is trusted at every lower one, and at the lowest all is. -/
theorem trusts_mono (r : Registry) (port : Nat) :
    (r.trusts .high port = true → r.trusts .medium port = true) ∧ r.trusts .low port = true := by
  unfold trusts
  cases r.find? port with
  | none => exact ⟨fun h => absurd h (by decide), rfl⟩
  | some s =>
    refine ⟨fun h => ?_, rfl⟩
    show Threshold.medium.accepts s.level = true
    change Threshold.high.accepts s.level = true at h
    revert h
    cases s.level <;> decide

/-! ## Both indexes -/

/-- What a registry has to answer so that it indexes the rows of tiers. -/
structure Indexes (r : Registry) (tiers : List (Level × List Row)) : Prop where
  /-- A port means what the first row says that claims it, at the level of its tier. -/
  first : ∀ port s, r.find? port = some s ↔
    ∃ level row, FirstClaim tiers port level row ∧ s = row.standard level
  /-- A port means nothing exactly if no row claims it. -/
  unclaimed : ∀ port, r.find? port = none ↔ ∀ tier ∈ tiers, ∀ row ∈ tier.2, row.port ≠ port
  /-- The meanings are listed in ascending order of their ports, one for each port. -/
  ascending : (r.toList.map (·.port)).Pairwise (· < ·)
  /-- The ports of the listed meanings are those that rows claim. -/
  covered : ∀ port, port ∈ r.toList.map (·.port) ↔ ∃ tier ∈ tiers, ∃ row ∈ tier.2, row.port = port
  /-- The listed meanings are those with which the ports answer. -/
  listed : ∀ s, s ∈ r.toList ↔ r.find? s.port = some s
  /-- A name has the port of the first row of a service of that name, whatever its case, which is
  kept: with which its port answers. -/
  named : ∀ name, r.portOf? name = ((claims tiers).find? fun s =>
    r.find? s.port = some s ∧ lower s.service = lower (trim name)).map (·.port)
  /-- A name that every row of it has lost to other rows has no port. -/
  unnamed : ∀ name, r.portOf? name = none ↔
    ∀ s, r.find? s.port = some s → lower s.service ≠ lower (trim name)
  /-- What has a port by its name is what the port means. -/
  agree : ∀ name port, r.portOf? name = some port →
    ∃ s, r.find? port = some s ∧ lower s.service = lower (trim name)
  /-- What is trusted where only official levels are is trusted where all but habits are. -/
  trusted : ∀ port, r.trusts .high port = true → r.trusts .medium port = true
  /-- Where all is trusted, every port is. -/
  trustedAll : ∀ port, r.trusts .low port = true

/-- A registry that is filled with tiers indexes their rows. -/
theorem ofTiers_indexes (tiers : List (Level × List Row)) : (ofTiers tiers).Indexes tiers := by
  have hordered := ordered_ofTiers tiers
  have hnamed := portOf?_ofTiers tiers
  refine ⟨fun port s => ?_, fun _ => find?_ofTiers_eq_none_iff, ?_, fun _ => mem_map_port_ofTiers,
    fun s => hordered.mem_toList_iff, hnamed, fun name => ?_, fun name port hport => ?_,
    fun port => (trusts_mono _ port).1, fun port => (trusts_mono _ port).2⟩
  · rw [find?_ofTiers]
    exact find?_claims_eq_some_iff
  · rw [hordered.map_port_toList]
    exact hordered.ascending
  · rw [hnamed, Option.map_eq_none_iff, List.find?_eq_none]
    constructor
    · intro h s hs hname
      exact h s (of_find?_ofTiers hs).2 (decide_eq_true ⟨hs, hname⟩)
    · intro h s _ hs
      exact h s (of_decide_eq_true hs).1 (of_decide_eq_true hs).2
  · rw [hnamed] at hport
    obtain ⟨s, hs, rfl⟩ := Option.map_eq_some_iff.mp hport
    exact ⟨s, by simpa using List.find?_some hs⟩

/-- The second row of port 80 is lost with its name, and a name that comes again keeps its port. -/
example :
    let r := ofTiers [(.wellKnown, [⟨80, "http", "HTTP", assignments, none⟩]),
      (.vendorDefault, [⟨80, "proxy", "TCP", "", none⟩, ⟨8080, "HTTP", "HTTP", "", none⟩])]
    r.portOf? " Http " = some 80 ∧ r.portOf? "proxy" = none ∧
      r.toList.map (·.port) = [80, 8080] := by
  decide +kernel

end PortSurvey.Registry
