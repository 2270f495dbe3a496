import PortSurvey.Proofs.Dict
import PortSurvey.Registry.Basic

/-!
# Which meaning of a port is kept

A registry is filled row by row, and a row whose port has a meaning is dropped. So the meaning of a
port is that of the first row that claims it (`find?_ofTiers`), and what holds of all rows holds of
every documented port (`mem_claims_of_standard`).
-/

namespace PortSurvey.Registry

/-- An added meaning answers for its port unless that has one. -/
theorem find?_add (r : Registry) (s : Standard) (port : Nat) :
    (r.add s).find? port = (r.find? port).or (if s.port = port then some s else none) := by
  unfold add find?
  have hhas := r.standards.has_eq_isSome_find? s.port
  by_cases h : r.standards.has s.port = true
  · rw [if_pos h]
    by_cases hport : s.port = port
    · rw [h, hport] at hhas
      obtain ⟨t, ht⟩ := Option.isSome_iff_exists.mp hhas.symm
      rw [ht, Option.some_or]
    · rw [if_neg hport, Option.or_none]
  · rw [if_neg h]
    dsimp only
    rw [Dict.find?_insert]
    by_cases hport : s.port = port
    · cases hfind : r.standards.find? port with
      | none => rw [Option.none_or]
      | some t =>
        rw [hhas, hport, hfind] at h
        exact absurd rfl h
    · rw [if_neg hport, if_neg hport, Option.or_none]

/-- Of added meanings the first of a port answers for it, unless it has one before. -/
theorem find?_foldl_add (l : List Standard) (r : Registry) (port : Nat) :
    (l.foldl add r).find? port = (r.find? port).or (l.find? fun s => s.port = port) := by
  induction l generalizing r with
  | nil => rw [List.foldl_nil, List.find?_nil, Option.or_none]
  | cons s rest ih =>
    rw [List.foldl_cons, ih, find?_add, Option.or_assoc, List.find?_cons]
    by_cases h : s.port = port
    · simp [h]
    · simp [h]

/-- The meaning of a port is that of the first row that claims it, in the order of the tiers and
their rows. -/
theorem find?_ofTiers (tiers : List (Level × List Row)) (port : Nat) :
    (ofTiers tiers).find? port = (claims tiers).find? fun s => s.port = port := by
  unfold ofTiers
  rw [find?_foldl_add]
  exact Option.none_or

/-- The tiers of the documented ports. -/
def standardTiers : List (Level × List Row) :=
  [(.wellKnown, wellKnownRows), (.registered, registeredRows),
    (.widelyAdopted, widelyAdoptedRows), (.vendorDefault, vendorDefaultRows),
    (.commonConvention, commonConventionRows)]

/-- The meaning of a documented port is one that the tiers claim. -/
theorem mem_claims_of_standard {port : Nat} {s : Standard} (h : standard.find? port = some s) :
    s ∈ claims standardTiers := by
  have htiers : standard = ofTiers standardTiers := rfl
  rw [htiers, find?_ofTiers] at h
  exact List.mem_of_find?_eq_some h

end PortSurvey.Registry
