import Mathlib.Tactic.SplitIfs
import PortSurvey.Port.Range

/-!
# What is read as a port is one

However a port is written, as a number, as a text or within a range, what is read lies from 1 to
65535 (`Port.Valid`). The bound is kept digit by digit, so that it holds of numerals of any length.
-/

namespace PortSurvey

open Text

/-- A number that is read within a bound keeps to it, if the digits before did. -/
theorem Text.Numeral.readDigits_le {bound n m : Nat} {digits : List Char} (hn : n ≤ bound)
    (h : Numeral.readDigits bound n digits = .ok m) : m ≤ bound := by
  -- The number that was read so far changes with every digit.
  induction digits generalizing n with
  | nil =>
    cases h
    exact hn
  | cons c rest ih =>
    unfold Numeral.readDigits at h
    split at h
    · cases h
    · split_ifs at h with hfits
      exact ih hfits h

/-- A number that is read within a bound keeps to it. -/
theorem Text.Numeral.read_le {bound m : Nat} {s : List Char}
    (h : Numeral.read bound s = .ok m) : m ≤ bound := by
  unfold Numeral.read at h
  split at h
  · cases h
  · cases h
  · exact Numeral.readDigits_le (Nat.zero_le _) h
  · exact Numeral.readDigits_le (Nat.zero_le _) h

namespace Port

/-- A number is a port: it has sixteen bits and is not zero. -/
def Valid (port : Nat) : Prop :=
  1 ≤ port ∧ port ≤ maxPort

/-- A text is read as a port only if it is one. -/
theorem read?_valid {s : List Char} {port : Nat} (h : read? s = some port) : Valid port := by
  unfold read? at h
  split at h
  · cases h
  · rename_i n hzero hread
    cases h
    exact ⟨Nat.one_le_iff_ne_zero.mpr hzero, Numeral.read_le hread⟩
  · cases h

/-- A range is read as the ports from its first to its last, which are ports if these are. -/
theorem consecutive_valid {first last : Nat} (hfirst : Valid first) (hlast : Valid last)
    (hle : first ≤ last) : ∀ port ∈ consecutive first (last - first + 1), Valid port := by
  intro port hport
  obtain ⟨i, hi, rfl⟩ := List.mem_map.mp hport
  have hi' := List.mem_range.mp hi
  exact ⟨by have := hfirst.1; omega, by have := hlast.2; omega⟩

/-- All that a range covers is ports. -/
theorem readRange?_valid {s : List Char} {ports : List Nat} (h : readRange? s = some ports) :
    ∀ port ∈ ports, Valid port := by
  unfold readRange? at h
  split at h
  · obtain ⟨port, hread, rfl⟩ := Option.map_eq_some_iff.mp h
    intro p hp
    rw [List.mem_singleton.mp hp]
    exact read?_valid hread
  · split at h
    · rename_i first last hfirst hlast
      split_ifs at h with hrange
      cases h
      exact consecutive_valid (read?_valid hfirst) (read?_valid hlast) hrange.1
    · cases h

/-- A number of a document is a port only if it lies in the range of ports. -/
theorem ofNumber?_valid {n : Yaml.Number} {port : Nat} (h : ofNumber? n = some port) :
    Valid port := by
  cases n with
  | binary bits => cases h
  | whole n =>
    unfold ofNumber? at h
    dsimp only at h
    split_ifs at h with hrange
    cases h
    unfold Valid
    omega

/-- A value of a document is a port only if it lies in the range of ports. -/
theorem ofValue?_valid {v : Yaml.Value} {port : Nat} (h : ofValue? v = some port) :
    Valid port := by
  unfold ofValue? at h
  split at h
  · exact ofNumber?_valid h
  · exact read?_valid h
  · cases h

end Port

end PortSurvey
