import Mathlib.Order.Bounds.Basic
import PortSurvey.Analysis
import PortSurvey.Proofs.Profile.Basic

/-!
# How traffic is graded

What is known of the traffic between two services is gathered step by step: from the kind of the
target, from the kind of the source, from the profile of the port, and from the settings. No step
makes a known authentication unknown (`Analysis.traffic_known`), so the traffic has one in the end,
and nothing but its encryption and the wish of the policy is left for its grade to depend on
(`Analysis.edge_grade`). Each step keeps the greatest sensitivity that it meets
(`Analysis.traffic_sensitivity`). `Analysis.edge_coherent` puts the parts together.
-/

namespace PortSurvey.Analysis

namespace Traffic

variable {t : Traffic}

/-! ## Authentication -/

/-- The authentication of traffic is known. -/
def Known (t : Traffic) : Prop :=
  isKnownAuth t.auth = true

/-- Where nothing is known of the target, services are taken to know one another. -/
theorem plain_known : plain.Known := by
  unfold Known
  decide

/-- The kind of the target leaves the usual authentication unless it names a known one. -/
theorem ofTarget_known (kind : Option Archetype) : (ofTarget kind).Known := by
  cases kind with
  | none => exact plain_known
  | some archetype =>
    unfold Known ofTarget
    dsimp only
    split_ifs with h
    · exact h
    · exact plain_known

/-- The kind of the source leaves the authentication as it is. -/
theorem Known.withSource (h : t.Known) (kind : Option Archetype) : (t.withSource kind).Known := by
  cases kind <;> exact h

/-- The authentication of the port takes the place of another only if it is known. -/
theorem Known.withPort (h : t.Known) (targetKnown : Bool) (p : Profile) :
    (t.withPort targetKnown p).Known := by
  unfold Known Traffic.withPort
  dsimp only
  split_ifs with hport
  · exact (Bool.and_eq_true_iff.mp hport).2
  · exact h

/-- The settings leave the authentication as it is. -/
theorem Known.settled (h : t.Known) (assumeSecure : Bool) : (t.settled assumeSecure).Known :=
  h

/-! ## Sensitivity -/

variable {classes : Set Sensitivity}

/-- The kind of the target tells how sensitive traffic is; without it the data is internal. -/
theorem ofTarget_sensitivity (kind : Option Archetype) :
    (ofTarget kind).sensitivity = (kind.map (·.sensitivity)).getD .internal := by
  cases kind <;> rfl

/-- The sensitivity of the kind of the source counts too. -/
theorem withSource_sensitivity (h : IsGreatest classes t.sensitivity) (kind : Option Archetype) :
    IsGreatest (classes ∪ {s | ∃ k, kind = some k ∧ k.sensitivity = s})
      (t.withSource kind).sensitivity := by
  cases kind with
  | none => simpa [withSource] using h
  | some archetype =>
    have hunion := h.union (isGreatest_singleton (a := archetype.sensitivity))
    simpa [withSource] using hunion

/-- The sensitivity of the port counts too. -/
theorem withPort_sensitivity (h : IsGreatest classes t.sensitivity) (targetKnown : Bool)
    (p : Profile) :
    IsGreatest (classes ∪ {p.sensitivity}) (t.withPort targetKnown p).sensitivity :=
  h.union isGreatest_singleton

end Traffic

variable (a : Analysis) (source target : String) (port : Option Nat)

/-- The authentication of the traffic between two services is known. -/
theorem traffic_known : (a.traffic source target port).Known := by
  have hkinds := (Traffic.ofTarget_known (a.table.lookup? target)).withSource
    (a.table.lookup? source)
  unfold traffic
  cases a.effectivePort? target port with
  | none => exact hkinds.settled _
  | some p => exact (hkinds.withPort _ _).settled _

/-- How sensitive the traffic between two services is by what is known of it: by the kind of the
target, whose data is internal where the kind is unknown, by the kind of the source, and by the
profile of the port. -/
def sensitivities : Set Sensitivity :=
  {((a.table.lookup? target).map (·.sensitivity)).getD .internal} ∪
    {s | ∃ k, a.table.lookup? source = some k ∧ k.sensitivity = s} ∪
    {s | ∃ p, a.effectivePort? target port = some p ∧
      (a.declaredProfile p (some target) none).sensitivity = s}

/-- Traffic is as sensitive as the most sensitive of what is known of it. -/
theorem traffic_sensitivity :
    IsGreatest (a.sensitivities source target port)
      (a.traffic source target port).sensitivity := by
  have htarget : IsGreatest {((a.table.lookup? target).map (·.sensitivity)).getD .internal}
      (Traffic.ofTarget (a.table.lookup? target)).sensitivity := by
    rw [Traffic.ofTarget_sensitivity]
    exact isGreatest_singleton
  have hkinds := Traffic.withSource_sensitivity htarget (a.table.lookup? source)
  unfold sensitivities traffic
  cases a.effectivePort? target port with
  | none => simpa [Traffic.settled] using hkinds
  | some p => simpa [Traffic.settled] using Traffic.withPort_sensitivity hkinds _ _

/-- The policy wants traffic encrypted by the name of the target or by its kind. -/
theorem wantsEncryption_iff : a.wantsEncryption target = true ↔
    a.settings.policy.requiresEncryption target = true ∨
      ∃ k, a.table.lookup? target = some k ∧
        a.settings.policy.requiresEncryption k.kind = true := by
  unfold wantsEncryption
  rw [Bool.or_eq_true, Option.any_eq_true]

/-- Encrypted traffic is secure. Other traffic is insecure if the policy wants it encrypted, and
basic if not. -/
theorem edge_grade : (a.edge source target port).grade =
    if (a.edge source target port).encrypted then .secure
    else if a.wantsEncryption target then .insecure else .basic := by
  have hknown := a.traffic_known source target port
  unfold edge
  generalize a.traffic source target port = t at hknown ⊢
  obtain ⟨protocol, encrypted, auth, sensitivity, evident⟩ := t
  change isKnownAuth auth = true at hknown
  dsimp only
  -- A known authentication earns `basic` by itself and `secure` with encryption.
  rw [hknown]
  cases encrypted <;> cases a.wantsEncryption target <;> rfl

end PortSurvey.Analysis

namespace PortSurvey

/-- The fields of an edge agree with one another and with what an analysis knows; `port` is the port
that is given for it. -/
structure Edge.Coherent (e : Edge) (a : Analysis) (port : Option Nat) : Prop where
  /-- The authentication is known. -/
  auth : isKnownAuth e.auth = true
  /-- The edge is secure exactly if it is encrypted. -/
  secure_iff : e.grade = .secure ↔ e.encrypted = true
  /-- The edge is insecure exactly if it is not encrypted and the policy wants it to be, by the name
  of the target or by its kind. -/
  insecure_iff : e.grade = .insecure ↔ e.encrypted = false ∧
    (a.settings.policy.requiresEncryption e.target = true ∨
      ∃ k, a.table.lookup? e.target = some k ∧
        a.settings.policy.requiresEncryption k.kind = true)
  /-- Any other edge is basic. -/
  basic : e.grade ≠ .secure → e.grade ≠ .insecure → e.grade = .basic
  /-- The sensitivity is the greatest that is known of the kinds and the port. -/
  sensitivity : IsGreatest (a.sensitivities e.source e.target port) e.sensitivity
  /-- The port is the given one, or else the one that the target declares, or else the usual one of
  encrypted or plain traffic. -/
  port_eq : e.port = (port.or (a.declaredPort? e.target)).getD (if e.encrypted then 443 else 80)

namespace Analysis

/-- The edge between two services names them, and its fields are coherent. -/
theorem edge_coherent (a : Analysis) (source target : String) (port : Option Nat) :
    (a.edge source target port).source = source ∧ (a.edge source target port).target = target ∧
      (a.edge source target port).Coherent a port := by
  have hgrade := a.edge_grade source target port
  refine ⟨rfl, rfl, a.traffic_known source target port, ?_, ?_, ?_,
    a.traffic_sensitivity source target port, rfl⟩
  · rw [hgrade]
    split_ifs <;> simp [*]
  · change _ ↔ _ ∧ (a.settings.policy.requiresEncryption target = true ∨
      ∃ k, a.table.lookup? target = some k ∧ _)
    rw [← a.wantsEncryption_iff, hgrade]
    split_ifs <;> simp [*]
  · rw [hgrade]
    split_ifs <;> simp

end Analysis

end PortSurvey
