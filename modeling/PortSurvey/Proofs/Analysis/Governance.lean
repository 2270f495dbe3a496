import PortSurvey.Proofs.Analysis.Enforcement

/-!
# What the rules guarantee and what they leave

`Settings.Governs` puts together what a profile is sure of once the rules of settings were applied
to it: an unencrypted service that has to be encrypted is graded `insecure` at most, a service that
has to know its clients does if the policy names an authentication, and data is not open to all
unless that is allowed. Four rules write to the same profile, and none of them undoes what another
one has set up (`Analysis.withRules_governs`). What was spoken, by which service, whether encrypted
and in which direction is not for the rules to say, and neither is an authentication that is known.

Without rules the answer is the profile to which they would be applied
(`Analysis.profile_withoutRules`), so that both can be compared (`Analysis.profile_governed`).
-/

namespace PortSurvey

/-- The settings without any rule: no service has to be secured, unknown services may be harmless
and data may be open to all. -/
def Settings.withoutRules (s : Settings) : Settings :=
  { s with
    unknownIsConfidential := false
    explicitlyPublic := false
    policy := { s.policy with encrypted := [], strongAuth := [] } }

/-- Settings govern what becomes of a profile `p` if `q` meets their rules and differs from `p` only
where a rule has a say. -/
structure Settings.Governs (s : Settings) (p q : Profile) : Prop where
  /-- A service that has to be encrypted and is not is graded `insecure` at most. -/
  obeys : q.Obeys s.policy
  /-- A service that has to know its clients does, if the policy names an authentication. -/
  authKnown : s.policy.requiresStrongAuth q.service = true →
    isKnownAuth s.policy.defaultAuth = true → q.authKnown = true
  /-- Data is not open to all where that has to be said explicitly. -/
  not_openToAll : s.explicitlyPublic = true → q.sensitivity ≠ .openToAll
  /-- The protocol stays. -/
  protocol : q.protocol = p.protocol
  /-- The service stays. -/
  service : q.service = p.service
  /-- Encryption stays as it is. -/
  encrypted : q.encrypted = p.encrypted
  /-- The direction stays. -/
  direction : q.direction = p.direction
  /-- An authentication that is known stays. -/
  auth : p.authKnown = true → q.auth = p.auth

/-- Where data must not be open to all, it is not taken for that. -/
theorem Settings.ruledSensitivity_ne_openToAll {s : Settings} (h : s.explicitlyPublic = true)
    (service : String) (x : Sensitivity) : s.ruledSensitivity service x ≠ .openToAll := by
  unfold Settings.ruledSensitivity
  dsimp only
  -- Whatever the rule on unknown services makes of it, the next one closes what is open to all.
  generalize (if s.unknownIsConfidential && (service == unknownName || service == "custom") &&
    x == .internal then Sensitivity.confidential else x) = y
  rw [h, Bool.true_and]
  split_ifs with hopen
  · decide
  · exact fun heq => hopen (beq_iff_eq.mpr heq)

namespace Analysis

/-- The rules of settings govern what becomes of a profile. -/
theorem withRules_governs (s : Settings) (p : Profile) : s.Governs p (withRules s p) where
  obeys := withRules_obeys s p
  authKnown := by
    intro hrequired hnamed
    have hsupplies : s.policy.suppliesAuth p.service = true := by
      rw [withRules_service] at hrequired
      rw [Policy.suppliesAuth, hrequired, hnamed, Bool.and_true]
    rw [withRules_authKnown, hsupplies, Bool.or_true]
  not_openToAll := by
    intro hexplicit
    rw [withRules_sensitivity]
    exact Settings.ruledSensitivity_ne_openToAll hexplicit _ _
  protocol := withRules_protocol s p
  service := withRules_service s p
  encrypted := withRules_encrypted s p
  direction := withRules_direction s p
  auth := by
    intro hknown
    rw [withRules_auth, Policy.ruledAuth, hknown, Bool.not_true, Bool.and_false]
    rfl

/-- Settings without rules leave a profile as it is. -/
theorem withRules_withoutRules (s : Settings) (p : Profile) :
    withRules s.withoutRules p = p := by
  have hencryption : s.withoutRules.policy.requiresEncryption p.service = false := rfl
  have hauth : s.withoutRules.policy.requiresStrongAuth p.service = false := rfl
  have hunknown : withUnknownRule s.withoutRules p = p := rfl
  have hpublic : withPublicRule s.withoutRules p = p := rfl
  unfold withRules
  rw [hunknown, hpublic, withEncryptionRule, hencryption, Bool.false_and]
  simp only [Bool.false_eq_true, if_false]
  rw [withAuthRule, hauth, Bool.false_and]
  rfl

/-- An analysis that goes by no rules. -/
def withoutRules (a : Analysis) : Analysis :=
  { a with settings := a.settings.withoutRules }

section Answers

variable (a : Analysis) (port : Nat) (name : Option String) (c : Option Container)

/-- Without rules an inferred answer is the profile to which they would be applied. -/
theorem profile_withoutRules (h : a.settings.overrides.find? port = none) :
    a.withoutRules.profile port name c = (a.named port name).withContainer (c.getD .nothing) := by
  have hopen : a.withoutRules.settings.overrides.find? port = none := h
  have hnamed : a.withoutRules.named port name = a.named port name := rfl
  rw [profile_of_no_override _ port name c hopen, inferred_eq, hnamed]
  exact withRules_withoutRules _ _

/-- Where no operator knows the port, the settings govern the answer: it meets their rules, and it
is the answer that would be given without them but for what the rules have a say in. -/
theorem profile_governed (h : a.settings.overrides.find? port = none) :
    a.settings.Governs (a.withoutRules.profile port name c) (a.profile port name c) := by
  rw [profile_withoutRules a port name c h, profile_of_no_override a port name c h, inferred_eq]
  exact withRules_governs a.settings _

end Answers

/-- An operator's pattern makes every service an `etcd` without encryption and open to all. An
enterprise strikes its grade and closes it, and leaves it the passwords. -/
theorem profile_governed_etcd :
    let settings := { Settings.preset .enterprise with
      patterns := [⟨"^", ⟨"etcd", [2379], ["gRPC"], false, "password", .openToAll, []⟩⟩] }
    let a := ofInventory settings ⟨⟨"/mock"⟩, []⟩
    let before := a.withoutRules.profile 31337 (some "state") none
    let after := a.profile 31337 (some "state") none
    a.settings.overrides.find? 31337 = none ∧ settings.Governs before after ∧
      before.grade = .basic ∧ before.sensitivity = .openToAll ∧
      after.grade = .insecure ∧ after.sensitivity = .internal ∧ after.auth = "password" := by
  intro settings a before after
  refine ⟨rfl, a.profile_governed 31337 (some "state") none rfl, ?_⟩
  decide +kernel

end Analysis

end PortSurvey
