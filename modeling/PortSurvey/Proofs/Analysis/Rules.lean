import PortSurvey.Analysis
import PortSurvey.Proofs.Profile.Basic

/-!
# What the rules of settings do to profiles

`Analysis.withRules` applies four rules one after the other. `withRules_eq` says what they do
together: they set the sensitivity, the grade and the authentication, each by the service and by
what else the profile says of security, and add remarks. `withRules_atMost` concludes that they keep
the order of profiles of one service: a rule on encryption that strikes the greater of two profiles
strikes the lesser one too.
-/

namespace PortSurvey

/-! ## What the rules set -/

/-- The sensitivity under the rules of settings. -/
def Settings.ruledSensitivity (s : Settings) (service : String) (x : Sensitivity) : Sensitivity :=
  let x := if s.unknownIsConfidential && (service == unknownName || service == "custom") &&
    x == .internal then .confidential else x
  if s.explicitlyPublic && x == .openToAll then .internal else x

/-- The grade of a profile under the rules of a policy. -/
def Policy.ruledGrade (policy : Policy) (p : Profile) : Grade :=
  if policy.requiresEncryption p.service && !p.encrypted then min p.grade .insecure else p.grade

/-- The authentication of a profile under the rules of a policy. -/
def Policy.ruledAuth (policy : Policy) (p : Profile) : String :=
  if policy.requiresStrongAuth p.service && !p.authKnown then policy.defaultAuth else p.auth

/-- Whether a policy names an authentication for a service that has none. -/
def Policy.suppliesAuth (policy : Policy) (service : String) : Bool :=
  policy.requiresStrongAuth service && isKnownAuth policy.defaultAuth

/-- The rules keep the order of sensitivities. -/
theorem Settings.ruledSensitivity_mono (s : Settings) (service : String) :
    Monotone (s.ruledSensitivity service) := by
  intro x y h
  unfold Settings.ruledSensitivity
  generalize (service == unknownName || service == "custom") = nameless
  revert h
  cases s.unknownIsConfidential <;> cases s.explicitlyPublic <;> cases nameless <;>
    cases x <;> cases y <;> decide

/-- The rules lower no sensitivity. -/
theorem Settings.le_ruledSensitivity (s : Settings) (service : String) (x : Sensitivity) :
    x ≤ s.ruledSensitivity service x := by
  unfold Settings.ruledSensitivity
  generalize (service == unknownName || service == "custom") = nameless
  cases s.unknownIsConfidential <;> cases s.explicitlyPublic <;> cases nameless <;> cases x <;>
    decide

/-- What is confidential at least is left as it is. -/
theorem Settings.ruledSensitivity_of_confidential (s : Settings) (service : String)
    {x : Sensitivity} (h : .confidential ≤ x) : s.ruledSensitivity service x = x := by
  revert h
  unfold Settings.ruledSensitivity
  generalize (service == unknownName || service == "custom") = nameless
  cases s.unknownIsConfidential <;> cases s.explicitlyPublic <;> cases nameless <;> cases x <;>
    decide

/-- The rules take data for as sensitive as if it was confidential at least exactly if they take it
for confidential at least. -/
theorem Settings.ruledSensitivity_max_le_iff (s : Settings) (service : String) (x : Sensitivity) :
    s.ruledSensitivity service (max x .confidential) ≤ s.ruledSensitivity service x ↔
      .confidential ≤ s.ruledSensitivity service x := by
  rw [s.ruledSensitivity_of_confidential service (le_max_right _ _), max_le_iff]
  exact and_iff_right (s.le_ruledSensitivity service x)

/-- A service that has to be encrypted and is not is struck: its grade is `insecure` at most. -/
theorem Policy.ruledGrade_of_struck {policy : Policy} {p : Profile}
    (h : policy.requiresEncryption p.service = true ∧ p.encrypted = false) :
    policy.ruledGrade p = min p.grade .insecure := by
  rw [Policy.ruledGrade, h.1, h.2]
  rfl

/-- Other services keep their grades. -/
theorem Policy.ruledGrade_of_not_struck {policy : Policy} {p : Profile}
    (h : ¬(policy.requiresEncryption p.service = true ∧ p.encrypted = false)) :
    policy.ruledGrade p = p.grade := by
  rw [Policy.ruledGrade, if_neg]
  simpa only [Bool.and_eq_true, Bool.not_eq_true'] using h

/-- The rules raise no grade. -/
theorem Policy.ruledGrade_le (policy : Policy) (p : Profile) : policy.ruledGrade p ≤ p.grade := by
  unfold Policy.ruledGrade
  split_ifs
  · exact min_le_left _ _
  · exact le_refl _

/-- The rules leave something known of a grade exactly if it was. -/
theorem Policy.insecure_le_ruledGrade (policy : Policy) (p : Profile) :
    .insecure ≤ policy.ruledGrade p ↔ .insecure ≤ p.grade := by
  unfold Policy.ruledGrade
  split_ifs
  · rw [le_min_iff]
    exact and_iff_left (le_refl _)
  · rfl

namespace Analysis

/-! ## The rules one by one -/

variable (s : Settings) (policy : Policy) (p : Profile)

/-- The rule on unknown services sets the sensitivity. -/
theorem withUnknownRule_eq : withUnknownRule s p =
    { p with sensitivity :=
        if s.unknownIsConfidential && (p.service == unknownName || p.service == "custom") &&
          p.sensitivity == .internal then .confidential else p.sensitivity } := by
  unfold withUnknownRule
  split_ifs <;> rfl

/-- The rule on data that is open to all sets the sensitivity. -/
theorem withPublicRule_eq : ∃ description : String, withPublicRule s p =
    { p with
      description := description
      sensitivity :=
        if s.explicitlyPublic && p.sensitivity == .openToAll then .internal
        else p.sensitivity } := by
  unfold withPublicRule
  split_ifs
  · exact ⟨_, rfl⟩
  · exact ⟨p.description, rfl⟩

/-- The rule on encryption sets the grade. -/
theorem withEncryptionRule_eq : ∃ description : String, withEncryptionRule policy p =
    { p with
      description := description
      grade := policy.ruledGrade p } := by
  unfold withEncryptionRule Policy.ruledGrade
  split_ifs
  · exact ⟨_, rfl⟩
  · exact ⟨p.description, rfl⟩

/-- The rule on authentication sets the authentication. -/
theorem withAuthRule_eq : withAuthRule policy p = { p with auth := policy.ruledAuth p } := by
  unfold withAuthRule Policy.ruledAuth
  split_ifs <;> rfl

/-! ## The rules together -/

/-- The rules set the sensitivity, the grade and the authentication, and add remarks. -/
theorem withRules_eq : ∃ description : String, withRules s p =
    { p with
      description := description
      sensitivity := s.ruledSensitivity p.service p.sensitivity
      grade := s.policy.ruledGrade p
      auth := s.policy.ruledAuth p } := by
  -- The rules are opened in their order; only the second one reads what one before it sets.
  unfold withRules
  rw [withUnknownRule_eq]
  obtain ⟨_, hopen⟩ := withPublicRule_eq s (withUnknownRule s p)
  rw [withUnknownRule_eq] at hopen
  rw [hopen]
  obtain ⟨description, hencryption⟩ := withEncryptionRule_eq s.policy (withPublicRule s
    (withUnknownRule s p))
  rw [withUnknownRule_eq, hopen] at hencryption
  rw [hencryption, withAuthRule_eq]
  exact ⟨description, rfl⟩

/-- The rules leave the service as it is. -/
@[simp] theorem withRules_service : (withRules s p).service = p.service := by
  obtain ⟨_, h⟩ := withRules_eq s p
  rw [h]

/-- The rules leave the protocol as it is. -/
@[simp] theorem withRules_protocol : (withRules s p).protocol = p.protocol := by
  obtain ⟨_, h⟩ := withRules_eq s p
  rw [h]

/-- The rules leave the encryption as it is. -/
@[simp] theorem withRules_encrypted : (withRules s p).encrypted = p.encrypted := by
  obtain ⟨_, h⟩ := withRules_eq s p
  rw [h]

/-- The rules leave the direction as it is. -/
@[simp] theorem withRules_direction : (withRules s p).direction = p.direction := by
  obtain ⟨_, h⟩ := withRules_eq s p
  rw [h]

/-- The rules set the sensitivity. -/
theorem withRules_sensitivity :
    (withRules s p).sensitivity = s.ruledSensitivity p.service p.sensitivity := by
  obtain ⟨_, h⟩ := withRules_eq s p
  rw [h]

/-- The rules set the grade. -/
theorem withRules_grade : (withRules s p).grade = s.policy.ruledGrade p := by
  obtain ⟨_, h⟩ := withRules_eq s p
  rw [h]

/-- The rules set the authentication. -/
theorem withRules_auth : (withRules s p).auth = s.policy.ruledAuth p := by
  obtain ⟨_, h⟩ := withRules_eq s p
  rw [h]

/-- Under the rules the authentication is known if it was or the policy names one. -/
theorem withRules_authKnown :
    (withRules s p).authKnown = (p.authKnown || s.policy.suppliesAuth p.service) := by
  rw [Profile.authKnown, withRules_auth, Policy.ruledAuth, Policy.suppliesAuth]
  split_ifs with h
  · simp only [Bool.and_eq_true, Bool.not_eq_true'] at h
    rw [h.1, h.2, Bool.false_or, Bool.true_and]
  · cases hknown : p.authKnown
    · cases hstrong : s.policy.requiresStrongAuth p.service
      · exact hknown
      · simp [hknown, hstrong] at h
    · exact hknown

/-- The rules keep the order of profiles of one service. -/
theorem withRules_atMost {p q : Profile} (hservice : p.service = q.service) (h : p.AtMost q) :
    (withRules s p).AtMost (withRules s q) where
  encrypted := by
    rw [withRules_encrypted, withRules_encrypted]
    exact h.encrypted
  sensitivity := by
    rw [withRules_sensitivity, withRules_sensitivity, hservice]
    exact s.ruledSensitivity_mono q.service h.sensitivity
  grade := by
    rw [withRules_grade, withRules_grade, Policy.ruledGrade, Policy.ruledGrade, hservice]
    split_ifs with hp hq hq
    · exact min_le_min h.grade (le_refl _)
    · exact (min_le_left _ _).trans h.grade
    · -- Where `q` is not encrypted, `p` is not either, so the rule strikes both.
      simp only [Bool.and_eq_true, Bool.not_eq_true'] at hp hq
      have hoff : p.encrypted = false :=
        Bool.eq_false_iff.mpr fun hon => by simp [h.encrypted hon] at hq
      exact absurd ⟨hq.1, hoff⟩ hp
    · exact h.grade
  authKnown := by
    simp only [withRules_authKnown, Bool.or_eq_true, hservice]
    exact Or.imp_left h.authKnown

end Analysis

end PortSurvey
