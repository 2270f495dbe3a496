import PortSurvey.Proofs.Analysis.Answers
import PortSurvey.Proofs.Analysis.Rules

/-!
# More evidence, no less security

Where no declaration answers, more that is known of a container never makes an answer claim less
security (`profile_atMost_profile`). Where one does, a container in the question stands in for the
image that the declaration tells of, instead of adding to it. So an answer may claim less with a
container than without one, and `declaredProfile_atMost_iff` says when it does not: whatever the
image is evidence of has to be made up for (`Evidence.MakesUpFor`).
-/

namespace PortSurvey

/-- Under settings, evidence `y` about a profile makes up for evidence `x`: whatever `x` would add
is there already, or `y` adds it too, or the rules add it or strike it. -/
structure Evidence.MakesUpFor (y x : Evidence) (s : Settings) (p : Profile) : Prop where
  /-- The encryption that `x` adds is there. -/
  encryption : x.encryption = true → p.encrypted = true ∨ y.encryption = true
  /-- The authentication that `x` names is known, or the policy names one. -/
  auth : x.auth = true →
    p.authKnown = true ∨ y.auth = true ∨ s.policy.suppliesAuth p.service = true
  /-- The data that `x` makes confidential is that, or the rules make it so. -/
  sensitivity : x.database = true →
    y.database = true ∨ .confidential ≤ s.ruledSensitivity p.service p.sensitivity
  /-- The grade that `x` earns is reached, or the policy strikes it and something is known of the
  grade. -/
  grade : x.isNews p = true →
    p.gradeWith x ≤ p.grade ∨
    (y.isNews p = true ∧ p.gradeWith x ≤ p.gradeWith y) ∨
    ((s.policy.requiresEncryption p.service = true ∧ (p.encrypted || x.encryption) = false) ∧
      (.insecure ≤ p.grade ∨ y.isNews p = true))

namespace Analysis

/-! ## Two containers -/

section TwoContainers

variable (s : Settings) (p : Profile) (c c' : Container)

/-- The second container leaves no less encryption. -/
theorem withContainer_encrypted_iff :
    ((withRules s (p.withContainer c)).encrypted = true →
        (withRules s (p.withContainer c')).encrypted = true) ↔
      (c.evidence.encryption = true → p.encrypted = true ∨ c'.evidence.encryption = true) := by
  simp only [withRules_encrypted, p.withContainer_encrypted, Bool.or_eq_true]
  exact ⟨fun h hx => h (Or.inr hx), fun h hx => hx.elim Or.inl h⟩

/-- The second container leaves a known authentication known. -/
theorem withContainer_authKnown_iff :
    ((withRules s (p.withContainer c)).authKnown = true →
        (withRules s (p.withContainer c')).authKnown = true) ↔
      (c.evidence.auth = true →
        p.authKnown = true ∨ c'.evidence.auth = true ∨
          s.policy.suppliesAuth p.service = true) := by
  simp only [withRules_authKnown, p.withContainer_service, p.withContainer_authKnown,
    Bool.or_eq_true, or_assoc]
  constructor
  · exact fun h hx => h (Or.inr (Or.inl hx))
  · rintro h (hp | hx | hsupplied)
    · exact Or.inl hp
    · exact h hx
    · exact Or.inr (Or.inr hsupplied)

/-- The second container leaves the data no less sensitive. -/
theorem withContainer_sensitivity_iff :
    (withRules s (p.withContainer c)).sensitivity ≤
        (withRules s (p.withContainer c')).sensitivity ↔
      (c.evidence.database = true →
        c'.evidence.database = true ∨
          .confidential ≤ s.ruledSensitivity p.service p.sensitivity) := by
  rw [withRules_sensitivity, withRules_sensitivity, p.withContainer_service,
    p.withContainer_service, p.withContainer_sensitivity, p.withContainer_sensitivity]
  split_ifs with h h' h'
  · exact iff_of_true (le_refl _) fun _ => Or.inl h'
  · rw [s.ruledSensitivity_max_le_iff]
    exact ⟨fun hle _ => Or.inr hle, fun hle => (hle h).resolve_left h'⟩
  · exact iff_of_true (s.ruledSensitivity_mono p.service (le_max_left _ _)) fun hx => absurd hx h
  · exact iff_of_true (le_refl _) fun hx => absurd hx h

/-- The second container leaves no lower grade, where the first one is news and leaves encrypted only
what the second one does too. -/
theorem ruledGrade_le_iff (policy : Policy) (hnews : c.evidence.isNews p = true)
    (hencrypted : (p.withContainer c).encrypted = true → (p.withContainer c').encrypted = true) :
    policy.ruledGrade (p.withContainer c) ≤ policy.ruledGrade (p.withContainer c') ↔
      p.gradeWith c.evidence ≤ p.grade ∨
      (c'.evidence.isNews p = true ∧ p.gradeWith c.evidence ≤ p.gradeWith c'.evidence) ∨
      ((policy.requiresEncryption p.service = true ∧
          (p.encrypted || c.evidence.encryption) = false) ∧
        (.insecure ≤ p.grade ∨ c'.evidence.isNews p = true)) := by
  have hinsecure := p.insecure_le_gradeWith c.evidence
  have hgrade : (p.withContainer c).grade = max p.grade (p.gradeWith c.evidence) := by
    rw [p.withContainer_grade, if_pos hnews]
  have hservice : (p.withContainer c).service = p.service := p.withContainer_service c
  have hservice' : (p.withContainer c').service = p.service := p.withContainer_service c'
  rw [← p.withContainer_encrypted c]
  by_cases hstruck : policy.requiresEncryption p.service = true ∧
      (p.withContainer c).encrypted = false
  · -- Struck, the first grade is `insecure`, and of the second one something has to be known.
    have hleft : policy.ruledGrade (p.withContainer c) = .insecure := by
      rw [Policy.ruledGrade_of_struck (by rwa [hservice]), hgrade]
      exact min_eq_right (hinsecure.trans (le_max_right _ _))
    rw [hleft, Policy.insecure_le_ruledGrade, p.insecure_le_withContainer_grade]
    constructor
    · exact fun h => Or.inr (Or.inr ⟨hstruck, h⟩)
    · rintro (h | ⟨h, _⟩ | ⟨_, h⟩)
      · exact Or.inl (hinsecure.trans h)
      · exact Or.inr h
      · exact h
  · -- Not struck, both grades are those of the evidence.
    have hstruck' : ¬(policy.requiresEncryption p.service = true ∧
        (p.withContainer c').encrypted = false) := by
      rintro ⟨hrequired, hoff⟩
      refine hstruck ⟨hrequired, Bool.eq_false_iff.mpr fun hon => ?_⟩
      rw [hencrypted hon] at hoff
      exact absurd hoff (by decide)
    rw [Policy.ruledGrade_of_not_struck (by rwa [hservice]),
      Policy.ruledGrade_of_not_struck (by rwa [hservice']), hgrade, p.withContainer_grade,
      max_le_iff]
    simp only [hstruck, false_and, or_false]
    split_ifs with hnews'
    · rw [and_iff_right (le_max_left _ _), le_max_iff, and_iff_right hnews']
    · rw [and_iff_right (le_refl _)]
      exact (or_iff_left fun h => hnews' h.1).symm

/-- Under the rules a container leaves no less security than another exactly if its evidence makes
up for that of the other. -/
theorem withContainer_atMost_iff :
    (withRules s (p.withContainer c)).AtMost (withRules s (p.withContainer c')) ↔
      c'.evidence.MakesUpFor c.evidence s p := by
  have hgrade (hencrypted : (withRules s (p.withContainer c)).encrypted = true →
      (withRules s (p.withContainer c')).encrypted = true) (hnews : c.evidence.isNews p = true) :=
    ruledGrade_le_iff p c c' s.policy hnews (by simpa only [withRules_encrypted] using hencrypted)
  constructor
  · intro h
    refine ⟨(withContainer_encrypted_iff s p c c').mp h.encrypted,
      (withContainer_authKnown_iff s p c c').mp h.authKnown,
      (withContainer_sensitivity_iff s p c c').mp h.sensitivity, fun hnews => ?_⟩
    rw [← hgrade h.encrypted hnews, ← withRules_grade, ← withRules_grade]
    exact h.grade
  · intro h
    have hencrypted := (withContainer_encrypted_iff s p c c').mpr h.encryption
    by_cases hnews : c.evidence.isNews p = true
    · refine ⟨hencrypted, (withContainer_sensitivity_iff s p c c').mpr h.sensitivity, ?_,
        (withContainer_authKnown_iff s p c c').mpr h.auth⟩
      rw [withRules_grade, withRules_grade, hgrade hencrypted hnews]
      exact h.grade hnews
    · -- Evidence that is no news adds nothing, and the second container takes nothing away.
      rw [p.withContainer_of_not_isNews c (Bool.eq_false_iff.mpr hnews)]
      exact withRules_atMost s (p.withContainer_service c').symm (p.atMost_withContainer c')

end TwoContainers

/-! ## Answers -/

/-- What is known of a container, if there is one, is known of another. -/
theorem within_getD_nothing {c c' : Option Container} (h : ∀ x ∈ c, ∃ x' ∈ c', x.Within x') :
    (c.getD .nothing).Within (c'.getD .nothing) := by
  cases c with
  | none => exact Container.nothing_within _
  | some x =>
    obtain ⟨x', hx', hwithin⟩ := h x rfl
    rw [hx']
    exact hwithin

section Answers

variable (a : Analysis) (port : Nat) (name : Option String)

/-- Without regard to declarations, a container leaves no less security than another exactly if an
operator knows the port or its evidence makes up for that of the other. -/
theorem profile_atMost_iff (c c' : Option Container) :
    (a.profile port name c).AtMost (a.profile port name c') ↔
      (a.settings.overrides.find? port = none →
        (c'.getD .nothing).evidence.MakesUpFor (c.getD .nothing).evidence a.settings
          (a.named port name)) := by
  cases h : a.settings.overrides.find? port with
  | some o =>
    rw [a.profile_of_override port name c h, a.profile_of_override port name c' h]
    exact iff_of_true (Profile.AtMost.refl _) fun hnone => absurd hnone (Option.some_ne_none o)
  | none =>
    rw [a.profile_of_no_override port name c h, a.profile_of_no_override port name c' h,
      inferred_eq, inferred_eq, withContainer_atMost_iff]
    exact ⟨fun hmakes _ => hmakes, fun hmakes => hmakes rfl⟩

/-- More that is known of a container never makes an answer claim less security. -/
theorem profile_atMost_of_within {c c' : Option Container}
    (h : (c.getD .nothing).Within (c'.getD .nothing)) :
    (a.profile port name c).AtMost (a.profile port name c') := by
  rcases a.profile_cases port name with ⟨p, hp⟩ | hinferred
  · rw [hp, hp]
    exact Profile.AtMost.refl p
  · rw [hinferred, hinferred]
    apply withRules_atMost
    · rw [Profile.withContainer_service, Profile.withContainer_service]
    · exact Profile.withContainer_atMost _ h.evidence

/-- Without regard to declarations, more that is known of a container never makes an answer claim
less security, all rules applied: encryption is not lost, neither the sensitivity nor the grade is
lower, and a known authentication stays known. The service and the direction stay the same. -/
theorem profile_atMost_profile {c c' : Option Container}
    (h : ∀ x ∈ c, ∃ x' ∈ c', x.Within x') :
    (a.profile port name c).AtMost (a.profile port name c') ∧
      (a.profile port name c).service = (a.profile port name c').service ∧
      (a.profile port name c).direction = (a.profile port name c').direction := by
  refine ⟨a.profile_atMost_of_within port name (within_getD_nothing h), ?_⟩
  rcases a.profile_cases port name with ⟨p, hp⟩ | hinferred
  · rw [hp, hp]
    exact ⟨rfl, rfl⟩
  · rw [hinferred, hinferred, withRules_service, withRules_service, withRules_direction,
      withRules_direction]
    simp only [Profile.withContainer_service, Profile.withContainer_direction, and_self]

end Answers

/-- A database whose image is known has no less security once its variables and its volumes are
known too. -/
theorem profile_atMost_profile_database :
    let c : Container := ⟨some "postgres:16", [("POSTGRES_PASSWORD", "x")], []⟩
    let c' : Container := ⟨some "postgres:16",
      [("PGSSLMODE", "require"), ("POSTGRES_PASSWORD", "x")], ["/etc/tls/server.pem"]⟩
    let a := ofInventory (Settings.preset .production) ⟨⟨"/mock"⟩, []⟩
    c.Within c' ∧ (a.profile 7100 (some "ledger") (some c)).AtMost
      (a.profile 7100 (some "ledger") (some c')) := by
  intro c c' a
  have hwithin : c.Within c' := by
    refine ⟨Or.inr rfl, ?_, ?_⟩ <;> decide
  have h : ∀ x ∈ some c, ∃ x' ∈ some c', x.Within x' := by
    rintro x ⟨⟩
    exact ⟨c', rfl, hwithin⟩
  exact ⟨hwithin, (a.profile_atMost_profile 7100 (some "ledger") h).1⟩

section Declared

variable (a : Analysis) (port : Nat) (name : Option String)

/-- A container that is no evidence of encryption loses none to another. -/
theorem profile_encrypted_of_evidence {c₀ : Option Container}
    (h₀ : (c₀.getD .nothing).evidence.encryption = false) (c : Option Container)
    (h : (a.profile port name c₀).encrypted = true) : (a.profile port name c).encrypted = true := by
  rcases a.profile_cases port name with ⟨p, hp⟩ | hinferred
  · rw [hp] at h ⊢
    exact h
  · rw [hinferred, withRules_encrypted, Profile.withContainer_encrypted] at h ⊢
    rw [h₀, Bool.or_false] at h
    rw [h, Bool.true_or]

/-- What a declaration tells of a container is no evidence of encryption. -/
theorem containerOf?_evidence_encryption (d : Declaration) :
    ((containerOf? d).getD .nothing).evidence.encryption = false := by
  cases h : containerOf? d with
  | none => rw [Option.getD_none, Container.nothing_evidence]; rfl
  | some c =>
    obtain ⟨image, rfl⟩ := eq_ofImage_of_containerOf? h
    rw [Option.getD_some, Container.ofImage_evidence]
    rfl

/-- With regard to declarations, a container never makes an answer lose encryption. It leaves no
less of the rest exactly if it makes up for the image that the answering declaration tells of, where
there is one and no operator knows the port. -/
theorem declaredProfile_atMost_iff (c : Container) :
    ((a.declaredProfile port name none).encrypted = true →
        (a.declaredProfile port name (some c)).encrypted = true) ∧
      ((a.declaredProfile port name none).AtMost (a.declaredProfile port name (some c)) ↔
        ∀ d image, a.answer? port name = some d → containerOf? d = some (.ofImage image) →
          a.settings.overrides.find? d.containerPort = none →
          c.evidence.MakesUpFor (Container.imageEvidence image) a.settings
            (a.named d.containerPort (givenName? name))) := by
  have hnothing (port : Nat) (name : Option String) :
      (a.profile port name none).AtMost (a.profile port name (some c)) :=
    a.profile_atMost_of_within port name (Container.nothing_within c)
  cases hanswer : a.answer? port name with
  | none =>
    rw [a.declaredProfile_of_no_answer port name _ hanswer,
      a.declaredProfile_of_no_answer port name _ hanswer]
    exact ⟨(hnothing _ _).encrypted,
      iff_of_true (hnothing _ _) fun d _ hd => absurd hd (Option.some_ne_none d).symm⟩
  | some d =>
    rw [a.declaredProfile_of_answer port name _ hanswer,
      a.declaredProfile_of_answer port name _ hanswer, d.tell_atMost_iff, Option.none_or,
      Option.some_or]
    refine ⟨a.profile_encrypted_of_evidence _ _ (containerOf?_evidence_encryption d) _, ?_⟩
    cases hcontainer : containerOf? d with
    | none =>
      refine iff_of_true (hnothing _ _) fun d' image hd hd' => ?_
      obtain rfl : d = d' := Option.some.inj hd
      exact absurd (hcontainer.symm.trans hd') (Option.some_ne_none _).symm
    | some c₀ =>
      -- The container replaces the declared image, so the two are compared.
      obtain ⟨image, rfl⟩ := eq_ofImage_of_containerOf? hcontainer
      rw [profile_atMost_iff, Option.getD_some, Option.getD_some, Container.ofImage_evidence]
      constructor
      · intro h d' image' hd hd' hfree
        obtain rfl : d = d' := Option.some.inj hd
        obtain rfl : image = image' := by
          have hsame := Option.some.inj (hcontainer.symm.trans hd')
          exact Option.some.inj (congrArg Container.image hsame)
        exact h hfree
      · exact fun h hfree => h d image rfl hcontainer hfree

end Declared

/-- An empty container takes from the answer about a declared database that its clients prove who
they are. -/
theorem not_declaredProfile_atMost :
    let settings := { Settings.preset .staging with
      patterns := [⟨"^", ⟨"ledger", [7100], ["TCP"], false, "none", .internal, []⟩⟩] }
    let d := { Declaration.basic "ledger" 7100 .compose "f" with
      context := [("image", "postgres:16")] }
    let a := ofInventory settings ⟨⟨"/mock"⟩, [d]⟩
    ¬(a.declaredProfile 7100 (some "ledger") none).AtMost
        (a.declaredProfile 7100 (some "ledger") (some .nothing)) := by
  intro settings d a h
  have hanswer : a.answer? 7100 (some "ledger") = some d := by decide
  rw [a.declaredProfile_of_answer 7100 _ _ hanswer, a.declaredProfile_of_answer 7100 _ _ hanswer,
    d.tell_atMost_iff, profile_atMost_iff] at h
  have hmakes := h rfl
  have hunknown : (a.named 7100 (some "ledger")).authKnown = false := by decide +kernel
  have hunsupplied :
      settings.policy.suppliesAuth (a.named 7100 (some "ledger")).service = false := by
    decide +kernel
  rcases hmakes.auth (by decide) with hknown | hauth | hsupplied
  · exact absurd (hunknown.symm.trans hknown) (by decide)
  · exact absurd hauth (by decide)
  · exact absurd (hunsupplied.symm.trans hsupplied) (by decide)

end Analysis

end PortSurvey
