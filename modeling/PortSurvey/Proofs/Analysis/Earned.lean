import PortSurvey.Proofs.Analysis.Answers
import PortSurvey.Proofs.Analysis.Rules
import PortSurvey.Proofs.Registry

/-!
# Grades rest on evidence

An answer that claims `secure` or more is encrypted and its authentication is known
(`Profile.Earned`), unless an operator says otherwise of a port. The invariant holds of documented
profiles and of those of archetypes, and evidence and rules keep it. It fails for one guess by
number, that of port 443; but the standard registry documents that port at a level which every
threshold trusts, so the guess is never made (`standard_trusts_https`).
-/

namespace PortSurvey

/-- A profile claims `secure` or more only if it is encrypted and its authentication is known. -/
def Profile.Earned (p : Profile) : Prop :=
  .secure ≤ p.grade → p.encrypted = true ∧ p.authKnown = true

namespace Profile

/-- A profile of a grade below `secure` claims nothing. -/
theorem earned_of_lt {p : Profile} (h : p.grade < .secure) : p.Earned :=
  fun hsecure => absurd hsecure (not_le_of_gt h)

/-- A grade that is given for the evidence is earned. -/
theorem earned_of_grade_le {p : Profile} (h : p.grade ≤ .ofEvidence p.encrypted p.authKnown) :
    p.Earned :=
  fun hsecure => Grade.secure_le_ofEvidence.mp (hsecure.trans h)

/-- A profile that is graded for its evidence is earned, whatever is remarked on it. -/
theorem graded_earned (p : Profile) (note : String) :
    ({ p with grade := p.earnedGrade }.remark note).Earned :=
  earned_of_grade_le (le_refl _)

/-! ## Where profiles come from -/

/-- Guesses by number claim nothing, but for that of port 443. -/
theorem guess_earned {port : Nat} (h : port ≠ 443) : (guess port).Earned := by
  have hbasic : (guess port).grade ≤ .basic := by
    unfold guess
    rw [if_neg h]
    split_ifs <;> simp only [suggested, unknown] <;> decide
  exact earned_of_lt (hbasic.trans_lt (by decide))

/-- The usual grades of services are earned. -/
theorem usualSecurity_earned (service : String) :
    .secure ≤ (UsualSecurity.ofService service).grade →
      (UsualSecurity.ofService service).encrypted = true ∧
        isKnownAuth (UsualSecurity.ofService service).auth = true := by
  have hrows : ∀ row ∈ UsualSecurity.rows, Grade.secure ≤ row.2.grade →
      row.2.encrypted = true ∧ isKnownAuth row.2.auth = true := by decide
  unfold UsualSecurity.ofService
  generalize hfind :
    UsualSecurity.rows.find? (fun row => UsualSecurity.foldService service ∈ row.1) = found
  cases found with
  | none => exact fun h => absurd h (by decide)
  | some row => exact hrows row (List.mem_of_find?_eq_some hfind)

/-- Documented profiles are earned. -/
theorem ofStandard_earned (s : Standard) : (ofStandard s).Earned := by
  have husual := usualSecurity_earned s.service
  unfold ofStandard
  generalize UsualSecurity.ofService s.service = usual at husual ⊢
  cases s.notes with
  | none => exact husual
  | some note => exact husual

/-- An override that leaves the grade open has an earned one. -/
theorem override_earned {o : Override} (h : o.grade = none) (port : Nat) :
    (o.profile port).Earned := by
  apply earned_of_grade_le
  unfold Override.profile
  rw [h]
  exact le_refl _

/-! ## What is done to profiles -/

/-- Evidence of containers keeps grades earned. -/
theorem withContainer_earned {p : Profile} (h : p.Earned) (c : Container) :
    (p.withContainer c).Earned := by
  intro hsecure
  rw [withContainer_encrypted, withContainer_authKnown]
  rw [withContainer_grade] at hsecure
  -- Evidence takes nothing away, so what is earned before stays earned.
  have hkept (hp : .secure ≤ p.grade) : (p.encrypted || c.evidence.encryption) = true ∧
      (p.authKnown || c.evidence.auth) = true := by
    rw [(h hp).1, (h hp).2]
    exact ⟨rfl, rfl⟩
  split_ifs at hsecure
  · rcases le_max_iff.mp hsecure with hp | hearned
    · exact hkept hp
    · exact Grade.secure_le_ofEvidence.mp hearned
  · exact hkept hsecure

end Profile

namespace Analysis

/-- What the archetype of a service gives is earned, whatever the profile was. -/
theorem withArchetype_earned (p : Profile) (name : String) (archetype : Archetype) :
    (withArchetype p name archetype).Earned :=
  Profile.graded_earned _ _

/-- The rules keep grades earned: they lower a grade or leave it, and take away no evidence. -/
theorem withRules_earned (s : Settings) {p : Profile} (h : p.Earned) : (withRules s p).Earned := by
  intro hsecure
  rw [withRules_grade] at hsecure
  obtain ⟨hencrypted, hknown⟩ := h (hsecure.trans (s.policy.ruledGrade_le p))
  rw [withRules_encrypted, withRules_authKnown, hencrypted, hknown]
  exact ⟨rfl, rfl⟩

/-! ## Answers -/

/-- Port 443 is documented. -/
theorem standard_find?_https : Registry.standard.find? 443 =
    some ⟨443, "https", "HTTPS", .wellKnown, "RFC 9110", none⟩ := by
  unfold Registry.standard
  rw [Registry.find?_ofTiers]
  decide

/-- Every threshold trusts what is documented of port 443. -/
theorem standard_trusts_https (t : Threshold) : Registry.standard.trusts t 443 = true := by
  unfold Registry.trusts
  rw [standard_find?_https]
  cases t <;> rfl

section Answers

variable (settings : Settings) (inventory : Inventory)

/-- The profile of a port by its number and its documentation is earned. -/
theorem seed_earned (port : Nat) : ((ofInventory settings inventory).seed port).Earned := by
  -- Port 443 is documented and trusted, so no guess is made about it.
  have hguess : (∀ s, Registry.standard.find? port = some s →
      Registry.standard.trusts settings.threshold port = false) → (Profile.guess port).Earned := by
    intro huntrusted
    apply Profile.guess_earned
    rintro rfl
    have htrusts := huntrusted _ standard_find?_https
    rw [standard_trusts_https] at htrusts
    exact absurd htrusts (by decide)
  unfold seed
  rw [ofInventory_registry, ofInventory_settings]
  cases hfind : Registry.standard.find? port with
  | none => exact hguess fun s hs => by rw [hfind] at hs; cases hs
  | some s =>
    dsimp only
    split_ifs with htrusted
    · exact Profile.ofStandard_earned s
    · exact hguess fun _ _ => Bool.eq_false_iff.mpr htrusted

/-- Inferred answers are earned. -/
theorem inferred_earned (port : Nat) (name : Option String) (c : Option Container) :
    ((ofInventory settings inventory).inferred port name c).Earned := by
  rw [inferred_eq]
  apply withRules_earned
  apply Profile.withContainer_earned
  unfold named withName
  cases givenName? name with
  | none => exact seed_earned settings inventory port
  | some n =>
    dsimp only
    cases (ofInventory settings inventory).table.lookup? n with
    | none => exact seed_earned settings inventory port
    | some archetype => exact withArchetype_earned _ n archetype

/-- The traffic between services is graded for its encryption and its authentication. -/
theorem edge_earned (a : Analysis) (source target : String) (port : Option Nat)
    (h : .secure ≤ (a.edge source target port).grade) :
    (a.edge source target port).encrypted = true ∧
      isKnownAuth (a.edge source target port).auth = true := by
  unfold edge at h ⊢
  dsimp only at h ⊢
  generalize a.traffic source target port = t at h ⊢
  apply Grade.secure_le_ofEvidence.mp
  split_ifs at h
  · exact h.trans (min_le_left _ _)
  · exact h

variable {settings}

/-- Answers without regard to declarations are earned if the overrides leave the grade open. -/
theorem profile_earned (hopen : ∀ e ∈ settings.overrides, e.2.grade = none) (port : Nat)
    (name : Option String) (c : Option Container) :
    ((ofInventory settings inventory).profile port name c).Earned := by
  cases hfind : settings.overrides.find? port with
  | some o =>
    rw [profile_of_override _ port name c (o := o) hfind]
    exact Profile.override_earned (hopen _ (Dict.mem_of_find? hfind)) port
  | none =>
    rw [profile_of_no_override _ port name c hfind]
    exact inferred_earned settings inventory port name c

/-- No answer claims `secure` or more without encryption and a known authentication: neither one
about a port, without or with regard to declarations, nor one about traffic. Only an operator who
grades a port in so many words can make it so. -/
theorem answers_earned (settings : Settings)
    (hopen : ∀ e ∈ settings.overrides, e.2.grade = none) (inventory : Inventory) :
    let a := ofInventory settings inventory
    (∀ port name c, (a.profile port name c).Earned) ∧
      (∀ port name c, (a.declaredProfile port name c).Earned) ∧
      (∀ source target port, .secure ≤ (a.edge source target port).grade →
        (a.edge source target port).encrypted = true ∧
          isKnownAuth (a.edge source target port).auth = true) := by
  intro a
  refine ⟨profile_earned inventory hopen, ?_, a.edge_earned⟩
  intro port name c
  cases h : a.answer? port name with
  | none =>
    rw [a.declaredProfile_of_no_answer port name c h]
    exact profile_earned inventory hopen port _ c
  | some d =>
    rw [a.declaredProfile_of_answer port name c h]
    exact profile_earned inventory hopen d.containerPort _ _

end Answers

/-- A declared port is secure by the encryption and the authentication that an override gives it. -/
theorem answers_earned_override :
    let o : Override := ⟨"gRPC", "edge-grpc", none, true, some "mtls", none, none, none⟩
    let settings := { Settings.preset .production with overrides := [(443, o)] }
    let inventory : Inventory := ⟨⟨"/mock"⟩, [.basic "web" 443 .compose "f"]⟩
    let p := (ofInventory settings inventory).declaredProfile 443 (some "web") none
    (∀ e ∈ settings.overrides, e.2.grade = none) ∧ .secure ≤ p.grade ∧ p.Earned := by
  intro o settings inventory p
  have hopen : ∀ e ∈ settings.overrides, e.2.grade = none := by decide
  refine ⟨hopen, ?_, (answers_earned settings hopen inventory).2.1 443 (some "web") none⟩
  have hanswer : (ofInventory settings inventory).answer? 443 (some "web") =
      some (.basic "web" 443 .compose "f") := by decide
  have hp : p = (Declaration.basic "web" 443 .compose "f").tell (o.profile 443) 443 :=
    declaredProfile_of_override _ 443 _ _ hanswer rfl rfl
  rw [hp]
  decide

end Analysis

end PortSurvey
