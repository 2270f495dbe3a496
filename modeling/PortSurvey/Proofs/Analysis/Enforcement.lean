import PortSurvey.Proofs.Analysis.Answers
import PortSurvey.Proofs.Analysis.Rules

/-!
# Which answers obey the encryption policy

A profile obeys a policy if it is graded `insecure` at most where its service has to be encrypted
and is not (`Profile.Obeys`). The rules of settings make every profile obey (`withRules_obeys`), and
so every inferred answer does.

An answer by a declaration takes its grade from a profile to which the rules were applied under
another name: that of the service which its port is known for. `declaredProfile_obeys_iff` says what
this costs. The answer disobeys exactly if the policy wants the declared service encrypted and not
the known one, nothing turns encryption on, and some other evidence earns a grade above `insecure`
(`Declaration.Escapes`).
-/

namespace PortSurvey

/-- A profile obeys a policy: if its service has to be encrypted and is not, its grade is `insecure`
at most. -/
def Profile.Obeys (p : Profile) (policy : Policy) : Prop :=
  policy.requiresEncryption p.service = true → p.encrypted = false → p.grade ≤ .insecure

/-- A declaration escapes a policy where `p` is known of its port, which `x` is evidence about: the
policy is asked about the service of `p` and not about the declared one, which it wants encrypted. -/
structure Declaration.Escapes (d : Declaration) (policy : Policy) (p : Profile) (x : Evidence) :
    Prop where
  /-- The declared service has to be encrypted. -/
  required : policy.requiresEncryption d.service = true
  /-- The service that the port is known for need not be. -/
  unseen : policy.requiresEncryption p.service = false
  /-- The port is not encrypted. -/
  unencrypted : (p.encrypted || x.encryption) = false
  /-- The grade is above `insecure`, or a known authentication makes it so. -/
  graded : .insecure < p.grade ∨ (x.isNews p = true ∧ (p.authKnown || x.auth) = true)

/-- Evidence earns `insecure` exactly when there is none. -/
theorem Grade.ofEvidence_le_insecure {encrypted authKnown : Bool} :
    ofEvidence encrypted authKnown ≤ insecure ↔ encrypted = false ∧ authKnown = false := by
  cases encrypted <;> cases authKnown <;> decide

/-- With a container, a profile without encryption is graded `insecure` at most if it was and the
container tells of no authentication. -/
theorem Profile.withContainer_grade_le_insecure (p : Profile) (c : Container)
    (hoff : (p.encrypted || c.evidence.encryption) = false) :
    (p.withContainer c).grade ≤ .insecure ↔
      p.grade ≤ .insecure ∧
        (c.evidence.isNews p = true → (p.authKnown || c.evidence.auth) = false) := by
  rw [p.withContainer_grade]
  split_ifs with hnews
  · rw [max_le_iff, gradeWith, Grade.ofEvidence_le_insecure]
    exact and_congr_right fun _ => ⟨fun h _ => h.2, fun h => ⟨hoff, h hnews⟩⟩
  · exact ⟨fun h => ⟨h, fun h' => absurd h' hnews⟩, fun h => h.1⟩

namespace Analysis

/-- The rules make every profile obey the policy. -/
theorem withRules_obeys (s : Settings) (p : Profile) : (withRules s p).Obeys s.policy := by
  intro hrequired hoff
  rw [withRules_service] at hrequired
  rw [withRules_encrypted] at hoff
  rw [withRules_grade, Policy.ruledGrade_of_struck ⟨hrequired, hoff⟩]
  exact min_le_right _ _

/-- An answer by a declaration of whose port `p` is known obeys the policy exactly if the
declaration does not escape it. -/
theorem tell_obeys_iff (d : Declaration) (s : Settings) (p : Profile) (c : Container) (port : Nat) :
    (d.tell (withRules s (p.withContainer c)) port).Obeys s.policy ↔
      ¬d.Escapes s.policy p c.evidence := by
  have hservice : (p.withContainer c).service = p.service := p.withContainer_service c
  have hencrypted := p.withContainer_encrypted c
  change (s.policy.requiresEncryption d.service = true →
    (withRules s (p.withContainer c)).encrypted = false →
    (withRules s (p.withContainer c)).grade ≤ .insecure) ↔ _
  rw [withRules_encrypted, withRules_grade, hencrypted]
  constructor
  · rintro hobeys ⟨hrequired, hunseen, hoff, hgraded⟩
    -- The rule on encryption asks about the known service, so it leaves the grade.
    have hle := hobeys hrequired hoff
    have hspared : ¬(s.policy.requiresEncryption (p.withContainer c).service = true ∧
        (p.withContainer c).encrypted = false) := by
      rw [hservice, hunseen]
      exact fun h => absurd h.1 Bool.false_ne_true
    rw [Policy.ruledGrade_of_not_struck hspared, p.withContainer_grade_le_insecure c hoff] at hle
    rcases hgraded with hgrade | ⟨hnews, hknown⟩
    · exact absurd hle.1 (not_le_of_gt hgrade)
    · exact absurd ((hle.2 hnews).symm.trans hknown) Bool.false_ne_true
  · intro hcaught hrequired hoff
    cases hseen : s.policy.requiresEncryption p.service with
    | true =>
      have hstruck : s.policy.requiresEncryption (p.withContainer c).service = true ∧
          (p.withContainer c).encrypted = false := by
        rw [hservice, hencrypted]
        exact ⟨hseen, hoff⟩
      rw [Policy.ruledGrade_of_struck hstruck]
      exact min_le_right _ _
    | false =>
      have hle : (p.withContainer c).grade ≤ .insecure := by
        rw [p.withContainer_grade_le_insecure c hoff]
        refine ⟨le_of_not_gt fun hgrade => ?_, fun hnews => Bool.eq_false_iff.mpr fun hknown => ?_⟩
        · exact hcaught ⟨hrequired, hseen, hoff, Or.inl hgrade⟩
        · exact hcaught ⟨hrequired, hseen, hoff, Or.inr ⟨hnews, hknown⟩⟩
      exact (s.policy.ruledGrade_le _).trans hle

section Answers

variable (a : Analysis) (port : Nat) (name : Option String) (c : Option Container)

/-- Where no operator knows the port, an answer without regard to declarations obeys the policy. -/
theorem profile_obeys (h : a.settings.overrides.find? port = none) :
    (a.profile port name c).Obeys a.settings.policy := by
  rw [a.profile_of_no_override port name c h, inferred_eq]
  exact withRules_obeys _ _

/-- Where no operator knows the port of the declaration that answers, the answer obeys the policy
exactly if the declaration does not escape it. -/
theorem obeys_iff_of_answer {d : Declaration} (hanswer : a.answer? port name = some d)
    (h : a.settings.overrides.find? d.containerPort = none) :
    (a.declaredProfile port name c).Obeys a.settings.policy ↔
      ¬d.Escapes a.settings.policy (a.named d.containerPort (givenName? name))
        ((c.or (containerOf? d)).getD .nothing).evidence := by
  rw [a.declaredProfile_of_answer port name c hanswer, a.profile_of_no_override _ _ _ h,
    inferred_eq, tell_obeys_iff]

/-- Without overrides an answer without regard to declarations obeys the encryption policy. With
regard to them it obeys exactly if no declaration answers or the one that does not escape: the
policy is enforced under the name of the service that the declared port is known for, and under the
declared name only as far as both names are wanted encrypted. -/
theorem declaredProfile_obeys_iff (hfree : a.settings.overrides = []) :
    (a.profile port name c).Obeys a.settings.policy ∧
      ((a.declaredProfile port name c).Obeys a.settings.policy ↔
        ∀ d, a.answer? port name = some d →
          ¬d.Escapes a.settings.policy (a.named d.containerPort (givenName? name))
            ((c.or (containerOf? d)).getD .nothing).evidence) := by
  have hnone (port : Nat) : a.settings.overrides.find? port = none := by
    rw [hfree]
    rfl
  refine ⟨a.profile_obeys port name c (hnone port), ?_⟩
  cases hanswer : a.answer? port name with
  | none =>
    rw [a.declaredProfile_of_no_answer port name c hanswer]
    exact iff_of_true (a.profile_obeys port _ c (hnone port))
      fun d hd => absurd hd (Option.some_ne_none d).symm
  | some d =>
    rw [a.obeys_iff_of_answer port name c hanswer (hnone d.containerPort)]
    exact ⟨fun h d' hd => Option.some.inj hd ▸ h, fun h => h d rfl⟩

end Answers

/-- A declared mail server is struck where its port is known for one too. -/
theorem declaredProfile_obeys_smtp :
    let settings := { Settings.preset .enterprise with
      patterns := [⟨"^", ⟨"smtp", [2525], ["SMTP"], false, "password", .internal, []⟩⟩] }
    let a := ofInventory settings ⟨⟨"/mock"⟩, [.basic "smtp" 2525 .compose "f"]⟩
    a.settings.overrides = [] ∧
      (a.declaredProfile 2525 (some "smtp") none).Obeys a.settings.policy := by
  intro settings a
  have hanswer : a.answer? 2525 (some "smtp") = some (.basic "smtp" 2525 .compose "f") := by decide
  have hseen : settings.policy.requiresEncryption (a.named 2525 (some "smtp")).service = true := by
    decide +kernel
  refine ⟨rfl, ((a.declaredProfile_obeys_iff 2525 (some "smtp") none rfl).2).mpr ?_⟩
  rintro d hd ⟨-, hunseen, -, -⟩
  obtain rfl := Option.some.inj (hanswer.symm.trans hd)
  exact absurd (hseen.symm.trans hunseen) (by decide)

/-- A mail server that an operator's pattern makes a `mailer` is declared as `smtp`. An enterprise
wants `smtp` encrypted, and still the answer is graded `basic` without encryption. -/
theorem not_declaredProfile_obeys :
    let settings := { Settings.preset .enterprise with
      patterns := [⟨"^", ⟨"mailer", [2525], ["SMTP"], false, "password", .internal, []⟩⟩] }
    let a := ofInventory settings ⟨⟨"/mock"⟩, [.basic "smtp" 2525 .compose "f"]⟩
    a.settings.overrides = [] ∧
      ¬(a.declaredProfile 2525 (some "smtp") none).Obeys a.settings.policy := by
  intro settings a
  have hanswer : a.answer? 2525 (some "smtp") = some (.basic "smtp" 2525 .compose "f") := by decide
  have hunseen : settings.policy.requiresEncryption (a.named 2525 (some "smtp")).service = false := by
    decide +kernel
  have hoff : ((a.named 2525 (some "smtp")).encrypted || (Container.nothing).evidence.encryption) =
      false := by
    decide +kernel
  have hgraded : .insecure < (a.named 2525 (some "smtp")).grade := by decide +kernel
  refine ⟨rfl, fun hobeys => ?_⟩
  rw [a.obeys_iff_of_answer 2525 _ _ hanswer rfl] at hobeys
  exact hobeys ⟨by decide, hunseen, hoff, Or.inl hgraded⟩

end Analysis

end PortSurvey
