import PortSurvey.Proofs.Analysis.Answers
import PortSurvey.Proofs.Analysis.Rules
import PortSurvey.Proofs.Profile.Description

/-!
# What is not trusted tells nothing

The registry has its say in an answer through one decision: whether the threshold trusts what is
documented of the port (`Analysis.trusted?`). Of a documentation that is not trusted only a remark is
left, and no later step reads remarks. So two analyses that trust the same about a port, and differ
in nothing else but their registries and thresholds, give answers of the same substance
(`Analysis.profile_trusting_sameSubstance`): the relation is carried from the seed of the answer
through the kind of the service, the container and the rules.
-/

namespace PortSurvey

/-! ## Steps that do not read descriptions -/

namespace Profile.SameSubstance

variable {p q : Profile} (h : p.SameSubstance q)

include h in
/-- The kind of a service gives the same to profiles of the same substance. -/
theorem withArchetype (name : String) (archetype : Archetype) :
    (Analysis.withArchetype p name archetype).SameSubstance
      (Analysis.withArchetype q name archetype) := by
  rw [h.eq_described]
  exact ⟨⟨rfl, rfl, rfl, rfl⟩, rfl, rfl, rfl⟩

include h in
/-- So does the name of a service. -/
theorem withName (a : Analysis) (name : String) :
    (a.withName p name).SameSubstance (a.withName q name) := by
  unfold Analysis.withName
  cases a.table.lookup? name with
  | none => exact h
  | some archetype => exact h.withArchetype name archetype

include h in
/-- So do the rules of settings. -/
theorem withRules (s : Settings) :
    (Analysis.withRules s p).SameSubstance (Analysis.withRules s q) := by
  obtain ⟨words, hp⟩ := Analysis.withRules_eq s p
  obtain ⟨words', hq⟩ := Analysis.withRules_eq s q
  rw [hp, hq, h.eq_described]
  exact ⟨⟨rfl, rfl, rfl, rfl⟩, rfl, rfl, rfl⟩

end Profile.SameSubstance

namespace Analysis

/-! ## What is trusted -/

variable (a : Analysis) (port : Nat)

/-- What is documented of a port, if the threshold trusts it. -/
def trusted? : Option Standard :=
  if a.registry.trusts a.settings.threshold port then a.registry.find? port else none

/-- Nothing can be trusted of a port that is not documented. -/
theorem trusted?_of_undocumented (h : a.registry.find? port = none) : a.trusted? port = none := by
  unfold trusted?
  rw [h, ite_self]

/-- The seed of an answer is what is trusted of the port or a guess by its number, up to remarks. -/
theorem seed_sameSubstance : (a.seed port).SameSubstance
    (((a.trusted? port).map Profile.ofStandard).getD (Profile.guess port)) := by
  unfold seed trusted?
  cases hfind : a.registry.find? port with
  | none =>
    rw [ite_self]
    exact .refl _
  | some s =>
    dsimp only
    split_ifs
    · exact .refl _
    · exact (Profile.guess port).remark_sameSubstance _

/-- Where the documentation is trusted, if there is any, no remark is made on it. -/
theorem seed_eq_of_trusted
    (h : ∀ s, a.registry.find? port = some s →
      a.registry.trusts a.settings.threshold port = true) :
    a.seed port =
      ((a.registry.find? port).map Profile.ofStandard).getD (Profile.guess port) := by
  unfold seed
  cases hfind : a.registry.find? port with
  | none => rfl
  | some s =>
    dsimp only
    rw [if_pos (h s hfind)]
    rfl

/-! ## Other registries and thresholds -/

/-- The analysis by another registry and another threshold, and by nothing else that is other. -/
def trusting (r : Registry) (t : Threshold) : Analysis :=
  { a with
    registry := r
    settings := { a.settings with threshold := t } }

/-- The rules do not ask for the threshold. -/
theorem withRules_trusting (r : Registry) (t : Threshold) (p : Profile) :
    withRules (a.trusting r t).settings p = withRules a.settings p :=
  rfl

/-- The kind that a name tells depends neither on the registry nor on the threshold. -/
theorem withName_trusting (r : Registry) (t : Threshold) (p : Profile) (name : String) :
    (a.trusting r t).withName p name = a.withName p name :=
  rfl

section Answers

variable (name : Option String) (c : Option Container) (r : Registry) (t : Threshold)
  (hopen : a.settings.overrides.find? port = none)

include hopen in
/-- An answer under another registry and threshold is inferred by the same steps. -/
theorem profile_trusting : (a.trusting r t).profile port name c =
    withRules a.settings
      (((a.trusting r t).named port name).withContainer (c.getD .nothing)) := by
  have hopen' : (a.trusting r t).settings.overrides.find? port = none := hopen
  rw [profile_of_no_override _ port name c hopen', inferred_eq, withRules_trusting]

/-- Seeds of the same substance stay so with the name of the service. -/
theorem named_trusting_sameSubstance
    (hseed : (a.seed port).SameSubstance ((a.trusting r t).seed port)) :
    (a.named port name).SameSubstance ((a.trusting r t).named port name) := by
  unfold named
  cases givenName? name with
  | none => exact hseed
  | some name =>
    dsimp only
    rw [withName_trusting]
    exact hseed.withName a name

include hopen in
/-- If the same is trusted about a port, the answers are of the same substance. -/
theorem profile_trusting_sameSubstance
    (htrusted : a.trusted? port = (a.trusting r t).trusted? port) :
    (a.profile port name c).SameSubstance ((a.trusting r t).profile port name c) := by
  have hseed : (a.seed port).SameSubstance ((a.trusting r t).seed port) := by
    have hother := (a.trusting r t).seed_sameSubstance port
    rw [← htrusted] at hother
    exact (a.seed_sameSubstance port).trans hother.symm
  have hnamed := named_trusting_sameSubstance a port name r t hseed
  rw [profile_trusting a port name c r t hopen, profile_of_no_override a port name c hopen,
    inferred_eq]
  exact (hnamed.withContainer _).withRules _

include hopen in
/-- Where the seeds are the same in all words, so are the answers. -/
theorem profile_trusting_eq (hseed : a.seed port = (a.trusting r t).seed port) :
    a.profile port name c = (a.trusting r t).profile port name c := by
  have hnamed : a.named port name = (a.trusting r t).named port name := by
    unfold named
    rw [hseed]
    rfl
  rw [profile_trusting a port name c r t hopen, ← hnamed,
    profile_of_no_override a port name c hopen, inferred_eq]

end Answers

/-- The registry acts only through the decision whether it is trusted. Where no operator knows a port
and its documentation, if any, is not trusted, the answer is in every field but the description that
of a registry which does not document the port. And if two thresholds decide alike about the
documentation, the answers agree in every field but the description, and in the description too where
both trust it. -/
theorem profile_of_trust (a : Analysis) (port : Nat) (name : Option String) (c : Option Container)
    (hopen : a.settings.overrides.find? port = none) :
    (∀ r : Registry, r.find? port = none →
      (∀ s, a.registry.find? port = some s →
        a.registry.trusts a.settings.threshold port = false) →
      (a.profile port name c).SameSubstance
        ((a.trusting r a.settings.threshold).profile port name c)) ∧
    (∀ t : Threshold,
      (∀ s, a.registry.find? port = some s →
        a.registry.trusts a.settings.threshold port = a.registry.trusts t port) →
      (a.profile port name c).SameSubstance ((a.trusting a.registry t).profile port name c) ∧
      ((∀ s, a.registry.find? port = some s → a.registry.trusts t port = true) →
        a.profile port name c = (a.trusting a.registry t).profile port name c)) := by
  refine ⟨fun r hundocumented huntrusted => ?_, fun t halike => ⟨?_, fun htrusted => ?_⟩⟩
  · refine profile_trusting_sameSubstance a port name c _ _ hopen ?_
    rw [(a.trusting r a.settings.threshold).trusted?_of_undocumented port hundocumented]
    cases hfind : a.registry.find? port with
    | none => exact a.trusted?_of_undocumented port hfind
    | some s =>
      unfold trusted?
      rw [huntrusted s hfind]
      rfl
  · refine profile_trusting_sameSubstance a port name c _ _ hopen ?_
    cases hfind : a.registry.find? port with
    | none =>
      exact (a.trusted?_of_undocumented port hfind).trans
        ((a.trusting a.registry t).trusted?_of_undocumented port hfind).symm
    | some s =>
      unfold trusted?
      rw [halike s hfind]
      rfl
  · refine profile_trusting_eq a port name c _ _ hopen ?_
    have hself := a.seed_eq_of_trusted port fun s hs => (halike s hs).trans (htrusted s hs)
    have hother := (a.trusting a.registry t).seed_eq_of_trusted port htrusted
    exact hself.trans hother.symm

/-- The debugger's port is documented by habit only, so that an enterprise is told the same of it as
without any documentation, and as under the medium threshold. The port of `ssh` is trusted at every
threshold, so that its answer is the same in all words under the low one. -/
theorem profile_of_trust_inspector :
    let a := ofInventory (Settings.preset .enterprise) ⟨⟨"/mock"⟩, []⟩
    let name := some "debug-api"
    let empty := a.trusting Registry.empty a.settings.threshold
    let medium := a.trusting a.registry .medium
    let low := a.trusting a.registry .low
    (a.registry.find? 9229).isSome = true ∧ a.registry.trusts a.settings.threshold 9229 = false ∧
      (a.profile 9229 name none).SameSubstance (empty.profile 9229 name none) ∧
      (a.profile 9229 name none).SameSubstance (medium.profile 9229 name none) ∧
      a.profile 22 name none = low.profile 22 name none := by
  intro a name empty medium low
  have huntrusted : a.registry.trusts a.settings.threshold 9229 = false := by decide +kernel
  have hmedium : a.registry.trusts .medium 9229 = false := by decide +kernel
  have hssh : a.registry.trusts a.settings.threshold 22 = true := by decide +kernel
  have hlow : a.registry.trusts .low 22 = true := by decide +kernel
  obtain ⟨hregistry, hthreshold⟩ := a.profile_of_trust 9229 name none rfl
  have hempty := hregistry Registry.empty rfl fun _ _ => huntrusted
  have halike := (hthreshold .medium fun _ _ => huntrusted.trans hmedium.symm).1
  have hsame := ((a.profile_of_trust 22 name none rfl).2 .low
    fun _ _ => hssh.trans hlow.symm).2 fun _ _ => hlow
  exact ⟨by decide +kernel, huntrusted, hempty, halike, hsame⟩

end Analysis

end PortSurvey
