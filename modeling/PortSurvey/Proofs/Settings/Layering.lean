import PortSurvey.Proofs.Dict
import PortSurvey.Proofs.Except
import PortSurvey.Settings.File

/-!
# What settings keep of their preset

A file of settings gives a layer over the preset of the environment that it means. `ofFile_keeps`
says what becomes of the settings that the layer leaves open: they are those of the preset
(`Layer.Keeps`), except inside a policy. A policy that is given in part is filled up from the usual
policy, so it keeps what the preset has exactly if nothing is left open or the preset has the usual
policy, as all have but that of an enterprise.
-/

namespace PortSurvey.Settings

/-! ## Presets and layers -/

/-- The environment that a layer means: production where it names none, or none that exists. -/
def Layer.meant (l : Layer) : Environment :=
  (l.environment.bind Environment.ofName?).getD .production

/-- The settings over which a layer is laid are the preset of the environment that it means. -/
theorem Layer.ofEnvironmentName_eq (l : Layer) :
    ofEnvironmentName (l.environment.getD usualEnvironment) = preset l.meant := by
  have husual : Environment.ofName? usualEnvironment = some .production := by decide
  unfold ofEnvironmentName Layer.meant
  cases l.environment with
  | none => rw [Option.getD_none, husual, Option.bind_none, Option.getD_some, Option.getD_none]
  | some name => rw [Option.getD_some, Option.bind_some]

/-- What a layer does not give, `s` has of `b`. -/
structure Layer.Keeps (l : Layer) (b s : Settings) : Prop where
  /-- How strictly is judged. -/
  posture : s.posture = b.posture
  /-- How much encryption is wanted. -/
  encryption : s.encryption = b.encryption
  /-- Where the services run. -/
  environment : s.environment = b.environment
  /-- Whether traffic of which nothing is known is taken to be encrypted. -/
  assumeSecure : s.assumeSecure = b.assumeSecure
  /-- Whether the data of unknown services is taken to be confidential. -/
  unknownIsConfidential : s.unknownIsConfidential = b.unknownIsConfidential
  /-- Whether data is never taken to be open to all. -/
  explicitlyPublic : s.explicitlyPublic = b.explicitlyPublic
  /-- The threshold, unless it is given. -/
  threshold : l.threshold = none → s.threshold = b.threshold
  /-- The overrides of ports that no key denotes. -/
  overrides : ∀ port, (∀ e ∈ l.overrides, e.1.port ≠ .ok port) →
    s.overrides.find? port = b.overrides.find? port
  /-- The patterns, unless some are given. -/
  patterns : l.patterns = [] → s.patterns = b.patterns
  /-- The policy, unless one is given. -/
  policy : l.policy = none → s.policy = b.policy

/-- What a layer of a policy does not give, `r` has of `b`. -/
structure PolicyLayer.Keeps (p : PolicyLayer) (b r : Policy) : Prop where
  /-- The services that have to be encrypted. -/
  encrypted : p.encrypted = none → r.encrypted = b.encrypted
  /-- The services that have to know their clients. -/
  strongAuth : p.strongAuth = none → r.strongAuth = b.strongAuth
  /-- The authentication that those services are taken to have. -/
  defaultAuth : p.defaultAuth = none → r.defaultAuth = b.defaultAuth

/-- A layer of a policy leaves nothing open. -/
structure PolicyLayer.Full (p : PolicyLayer) : Prop where
  /-- It gives the services that have to be encrypted. -/
  encrypted : p.encrypted ≠ none
  /-- It gives the services that have to know their clients. -/
  strongAuth : p.strongAuth ≠ none
  /-- It gives the authentication that those services are taken to have. -/
  defaultAuth : p.defaultAuth ≠ none

/-! ## Policies -/

/-- What a layer of a policy leaves open is as in the usual policy. -/
theorem PolicyLayer.policy_keeps (p : PolicyLayer) : p.Keeps .standard p.policy where
  encrypted h := by
    have hlowered : loweredNames Policy.standard.encrypted = Policy.standard.encrypted := by
      decide +kernel
    rw [PolicyLayer.policy, h, Option.getD_none, hlowered]
  strongAuth h := by
    have hlowered : loweredNames Policy.standard.strongAuth = Policy.standard.strongAuth := by
      decide +kernel
    rw [PolicyLayer.policy, h, Option.getD_none, hlowered]
  defaultAuth h := by rw [PolicyLayer.policy, h, Option.getD_none]

/-- Every environment but an enterprise begins with the usual policy. -/
theorem preset_policy_of_ne {e : Environment} (h : e ≠ .enterprise) :
    (preset e).policy = .standard := by
  cases e with
  | enterprise => exact absurd rfl h
  | production | staging | development => rfl

/-- No part of the policy of an enterprise is as in the usual policy. -/
theorem enterprise_policy_ne : Policy.standard.encrypted ≠ Policy.enterprise.encrypted ∧
    Policy.standard.strongAuth ≠ Policy.enterprise.strongAuth ∧
    Policy.standard.defaultAuth ≠ Policy.enterprise.defaultAuth := by
  decide +kernel

/-- What a layer of a policy leaves open is as in the preset of an environment exactly if it leaves
nothing open or the environment is no enterprise. -/
theorem PolicyLayer.policy_keeps_preset_iff (p : PolicyLayer) (e : Environment) :
    p.Keeps (preset e).policy p.policy ↔ (e = .enterprise → p.Full) := by
  have hkeeps := p.policy_keeps
  by_cases he : e = .enterprise
  · subst he
    obtain ⟨hencrypted, hstrongAuth, hdefaultAuth⟩ := enterprise_policy_ne
    constructor
    · intro h _
      refine ⟨fun hopen => hencrypted ?_, fun hopen => hstrongAuth ?_,
        fun hopen => hdefaultAuth ?_⟩
      · exact (hkeeps.encrypted hopen).symm.trans (h.encrypted hopen)
      · exact (hkeeps.strongAuth hopen).symm.trans (h.strongAuth hopen)
      · exact (hkeeps.defaultAuth hopen).symm.trans (h.defaultAuth hopen)
    · intro hfull
      obtain ⟨hencrypted, hstrongAuth, hdefaultAuth⟩ := hfull rfl
      exact ⟨fun h => absurd h hencrypted, fun h => absurd h hstrongAuth,
        fun h => absurd h hdefaultAuth⟩
  · rw [preset_policy_of_ne he]
    exact iff_of_true hkeeps fun h => absurd h he

/-! ## Overrides -/

/-- An override is put under the port that its key denotes, before those that follow it. -/
theorem addOverrides_cons_eq_ok_iff {known o : Dict Nat Override} {key : PortKey} {value : Override}
    {rest : Dict PortKey Override} : addOverrides known ((key, value) :: rest) = .ok o ↔
      ∃ port, key.port = .ok port ∧ addOverrides (known.insert port value) rest = .ok o := by
  unfold addOverrides
  rw [List.foldlM_cons, Except.bind_eq_ok_iff]
  constructor
  · rintro ⟨d, hd, hrest⟩
    obtain ⟨port, hport, rfl⟩ := Except.map_eq_ok_iff.mp hd
    exact ⟨port, hport, hrest⟩
  · rintro ⟨port, hport, hrest⟩
    exact ⟨_, Except.map_eq_ok_iff.mpr ⟨port, hport, rfl⟩, hrest⟩

/-- Ports that no key denotes keep their overrides. -/
theorem find?_addOverrides_of_ne {known o : Dict Nat Override} {given : Dict PortKey Override}
    (h : addOverrides known given = .ok o) {port : Nat}
    (hport : ∀ e ∈ given, e.1.port ≠ .ok port) : o.find? port = known.find? port := by
  -- The overrides are put in one by one, so what was known before them is arbitrary.
  induction given generalizing known with
  | nil =>
    obtain rfl : known = o := by cases h; rfl
    rfl
  | cons e rest ih =>
    obtain ⟨key, value⟩ := e
    obtain ⟨port', hkey, hrest⟩ := addOverrides_cons_eq_ok_iff.mp h
    have hne : port' ≠ port := fun hsame =>
      hport (key, value) List.mem_cons_self (hsame ▸ hkey)
    rw [ih hrest fun e he => hport e (List.mem_cons_of_mem _ he), Dict.find?_insert, if_neg hne]

/-! ## Layers -/

/-- The threshold that a layer makes of one that is there: the one that it names, if it does. -/
def Layer.thresholdOver (l : Layer) (t : Threshold) : Except Fault Threshold :=
  match l.threshold with
  | none => .ok t
  | some name => namedThreshold name

/-- A layer begins with the preset of the environment that it means, under its threshold. -/
theorem Layer.ofVariables_eq (l : Layer) : ofVariables l.environment l.threshold =
    (l.thresholdOver (preset l.meant).threshold).map
      fun t => { preset l.meant with threshold := t } := by
  unfold ofVariables Layer.thresholdOver
  rw [l.ofEnvironmentName_eq]
  cases l.threshold <;> rfl

/-- The preset of the environment that a layer means, with the threshold and the overrides that it
makes, and with its patterns and its policy. -/
def Layer.over (l : Layer) (t : Threshold) (overrides : Dict Nat Override) : Settings :=
  { preset l.meant with
    threshold := t
    overrides := overrides
    patterns := l.patterns
    policy := match l.policy with
      | some p => p.policy
      | none => (preset l.meant).policy }

/-- A layer makes settings exactly if its threshold and all of its overrides can be had. -/
theorem Layer.settings_eq_ok_iff {l : Layer} {s : Settings} : l.settings = .ok s ↔
    ∃ t overrides, l.thresholdOver (preset l.meant).threshold = .ok t ∧
      addOverrides (preset l.meant).overrides l.overrides = .ok overrides ∧
      s = l.over t overrides := by
  unfold Layer.settings
  rw [l.ofVariables_eq, Except.bind_eq_ok_iff]
  constructor
  · rintro ⟨s', hs', hrest⟩
    obtain ⟨t, ht, rfl⟩ := Except.map_eq_ok_iff.mp hs'
    obtain ⟨overrides, hoverrides, hs⟩ := Except.bind_eq_ok_iff.mp hrest
    refine ⟨t, overrides, ht, hoverrides, ?_⟩
    cases hs
    rfl
  · rintro ⟨t, overrides, ht, hoverrides, rfl⟩
    refine ⟨_, Except.map_eq_ok_iff.mpr ⟨t, ht, rfl⟩, Except.bind_eq_ok_iff.mpr ?_⟩
    exact ⟨overrides, hoverrides, rfl⟩

/-- The settings that a layer makes are those of its preset where it gives nothing. -/
theorem Layer.settings_keeps {l : Layer} {s : Settings} (h : l.settings = .ok s) :
    l.Keeps (preset l.meant) s := by
  obtain ⟨t, overrides, ht, hoverrides, rfl⟩ := Layer.settings_eq_ok_iff.mp h
  refine ⟨rfl, rfl, rfl, rfl, rfl, rfl, fun hopen => ?_, fun port hport => ?_, fun hopen => ?_,
    fun hopen => ?_⟩
  · rw [Layer.thresholdOver, hopen] at ht
    cases ht
    rfl
  · exact find?_addOverrides_of_ne hoverrides hport
  · rw [Layer.over, hopen]
    cases l.meant <;> rfl
  · rw [Layer.over, hopen]

/-- The policy that a layer gives is the policy of the settings that it makes. -/
theorem Layer.settings_policy {l : Layer} {s : Settings} (h : l.settings = .ok s) {p : PolicyLayer}
    (hp : l.policy = some p) : s.policy = p.policy := by
  obtain ⟨t, overrides, -, -, rfl⟩ := Layer.settings_eq_ok_iff.mp h
  rw [Layer.over, hp]

/-! ## Files -/

/-- Settings are sound exactly if they have no fault, and then they are left as they are. -/
theorem validated_eq_ok_iff {s s' : Settings} : s.validated = .ok s' ↔ s' = s ∧ s.fault? = none := by
  unfold validated
  cases s.fault? with
  | some f =>
    constructor
    · intro h
      cases h
    · rintro ⟨-, h⟩
      cases h
  | none =>
    constructor
    · intro h
      exact ⟨(Except.ok.inj h).symm, rfl⟩
    · rintro ⟨rfl, -⟩
      rfl

/-- A file makes settings exactly if it can be read and gives a layer, and the layer makes them and
they are sound. -/
theorem ofFile_eq_ok_iff {path : Path} {content : Option String} {s : Settings} :
    ofFile path content = .ok s ↔ ∃ text l, content = some text ∧
      Layer.ofFile path text = .ok l ∧ l.settings = .ok s ∧ s.fault? = none := by
  unfold ofFile
  cases content with
  | none =>
    constructor
    · intro h
      cases h
    · rintro ⟨_, _, h, _⟩
      cases h
  | some text =>
    constructor
    · intro h
      obtain ⟨l, hl, h⟩ := Except.bind_eq_ok_iff.mp h
      obtain ⟨s', hs', h⟩ := Except.bind_eq_ok_iff.mp h
      obtain ⟨rfl, hsound⟩ := validated_eq_ok_iff.mp h
      exact ⟨text, l, rfl, hl, hs', hsound⟩
    · rintro ⟨_, l, ⟨⟩, hl, hs, hsound⟩
      refine Except.bind_eq_ok_iff.mpr ⟨l, hl, Except.bind_eq_ok_iff.mpr ⟨s, hs, ?_⟩⟩
      exact validated_eq_ok_iff.mpr ⟨rfl, hsound⟩

/-- What an accepted file does not give is as in the preset of the environment that it means, except
inside a policy that it gives. What it leaves open there is as in the usual policy; so that is as in
the preset exactly if nothing is left open or the environment is no enterprise. -/
theorem ofFile_keeps {path : Path} {content : Option String} {s : Settings}
    (h : ofFile path content = .ok s) : ∃ text l, content = some text ∧
      Layer.ofFile path text = .ok l ∧ l.Keeps (preset l.meant) s ∧
      ∀ p, l.policy = some p → p.Keeps .standard s.policy ∧
        (p.Keeps (preset l.meant).policy s.policy ↔ (l.meant = .enterprise → p.Full)) := by
  obtain ⟨text, l, rfl, hl, hs, -⟩ := ofFile_eq_ok_iff.mp h
  refine ⟨text, l, rfl, hl, Layer.settings_keeps hs, fun p hp => ?_⟩
  rw [Layer.settings_policy hs hp]
  exact ⟨p.policy_keeps, p.policy_keeps_preset_iff l.meant⟩

/-- A trial keeps its services where a file names only another authentication. -/
theorem ofFile_keeps_staging :
    let text := "environment: staging\nsecurity_policy:\n  default_auth: certificate\n"
    let s := { preset .staging with
      policy := { Policy.standard with defaultAuth := "certificate" } }
    ofFile ⟨"o.yaml"⟩ (some text) = .ok s ∧
      ∃ l, Layer.ofFile ⟨"o.yaml"⟩ text = .ok l ∧ l.Keeps (preset l.meant) s := by
  intro text s
  have hs : ofFile ⟨"o.yaml"⟩ (some text) = .ok s :=
    Except.toOption_eq_some_iff.mp (by decide +kernel)
  obtain ⟨_, l, ⟨⟩, hl, hkeeps, -⟩ := ofFile_keeps hs
  exact ⟨hs, l, hl, hkeeps⟩

/-- An enterprise does not: where a file names only another authentication, `postgresql` need not be
encrypted any more. -/
theorem not_ofFile_keeps :
    let text := "environment: enterprise\nsecurity_policy:\n  default_auth: certificate\n"
    let l : Layer := ⟨some "enterprise", none, [], [], some ⟨none, none, some "certificate"⟩⟩
    let s := { preset .enterprise with
      policy := { Policy.standard with defaultAuth := "certificate" } }
    Layer.ofFile ⟨"o.yaml"⟩ text = .ok l ∧ l.meant = .enterprise ∧
      ofFile ⟨"o.yaml"⟩ (some text) = .ok s ∧
      (preset .enterprise).policy.requiresEncryption "postgresql" = true ∧
      s.policy.requiresEncryption "postgresql" = false := by
  intro text l s
  have hl : Layer.ofFile ⟨"o.yaml"⟩ text = .ok l :=
    Except.toOption_eq_some_iff.mp (by decide +kernel)
  have hs : ofFile ⟨"o.yaml"⟩ (some text) = .ok s :=
    Except.toOption_eq_some_iff.mp (by decide +kernel)
  exact ⟨hl, by decide, hs, by decide +kernel, by decide +kernel⟩

end PortSurvey.Settings
