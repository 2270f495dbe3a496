import PortSurvey.Proofs.Analysis.Answers
import PortSurvey.Proofs.Analysis.Rules
import PortSurvey.Proofs.Profile.Populated
import PortSurvey.Proofs.Registry
import PortSurvey.Settings.Validate

/-!
# Which answers are populated

Documented profiles and guesses are populated, and neither containers nor rules blank a text out.
What an operator says may be blank, also in settings without a fault: these are refused for a blank
protocol or service of an override and for a blank default authentication, but not for the other
texts that an answer takes over.

`Analysis.profile_populated_iff` says for settings without a fault which answers are populated. Where
an operator knows the port, the description and the authentication must not be given as blank texts
(`Override.Filled`). Elsewhere the kind of services that the name tells, if it tells one, must bring
a protocol, a service where it names one, and an authentication that is not blank unless a better
one comes from elsewhere (`Archetype.Fills`).
-/

namespace PortSurvey

open Text

/-! ## Rules -/

namespace Analysis

/-- The rules do not blank a description out. -/
theorem withRules_told (s : Settings) {p : Profile} (h : isBlankText p.description = false) :
    isBlankText (withRules s p).description = false := by
  have hunknown : isBlankText (withUnknownRule s p).description = false := by
    rw [withUnknownRule_eq]
    exact h
  have hpublic : isBlankText (withPublicRule s (withUnknownRule s p)).description = false := by
    unfold withPublicRule
    split_ifs
    · exact Profile.remark_told hunknown _
    · exact hunknown
  unfold withRules
  rw [withAuthRule_eq]
  unfold withEncryptionRule
  split_ifs
  · exact Profile.remark_told hpublic _
  · exact hpublic

/-- Under rules with a default authentication, an authentication is blank exactly if it was and the
service need not know its clients. -/
theorem isBlankText_withRules_auth {s : Settings} (hdefault : isBlankText s.policy.defaultAuth = false)
    (p : Profile) : isBlankText (withRules s p).auth =
      (isBlankText p.auth && !s.policy.requiresStrongAuth p.service) := by
  rw [withRules_auth, Policy.ruledAuth]
  cases hblank : isBlankText p.auth
  · rw [Bool.false_and]
    split_ifs
    · exact hdefault
    · exact hblank
  · rw [Profile.authKnown_of_isBlankText hblank, Bool.not_false, Bool.and_true, Bool.true_and]
    split_ifs with hstrong
    · rw [hstrong, hdefault]
      rfl
    · rw [Bool.eq_false_iff.mpr hstrong, hblank]
      rfl

/-! ## Answers -/

/-- The kind of services that a name tells. -/
def kind? (a : Analysis) (name : Option String) : Option Archetype :=
  (givenName? name).bind a.table.lookup?

/-- Where the name tells no kind, the number of the port and its documentation have the word. -/
theorem named_of_no_kind {a : Analysis} {name : Option String} (h : a.kind? name = none)
    (port : Nat) : a.named port name = a.seed port := by
  unfold named
  unfold kind? at h
  cases hname : givenName? name with
  | none => rfl
  | some n =>
    rw [hname, Option.bind_some] at h
    dsimp only [withName]
    rw [h]

/-- Where the name tells a kind, it has the word. -/
theorem named_of_kind {a : Analysis} {name : Option String} {k : Archetype}
    (h : a.kind? name = some k) (port : Nat) :
    ∃ n, a.named port name = withArchetype (a.seed port) n k := by
  obtain ⟨n, hname, hlookup⟩ := Option.bind_eq_some_iff.mp h
  refine ⟨n, ?_⟩
  unfold named withName
  rw [hname]
  dsimp only
  rw [hlookup]

end Analysis

/-- The service that is named where a service of a kind answers on a port: the kind, unless the port
is known for a service by itself that speaks the protocol of the kind. -/
def Archetype.serviceOn (k : Archetype) (p : Profile) : String :=
  if k.protocolFor k.encrypted != p.protocol || p.service ∈ Analysis.placeholders then k.kind
  else p.service

namespace Analysis

section Kinds

variable (p : Profile) (n : String) (k : Archetype)

/-- A kind decides on the protocol. -/
theorem withArchetype_protocol : (withArchetype p n k).protocol = k.protocolFor k.encrypted := by
  unfold withArchetype
  dsimp only [Profile.remark]

/-- A kind has its say in the service. -/
theorem withArchetype_service : (withArchetype p n k).service = k.serviceOn p := by
  unfold withArchetype
  dsimp only [Profile.remark]
  rfl

/-- A kind does not blank a description out. -/
theorem withArchetype_told (h : isBlankText p.description = false) :
    isBlankText (withArchetype p n k).description = false := by
  unfold withArchetype
  exact Profile.remark_told h _

/-- A kind that is given to a profile leaves a blank authentication exactly if its own is blank and
none was known. -/
theorem isBlankText_withArchetype_auth : isBlankText (withArchetype p n k).auth = true ↔
    isBlankText k.auth = true ∧ p.authKnown = false := by
  have hauth : (withArchetype p n k).auth =
      if isKnownAuth k.auth || !p.authKnown then k.auth else p.auth := by
    unfold withArchetype
    dsimp only [Profile.remark]
  rw [hauth]
  cases hknown : p.authKnown
  · simp
  · rw [Bool.not_true, Bool.or_false]
    refine iff_of_false ?_ fun h => absurd h.2 (by decide)
    intro hblank
    split_ifs at hblank with hkind
    · exact absurd (hkind.symm.trans (isKnownAuth_of_isBlankText hblank)) (by decide)
    · exact absurd (hknown.symm.trans (Profile.authKnown_of_isBlankText hblank)) (by decide)

end Kinds

end Analysis

/-- A kind of services fills the texts of an answer about a port of which `p` is known by itself and
which `x` is evidence about. -/
structure Archetype.Fills (k : Archetype) (policy : Policy) (p : Profile) (x : Evidence) :
    Prop where
  /-- Its protocol is not blank. -/
  protocol : isBlankText (k.protocolFor k.encrypted) = false
  /-- The service that is named is not blank. -/
  service : isBlankText (k.serviceOn p) = false
  /-- Its authentication is not blank, or the port is known for one, or the container is evidence of
  one, or the policy requires one and supplies its own. -/
  auth : isBlankText k.auth = true →
    p.authKnown = true ∨ x.auth = true ∨ policy.requiresStrongAuth (k.serviceOn p) = true

/-- An override fills the texts of an answer: those that may be left open are left open or not
blank. -/
structure Override.Filled (o : Override) : Prop where
  /-- A description that is given is not blank. -/
  description : ∀ words, o.description = some words → isBlankText words = false
  /-- An authentication that is given is not blank. -/
  auth : ∀ auth, o.auth = some auth → isBlankText auth = false

/-- An override of a protocol and a service is populated exactly if it is filled. -/
theorem Override.populated_iff {o : Override} (hprotocol : isBlankText o.protocol = false)
    (hservice : isBlankText o.service = false) (port : Nat) :
    (o.profile port).Populated ↔ o.Filled := by
  have hgiven : ∀ (text : Option String) (open_ : String), isBlankText open_ = false →
      (isBlankText (text.getD open_) = false ↔ ∀ s, text = some s → isBlankText s = false) := by
    intro text open_ hopen
    cases text with
    | none => exact iff_of_true hopen fun s h => absurd h (Option.some_ne_none s).symm
    | some s => exact ⟨fun h t ht => Option.some.inj ht ▸ h, fun h => h s rfl⟩
  have hdescription := hgiven o.description ("Operator override for port " ++ toString port)
    (isBlankText_append_of_left (by decide) _)
  have hauth := hgiven o.auth unknownName (by decide)
  exact ⟨fun h => ⟨hdescription.mp h.description, hauth.mp h.auth⟩,
    fun h => ⟨hprotocol, hservice, hdescription.mpr h.description, hauth.mpr h.auth⟩⟩

/-- The registry documents a protocol and a service for each of its ports. -/
theorem Registry.standard_named {port : Nat} {s : Standard}
    (h : Registry.standard.find? port = some s) :
    isBlankText s.protocol = false ∧ isBlankText s.service = false := by
  have hclaims : ∀ s ∈ Registry.claims Registry.standardTiers,
      isBlankText s.protocol = false ∧ isBlankText s.service = false := by
    decide +kernel
  exact hclaims s (Registry.mem_claims_of_standard h)

namespace Analysis

section Answers

variable (settings : Settings) (inventory : Inventory) (port : Nat) (name : Option String)
  (c : Option Container)

/-- The profile of a port by its number and its documentation is populated. -/
theorem seed_populated : ((ofInventory settings inventory).seed port).Populated := by
  unfold seed
  rw [ofInventory_registry, ofInventory_settings]
  cases hfind : Registry.standard.find? port with
  | none => exact Profile.guess_populated port
  | some s =>
    obtain ⟨hprotocol, hservice⟩ := Registry.standard_named hfind
    dsimp only
    split_ifs
    · exact Profile.ofStandard_populated hprotocol hservice
    · exact (Profile.guess_populated port).remark _

/-- The profile of a port and a name has a description. -/
theorem named_told :
    isBlankText ((ofInventory settings inventory).named port name).description = false := by
  have hseed := (seed_populated settings inventory port).description
  cases hkind : (ofInventory settings inventory).kind? name with
  | none =>
    rw [named_of_no_kind hkind]
    exact hseed
  | some k =>
    obtain ⟨n, hn⟩ := named_of_kind hkind port
    rw [hn]
    exact withArchetype_told _ n k hseed

variable {settings} (hdefault : isBlankText settings.policy.defaultAuth = false)

include hdefault in
/-- An inferred answer is populated exactly if a protocol and a service are known by the port and
the name, and an authentication too unless the container or the policy gives one. -/
theorem inferred_populated_iff {p : Profile}
    (hp : (ofInventory settings inventory).named port name = p) :
    ((ofInventory settings inventory).inferred port name c).Populated ↔
      isBlankText p.protocol = false ∧ isBlankText p.service = false ∧
        (isBlankText p.auth = true → (c.getD .nothing).evidence.auth = true ∨
          settings.policy.requiresStrongAuth p.service = true) := by
  have htold : isBlankText p.description = false := hp ▸ named_told settings inventory port name
  have hdescription : isBlankText
      (withRules settings (p.withContainer (c.getD .nothing))).description = false :=
    withRules_told settings (p.withContainer_told _ htold)
  have hauth : isBlankText (withRules settings (p.withContainer (c.getD .nothing))).auth = false ↔
      (isBlankText p.auth = true → (c.getD .nothing).evidence.auth = true ∨
        settings.policy.requiresStrongAuth p.service = true) := by
    rw [isBlankText_withRules_auth hdefault, Profile.isBlankText_withContainer_auth,
      Profile.withContainer_service]
    cases isBlankText p.auth <;> cases (c.getD .nothing).evidence.auth <;> simp
  rw [inferred_eq, ofInventory_settings, hp]
  constructor
  · rintro ⟨hprotocol, hservice, -, hblank⟩
    rw [withRules_protocol, Profile.isBlankText_withContainer_protocol] at hprotocol
    rw [withRules_service, Profile.withContainer_service] at hservice
    exact ⟨hprotocol, hservice, hauth.mp hblank⟩
  · rintro ⟨hprotocol, hservice, hblank⟩
    refine ⟨?_, ?_, hdescription, hauth.mpr hblank⟩
    · rw [withRules_protocol, Profile.isBlankText_withContainer_protocol]
      exact hprotocol
    · rw [withRules_service, Profile.withContainer_service]
      exact hservice

include hdefault in
/-- Where no operator knows the port, the answer is populated exactly if the kind that the name
tells, if any, fills it. -/
theorem inferred_populated_iff_fills {a : Analysis} (ha : ofInventory settings inventory = a) :
    (a.inferred port name c).Populated ↔
      ∀ k, a.kind? name = some k →
        k.Fills settings.policy (a.seed port) (c.getD .nothing).evidence := by
  subst ha
  have hseed := seed_populated settings inventory port
  set a := ofInventory settings inventory with ha
  cases hkind : a.kind? name with
  | none =>
    rw [inferred_populated_iff inventory port name c hdefault (named_of_no_kind hkind port)]
    refine iff_of_true ⟨hseed.protocol, hseed.service, fun hblank => ?_⟩
      fun k h => absurd h (Option.some_ne_none k).symm
    exact absurd (hblank.symm.trans hseed.auth) (by decide)
  | some k =>
    obtain ⟨n, hn⟩ := named_of_kind hkind port
    rw [inferred_populated_iff inventory port name c hdefault hn, withArchetype_protocol,
      withArchetype_service, isBlankText_withArchetype_auth]
    constructor
    · rintro ⟨hp, hs, hauth⟩ k' hk'
      obtain rfl := Option.some.inj hk'
      refine ⟨hp, hs, fun hblank => ?_⟩
      cases hknown : (a.seed port).authKnown
      · exact .inr (hauth ⟨hblank, hknown⟩)
      · exact .inl rfl
    · intro h
      obtain ⟨hp, hs, hauth⟩ := h k rfl
      refine ⟨hp, hs, fun ⟨hblank, hunknown⟩ => (hauth hblank).resolve_left fun hknown => ?_⟩
      exact absurd (hknown.symm.trans hunknown) (by decide)

end Answers

/-- Settings without a fault have a default authentication. -/
theorem defaultAuth_of_sound {settings : Settings} (h : settings.fault? = none) :
    isBlankText settings.policy.defaultAuth = false := by
  rw [Settings.fault?, Option.or_eq_none_iff, Settings.policyFault?] at h
  exact Bool.eq_false_iff.mpr fun hblank => by simp [hblank] at h

/-- The overrides of settings without a fault have a protocol and a service. -/
theorem override_of_sound {settings : Settings} (h : settings.fault? = none) {port : Nat}
    {o : Override} (ho : settings.overrides.find? port = some o) :
    isBlankText o.protocol = false ∧ isBlankText o.service = false := by
  rw [Settings.fault?, Option.or_eq_none_iff, Option.or_eq_none_iff] at h
  have hentry := List.findSome?_eq_none_iff.mp h.1.2 _ (Dict.mem_of_find? ho)
  rw [Settings.overrideFault?] at hentry
  split_ifs at hentry with hzero hblank
  rwa [Bool.or_eq_true, not_or, Bool.not_eq_true, Bool.not_eq_true] at hblank

/-- Under settings without a fault an answer without regard to declarations is populated exactly if
the override of the port is filled, if there is one, and else the kind of services that the name
tells fills it, if it tells one. -/
theorem profile_populated_iff (settings : Settings) (hsound : settings.fault? = none)
    (inventory : Inventory) (port : Nat) (name : Option String) (c : Option Container) :
    let a := ofInventory settings inventory
    (a.profile port name c).Populated ↔
      (∀ o, settings.overrides.find? port = some o → o.Filled) ∧
      (settings.overrides.find? port = none → ∀ k, a.kind? name = some k →
        k.Fills settings.policy (a.seed port) (c.getD .nothing).evidence) := by
  intro a
  cases hfind : settings.overrides.find? port with
  | some o =>
    obtain ⟨hprotocol, hservice⟩ := override_of_sound hsound hfind
    rw [a.profile_of_override port name c hfind, o.populated_iff hprotocol hservice]
    constructor
    · intro h
      exact ⟨fun o' ho' => Option.some.inj ho' ▸ h,
        fun hnone => absurd hnone (Option.some_ne_none o)⟩
    · exact fun h => h.1 o rfl
  | none =>
    rw [a.profile_of_no_override port name c hfind,
      inferred_populated_iff_fills inventory port name c (defaultAuth_of_sound hsound) rfl]
    constructor
    · exact fun h => ⟨fun o ho => absurd ho (Option.some_ne_none o).symm, fun _ => h⟩
    · exact fun h => h.2 rfl

/-- An operator's pattern makes every service a `store` of a blank authentication, in settings without
a fault. An image of a database fills it, and without one it stays blank. -/
theorem profile_populated_store :
    let store : Archetype := ⟨"store", [7100], ["TCP"], false, "", .internal, []⟩
    let settings := { Settings.preset .production with patterns := [⟨"^", store⟩] }
    let a := ofInventory settings ⟨⟨"/mock"⟩, []⟩
    settings.fault? = none ∧
      (a.profile 7100 (some "data") (some (.ofImage "postgres:16"))).Populated ∧
      ¬(a.profile 7100 (some "data") none).Populated := by
  intro store settings a
  have hsound : settings.fault? = none := by decide +kernel
  have hkind : a.kind? (some "data") = some store := by decide +kernel
  have hservice : store.serviceOn (a.seed 7100) = "store" := by decide +kernel
  have hprotocol : isBlankText (store.protocolFor false) = false := by decide +kernel
  have hstore : isBlankText (store.serviceOn (a.seed 7100)) = false := by
    rw [hservice]
    decide
  refine ⟨hsound, ?_, fun hblank => ?_⟩
  · refine (profile_populated_iff settings hsound _ _ _ _).mpr
      ⟨fun o ho => absurd ho (Option.some_ne_none o).symm, fun _ k hk => ?_⟩
    obtain rfl := Option.some.inj (hkind.symm.trans hk)
    have hpassword : (Container.ofImage "postgres:16").evidence.auth = true := by decide +kernel
    exact ⟨hprotocol, hstore, fun _ => .inr (.inl hpassword)⟩
  · have hfills := ((profile_populated_iff settings hsound _ _ _ _).mp hblank).2 rfl _ hkind
    have hunknown : (a.seed 7100).authKnown = false := by decide +kernel
    have hnothing : Container.nothing.evidence.auth = false := by decide +kernel
    have hweak : settings.policy.requiresStrongAuth "store" = false := by decide +kernel
    rcases hfills.auth (by decide) with hseed | hcontainer | hstrong
    · exact absurd (hseed.symm.trans hunknown) (by decide)
    · exact absurd (hcontainer.symm.trans hnothing) (by decide)
    · rw [hservice] at hstrong
      exact absurd (hstrong.symm.trans hweak) (by decide)

/-- An operator gives a port a blank authentication. The settings are without a fault, and still the
answer is not populated. -/
theorem not_profile_populated :
    let settings := { Settings.preset .production with
      overrides := [(8443, ⟨"gRPC", "edge", none, false, some "", none, none, none⟩)] }
    let a := ofInventory settings ⟨⟨"/mock"⟩, []⟩
    settings.fault? = none ∧ ¬(a.profile 8443 none none).Populated := by
  intro settings a
  have hblank : (a.profile 8443 none none).auth = "" := rfl
  refine ⟨by decide +kernel, fun hpopulated => ?_⟩
  have hauth := hpopulated.auth
  rw [hblank] at hauth
  exact absurd hauth (by decide)

end Analysis

end PortSurvey
