import PortSurvey.Proofs.Analysis.Patterns
import PortSurvey.Proofs.Analysis.Populated

/-!
# Which unknown services are left internal

Settings that take unknown services for confidential have a rule that raises them, and settings that
want data to be open to all only where that is said have one that closes what is open. The rule on
unknown services comes first and raises what is internal; the other one then makes internal what was
open. So an unknown service whose data is open to all passes the first rule by and is internal in
the end (`Settings.ruledSensitivity_eq_internal_iff`).

Documentation and guesses by number take no unknown service for open to all (`seed_sheltered`), and
no known kind of services is called `unknown` or `custom`. What is left internal is therefore named
so by a pattern of the operator, and `profile_unidentified_internal_iff` says by which
(`Archetype.Masks`).
-/

namespace PortSurvey

/-- The name of a service only says that nothing is known of it. -/
def Unidentified (service : String) : Prop :=
  service = unknownName ∨ service = "custom"

instance (service : String) : Decidable (Unidentified service) :=
  inferInstanceAs (Decidable (_ ∨ _))

/-- A kind of services masks an unknown service on a port of which `p` is known by itself and which
`x` is evidence about: the service is named as unknown, and its data is taken for open to all. -/
structure Archetype.Masks (k : Archetype) (p : Profile) (x : Evidence) : Prop where
  /-- The kind is called as unknown services are. -/
  unidentified : Unidentified k.kind
  /-- The port is not known for a service of its own that speaks the protocol of the kind. -/
  named : k.protocolFor k.encrypted ≠ p.protocol ∨ p.service ∈ Analysis.placeholders
  /-- The data of the kind is open to all. -/
  openToAll : k.sensitivity = .openToAll
  /-- The image is not that of a database, which would make the data confidential. -/
  image : x.database = false

/-! ## The rules -/

/-- Where unknown services are taken for confidential, one of them is left internal exactly if its
data is open to all and that has to be said explicitly. -/
theorem Settings.ruledSensitivity_eq_internal_iff {s : Settings}
    (hstrict : s.unknownIsConfidential = true) {service : String} (h : Unidentified service)
    (x : Sensitivity) :
    s.ruledSensitivity service x = .internal ↔ s.explicitlyPublic = true ∧ x = .openToAll := by
  have hunknown : (service == unknownName || service == "custom") = true := by
    rw [Bool.or_eq_true, beq_iff_eq, beq_iff_eq]
    exact h
  unfold Settings.ruledSensitivity
  rw [hstrict, hunknown]
  cases s.explicitlyPublic <;> cases x <;> decide

/-! ## Ports -/

/-- The registry documents each of its ports for a service that has a name. -/
theorem Registry.standard_identified {port : Nat} {s : Standard}
    (h : Registry.standard.find? port = some s) : ¬Unidentified s.service := by
  have hclaims : ∀ s ∈ Registry.claims Registry.standardTiers, ¬Unidentified s.service := by
    decide +kernel
  exact hclaims s (Registry.mem_claims_of_standard h)

namespace Profile

/-- The data of a profile is not open to all if its service is unknown. -/
def Sheltered (p : Profile) : Prop :=
  Unidentified p.service → p.sensitivity ≠ .openToAll

/-- Guesses by number shelter unknown services. -/
theorem guess_sheltered (port : Nat) : (guess port).Sheltered := by
  unfold Sheltered guess
  split_ifs <;> simp [suggested, unknown, Unidentified, unknownName]

/-- A documented profile is of the service that is documented. -/
theorem ofStandard_service (s : Standard) : (ofStandard s).service = s.service := by
  unfold ofStandard
  cases s.notes <;> rfl

end Profile

namespace Analysis

/-- The profile of a port by its number and its documentation shelters unknown services. -/
theorem seed_sheltered (s : Settings) (inventory : Inventory) (port : Nat) :
    ((ofInventory s inventory).seed port).Sheltered := by
  unfold seed
  rw [ofInventory_registry, ofInventory_settings]
  cases hfind : Registry.standard.find? port with
  | none => exact Profile.guess_sheltered port
  | some standard =>
    dsimp only
    split_ifs
    · intro hunknown
      rw [Profile.ofStandard_service] at hunknown
      exact absurd hunknown (Registry.standard_identified hfind)
    · exact Profile.guess_sheltered port

end Analysis

/-! ## Names -/

/-- Services that are called unknown only say that the port was guessed. -/
theorem Unidentified.mem_placeholders {service : String} (h : Unidentified service) :
    service ∈ Analysis.placeholders := by
  rcases h with rfl | rfl <;> decide

/-- A kind leaves a service unknown exactly if it is called so itself and the port has no name that
stays. -/
theorem Archetype.unidentified_serviceOn_iff (k : Archetype) (p : Profile) :
    Unidentified (k.serviceOn p) ↔ Unidentified k.kind ∧
      (k.protocolFor k.encrypted ≠ p.protocol ∨ p.service ∈ Analysis.placeholders) := by
  have hrenamed : (k.protocolFor k.encrypted != p.protocol ||
      decide (p.service ∈ Analysis.placeholders)) = true ↔
      (k.protocolFor k.encrypted ≠ p.protocol ∨ p.service ∈ Analysis.placeholders) := by
    rw [Bool.or_eq_true, bne_iff_ne, decide_eq_true_iff]
  unfold Archetype.serviceOn
  by_cases h : k.protocolFor k.encrypted ≠ p.protocol ∨ p.service ∈ Analysis.placeholders
  · rw [if_pos (hrenamed.mpr h)]
    exact (and_iff_left h).symm
  · rw [if_neg fun hr => h (hrenamed.mp hr)]
    exact iff_of_false (fun hunknown => h (.inr hunknown.mem_placeholders)) fun hboth => h hboth.2

/-- No known kind of services is called as unknown services are. -/
theorem Archetype.identified_of_mem_rows : ∀ row ∈ Archetype.rows,
    ¬Unidentified row.archetype.kind := by
  decide

namespace Analysis

/-- A kind has the word on how sensitive the data is. -/
theorem withArchetype_sensitivity (p : Profile) (n : String) (k : Archetype) :
    (withArchetype p n k).sensitivity = k.sensitivity :=
  rfl

/-- The kind that a name tells comes from a pattern of the operator or from a known one. -/
theorem exists_pattern_of_kind? {s : Settings} {inventory : Inventory} {name : Option String}
    {k : Archetype} (h : (ofInventory s inventory).kind? name = some k) :
    (∃ q ∈ s.patterns, q.archetype = k) ∨ ∃ row ∈ Archetype.rows, row.archetype = k := by
  obtain ⟨n, -, hlookup⟩ := Option.bind_eq_some_iff.mp h
  rw [ofInventory_eq] at hlookup
  by_cases hread : ∀ q ∈ s.patterns, q.Readable
  · obtain ⟨q, hq, hkind⟩ := (tableFor_of_readable hread).2.exists_mem_of_lookup? hlookup
    rcases List.mem_append.mp hq with hown | hknown
    · exact .inl ⟨q, hown, hkind⟩
    · exact .inr ⟨q, hknown, hkind⟩
  · -- A pattern that cannot be read takes all of the operator's with it.
    obtain ⟨q, hq, hunread⟩ : ∃ q ∈ s.patterns, ¬q.Readable := by
      simpa only [not_forall, exists_prop] using hread
    dsimp only at hlookup
    rw [tableFor_of_unreadable hq hunread] at hlookup
    exact .inr (Archetype.Table.known_reads.exists_mem_of_lookup? hlookup)

/-- What a port and a name are known for is an unknown service that is open to all exactly if a
pattern of the operator masks it. -/
theorem named_unidentified_openToAll_iff {s : Settings} {inventory : Inventory} {a : Analysis}
    (ha : ofInventory s inventory = a) (port : Nat) (name : Option String) {x : Evidence}
    (hx : x.database = false) :
    (Unidentified (a.named port name).service ∧ (a.named port name).sensitivity = .openToAll) ↔
      ∃ q ∈ s.patterns, a.kind? name = some q.archetype ∧ q.archetype.Masks (a.seed port) x := by
  subst ha
  constructor
  · rintro ⟨hunknown, hopen⟩
    cases hkind : (ofInventory s inventory).kind? name with
    | none =>
      rw [named_of_no_kind hkind] at hunknown hopen
      exact absurd hopen (seed_sheltered s inventory port hunknown)
    | some k =>
      obtain ⟨n, hn⟩ := named_of_kind hkind port
      rw [hn, withArchetype_service, k.unidentified_serviceOn_iff] at hunknown
      rw [hn, withArchetype_sensitivity] at hopen
      rcases exists_pattern_of_kind? hkind with ⟨q, hq, rfl⟩ | ⟨row, hrow, rfl⟩
      · exact ⟨q, hq, rfl, hunknown.1, hunknown.2, hopen, hx⟩
      · exact absurd hunknown.1 (Archetype.identified_of_mem_rows row hrow)
  · rintro ⟨q, -, hkind, hmasks⟩
    obtain ⟨n, hn⟩ := named_of_kind hkind port
    rw [hn, withArchetype_service, withArchetype_sensitivity, Archetype.unidentified_serviceOn_iff]
    exact ⟨⟨hmasks.unidentified, hmasks.named⟩, hmasks.openToAll⟩

/-- Where unknown services are taken for confidential and no operator knows the port, an answer
leaves an unknown service internal exactly if data has to be said to be open to all and a pattern of
the operator masks the service. -/
theorem profile_unidentified_internal_iff {s : Settings} (hstrict : s.unknownIsConfidential = true)
    (inventory : Inventory) {port : Nat} (hfree : s.overrides.find? port = none)
    (name : Option String) (c : Option Container) :
    let a := ofInventory s inventory
    let p := a.profile port name c
    (Unidentified p.service ∧ p.sensitivity = .internal) ↔
      s.explicitlyPublic = true ∧ ∃ q ∈ s.patterns, a.kind? name = some q.archetype ∧
        q.archetype.Masks (a.seed port) (c.getD .nothing).evidence := by
  intro a p
  have hp : p = withRules s ((a.named port name).withContainer (c.getD .nothing)) := by
    have hopen : a.settings.overrides.find? port = none := by
      rw [ofInventory_settings]
      exact hfree
    rw [show p = a.profile port name c from rfl, a.profile_of_no_override port name c hopen,
      inferred_eq, ofInventory_settings]
  have hservice : p.service = (a.named port name).service := by
    rw [hp, withRules_service, Profile.withContainer_service]
  have hsensitivity : p.sensitivity = s.ruledSensitivity p.service
      ((a.named port name).withContainer (c.getD .nothing)).sensitivity := by
    rw [hservice, hp, withRules_sensitivity, Profile.withContainer_service]
  have hinternal : Unidentified p.service → (p.sensitivity = .internal ↔
      s.explicitlyPublic = true ∧
        ((a.named port name).withContainer (c.getD .nothing)).sensitivity = .openToAll) := by
    intro hunknown
    rw [hsensitivity]
    exact Settings.ruledSensitivity_eq_internal_iff hstrict hunknown _
  rw [Profile.withContainer_sensitivity] at hinternal
  cases hdatabase : (c.getD .nothing).evidence.database with
  | true =>
    -- The data of a database is confidential, whatever its name tells.
    rw [hdatabase, if_pos rfl] at hinternal
    refine iff_of_false (fun h => ?_) ?_
    · obtain ⟨-, hmax⟩ := (hinternal h.1).mp h.2
      have hconfidential : Sensitivity.confidential ≤ .openToAll := hmax ▸ le_max_right _ _
      exact absurd hconfidential (by decide)
    · rintro ⟨-, q, -, -, hmasks⟩
      exact absurd (hmasks.image.symm.trans hdatabase) (by decide)
  | false =>
    rw [hdatabase, if_neg Bool.false_ne_true] at hinternal
    rw [← named_unidentified_openToAll_iff (a := a) rfl port name hdatabase, hservice]
    rw [hservice] at hinternal
    constructor
    · rintro ⟨hunknown, hlow⟩
      obtain ⟨hexplicit, hopen⟩ := (hinternal hunknown).mp hlow
      exact ⟨hexplicit, hunknown, hopen⟩
    · rintro ⟨hexplicit, hunknown, hopen⟩
      exact ⟨hunknown, (hinternal hunknown).mpr ⟨hexplicit, hopen⟩⟩

/-- An operator's pattern takes the sites of an enterprise that begin with `legacy` for unknown and
open to all. One of them with the image of a database is not left internal, one without is. -/
theorem profile_unidentified_internal_legacy :
    let legacy : Archetype := ⟨"unknown", [], ["HTTP"], false, "none", .openToAll, []⟩
    let s := { Settings.preset .enterprise with patterns := [⟨"^legacy", legacy⟩] }
    let a := ofInventory s ⟨⟨"/mock"⟩, []⟩
    let p := a.profile 7100 (some "legacy-site") none
    let q := a.profile 7100 (some "legacy-site") (some (.ofImage "postgres:16"))
    s.unknownIsConfidential = true ∧ s.overrides.find? 7100 = none ∧
      (Unidentified p.service ∧ p.sensitivity = .internal) ∧
      ¬(Unidentified q.service ∧ q.sensitivity = .internal) := by
  intro legacy s a p q
  have hkind : a.kind? (some "legacy-site") = some legacy := by decide +kernel
  have hnamed : legacy.protocolFor false ≠ (a.seed 7100).protocol := by decide +kernel
  refine ⟨rfl, rfl, ?_, fun hq => ?_⟩
  · refine (profile_unidentified_internal_iff rfl _ rfl _ _).mpr
      ⟨rfl, ⟨"^legacy", legacy⟩, .head _, hkind, .inl rfl, .inl hnamed, rfl, ?_⟩
    rw [Option.getD_none, Container.nothing_evidence]
    rfl
  · obtain ⟨-, q, -, -, hmasks⟩ := (profile_unidentified_internal_iff rfl _ rfl _ _).mp hq
    have hdatabase : (Container.ofImage "postgres:16").evidence.database = true := by
      decide +kernel
    exact absurd (hdatabase.symm.trans hmasks.image) (by decide)

/-- An enterprise wants unknown services to be confidential. Under a pattern of its operator, and in
settings without a fault, the answer about a site that is unknown says that its data is internal. -/
theorem not_profile_confidential :
    let legacy : Archetype := ⟨"unknown", [], ["HTTP"], false, "none", .openToAll, []⟩
    let s := { Settings.preset .enterprise with patterns := [⟨"^legacy", legacy⟩] }
    let p := (ofInventory s ⟨⟨"/mock"⟩, []⟩).profile 7100 (some "legacy-site") none
    s.fault? = none ∧ s.unknownIsConfidential = true ∧ s.overrides.find? 7100 = none ∧
      p.service = unknownName ∧ p.sensitivity = .internal := by
  decide +kernel

end Analysis

end PortSurvey
