import PortSurvey.Proofs.Analysis.Answers
import PortSurvey.Proofs.Analysis.Rules
import PortSurvey.Proofs.Inventory.Lookup
import PortSurvey.Proofs.Registry

/-!
# HTTPS is said of encrypted traffic only

The protocol of an answer and its encryption come from different places: from rows of the registry,
guesses by number, the known kinds of services, images, declarations. Still no answer says HTTPS of
what is not encrypted (`HttpsEncrypted`), and no edge says HTTP of what is
(`Analysis.answers_httpsEncrypted`). The invariant holds of every row of the tables, and whatever
comes on top of a row either sets protocol and encryption together or turns encryption on. An
operator may say anything of a port or of a kind of services, so there must be neither overrides nor
patterns; declarations only name transports.
-/

namespace PortSurvey

/-- A protocol and the encryption that is said of it do not contradict each other: HTTPS is
encrypted. -/
def HttpsEncrypted (protocol : String) (encrypted : Bool) : Prop :=
  protocol = "HTTPS" → encrypted = true

/-- Other protocols contradict nothing. -/
theorem httpsEncrypted_of_ne {protocol : String} (h : protocol ≠ "HTTPS") (encrypted : Bool) :
    HttpsEncrypted protocol encrypted :=
  fun hhttps => absurd hhttps h

/-- Encryption may be turned on. -/
theorem HttpsEncrypted.or {protocol : String} {encrypted : Bool}
    (h : HttpsEncrypted protocol encrypted) (more : Bool) :
    HttpsEncrypted protocol (encrypted || more) := by
  intro hhttps
  rw [h hhttps, Bool.true_or]

/-! ## The tables -/

/-- The registry documents HTTPS only for services that are usually encrypted. -/
theorem Registry.standard_httpsEncrypted {port : Nat} {s : Standard}
    (h : Registry.standard.find? port = some s) :
    HttpsEncrypted s.protocol (UsualSecurity.ofService s.service).encrypted := by
  have hclaims : ∀ s ∈ Registry.claims Registry.standardTiers,
      s.protocol = "HTTPS" → (UsualSecurity.ofService s.service).encrypted = true := by
    decide +kernel
  exact hclaims s (Registry.mem_claims_of_standard h)

/-- A kind of services that the known table tells is one of its rows. -/
theorem Archetype.exists_row_of_lookup? {name : String} {archetype : Archetype}
    (h : Archetype.Table.known.lookup? name = some archetype) :
    ∃ row ∈ Archetype.rows, row.archetype = archetype := by
  unfold Archetype.Table.lookup? at h
  dsimp only at h
  split_ifs at h
  obtain ⟨m, hfind, rfl⟩ := Option.map_eq_some_iff.mp h
  obtain ⟨row, hrow, hread⟩ := List.mem_filterMap.mp (List.mem_of_find?_eq_some hfind)
  -- A matcher keeps the row that it was read from.
  unfold Archetype.Matcher.ofPattern? at hread
  cases hpattern : Pattern.ofText? row.text with
  | error fault => simp [hpattern, Except.map, Except.toOption] at hread
  | ok pattern =>
    simp only [hpattern, Except.map, Except.toOption, Option.some.injEq] at hread
    exact ⟨row, hrow, by rw [← hread]⟩

/-- The known kinds of services speak HTTPS only if they have to be encrypted. -/
theorem Archetype.known_httpsEncrypted {name : String} {archetype : Archetype}
    (h : Archetype.Table.known.lookup? name = some archetype) :
    HttpsEncrypted (archetype.protocolFor archetype.encrypted) archetype.encrypted := by
  have hrows : ∀ row ∈ Archetype.rows,
      row.archetype.protocolFor row.archetype.encrypted = "HTTPS" →
        row.archetype.encrypted = true := by decide
  obtain ⟨row, hrow, rfl⟩ := Archetype.exists_row_of_lookup? h
  exact hrows row hrow

/-! ## Profiles -/

namespace Profile

/-- What a profile says of HTTPS does not contradict its encryption. -/
def Honest (p : Profile) : Prop :=
  HttpsEncrypted p.protocol p.encrypted

/-- Guesses by number take HTTPS for encrypted. -/
theorem guess_honest (port : Nat) : (guess port).Honest := by
  unfold Honest HttpsEncrypted guess
  split_ifs <;> simp [suggested, unknown]

/-- Remarks change neither protocol nor encryption. -/
theorem Honest.remark {p : Profile} (h : p.Honest) (note : String) : (p.remark note).Honest :=
  h

/-- Documented profiles are honest where the usual security of the service fits the protocol. -/
theorem ofStandard_honest {s : Standard}
    (h : HttpsEncrypted s.protocol (UsualSecurity.ofService s.service).encrypted) :
    (ofStandard s).Honest := by
  unfold ofStandard
  generalize UsualSecurity.ofService s.service = usual at h ⊢
  cases s.notes with
  | none => exact h
  | some note => exact h

/-- A container keeps a profile honest: an image names HTTPS where there is encryption. -/
theorem Honest.withContainer {p : Profile} (h : p.Honest) (c : Container) :
    (p.withContainer c).Honest := by
  unfold Honest
  rw [withContainer_protocol, withContainer_encrypted]
  split_ifs with himage hencrypted
  · rw [hencrypted]
    exact fun _ => rfl
  · exact httpsEncrypted_of_ne (by decide) _
  · exact h.or _

end Profile

namespace Analysis

/-! ## Answers about ports -/

/-- Without patterns of an operator the table is that of the known kinds. -/
theorem tableFor_of_no_patterns {settings : Settings} (h : settings.patterns = []) :
    tableFor settings = Archetype.Table.known := by
  unfold tableFor
  rw [h]
  rfl

/-- What the kind of a service gives is honest if the kind is. -/
theorem withArchetype_honest {archetype : Archetype}
    (h : HttpsEncrypted (archetype.protocolFor archetype.encrypted) archetype.encrypted)
    (p : Profile) (name : String) : (withArchetype p name archetype).Honest :=
  h

/-- The rules keep a profile honest. -/
theorem withRules_honest {p : Profile} (h : p.Honest) (s : Settings) : (withRules s p).Honest := by
  unfold Profile.Honest
  rw [withRules_protocol, withRules_encrypted]
  exact h

section Answers

variable {settings : Settings} (hpatterns : settings.patterns = []) (inventory : Inventory)

/-- The profile of a port by its number and its documentation is honest. -/
theorem seed_honest (settings : Settings) (port : Nat) :
    ((ofInventory settings inventory).seed port).Honest := by
  unfold seed
  rw [ofInventory_registry, ofInventory_settings]
  cases hfind : Registry.standard.find? port with
  | none => exact Profile.guess_honest port
  | some s =>
    dsimp only
    split_ifs
    · exact Profile.ofStandard_honest (Registry.standard_httpsEncrypted hfind)
    · exact (Profile.guess_honest port).remark _

include hpatterns in
/-- The kind of services that a name tells is honest. -/
theorem lookup?_honest {name : String} {archetype : Archetype}
    (h : (ofInventory settings inventory).table.lookup? name = some archetype) :
    HttpsEncrypted (archetype.protocolFor archetype.encrypted) archetype.encrypted := by
  have htable : (ofInventory settings inventory).table = Archetype.Table.known :=
    tableFor_of_no_patterns hpatterns
  rw [htable] at h
  exact Archetype.known_httpsEncrypted h

include hpatterns in
/-- Inferred answers are honest. -/
theorem inferred_honest (port : Nat) (name : Option String) (c : Option Container) :
    ((ofInventory settings inventory).inferred port name c).Honest := by
  have hseed := seed_honest inventory settings port
  rw [inferred_eq]
  refine withRules_honest (Profile.Honest.withContainer ?_ _) _
  unfold named withName
  cases givenName? name with
  | none => exact hseed
  | some n =>
    dsimp only
    cases hkind : (ofInventory settings inventory).table.lookup? n with
    | none => exact hseed
    | some archetype =>
      exact withArchetype_honest (lookup?_honest hpatterns inventory hkind) _ n

variable (hoverrides : settings.overrides = [])

include hpatterns hoverrides in
/-- Answers without regard to declarations are honest. -/
theorem profile_honest (port : Nat) (name : Option String) (c : Option Container) :
    ((ofInventory settings inventory).profile port name c).Honest := by
  have hfind : (ofInventory settings inventory).settings.overrides.find? port = none := by
    rw [ofInventory_settings, hoverrides]
    rfl
  rw [profile_of_no_override _ port name c hfind]
  exact inferred_honest hpatterns inventory port name c

variable (hdeclared : ∀ d ∈ inventory.declarations, d.protocol ∈ transports)

include hpatterns hoverrides hdeclared in
/-- Answers with regard to declarations are honest, since declarations name transports. -/
theorem declaredProfile_honest (port : Nat) (name : Option String) (c : Option Container) :
    ((ofInventory settings inventory).declaredProfile port name c).Honest := by
  cases h : (ofInventory settings inventory).answer? port name with
  | none =>
    rw [declaredProfile_of_no_answer _ port name c h]
    exact profile_honest hpatterns inventory hoverrides port _ c
  | some d =>
    obtain ⟨n, -, hlookup⟩ := Option.bind_eq_some_iff.mp h
    have htransport : d.protocol ∈ transports := hdeclared d (Inventory.mem_of_lookup? _ _ hlookup)
    rw [declaredProfile_of_answer _ port name c h]
    refine httpsEncrypted_of_ne (fun hhttps => ?_) _
    change d.protocol = "HTTPS" at hhttps
    rw [hhttps] at htransport
    exact absurd htransport (by decide)

/-! ## Answers about traffic -/

namespace Traffic

/-- What is said of HTTPS does not contradict the encryption of traffic. -/
def Honest (t : Traffic) : Prop :=
  HttpsEncrypted t.protocol t.encrypted

/-- What the kind of the target says is honest if the kind is. -/
theorem ofTarget_honest {kind : Option Archetype}
    (h : ∀ k, kind = some k → HttpsEncrypted (k.protocolFor k.encrypted) k.encrypted) :
    (ofTarget kind).Honest := by
  cases kind with
  | none => exact httpsEncrypted_of_ne (by decide) _
  | some k => exact h k rfl

variable {t : Traffic}

/-- The kind of the source changes neither protocol nor encryption. -/
theorem Honest.withSource (h : t.Honest) (kind : Option Archetype) :
    (t.withSource kind).Honest := by
  cases kind <;> exact h

/-- Where the protocol of a port is taken over, its encryption is too. -/
theorem Honest.withPort (h : t.Honest) (targetKnown : Bool) {p : Profile} (hp : p.Honest) :
    (t.withPort targetKnown p).Honest := by
  unfold Honest Traffic.withPort
  dsimp only
  split_ifs
  · rw [Bool.or_comm]
    exact hp.or _
  · exact h.or _

/-- Settled traffic speaks HTTPS only if it is encrypted. -/
theorem Honest.settled (h : t.Honest) (assumeSecure : Bool) : (t.settled assumeSecure).Honest := by
  have hmore := h.or (!t.evident && assumeSecure)
  unfold Honest Traffic.settled
  dsimp only
  generalize (t.encrypted || (!t.evident && assumeSecure)) = encrypted at hmore ⊢
  cases encrypted
  · exact hmore
  · exact fun _ => rfl

/-- Settled traffic is not said to be HTTP if it is encrypted, whatever was said before. -/
theorem settled_protocol_ne (t : Traffic) (assumeSecure : Bool)
    (h : (t.settled assumeSecure).encrypted = true) :
    (t.settled assumeSecure).protocol ≠ "HTTP" := by
  unfold settled at h ⊢
  dsimp only at h ⊢
  rw [h, Bool.true_and]
  split_ifs with hhttp
  · decide
  · exact fun heq => hhttp (beq_iff_eq.mpr heq)

end Traffic

include hpatterns hoverrides hdeclared in
/-- What is said of the traffic between two services is honest. -/
theorem traffic_honest (source target : String) (port : Option Nat) :
    ((ofInventory settings inventory).traffic source target port).Honest := by
  have htarget : (Traffic.ofTarget
      ((ofInventory settings inventory).table.lookup? target)).Honest :=
    Traffic.ofTarget_honest fun _ hk => lookup?_honest hpatterns inventory hk
  have hkinds := htarget.withSource ((ofInventory settings inventory).table.lookup? source)
  unfold traffic
  cases (ofInventory settings inventory).effectivePort? target port with
  | none => exact hkinds.settled _
  | some p =>
    have hport := declaredProfile_honest hpatterns inventory hoverrides hdeclared p (some target)
      none
    exact (hkinds.withPort _ hport).settled _

end Answers

/-- Without overrides and patterns of an operator, and with declarations that name transports only,
no answer says HTTPS of what is not encrypted: neither one about a port, without or with regard to
declarations, nor one about traffic. And no traffic that is encrypted is said to be HTTP. -/
theorem answers_httpsEncrypted (settings : Settings) (hoverrides : settings.overrides = [])
    (hpatterns : settings.patterns = []) (inventory : Inventory)
    (hdeclared : ∀ d ∈ inventory.declarations, d.protocol ∈ transports) :
    let a := ofInventory settings inventory
    (∀ port name c,
        HttpsEncrypted (a.profile port name c).protocol (a.profile port name c).encrypted) ∧
      (∀ port name c, HttpsEncrypted (a.declaredProfile port name c).protocol
        (a.declaredProfile port name c).encrypted) ∧
      (∀ source target port, HttpsEncrypted (a.edge source target port).protocol
        (a.edge source target port).encrypted) ∧
      (∀ source target port, (a.edge source target port).encrypted = true →
        (a.edge source target port).protocol ≠ "HTTP") := by
  intro a
  refine ⟨profile_honest hpatterns inventory hoverrides,
    declaredProfile_honest hpatterns inventory hoverrides hdeclared,
    traffic_honest hpatterns inventory hoverrides hdeclared, ?_⟩
  intro source target port
  unfold edge traffic
  exact Traffic.settled_protocol_ne _ _

/-- Traffic to a target without a name on the alternate port of HTTPS is said to be HTTPS, and so it
is encrypted. -/
theorem answers_httpsEncrypted_alternate :
    let settings := Settings.preset .enterprise
    let inventory : Inventory := ⟨⟨"/mock"⟩, [.basic "web" 8443 .compose "f"]⟩
    let e := (ofInventory settings inventory).edge "" "" (some 8443)
    settings.overrides = [] ∧ settings.patterns = [] ∧
      (∀ d ∈ inventory.declarations, d.protocol ∈ transports) ∧
      e.protocol = "HTTPS" ∧ e.encrypted = true := by
  intro settings inventory e
  have hdeclared : ∀ d ∈ inventory.declarations, d.protocol ∈ transports := by decide
  have hhttps : e.protocol = "HTTPS" := by decide +kernel
  exact ⟨rfl, rfl, hdeclared, hhttps,
    (answers_httpsEncrypted settings rfl rfl inventory hdeclared).2.2.1 "" "" (some 8443) hhttps⟩

end Analysis

end PortSurvey
