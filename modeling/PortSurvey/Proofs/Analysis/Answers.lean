import PortSurvey.Analysis
import PortSurvey.Proofs.Profile.Container
import PortSurvey.Proofs.Profile.Description

/-!
# How answers are put together

`Analysis.inferred_eq` and `Analysis.declaredProfile_of_answer` write the two kinds of answers in
one line each: an inferred profile is that of the port and the name, with the evidence of the
container and under the rules, and an answer by a declaration is what is known of its port, told by
the declaration (`Declaration.tell`).
-/

namespace PortSurvey

/-! ## Declarations -/

namespace Declaration

/-- Where the traffic of a declared port comes from and goes to: a published port is reached from
outside. -/
def direction (d : Declaration) : Direction :=
  if d.hostPort.isSome then .inbound else .internal

/-- The words with which a declaration says where it stands. -/
def mention (d : Declaration) : String :=
  "Declared in " ++ d.origin.name ++ " (" ++ d.location ++ ")"

/-- How a declaration accounts for its answer about `port`: where it stands, what is spoken on its
port if that is known to be more than it says, and which port it declares if that is another. -/
def account (d : Declaration) (spoken : String) (port : Nat) : String :=
  d.mention ++
    (if spoken = d.protocol then "" else "; " ++ ("application protocol " ++ spoken)) ++
    (if d.containerPort = port then "" else
      "; " ++ (d.service ++ " declares port " ++ toString d.containerPort ++ ", not " ++
        toString port))

/-- A declaration says where it stands. -/
theorem mention_ne_empty (d : Declaration) : d.mention ≠ "" := by
  unfold mention
  simp [String.append_eq_empty_iff]

/-- A declaration gives some account. -/
theorem account_ne_empty (d : Declaration) (spoken : String) (port : Nat) :
    d.account spoken port ≠ "" := by
  unfold account
  simp [String.append_eq_empty_iff, d.mention_ne_empty]

/-- Of its own port a declaration says where it stands and what is spoken. -/
theorem account_self (d : Declaration) (spoken : String) : d.account spoken d.containerPort =
    d.mention ++
      (if spoken = d.protocol then "" else "; " ++ ("application protocol " ++ spoken)) := by
  rw [account, if_pos rfl, String.append_empty]

/-- Of another port a declaration gives the account of its own, and says which it is. -/
theorem account_of_ne (d : Declaration) (spoken : String) {port : Nat}
    (h : d.containerPort ≠ port) : d.account spoken port =
      d.account spoken d.containerPort ++ "; " ++
        (d.service ++ " declares port " ++ toString d.containerPort ++ ", not " ++
          toString port) := by
  unfold account
  rw [if_neg h, if_pos rfl, String.append_empty]
  simp only [String.append_assoc]

/-- What is known of the port of a declaration, as the declaration tells it in answer to a question
about `port`. -/
def tell (d : Declaration) (known : Profile) (port : Nat) : Profile :=
  { known with
    protocol := d.protocol
    service := d.service
    description := d.account known.protocol port
    direction := d.direction }

/-- A declaration that tells no less tells no less security. -/
theorem tell_atMost_iff (d : Declaration) (p q : Profile) (port : Nat) :
    (d.tell p port).AtMost (d.tell q port) ↔ p.AtMost q :=
  ⟨fun h => ⟨h.encrypted, h.sensitivity, h.grade, h.authKnown⟩,
    fun h => ⟨h.encrypted, h.sensitivity, h.grade, h.authKnown⟩⟩

end Declaration

namespace Analysis

open Text

/-- An analysis of an inventory goes by the standard registry. -/
theorem ofInventory_registry (settings : Settings) (inventory : Inventory) :
    (ofInventory settings inventory).registry = Registry.standard := by
  rw [ofInventory]

/-- An analysis of an inventory goes by the settings that it is made with. -/
theorem ofInventory_settings (settings : Settings) (inventory : Inventory) :
    (ofInventory settings inventory).settings = settings := by
  rw [ofInventory]

/-- A name that is not blank is given without the blanks around it. -/
theorem givenName?_of_trim_ne {name : String} (h : trim name ≠ "") :
    givenName? (some name) = some (trim name) := by
  have hempty : (trim name).isEmpty = false :=
    Bool.eq_false_iff.mpr fun he => h (String.isEmpty_iff.mp he)
  unfold givenName?
  rw [Option.map_some, Option.filter, hempty]
  rfl

variable (a : Analysis) (port : Nat) (name : Option String) (c : Option Container)

/-! ## Inferred answers -/

/-- The profile of a port by its number, its documentation and the name of the service. -/
def named : Profile :=
  match givenName? name with
  | some name => a.withName (a.seed port) name
  | none => a.seed port

/-- An inferred answer is the profile of the port and the name, with the evidence of the container
and under the rules. An empty container counts as none. -/
theorem inferred_eq : a.inferred port name c =
    withRules a.settings ((a.named port name).withContainer (c.getD .nothing)) := by
  cases c with
  | none =>
    rw [Option.getD_none, Profile.withContainer_nothing]
    rfl
  | some c =>
    rw [Option.getD_some]
    unfold inferred
    cases hempty : c.isEmpty
    · have hfilter : (some c).filter (fun c => !c.isEmpty) = some c := by
        simp [Option.filter, hempty]
      rw [hfilter]
      rfl
    · -- An empty container is passed over, and `nothing` adds nothing.
      have hfilter : (some c).filter (fun c => !c.isEmpty) = none := by
        simp [Option.filter, hempty]
      rw [hfilter, Container.eq_nothing_of_isEmpty hempty, Profile.withContainer_nothing]
      rfl

/-- Where an operator knows the port, the answer is the operator's. -/
theorem profile_of_override {o : Override} (h : a.settings.overrides.find? port = some o) :
    a.profile port name c = o.profile port := by
  rw [profile, h]

/-- Where no operator knows the port, the answer is inferred. -/
theorem profile_of_no_override (h : a.settings.overrides.find? port = none) :
    a.profile port name c = a.inferred port name c := by
  rw [profile, h]

/-- Whether an answer is an operator's or inferred does not depend on the container. -/
theorem profile_cases : (∃ p, ∀ c, a.profile port name c = p) ∨
    ∀ c, a.profile port name c =
      withRules a.settings ((a.named port name).withContainer (c.getD .nothing)) := by
  cases h : a.settings.overrides.find? port with
  | some o => exact Or.inl ⟨o.profile port, fun c => a.profile_of_override port name c h⟩
  | none =>
    refine Or.inr fun c => ?_
    rw [a.profile_of_no_override port name c h, inferred_eq]

/-! ## Answers by declarations -/

/-- Of the container that a declaration tells of only the image is known. -/
theorem eq_ofImage_of_containerOf? {d : Declaration} {c : Container} (h : containerOf? d = some c) :
    ∃ image, c = .ofImage image := by
  obtain ⟨image, _, rfl⟩ := Option.map_eq_some_iff.mp h
  exact ⟨image, rfl⟩

/-- The declaration by which a question about a port is answered, if any. -/
def answer? : Option Declaration :=
  (givenName? name).bind fun name => a.inventory.lookup? name (some port)

/-- Without a declaration the answer is the profile of the port. -/
theorem declaredProfile_of_no_answer (h : a.answer? port name = none) :
    a.declaredProfile port name c = a.profile port (givenName? name) c := by
  unfold answer? at h
  unfold declaredProfile
  cases hname : givenName? name with
  | none => rfl
  | some n =>
    rw [hname, Option.bind_some] at h
    simp only [h]

/-- What a declaration tells of its own port. -/
theorem ofDeclaration_eq (d : Declaration) (n : String) : a.ofDeclaration d n c =
    d.tell (a.profile d.containerPort (some n) (c.or (containerOf? d))) d.containerPort := by
  unfold ofDeclaration Declaration.tell
  generalize a.profile d.containerPort (some n) (c.or (containerOf? d)) = known
  dsimp only
  -- The protocol is remarked where the port is known to speak more than is declared.
  by_cases h : known.protocol = d.protocol
  · have hbne : (known.protocol != d.protocol) = false := by simp [h]
    rw [hbne, d.account_self, if_pos h, String.append_empty]
    rfl
  · have hbne : (known.protocol != d.protocol) = true := bne_iff_ne.mpr h
    rw [hbne, d.account_self, if_neg h, ← String.append_assoc]
    exact Profile.remark_of_description d.mention_ne_empty _

/-- With a declaration the answer is what is known of its port, as the declaration tells it. The
container of the question stands in for the one that the declaration tells of. -/
theorem declaredProfile_of_answer {d : Declaration} (h : a.answer? port name = some d) :
    a.declaredProfile port name c =
      d.tell (a.profile d.containerPort (givenName? name) (c.or (containerOf? d))) port := by
  unfold answer? at h
  unfold declaredProfile
  cases hname : givenName? name with
  | none => simp [hname] at h
  | some n =>
    rw [hname, Option.bind_some] at h
    simp only [h, ofDeclaration_eq]
    generalize a.profile d.containerPort (some n) (c.or (containerOf? d)) = known
    by_cases hport : d.containerPort = port
    · simp [hport]
    · simp only [beq_iff_eq, hport, if_false]
      rw [Profile.remark_of_description (d.account_ne_empty _ _)]
      unfold Declaration.tell
      rw [d.account_of_ne _ hport]

/-- A declaration of the port in question tells what an operator says of it. -/
theorem declaredProfile_of_override {d : Declaration} {o : Override}
    (h : a.answer? port name = some d) (hport : d.containerPort = port)
    (ho : a.settings.overrides.find? port = some o) :
    a.declaredProfile port name c = d.tell (o.profile port) port := by
  rw [a.declaredProfile_of_answer port name c h, hport, a.profile_of_override port _ _ ho]

end Analysis

end PortSurvey
