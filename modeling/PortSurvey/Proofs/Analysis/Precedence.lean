import PortSurvey.Proofs.Analysis.Answers

/-!
# Overrides and declarations

An operator's override answers every question about its port that no declaration answers. A
declaration that answers is not overridden: it takes from the override what that says of security,
and keeps its own protocol, service and direction. So the answer is the override's exactly when
there is no such declaration or it repeats the override (`declaredProfile_eq_override_iff`).
-/

namespace PortSurvey

/-- A declaration in answer to a question about `port`, where `known` is known of its own port, says
the same as a profile. -/
structure Declaration.Repeats (d : Declaration) (known : Profile) (port : Nat) (p : Profile) :
    Prop where
  /-- The protocols are the same. -/
  protocol : d.protocol = p.protocol
  /-- The services are the same. -/
  service : d.service = p.service
  /-- The directions are the same. -/
  direction : d.direction = p.direction
  /-- The descriptions are the same. -/
  account : d.account known.protocol port = p.description
  /-- What is known of security is the same. -/
  security : known.SameSecurity p

/-- A declaration tells a profile exactly when it repeats it. -/
theorem Declaration.tell_eq_iff (d : Declaration) (known : Profile) (port : Nat) (p : Profile) :
    d.tell known port = p ↔ d.Repeats known port p := by
  constructor
  · rintro rfl
    exact ⟨rfl, rfl, rfl, rfl, ⟨rfl, rfl, rfl, rfl⟩⟩
  · rintro ⟨hprotocol, hservice, hdirection, haccount, hencrypted, hauth, hsensitivity, hgrade⟩
    rw [Declaration.tell, hprotocol, hservice, hdirection, haccount, hencrypted, hauth,
      hsensitivity, hgrade]

namespace Analysis

/-- What is known of the port of a declaration that answers a question. -/
def known (a : Analysis) (d : Declaration) (name : Option String) (c : Option Container) :
    Profile :=
  a.profile d.containerPort (givenName? name) (c.or (containerOf? d))

/-- A question about a port that an operator knows is answered as the operator says, without regard
to declarations; with regard to them it is answered so exactly when no declaration answers or the
one that does repeats the override. A declaration of that very port leaves to the override what it
says of security, and nothing else. -/
theorem declaredProfile_eq_override_iff (a : Analysis) (port : Nat) (name : Option String)
    (c : Option Container) (o : Override) (ho : a.settings.overrides.find? port = some o) :
    a.profile port name c = o.profile port ∧
      (a.declaredProfile port name c = o.profile port ↔
        ∀ d, a.answer? port name = some d → d.Repeats (a.known d name c) port (o.profile port)) ∧
      (∀ d, a.answer? port name = some d → d.containerPort = port →
        a.declaredProfile port name c = d.tell (o.profile port) port) := by
  refine ⟨a.profile_of_override port name c ho, ?_,
    fun d h hport => a.declaredProfile_of_override port name c h hport ho⟩
  cases h : a.answer? port name with
  | none =>
    rw [a.declaredProfile_of_no_answer port name c h, a.profile_of_override port _ c ho]
    simp
  | some d =>
    rw [a.declaredProfile_of_answer port name c h, d.tell_eq_iff]
    simp [known]

/-- An override of port 443 answers for the service `web` while only `db` is declared. -/
theorem declaredProfile_eq_override_undeclared :
    let o : Override := ⟨"gRPC", "edge-grpc", none, true, some "mtls", none, none, none⟩
    let settings := { Settings.preset .production with overrides := [(443, o)] }
    let a := ofInventory settings ⟨⟨"/mock"⟩, [.basic "db" 5432 .compose "f"]⟩
    a.settings.overrides.find? 443 = some o ∧
      a.declaredProfile 443 (some "web") none = o.profile 443 := by
  intro o settings a
  have ho : a.settings.overrides.find? 443 = some o := rfl
  have hanswer : a.answer? 443 (some "web") = none := by decide
  refine ⟨ho, (a.declaredProfile_eq_override_iff 443 (some "web") none o ho).2.1.mpr ?_⟩
  intro d hd
  exact absurd (hanswer.symm.trans hd) (Option.some_ne_none d).symm

/-- The override does not answer once `web` declares the port: the protocol and the service are
those of the declaration. -/
theorem declaredProfile_ne_override :
    let o : Override := ⟨"gRPC", "edge-grpc", none, true, some "mtls", none, none, none⟩
    let settings := { Settings.preset .production with overrides := [(443, o)] }
    let a := ofInventory settings ⟨⟨"/mock"⟩, [.basic "web" 443 .compose "f"]⟩
    a.settings.overrides.find? 443 = some o ∧ a.profile 443 (some "web") none = o.profile 443 ∧
      a.declaredProfile 443 (some "web") none ≠ o.profile 443 := by
  intro o settings a
  have hanswer : a.answer? 443 (some "web") = some (.basic "web" 443 .compose "f") := by decide
  refine ⟨rfl, a.profile_of_override 443 _ _ rfl, ?_⟩
  rw [a.declaredProfile_of_answer 443 _ _ hanswer]
  intro h
  have hprotocol : "TCP" = "gRPC" := congrArg Profile.protocol h
  exact absurd hprotocol (by decide)

end Analysis

end PortSurvey
