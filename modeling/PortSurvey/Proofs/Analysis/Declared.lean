import PortSurvey.Proofs.Analysis.Answers
import PortSurvey.Proofs.Inventory.Lookup

/-!
# Declared ports are answered by their own declarations

A question about a port that a service declares is answered by a declaration of that port by that
service, the first of those that are believed most (`Analysis.declaredProfile_of_mem_portsOf`).
Services with a similar name and other ports of the service do not interfere, so the answer has no
remark on another port. The name of the service has to be one that a question can ask for: it is not
blank and has no blanks around it.
-/

namespace PortSurvey.Analysis

open Text

/-- A name that is not blank and has no blanks around it is given as it is. -/
theorem givenName?_eq_some {name : String} (htrim : trim name = name)
    (hblank : isBlankText name = false) : givenName? (some name) = some name := by
  have hname : trim name ≠ "" := by
    rw [htrim]
    rintro rfl
    exact absurd hblank (by decide)
  rw [givenName?_of_trim_ne hname, htrim]

/-- A service is answered for by the first best declaration that it has of the port in question. -/
theorem answer?_of_firstBest (a : Analysis) {service : String} (htrim : trim service = service)
    (hblank : isBlankText service = false) {port : Nat} {d : Declaration}
    (hbest : Inventory.FirstBest (a.inventory.ofServiceOnPort service port) d) :
    a.answer? port (some service) = some d := by
  have hport : port ∈ a.inventory.portsOf service :=
    (a.inventory.mem_portsOf_iff service).mpr (List.ne_nil_of_mem hbest.mem)
  unfold answer?
  rw [givenName?_eq_some htrim hblank, Option.bind_some]
  exact (a.inventory.lookup?_eq_some_iff_of_mem_portsOf service hport).mpr hbest

/-- A question about a port that a service declares is answered by the first best declaration of
that port by that service, whatever is known of a container. The service, the protocol, the direction
and the place are those of the declaration, and nothing is remarked but a protocol that the port is
known to speak besides. -/
theorem declaredProfile_of_mem_portsOf (a : Analysis) {service : String}
    (htrim : trim service = service) (hblank : isBlankText service = false) {port : Nat}
    (hport : port ∈ a.inventory.portsOf service) (c : Option Container) :
    ∃ d, Inventory.FirstBest (a.inventory.ofServiceOnPort service port) d ∧
      let p := a.declaredProfile port (some service) c
      let spoken := (a.profile port (some service) (c.or (containerOf? d))).protocol
      p.service = service ∧ p.protocol = d.protocol ∧
        p.direction = (if d.hostPort.isSome then .inbound else .internal) ∧
        p.description = "Declared in " ++ d.origin.name ++ " (" ++ d.location ++ ")" ++
          (if spoken = d.protocol then "" else "; " ++ ("application protocol " ++ spoken)) := by
  obtain ⟨d, hd⟩ := Option.ne_none_iff_exists'.mp
    (mt Inventory.best?_eq_none_iff.mp ((a.inventory.mem_portsOf_iff service).mp hport))
  have hbest := Inventory.best?_eq_some_iff.mp hd
  obtain ⟨hservice, hsame⟩ := a.inventory.of_mem_ofServiceOnPort service hbest.mem
  have hanswer := a.answer?_of_firstBest htrim hblank hbest
  refine ⟨d, hbest, ?_⟩
  dsimp only
  rw [a.declaredProfile_of_answer port _ c hanswer, givenName?_eq_some htrim hblank, hsame]
  refine ⟨hservice, rfl, rfl, ?_⟩
  -- The declaration is of the port in question, so it accounts for no other.
  change d.account _ port = _
  rw [← hsame, d.account_self]
  rfl

/-- A published port is found in the composition, which is believed more than the build file before
it, and not among the ports of the gateway. -/
theorem declaredProfile_of_mem_portsOf_api :
    let published := { Declaration.basic "api" 8080 .compose "compose.yaml" with
      hostPort := some 80 }
    let inventory : Inventory := ⟨⟨"/mock"⟩,
      [.basic "api-gateway" 8080 .compose "compose.yaml", .basic "api" 8080 .buildFile "Dockerfile",
        published, .basic "api" 9090 .compose "compose.yaml"]⟩
    let a := ofInventory (Settings.preset .production) inventory
    trim "api" = "api" ∧ isBlankText "api" = false ∧ 8080 ∈ a.inventory.portsOf "api" ∧
      (a.declaredProfile 8080 (some "api") none).direction = .inbound := by
  intro published inventory a
  have htrim : trim "api" = "api" := by decide
  have hblank : isBlankText "api" = false := by decide
  have hport : 8080 ∈ a.inventory.portsOf "api" := by decide
  obtain ⟨d, hbest, -, -, hdirection, -⟩ :=
    a.declaredProfile_of_mem_portsOf htrim hblank hport none
  have hfound : Inventory.FirstBest (a.inventory.ofServiceOnPort "api" 8080) published :=
    Inventory.best?_eq_some_iff.mp (by decide +kernel)
  obtain rfl : d = published := Option.some.inj
    ((Inventory.best?_eq_some_iff.mpr hbest).symm.trans (Inventory.best?_eq_some_iff.mpr hfound))
  exact ⟨htrim, hblank, hport, hdirection⟩

end PortSurvey.Analysis
