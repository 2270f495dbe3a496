import PortSurvey.Proofs.Analysis.Padding

/-!
# Services answer for the ports that they declare

The port of traffic to a service is the port of the declaration by which the service is judged. In
a question about that port the service is judged by the same declaration, at the same place
(`Inventory.placed?_containerPort`), so an edge to a name without blanks around it is judged by what
the declaration tells of its own port (`Analysis.declaredProfile_containerPort`), and another port
is never remarked. A blank name is no exception: it has a port if a declaration without a name was
found, but no declaration answers the question about it.
-/

namespace PortSurvey.Analysis

open Text

variable (a : Analysis)

/-- A question about a port of a service meets no declaration of another port: either the name is
blank and no declaration is asked, or the declaration by which the service is judged tells of its
own port. -/
def Undisputed (name : String) (port : Nat) : Prop :=
  (name = "" ∧ a.declaredProfile port (some name) none = a.profile port none none) ∨
    ∃ d, a.inventory.lookup? name none = some d ∧ d.containerPort = port ∧
      a.declaredProfile port (some name) none = a.ofDeclaration d name none

/-- A service whose name is not blank is told of its declared port what the declaration tells. -/
theorem declaredProfile_containerPort {name : String} (hname : trim name ≠ "") {d : Declaration}
    (h : a.inventory.lookup? (trim name) none = some d) (c : Option Container) :
    a.declaredProfile d.containerPort (some (trim name)) c = a.ofDeclaration d (trim name) c := by
  have hanswer := a.answer?_of_lookup?_trim name hname h
  rw [declaredProfile_trim, a.declaredProfile_of_answer _ _ c hanswer, ofDeclaration_eq,
    givenName?_of_trim_ne hname]

/-- The port that a name without blanks around it declares is undisputed. -/
theorem undisputed_of_declaredPort? {name : String} {port : Nat}
    (h : a.declaredPort? (trim name) = some port) : a.Undisputed (trim name) port := by
  obtain ⟨d, hd, rfl⟩ := Option.map_eq_some_iff.mp h
  by_cases hname : trim name = ""
  · refine .inl ⟨hname, ?_⟩
    rw [hname]
    rfl
  · exact .inr ⟨d, hd, rfl, a.declaredProfile_containerPort hname hd none⟩

/-- A service that is judged by the declaration at a place is judged by the one at the same place in
questions about its port. So an edge that takes its port from a declaration of a target without
blanks around its name meets no declaration of another port. -/
theorem ownPort_undisputed :
    (∀ service d, a.inventory.lookup? service none = some d →
      ∃ i, a.inventory.declarations[i]? = some d ∧ a.inventory.place? service none = some i ∧
        a.inventory.place? service (some d.containerPort) = some i ∧
        a.inventory.lookup? service (some d.containerPort) = some d) ∧
    ∀ source target port, a.declaredPort? (trim target) = some port →
      (a.edge source (trim target) none).port = port ∧ a.Undisputed (trim target) port := by
  constructor
  · intro service d h
    rw [← Inventory.map_placed?] at h
    obtain ⟨x, hx, rfl⟩ := Option.map_eq_some_iff.mp h
    have hport := a.inventory.placed?_containerPort service hx
    refine ⟨x.2, a.inventory.getElem?_of_placed? service none hx, ?_, ?_, ?_⟩
    · rw [Inventory.place?, hx, Option.map_some]
    · rw [Inventory.place?, hport, Option.map_some]
    · rw [← Inventory.map_placed?, hport, Option.map_some]
  · intro source target port h
    refine ⟨?_, a.undisputed_of_declaredPort? h⟩
    show ((none : Option Nat).or (a.declaredPort? (trim target))).getD _ = port
    rw [h]
    rfl

/-- Three declarations of one service, the last two of which say the same. -/
def repeatedServices : Inventory where
  root := ⟨"/mock"⟩
  declarations := [
    .basic "api" 9090 .buildFile "service.build.yaml",
    .basic "api" 8080 .compose "docker-compose.yml",
    .basic "api" 8080 .compose "docker-compose.yml"]

/-- Of two declarations that say the same the gateway, which only resembles the service, is judged
by the first, and so it is in the question about its port. -/
theorem ownPort_undisputed_gateway :
    let a := ofInventory (Settings.preset .staging) repeatedServices
    let d := Declaration.basic "api" 8080 .compose "docker-compose.yml"
    a.inventory.lookup? " api-gateway" none = some d ∧
      a.inventory.place? " api-gateway" (some 8080) = some 1 ∧
      a.declaredPort? (trim " api-gateway") = some 8080 ∧
      (a.edge "web" "api-gateway" none).port = 8080 := by
  intro a d
  have hfound : a.inventory.lookup? " api-gateway" none = some d := by decide +kernel
  have hdeclared : a.declaredPort? (trim " api-gateway") = some 8080 := by decide +kernel
  have htrim : trim " api-gateway" = "api-gateway" := by decide +kernel
  have hfirst : a.inventory.place? " api-gateway" none = some 1 := by decide +kernel
  obtain ⟨hplaces, hedges⟩ := a.ownPort_undisputed
  obtain ⟨i, -, hplace, hsame, -⟩ := hplaces " api-gateway" d hfound
  obtain rfl : i = 1 := Option.some.inj (hplace.symm.trans hfirst)
  have hport := (hedges "web" " api-gateway" 8080 hdeclared).1
  rw [htrim] at hport
  exact ⟨hfound, hsame, hdeclared, hport⟩

end PortSurvey.Analysis
