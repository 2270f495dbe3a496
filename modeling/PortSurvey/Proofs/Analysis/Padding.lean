import PortSurvey.Proofs.Analysis.Answers
import PortSurvey.Proofs.Analysis.Traffic
import PortSurvey.Proofs.Inventory.Place
import PortSurvey.Proofs.Inventory.Selection
import PortSurvey.Proofs.Text.Trim

/-!
# Blanks around the name of a target

The kind of a target and the answers about its ports are told by its name without the blanks around
it (`lookup?_trim`, `declaredProfile_trim`). The port that it declares and the wish of the policy
are asked for under the name as it stands. So an edge ignores the blanks as far as those two do
(`edge_alike_iff_of_port`), and where the declared ports differ, the edges do too (`edge_port_ne`):
a name that is not blank is found with blanks around it exactly if it is without them
(`lookup?_eq_none_iff_trim`).

`ignoresPadding_iff` concludes when an edge ignores the blanks: the same declaration has to be found
for both names, and the policy has to want both encrypted or neither, unless the edge is encrypted.
-/

namespace PortSurvey

open Text

/-! ## Names without their blanks -/

/-- The lower-case form of a character is not empty. -/
theorem Text.lowerChar_ne_nil (c : Char) : lowerChar c ≠ [] := by
  unfold lowerChar
  split_ifs
  · exact List.cons_ne_nil _ _
  · exact List.cons_ne_nil _ _
  · cases Run.lookup lowerRuns c.toNat <;> exact List.cons_ne_nil _ _

/-- The lower-case form of a text that is not empty is not either. -/
theorem Text.lower_ne_empty {s : String} (h : s ≠ "") : lower s ≠ "" := by
  have hchars : s.toList ≠ [] := fun hnil => h (String.toList_eq_nil_iff.mp hnil)
  obtain ⟨c, rest, hs⟩ := List.exists_cons_of_ne_nil hchars
  unfold lower
  rw [hs, lowerAfter]
  intro hempty
  have hnil := String.ofList_eq_empty_iff.mp hempty
  have hfirst := (List.append_eq_nil_iff.mp hnil).1
  split_ifs at hfirst
  · exact lowerChar_ne_nil c hfirst

/-- A kind of services is told by a name without the blanks around it. -/
theorem Archetype.Table.lookup?_trim (t : Archetype.Table) (name : String) :
    t.lookup? (trim name) = t.lookup? name := by
  unfold Archetype.Table.lookup?
  rw [trim_trim]

/-- A name that is not blank is judged by some declaration exactly if it is without the blanks
around it. -/
theorem Inventory.lookup?_eq_none_iff_trim (inventory : Inventory) {name : String}
    (h : trim name ≠ "") :
    inventory.lookup? name none = none ↔ inventory.lookup? (trim name) none = none := by
  have hfold : foldName (trim name) = foldName name := by
    unfold foldName
    rw [trim_trim]
  have hname : foldName name ≠ "" := lower_ne_empty h
  have hlike : ∀ service, Resembles (trim name) service ↔ Resembles name service := by
    intro service
    unfold Resembles
    rw [hfold]
  rw [lookup?_none_eq_none_iff, lookup?_none_eq_none_iff, inventory.exists_considered_iff _ hname,
    inventory.exists_considered_iff _ (hfold.symm ▸ hname)]
  simp only [hlike]

/-- Two edges say the same of the traffic, whatever the names of the services. -/
structure Edge.Alike (e f : Edge) : Prop where
  /-- The protocols are the same. -/
  protocol : e.protocol = f.protocol
  /-- Both are encrypted or neither is. -/
  encrypted : e.encrypted = f.encrypted
  /-- The authentications are the same. -/
  auth : e.auth = f.auth
  /-- The sensitivities are the same. -/
  sensitivity : e.sensitivity = f.sensitivity
  /-- The grades are the same. -/
  grade : e.grade = f.grade
  /-- The ports are the same. -/
  port : e.port = f.port

namespace Analysis

variable (a : Analysis) (source target : String) (port : Option Nat)

/-! ## What is asked for without the blanks -/

/-- A name without the blanks around it is given as the name is. -/
theorem givenName?_trim : givenName? (some (trim target)) = givenName? (some target) := by
  unfold givenName?
  rw [Option.map_some, Option.map_some, trim_trim]

/-- A question about a port is answered by the same declaration with and without the blanks around
the name. -/
theorem answer?_trim (p : Nat) : a.answer? p (some (trim target)) = a.answer? p (some target) := by
  unfold answer?
  rw [givenName?_trim]

/-- A question about a port has the same answer with and without the blanks around the name. -/
theorem declaredProfile_trim (p : Nat) (c : Option Container) :
    a.declaredProfile p (some (trim target)) c = a.declaredProfile p (some target) c := by
  unfold declaredProfile
  rw [givenName?_trim]

/-- Traffic to the same port is the same with and without the blanks around the target. -/
theorem traffic_trim
    (h : a.effectivePort? target port = a.effectivePort? (trim target) port) :
    a.traffic source (trim target) port = a.traffic source target port := by
  unfold traffic
  rw [a.table.lookup?_trim, ← h]
  simp only [declaredProfile_trim]

/-! ## What is asked for with them -/

/-- Where the port is the same with and without the blanks around the target, so is all but the
grade, which depends on the wish of the policy unless the edge is encrypted. -/
theorem edge_alike_iff_of_port
    (h : a.effectivePort? target port = a.effectivePort? (trim target) port) :
    (a.edge source target port).Alike (a.edge source (trim target) port) ↔
      (a.edge source target port).encrypted = true ∨
        a.wantsEncryption target = a.wantsEncryption (trim target) := by
  have htraffic := a.traffic_trim source target port h
  have hencrypted : (a.edge source (trim target) port).encrypted =
      (a.edge source target port).encrypted := congrArg Traffic.encrypted htraffic
  -- The grade is the only part that the wish of the policy has a say in.
  have hgrade : (a.edge source target port).grade = (a.edge source (trim target) port).grade ↔
      (a.edge source target port).encrypted = true ∨
        a.wantsEncryption target = a.wantsEncryption (trim target) := by
    rw [edge_grade, edge_grade, hencrypted]
    cases (a.edge source target port).encrypted <;> cases a.wantsEncryption target <;>
      cases a.wantsEncryption (trim target) <;> decide
  rw [← hgrade]
  refine ⟨fun halike => halike.grade, fun hsame => ⟨?_, hencrypted.symm, ?_, ?_, hsame, ?_⟩⟩
  · exact (congrArg Traffic.protocol htraffic).symm
  · exact (congrArg Traffic.auth htraffic).symm
  · exact (congrArg Traffic.sensitivity htraffic).symm
  · unfold edge
    dsimp only
    rw [htraffic, h]

/-- Where the port is not the same with and without the blanks around a target that is not blank, it
is declared under both names, and the edges tell the two declared ports. -/
theorem edge_port_ne (hname : trim target ≠ "")
    (h : a.effectivePort? target port ≠ a.effectivePort? (trim target) port) :
    (a.edge source target port).port ≠ (a.edge source (trim target) port).port := by
  cases port with
  | some p => exact absurd rfl h
  | none =>
    change a.declaredPort? target ≠ a.declaredPort? (trim target) at h
    have hnone := a.inventory.lookup?_eq_none_iff_trim hname
    unfold declaredPort? at h
    unfold edge effectivePort? declaredPort?
    dsimp only
    rw [Option.none_or, Option.none_or]
    cases hd : a.inventory.lookup? target none with
    | none =>
      rw [hd, hnone.mp hd] at h
      exact absurd rfl h
    | some d =>
      cases hd' : a.inventory.lookup? (trim target) none with
      | none => exact absurd (hd.symm.trans (hnone.mpr hd')) (Option.some_ne_none d)
      | some d' =>
        rw [hd, hd'] at h
        exact fun hsame => h (congrArg some hsame)

/-! ## Ignored blanks -/

/-- A service answers for the port that it declares: a question about that port under the name is
answered by the declaration that declares it. -/
def AnswersOwnPort (name : String) : Prop :=
  ∀ d, a.inventory.lookup? name none = some d → a.answer? d.containerPort (some name) = some d

/-- An edge ignores the blanks around the name of its target. -/
structure IgnoresPadding : Prop where
  /-- The edge is the same without them. -/
  alike : (a.edge source target port).Alike (a.edge source (trim target) port)
  /-- Where no port is given, the edge is judged by the declaration that declares its port, with the
  blanks and without them. -/
  own : port = none → a.AnswersOwnPort target ∧ a.AnswersOwnPort (trim target)

/-- A service with a blank name answers for no port. -/
theorem answersOwnPort_of_blank (hname : trim target = "") :
    a.AnswersOwnPort target ↔ a.inventory.lookup? target none = none := by
  have hanswer : ∀ p, a.answer? p (some target) = none := by
    intro p
    unfold answer? givenName?
    rw [Option.map_some, hname]
    rfl
  unfold AnswersOwnPort
  constructor
  · intro hown
    cases hd : a.inventory.lookup? target none with
    | none => rfl
    | some d => exact nomatch (hanswer d.containerPort).symm.trans (hown d hd)
  · intro hnone d hd
    exact nomatch hnone.symm.trans hd

/-- A service whose name is not blank answers for a port if it is found by the same declaration
without the blanks around it. -/
theorem answer?_of_lookup?_trim (hname : trim target ≠ "") {d : Declaration}
    (h : a.inventory.lookup? (trim target) none = some d) :
    a.answer? d.containerPort (some target) = some d := by
  unfold answer?
  rw [givenName?_of_trim_ne hname, Option.bind_some]
  exact a.inventory.lookup?_containerPort _ h

/-- A service that is not blank and answers for the port that it declares is found by the same
declaration without the blanks around it, if the port is the same. -/
theorem lookup?_eq_trim_of_own (hname : trim target ≠ "") (hown : a.AnswersOwnPort target)
    (hport : a.declaredPort? target = a.declaredPort? (trim target)) :
    a.inventory.lookup? target none = a.inventory.lookup? (trim target) none := by
  have hnone := a.inventory.lookup?_eq_none_iff_trim hname
  cases hd : a.inventory.lookup? target none with
  | none => exact (hnone.mp hd).symm
  | some d =>
    cases hd' : a.inventory.lookup? (trim target) none with
    | none => exact nomatch hd.symm.trans (hnone.mpr hd')
    | some d' =>
      -- Both declare one port, and a question about it has one answer.
      unfold declaredPort? at hport
      rw [hd, hd', Option.map_some, Option.map_some, Option.some_inj] at hport
      have hanswer := a.answer?_of_lookup?_trim target hname hd'
      rw [← hport] at hanswer
      exact (hown d hd).symm.trans hanswer

/-- An edge ignores the blanks around the name of its target exactly if a port is given or the same
declaration is found with and without them, which there must not be for a blank name, and the policy
wants the traffic encrypted under both names or neither, unless it is encrypted. -/
theorem ignoresPadding_iff : a.IgnoresPadding source target port ↔
    (port = none →
      a.inventory.lookup? target none = a.inventory.lookup? (trim target) none ∧
        (trim target = "" → a.inventory.lookup? target none = none)) ∧
      ((a.edge source target port).encrypted = true ∨
        a.wantsEncryption target = a.wantsEncryption (trim target)) := by
  have hport : (port = none →
      a.inventory.lookup? target none = a.inventory.lookup? (trim target) none) →
        a.effectivePort? target port = a.effectivePort? (trim target) port := by
    intro h
    cases port with
    | some p => rfl
    | none =>
      unfold effectivePort? declaredPort?
      rw [h rfl]
  constructor
  · rintro ⟨halike, hown⟩
    have hfound : port = none →
        a.inventory.lookup? target none = a.inventory.lookup? (trim target) none ∧
          (trim target = "" → a.inventory.lookup? target none = none) := by
      intro hnone
      obtain ⟨htarget, htrimmed⟩ := hown hnone
      by_cases hname : trim target = ""
      · -- A blank name is no name to ask for, so nothing may be found under it.
        have hlookup := (a.answersOwnPort_of_blank target hname).mp htarget
        have hlookup' := (a.answersOwnPort_of_blank (trim target)
          ((trim_trim target).trans hname)).mp htrimmed
        exact ⟨hlookup.trans hlookup'.symm, fun _ => hlookup⟩
      · -- Edges of one port come from one declaration, the one that answers for the port.
        have heffective : a.effectivePort? target port = a.effectivePort? (trim target) port :=
          by_contra fun hne => a.edge_port_ne source target port hname hne halike.port
        have hdeclared : a.declaredPort? target = a.declaredPort? (trim target) := by
          rw [hnone] at heffective
          exact heffective
        exact ⟨a.lookup?_eq_trim_of_own target hname htarget hdeclared,
          fun hblank => absurd hblank hname⟩
    have hsame := hport fun hnone => (hfound hnone).1
    exact ⟨hfound, (a.edge_alike_iff_of_port source target port hsame).mp halike⟩
  · rintro ⟨hfound, hwish⟩
    have hsame := hport fun hnone => (hfound hnone).1
    refine ⟨(a.edge_alike_iff_of_port source target port hsame).mpr hwish, fun hnone => ?_⟩
    obtain ⟨hlookup, hblank⟩ := hfound hnone
    by_cases hname : trim target = ""
    · have hlookup' := hlookup.symm.trans (hblank hname)
      exact ⟨(a.answersOwnPort_of_blank target hname).mpr (hblank hname),
        (a.answersOwnPort_of_blank (trim target) ((trim_trim target).trans hname)).mpr hlookup'⟩
    · constructor
      · intro d hd
        exact a.answer?_of_lookup?_trim target hname (hlookup.symm.trans hd)
      · intro d hd
        rw [answer?_trim]
        exact a.answer?_of_lookup?_trim target hname hd

/-- The services `api` and `api-gateway`, which are both declared. -/
def paddedServices : Inventory where
  root := ⟨"/mock"⟩
  declarations := [
    .basic "api" 8080 .buildFile "service.build.yaml",
    .basic "api-gateway" 9000 .compose "docker-compose.yml"]

/-- Blanks around the name `api` have the edge tell the port of `api-gateway`, which only resembles
it. -/
theorem not_ignoresPadding :
    let a := ofInventory (Settings.preset .staging) paddedServices
    (a.edge "web" " api " none).port = 9000 ∧ (a.edge "web" "api" none).port = 8080 ∧
      ¬a.IgnoresPadding "web" " api " none := by
  intro a
  have hpadded : (a.edge "web" " api " none).port = 9000 := by decide +kernel
  have htrimmed : (a.edge "web" "api" none).port = 8080 := by decide +kernel
  have htrim : trim " api " = "api" := by decide +kernel
  refine ⟨hpadded, htrimmed, fun hignored => ?_⟩
  have hport := hignored.alike.port
  rw [htrim, hpadded, htrimmed] at hport
  exact absurd hport (by decide)

end Analysis

end PortSurvey
