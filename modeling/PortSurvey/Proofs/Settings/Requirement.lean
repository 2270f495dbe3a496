import PortSurvey.Proofs.Archetype.Table
import PortSurvey.Proofs.Except
import PortSurvey.Proofs.Text.Numeral
import PortSurvey.Settings.Layer
import PortSurvey.Settings.Validate

/-!
# Requirements of settings

A `Requirement` is one thing that is asked of what an operator gives: of a threshold that its name
is known, of a key that it denotes a port, and so on. `Requirement.Met` says when it is met and
`Requirement.Refuses` with which fault it is refused otherwise, without regard to how either is found
out. What is found out agrees with that (`Requirement.fault?_eq_some_iff`,
`Requirement.fault?_eq_none_iff`).
-/

namespace PortSurvey.Settings

open Text

/-- What a layer is looked at for. -/
inductive Requirement
  /-- The name of a threshold is known. -/
  | threshold (name : String)
  /-- A key denotes a port. -/
  | key (key : PortKey)
  /-- A pattern can be read and names a protocol. -/
  | pattern (p : ServicePattern)
  /-- An override is of a port other than zero and names a protocol and a service. -/
  | override (port : Nat) (o : Override)
  /-- An authentication is not blank. -/
  | auth (name : String)

namespace Requirement

/-- A requirement is met. -/
def Met : Requirement → Prop
  | threshold name => ∃ t : Threshold, t.name = lower (trim name)
  | key (.number _) => True
  | key (.text s) => ∃ port, Numeral.Denotes (trimChars s.toList) port ∧ port ≤ maxPort
  | pattern p => p.Readable ∧ p.archetype.protocols ≠ []
  | override port o => port ≠ 0 ∧ isBlankText o.protocol = false ∧ isBlankText o.service = false
  | auth name => isBlankText name = false

/-- A requirement that is not met is refused with a fault. -/
inductive Refuses : Requirement → Fault → Prop
  /-- The name is that of no threshold. -/
  | threshold {name : String} (h : ¬(threshold name).Met) :
    Refuses (threshold name) (.unknownThreshold name)
  /-- The text is not read as a number that is a port. -/
  | key {s : String} {reason : Numeral.Fault}
    (h : Numeral.read maxPort (trimChars s.toList) = .error reason) :
    Refuses (key (.text s)) (.portKey s reason)
  /-- The pattern cannot be read. -/
  | pattern {p : ServicePattern} (h : ¬p.Readable) : Refuses (pattern p) (.pattern p.text)
  /-- The pattern can be read, but it names no protocol. -/
  | noProtocols {p : ServicePattern} (hread : p.Readable) (h : p.archetype.protocols = []) :
    Refuses (pattern p) (.noProtocols p.text)
  /-- The override is of port zero. -/
  | portZero {o : Override} : Refuses (override 0 o) .portZero
  /-- The override is of another port, but it names no protocol or no service. -/
  | incomplete {port : Nat} {o : Override} (hport : port ≠ 0)
    (h : isBlankText o.protocol = true ∨ isBlankText o.service = true) :
    Refuses (override port o) (.incomplete port)
  /-- The authentication is blank. -/
  | blankAuth {name : String} (h : isBlankText name = true) : Refuses (auth name) .blankAuth

/-- What the wording of a refusal begins with. -/
def lead : Requirement → String
  | threshold name => "Unknown confidence threshold: " ++ name
  | key (.number port) => "Failed to parse port_overrides." ++ toString port ++ ": "
  | key (.text s) => "Failed to parse port_overrides." ++ s ++ ": "
  | pattern _ | override _ _ | auth _ => "Configuration validation failed: "

/-- The fault of a requirement, if it is not met. -/
def fault? : Requirement → Option Fault
  | threshold name => Except.error? (namedThreshold name)
  | key k => Except.error? k.port
  | pattern p => patternFault? p
  | override port o => overrideFault? (port, o)
  | auth name => if isBlankText name then some .blankAuth else none

/-- No threshold is found under a name exactly if none has it. -/
theorem ofName?_eq_none_iff {name : String} :
    Threshold.ofName? name = none ↔ ¬(threshold name).Met := by
  have hall : ∀ t : Threshold, t ∈ [Threshold.high, .medium, .low] := by
    intro t
    cases t <;> decide
  unfold Threshold.ofName? Met
  rw [List.find?_eq_none]
  simp only [beq_iff_eq, not_exists]
  exact ⟨fun h t => h t (hall t), fun h t _ => h t⟩

/-- A requirement is met or refused. -/
theorem met_or_refuses (r : Requirement) : r.Met ∨ ∃ f, r.Refuses f := by
  cases r with
  | threshold name => exact (Classical.em _).imp_right fun h => ⟨_, .threshold h⟩
  | key k =>
    cases k with
    | number port => exact .inl trivial
    | text s =>
      cases hread : Numeral.read maxPort (trimChars s.toList) with
      | ok port => exact .inl ⟨port, Numeral.read_eq_ok_iff.mp hread⟩
      | error reason => exact .inr ⟨_, .key hread⟩
  | pattern p =>
    by_cases hread : p.Readable
    · by_cases hnone : p.archetype.protocols = []
      · exact .inr ⟨_, .noProtocols hread hnone⟩
      · exact .inl ⟨hread, hnone⟩
    · exact .inr ⟨_, .pattern hread⟩
  | override port o =>
    by_cases hport : port = 0
    · exact .inr ⟨.portZero, hport ▸ .portZero⟩
    · cases hprotocol : isBlankText o.protocol with
      | true => exact .inr ⟨_, .incomplete hport (.inl hprotocol)⟩
      | false =>
        cases hservice : isBlankText o.service with
        | true => exact .inr ⟨_, .incomplete hport (.inr hservice)⟩
        | false => exact .inl ⟨hport, hprotocol, hservice⟩
  | auth name =>
    cases hblank : isBlankText name with
    | true => exact .inr ⟨_, .blankAuth hblank⟩
    | false => exact .inl hblank

/-- A requirement that is met has no fault. -/
theorem Met.fault? {r : Requirement} (h : r.Met) : r.fault? = none := by
  cases r with
  | threshold name =>
    have hfound : Threshold.ofName? name ≠ none := fun hnone => ofName?_eq_none_iff.mp hnone h
    obtain ⟨t, ht⟩ := Option.ne_none_iff_exists'.mp hfound
    change Except.error? (namedThreshold name) = none
    unfold namedThreshold
    rw [ht]
    rfl
  | key k =>
    cases k with
    | number port => rfl
    | text s =>
      obtain ⟨port, hport⟩ := h
      change Except.error? (PortKey.port (.text s)) = none
      unfold PortKey.port
      dsimp only
      rw [Numeral.read_eq_ok_iff.mpr hport]
      rfl
  | pattern p =>
    obtain ⟨⟨q, hq⟩, hnone⟩ := h
    change patternFault? p = none
    unfold patternFault?
    rw [hq]
    exact if_neg fun hempty => hnone (List.isEmpty_iff.mp hempty)
  | override port o =>
    obtain ⟨hport, hprotocol, hservice⟩ := h
    change overrideFault? (port, o) = none
    unfold overrideFault?
    dsimp only
    rw [if_neg fun hzero => hport (beq_iff_eq.mp hzero), hprotocol, hservice]
    rfl
  | auth name => exact if_neg fun hblank => Bool.false_ne_true (h.symm.trans hblank)

/-- A requirement that is refused has the fault with which it is. -/
theorem Refuses.fault? {r : Requirement} {f : Fault} (h : r.Refuses f) : r.fault? = some f := by
  cases h with
  | @threshold name h =>
    change Except.error? (namedThreshold name) = _
    unfold namedThreshold
    rw [ofName?_eq_none_iff.mpr h]
    rfl
  | @key s reason h =>
    change Except.error? (PortKey.port (.text s)) = _
    unfold PortKey.port
    dsimp only
    rw [h]
    rfl
  | @pattern p h =>
    change patternFault? p = _
    unfold patternFault?
    cases hread : Pattern.ofText? p.text with
    | ok q => exact absurd ⟨q, hread⟩ h
    | error e => rfl
  | @noProtocols p hread h =>
    obtain ⟨q, hq⟩ := hread
    change patternFault? p = _
    unfold patternFault?
    rw [hq, h]
    rfl
  | portZero => rfl
  | @incomplete port o hport h =>
    change overrideFault? (port, o) = _
    unfold overrideFault?
    dsimp only
    rw [if_neg fun hzero => hport (beq_iff_eq.mp hzero), if_pos (Bool.or_eq_true_iff.mpr h)]
  | blankAuth h => exact if_pos h

/-- The fault of a requirement is the one with which it is refused. -/
theorem fault?_eq_some_iff {r : Requirement} {f : Fault} : r.fault? = some f ↔ r.Refuses f := by
  refine ⟨fun h => ?_, Refuses.fault?⟩
  rcases r.met_or_refuses with hmet | ⟨f', hrefused⟩
  · cases hmet.fault?.symm.trans h
  · obtain rfl : f' = f := Option.some.inj (hrefused.fault?.symm.trans h)
    exact hrefused

/-- A requirement has no fault exactly if it is met. -/
theorem fault?_eq_none_iff {r : Requirement} : r.fault? = none ↔ r.Met := by
  refine ⟨fun h => ?_, Met.fault?⟩
  rcases r.met_or_refuses with hmet | ⟨f, hrefused⟩
  · exact hmet
  · cases hrefused.fault?.symm.trans h

/-- A refusal is worded as its requirement is. -/
theorem Refuses.message {r : Requirement} {f : Fault} (h : r.Refuses f) :
    ∃ reason, f.message = r.lead ++ reason := by
  cases h with
  | threshold h => exact ⟨_, rfl⟩
  | key h => exact ⟨_, rfl⟩
  | pattern h => exact ⟨_, rfl⟩
  | noProtocols hread h => exact ⟨_, rfl⟩
  | portZero => exact ⟨_, rfl⟩
  | incomplete hport h => exact ⟨_, rfl⟩
  | blankAuth h => exact ⟨_, rfl⟩

end Requirement

end PortSurvey.Settings
