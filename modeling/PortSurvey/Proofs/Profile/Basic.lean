import Mathlib.Order.MinMax
import PortSurvey.Profile.Basic

/-!
# The orders of sensitivities, grades and profiles

Sensitivities and grades are linearly ordered by their ranks, and what evidence earns grows with the
evidence (`Grade.ofEvidence_mono`). `Profile.AtMost` compares what two profiles say of security:
encryption, sensitivity, grade, and whether the authentication is known. The protocol, the service,
the direction and the description do not count.
-/

namespace PortSurvey

/-! ## Sensitivities and grades -/

/-- A sensitivity is determined by its place in the order. -/
theorem Sensitivity.rank_injective : Function.Injective Sensitivity.rank := by
  intro s t h
  cases s <;> cases t <;> first | rfl | simp [Sensitivity.rank] at h

/-- The sensitivities in the order of their ranks. -/
instance : LinearOrder Sensitivity where
  le_refl s := Nat.le_refl s.rank
  le_trans _ _ _ h h' := Nat.le_trans h h'
  le_antisymm _ _ h h' := Sensitivity.rank_injective (Nat.le_antisymm h h')
  le_total s t := Nat.le_total s.rank t.rank
  toDecidableLE := inferInstance

/-- A grade is determined by its place in the order. -/
theorem Grade.rank_injective : Function.Injective Grade.rank := by
  intro g k h
  cases g <;> cases k <;> first | rfl | simp [Grade.rank] at h

/-- The grades in the order of their ranks. -/
instance : LinearOrder Grade where
  le_refl g := Nat.le_refl g.rank
  le_trans _ _ _ h h' := Nat.le_trans h h'
  le_antisymm _ _ h h' := Grade.rank_injective (Nat.le_antisymm h h')
  le_total g k := Nat.le_total g.rank k.rank
  toDecidableLE := inferInstance

namespace Grade

/-- Evidence earns `secure` or more exactly when it is encryption and a known authentication. -/
@[simp] theorem secure_le_ofEvidence {encrypted authKnown : Bool} :
    secure ≤ ofEvidence encrypted authKnown ↔ encrypted = true ∧ authKnown = true := by
  cases encrypted <;> cases authKnown <;> decide

/-- Evidence earns `insecure` at least. -/
theorem insecure_le_ofEvidence (encrypted authKnown : Bool) :
    insecure ≤ ofEvidence encrypted authKnown := by
  cases encrypted <;> cases authKnown <;> decide

/-- More evidence earns no lower grade. -/
theorem ofEvidence_mono {e e' k k' : Bool} (he : e = true → e' = true)
    (hk : k = true → k' = true) : ofEvidence e k ≤ ofEvidence e' k' := by
  cases e <;> cases e' <;> cases k <;> cases k' <;> first | decide | simp at he hk

end Grade

/-! ## Profiles -/

namespace Profile

/-- `q` claims no less security than `p`: what `p` has of encryption, sensitivity, grade and known
authentication, `q` has too. -/
structure AtMost (p q : Profile) : Prop where
  /-- Encryption is not lost. -/
  encrypted : p.encrypted = true → q.encrypted = true
  /-- The sensitivity is not lower. -/
  sensitivity : p.sensitivity ≤ q.sensitivity
  /-- The grade is not lower. -/
  grade : p.grade ≤ q.grade
  /-- A known authentication does not become unknown. -/
  authKnown : p.authKnown = true → q.authKnown = true

/-- A profile claims no less security than itself. -/
theorem AtMost.refl (p : Profile) : p.AtMost p :=
  ⟨id, le_refl _, le_refl _, id⟩

/-- Two profiles say the same of security. -/
structure SameSecurity (p q : Profile) : Prop where
  /-- Both are encrypted or neither is. -/
  encrypted : p.encrypted = q.encrypted
  /-- The authentications are the same. -/
  auth : p.auth = q.auth
  /-- The sensitivities are the same. -/
  sensitivity : p.sensitivity = q.sensitivity
  /-- The grades are the same. -/
  grade : p.grade = q.grade

end Profile

end PortSurvey
