import PortSurvey.Proofs.Profile.Auth
import PortSurvey.Proofs.Profile.Description

/-!
# Containers tell what they change

Evidence is applied step by step, and beside the profile there is a list of what was applied. A step
may do nothing because an earlier one left nothing to do, and then it must not be told; a step that
does something must be (`Evidenced.Tells`). Since every step keeps to this, a container of which
nothing is told has not touched the profile on the way, and so `Profile.withEvidence` says that
there was evidence exactly where the profile is not the same any more.

`Profile.withEvidence_truthful` adds what a container may touch at all, and how.
-/

namespace PortSurvey

/-! ## What is told -/

namespace Evidenced

/-- A stretch of evidence that leads from `e` to `e'` tells what it does: what was told before stays
told, and where nothing more is told nothing was done. -/
structure Tells (e e' : Evidenced) : Prop where
  /-- What was told stays told. -/
  kept : e.applied <+: e'.applied
  /-- Where nothing more is told nothing was done. -/
  unchanged : e'.applied = e.applied → e' = e

namespace Tells

/-- Where there is no evidence, nothing is done and nothing told. -/
theorem refl (e : Evidenced) : Tells e e :=
  ⟨List.prefix_refl _, fun _ => rfl⟩

/-- Joined stretches tell what they do. -/
theorem trans {e₀ e₁ e₂ : Evidenced} (h : Tells e₀ e₁) (h' : Tells e₁ e₂) : Tells e₀ e₂ where
  kept := h.kept.trans h'.kept
  unchanged hsame := by
    -- What is told never shrinks, so neither stretch told anything.
    have hlength : e₁.applied.length ≤ e₀.applied.length := hsame ▸ h'.kept.length_le
    have hfirst : e₁.applied = e₀.applied := (h.kept.eq_of_length_le hlength).symm
    rw [h'.unchanged (hsame.trans hfirst.symm), h.unchanged hfirst]

/-- A step that tells something may do anything. -/
theorem append (e : Evidenced) (p : Profile) (told : String) : Tells e ⟨p, e.applied ++ [told]⟩ where
  kept := List.prefix_append _ _
  unchanged hsame := by
    have hlength := congrArg List.length hsame
    rw [List.length_append, List.length_singleton] at hlength
    omega

end Tells

/-- An image of a known kind is told, and other images do nothing. -/
theorem withImage_tells (e : Evidenced) (image : String) : Tells e (e.withImage image) := by
  unfold withImage
  dsimp only
  by_cases hdatabase : Container.isDatabaseImage image = true
  · rw [if_pos hdatabase]
    exact .append e _ _
  · rw [if_neg hdatabase]
    by_cases hweb : Container.isWebImage image = true
    · rw [if_pos hweb]
      exact .append e _ _
    · rw [if_neg hweb]
      exact .refl e

/-- Whatever variables and volumes do they tell. -/
theorem stepwise_tells : Stepwise Tells where
  refl := .refl
  trans := .trans
  encryption e told := by
    unfold withEncryption
    split_ifs
    · exact .refl e
    · exact .append e _ _
  auth e auth told _ := by
    unfold withAuth
    split_ifs
    · exact .refl e
    · exact .append e _ _

end Evidenced

/-! ## What is touched -/

namespace Profile

/-- A remark that says something changes the description. -/
theorem remark_description_ne (p : Profile) {note : String} (h : note ≠ "") :
    (p.remark note).description ≠ p.description := by
  intro hsame
  by_cases hempty : p.description = ""
  · have hnote : (p.remark note).description = note := by
      unfold remark
      rw [String.isEmpty_iff.mpr hempty]
      rfl
    exact h (hnote.symm.trans (hsame.trans hempty))
  · rw [remark_of_description hempty] at hsame
    have hlength : (p.description ++ "; " ++ note).length = p.description.length :=
      congrArg String.length hsame
    have hseparator : "; ".length = 2 := rfl
    rw [String.length_append, String.length_append] at hlength
    omega

/-- What a container does to `p` is told truthfully, and nothing is touched but what may be. -/
structure Truthful (p : Profile) (c : Container) : Prop where
  /-- No evidence is told exactly where the profile is the same in every field. -/
  told_iff : (p.withEvidence c).2 = false ↔ (p.withEvidence c).1 = p
  /-- Where no evidence is told, none of it touched the profile on the way. -/
  untouched : (p.withEvidence c).2 = false → ((Evidenced.mk p []).withContainer c).profile = p
  /-- The service stays. -/
  service : (p.withContainer c).service = p.service
  /-- The direction stays. -/
  direction : (p.withContainer c).direction = p.direction
  /-- An authentication is replaced only where none is known, and only by one that is. -/
  auth : (p.withContainer c).auth ≠ p.auth →
    p.authKnown = false ∧ (p.withContainer c).authKnown = true
  /-- The protocol changes only where it is the transport alone. -/
  protocol : (p.withContainer c).protocol ≠ p.protocol → p.protocol = "TCP"
  /-- Encryption, sensitivity and grade do not decrease. -/
  atMost : p.AtMost (p.withContainer c)
  /-- Where evidence is told the grade rises to what is earned in the end, if that is more. -/
  grade : (p.withEvidence c).2 = true →
    (p.withContainer c).grade = max p.grade (p.withContainer c).earnedGrade

variable (p : Profile) (c : Container)

/-- Where no evidence is told, none of it touched the profile on the way. -/
theorem untouched_of_not_told (h : (p.withEvidence c).2 = false) :
    ((Evidenced.mk p []).withContainer c).profile = p := by
  have htells :=
    Evidenced.stepwise_tells.withContainer Evidenced.withImage_tells (Evidenced.mk p []) c
  unfold withEvidence at h
  dsimp only at h
  split_ifs at h with hempty
  exact congrArg (·.profile) (htells.unchanged (List.isEmpty_iff.mp hempty))

/-- No evidence is told exactly where the profile is the same in every field. -/
theorem withEvidence_told_iff : (p.withEvidence c).2 = false ↔ (p.withEvidence c).1 = p := by
  have hwords := (Evidenced.mk p []).withContainer_description c
  unfold withEvidence
  dsimp only
  split_ifs
  · exact iff_of_true rfl rfl
  · refine iff_of_false id fun hsame => ?_
    -- The remark on what was applied is in the description, which nothing else touches.
    have hnote : "container hints: " ++
        String.intercalate ", " ((Evidenced.mk p []).withContainer c).applied ≠ "" := by
      simp [String.append_eq_empty_iff]
    exact remark_description_ne _ hnote ((congrArg (·.description) hsame).trans hwords.symm)

/-- Evidence is told of the containers that are news. -/
theorem withEvidence_told : (p.withEvidence c).2 = c.evidence.isNews p := by
  have hempty := ((Evidenced.mk p []).withContainer_gains c).isEmpty
  unfold withEvidence
  dsimp only
  rw [hempty]
  cases c.evidence.isNews p <;> rfl

/-- Every container is told of truthfully. -/
theorem withEvidence_truthful : p.Truthful c where
  told_iff := p.withEvidence_told_iff c
  untouched := p.untouched_of_not_told c
  service := p.withContainer_service c
  direction := p.withContainer_direction c
  auth hchanged := (p.withContainer_auth c).resolve_left hchanged
  protocol hchanged := by
    rw [withContainer_protocol, ite_ne_right_iff, Bool.and_eq_true] at hchanged
    exact beq_iff_eq.mp hchanged.1.2
  atMost := p.atMost_withContainer c
  grade htold := by
    rw [withEvidence_told] at htold
    rw [withContainer_grade, if_pos htold, earnedGrade, withContainer_encrypted,
      withContainer_authKnown]
    rfl

end Profile

end PortSurvey
