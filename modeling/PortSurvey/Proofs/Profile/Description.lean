import PortSurvey.Proofs.Profile.Basic
import PortSurvey.Profile.Container

/-!
# Descriptions tell nothing to others

The description of a profile says in words how the profile came about. It is written and never read:
if two profiles agree in all other fields (`Profile.SameSubstance`), then whatever a container adds
to one of them it adds to the other (`Profile.SameSubstance.withContainer`).

`Evidenced.described` gives other words to a profile under evidence. Every kind of evidence commutes
with it, and so do all variables of an environment, one after the other.
-/

namespace PortSurvey

namespace Profile

/-- The profile in other words. -/
def described (p : Profile) (words : String) : Profile :=
  { p with description := words }

/-- Two profiles agree in every field but the description. -/
structure SameSubstance (p q : Profile) : Prop extends p.SameSecurity q where
  /-- The protocols are the same. -/
  protocol : p.protocol = q.protocol
  /-- The services are the same. -/
  service : p.service = q.service
  /-- The directions are the same. -/
  direction : p.direction = q.direction

/-- A profile in other words is of the same substance. -/
theorem described_sameSubstance (p : Profile) (words : String) :
    (p.described words).SameSubstance p :=
  ⟨⟨rfl, rfl, rfl, rfl⟩, rfl, rfl, rfl⟩

namespace SameSubstance

/-- A profile is of its own substance. -/
theorem refl (p : Profile) : p.SameSubstance p :=
  ⟨⟨rfl, rfl, rfl, rfl⟩, rfl, rfl, rfl⟩

variable {p q r : Profile}

/-- To be of the same substance goes both ways. -/
theorem symm (h : p.SameSubstance q) : q.SameSubstance p :=
  ⟨⟨h.encrypted.symm, h.auth.symm, h.sensitivity.symm, h.grade.symm⟩, h.protocol.symm,
    h.service.symm, h.direction.symm⟩

/-- What is of the same substance as a third is of the same substance. -/
theorem trans (h : p.SameSubstance q) (h' : q.SameSubstance r) : p.SameSubstance r :=
  ⟨⟨h.encrypted.trans h'.encrypted, h.auth.trans h'.auth, h.sensitivity.trans h'.sensitivity,
    h.grade.trans h'.grade⟩, h.protocol.trans h'.protocol, h.service.trans h'.service,
    h.direction.trans h'.direction⟩

/-- A profile of the same substance is the profile in other words. -/
theorem eq_described (h : p.SameSubstance q) : p = q.described p.description := by
  obtain ⟨⟨hencrypted, hauth, hsensitivity, hgrade⟩, hprotocol, hservice, hdirection⟩ := h
  rw [described, ← hencrypted, ← hauth, ← hsensitivity, ← hgrade, ← hprotocol, ← hservice,
    ← hdirection]

end SameSubstance

/-- A remark adds words only. -/
theorem remark_sameSubstance (p : Profile) (note : String) : (p.remark note).SameSubstance p :=
  p.described_sameSubstance _

/-- A remark on a profile that has a description follows it. -/
theorem remark_of_description {p : Profile} (h : p.description ≠ "") (note : String) :
    p.remark note = { p with description := p.description ++ "; " ++ note } := by
  have hempty : p.description.isEmpty = false :=
    Bool.eq_false_iff.mpr fun he => h (String.isEmpty_iff.mp he)
  rw [remark, hempty]
  rfl

end Profile

/-! ## Evidence -/

namespace Evidenced

variable (e : Evidenced) (words : String)

/-- The same evidence of a profile in other words. -/
def described : Evidenced :=
  ⟨e.profile.described words, e.applied⟩

/-- An image adds the same, whatever the words are. -/
theorem described_withImage (image : String) :
    (e.described words).withImage image = (e.withImage image).described words := by
  have hknown : (e.profile.described words).authKnown = e.profile.authKnown := rfl
  unfold withImage described
  dsimp only
  rw [hknown]
  unfold Profile.described
  by_cases hdatabase : Container.isDatabaseImage image = true
  · rw [if_pos hdatabase, if_pos hdatabase]
  · rw [if_neg hdatabase, if_neg hdatabase]
    split_ifs <;> rfl

/-- Encryption is turned on alike, whatever the words are. -/
theorem described_withEncryption (told : String) :
    (e.described words).withEncryption told = (e.withEncryption told).described words := by
  have hencrypted : (e.described words).profile.encrypted = e.profile.encrypted := rfl
  unfold withEncryption
  rw [hencrypted]
  split_ifs <;> rfl

/-- An authentication is named alike, whatever the words are. -/
theorem described_withAuth (auth told : String) :
    (e.described words).withAuth auth told = (e.withAuth auth told).described words := by
  have hknown : (e.described words).profile.authKnown = e.profile.authKnown := rfl
  unfold withAuth
  rw [hknown]
  split_ifs <;> rfl

/-- A variable adds the same, whatever the words are. -/
theorem described_withVariable (key value : String) :
    (e.described words).withVariable key value = (e.withVariable key value).described words := by
  unfold withVariable
  dsimp only
  rw [described_withEncryption, ← apply_ite (described · words)]
  cases Container.authOfKey? key with
  | none => rfl
  | some auth => exact described_withAuth _ words auth _

/-- Volumes add the same, whatever the words are. -/
theorem described_withVolumes (volumes : List String) :
    (e.described words).withVolumes volumes = (e.withVolumes volumes).described words := by
  unfold withVolumes
  rw [described_withEncryption, ← apply_ite (described · words)]

/-- A container adds the same, whatever the words are. -/
theorem described_withContainer (c : Container) :
    (e.described words).withContainer c = (e.withContainer c).described words := by
  -- The variables are applied one after the other, each as it would be under other words.
  have hvariables : ∀ e : Evidenced,
      c.environment.foldl (fun e v => e.withVariable v.1 v.2) (e.described words) =
        (c.environment.foldl (fun e v => e.withVariable v.1 v.2) e).described words := fun e =>
    List.foldl_hom (described · words) fun e v => e.described_withVariable words v.1 v.2
  unfold withContainer
  cases c.image with
  | none =>
    dsimp only
    rw [hvariables, described_withVolumes]
  | some image =>
    dsimp only
    rw [described_withImage, hvariables, described_withVolumes]

/-- A container adds no words by itself. -/
theorem withContainer_description (c : Container) :
    (e.withContainer c).profile.description = e.profile.description := by
  have hself : e.described e.profile.description = e := rfl
  have hcommutes := e.described_withContainer e.profile.description c
  rw [hself] at hcommutes
  rw [hcommutes]
  rfl

end Evidenced

/-- A container adds the same to profiles of the same substance. -/
theorem Profile.SameSubstance.withContainer {p q : Profile} (h : p.SameSubstance q)
    (c : Container) : (p.withContainer c).SameSubstance (q.withContainer c) := by
  have hevidence : (Evidenced.mk p []).withContainer c =
      ((Evidenced.mk q []).withContainer c).described p.description := by
    rw [← Evidenced.described_withContainer, Evidenced.described, ← h.eq_described]
  unfold Profile.withContainer Profile.withEvidence
  dsimp only
  rw [hevidence]
  generalize (Evidenced.mk q []).withContainer c = e
  have happlied : (e.described p.description).applied = e.applied := rfl
  rw [happlied]
  split_ifs
  · exact h
  · exact ⟨⟨rfl, rfl, rfl, rfl⟩, rfl, rfl, rfl⟩

end PortSurvey
