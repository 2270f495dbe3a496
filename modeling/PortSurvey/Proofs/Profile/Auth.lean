import PortSurvey.Proofs.Profile.Container

/-!
# Which authentication a container leaves

A container keeps an authentication that is known, and where none is known it keeps what stands
there or names one that is (`Profile.withContainer_auth`). Every single thing that evidence does is
of this kind, and stretches of evidence that are can be joined (`Evidenced.NamesAuth.trans`).
-/

namespace PortSurvey

namespace Evidenced

/-- A stretch of evidence that leads from `e` to `e'` keeps the authentication, or it names a known
one where none was known. -/
def NamesAuth (e e' : Evidenced) : Prop :=
  e'.profile.auth = e.profile.auth ∨
    (e.profile.authKnown = false ∧ e'.profile.authKnown = true)

namespace NamesAuth

/-- No evidence keeps the authentication. -/
theorem refl (e : Evidenced) : NamesAuth e e :=
  .inl rfl

/-- Of two stretches of evidence one at most names an authentication. -/
theorem trans {e₀ e₁ e₂ : Evidenced} (h : NamesAuth e₀ e₁) (h' : NamesAuth e₁ e₂) :
    NamesAuth e₀ e₂ := by
  have hsame : ∀ {e e' : Evidenced}, e'.profile.auth = e.profile.auth →
      e'.profile.authKnown = e.profile.authKnown := fun heq => congrArg isKnownAuth heq
  rcases h with hkept | ⟨hunknown, hknown⟩
  · rcases h' with hkept' | ⟨hunknown', hknown'⟩
    · exact .inl (hkept'.trans hkept)
    · exact .inr ⟨(hsame hkept).symm.trans hunknown', hknown'⟩
  · rcases h' with hkept' | ⟨hunknown', -⟩
    · exact .inr ⟨hunknown, (hsame hkept').trans hknown⟩
    · exact absurd (hknown.symm.trans hunknown') (by decide)

end NamesAuth

variable (e : Evidenced)

/-- The image of a database names an authentication, and other images keep it. -/
theorem withImage_namesAuth (image : String) : NamesAuth e (e.withImage image) := by
  unfold withImage
  dsimp only
  by_cases hdatabase : Container.isDatabaseImage image = true
  · rw [if_pos hdatabase]
    cases hknown : e.profile.authKnown
    · have hpassword : isKnownAuth "password" = true := by decide
      exact .inr ⟨hknown, hpassword⟩
    · exact .inl rfl
  · rw [if_neg hdatabase]
    refine .inl ?_
    split_ifs <;> rfl

/-- What turns encryption on keeps the authentication. -/
theorem withEncryption_namesAuth (told : String) : NamesAuth e (e.withEncryption told) := by
  unfold withEncryption
  split_ifs
  · exact .inl rfl
  · exact .inl rfl

/-- A known authentication is named where none was known. -/
theorem withAuth_namesAuth {auth : String} (hauth : isKnownAuth auth = true) (told : String) :
    NamesAuth e (e.withAuth auth told) := by
  unfold withAuth
  split_ifs with hknown
  · exact .inl rfl
  · exact .inr ⟨Bool.eq_false_iff.mpr hknown, hauth⟩

/-- Whatever variables and volumes do keeps the authentication or names a known one. -/
theorem stepwise_namesAuth : Stepwise NamesAuth where
  refl := .refl
  trans := .trans
  encryption := withEncryption_namesAuth
  auth e _ told h := e.withAuth_namesAuth h told

end Evidenced

/-- A container keeps the authentication of a profile, or it names a known one where none was
known. -/
theorem Profile.withContainer_auth (p : Profile) (c : Container) :
    (p.withContainer c).auth = p.auth ∨
      (p.authKnown = false ∧ (p.withContainer c).authKnown = true) := by
  cases h : c.evidence.isNews p
  · rw [withContainer_of_not_isNews p c h]
    exact .inl rfl
  · rw [withContainer_of_isNews p c h]
    exact Evidenced.stepwise_namesAuth.withContainer Evidenced.withImage_namesAuth _ c

end PortSurvey
