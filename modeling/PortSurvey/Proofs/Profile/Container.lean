import PortSurvey.Profile.Container
import PortSurvey.Proofs.Profile.Basic

/-!
# What containers add to profiles

A container is evidence of an image of a known kind, of encryption, and of an authentication.
`Container.evidence` collects what it is evidence of, and `withContainer_encrypted`,
`withContainer_authKnown`, `withContainer_sensitivity` and `withContainer_grade` say what that does
to a profile.

The image, the variables and the volumes are applied one after the other, and an earlier one may
take from a later one the occasion to add anything. `Evidenced.Gains` says what a stretch of
evidence adds, whatever stood before it; `Gains.trans` joins two stretches, and
`foldl_withVariable_gains` is the induction over the variables. A relation that does not depend on
what the evidence is has to be shown of single steps only (`Evidenced.Stepwise`): that nothing but
the image touches the protocol is one.
-/

namespace PortSurvey

/-! ## Evidence -/

/-- What there is evidence of. -/
structure Evidence where
  /-- An image of a known kind. -/
  image : Bool
  /-- The image of a database. -/
  database : Bool
  /-- Encryption. -/
  encryption : Bool
  /-- A known authentication. -/
  auth : Bool

namespace Evidence

/-- Evidence of nothing. -/
def none : Evidence :=
  ⟨false, false, false, false⟩

/-- The evidence of two sources. -/
def join (x y : Evidence) : Evidence :=
  ⟨x.image || y.image, x.database || y.database, x.encryption || y.encryption, x.auth || y.auth⟩

/-- Whether evidence is worth telling of a profile: it is an image of a known kind, an encryption
that was off, or an authentication where it was unknown. -/
def isNews (x : Evidence) (p : Profile) : Bool :=
  x.image || (!p.encrypted && x.encryption) || (!p.authKnown && x.auth)

/-- Whatever `x` is evidence of, `y` is too. -/
structure Within (x y : Evidence) : Prop where
  /-- Images of a known kind. -/
  image : x.image = true → y.image = true
  /-- Images of databases. -/
  database : x.database = true → y.database = true
  /-- Encryption. -/
  encryption : x.encryption = true → y.encryption = true
  /-- Known authentications. -/
  auth : x.auth = true → y.auth = true

/-- Evidence is within itself. -/
theorem Within.refl (x : Evidence) : x.Within x :=
  ⟨id, id, id, id⟩

/-- Evidence of nothing is within all evidence. -/
theorem none_within (x : Evidence) : none.Within x := by
  constructor <;> exact fun h => absurd h Bool.false_ne_true

/-- Two sources together are evidence of more if each is. -/
theorem Within.join {x x' y y' : Evidence} (hx : x.Within x') (hy : y.Within y') :
    (x.join y).Within (x'.join y') := by
  constructor <;> simp only [Evidence.join, Bool.or_eq_true]
  · exact Or.imp hx.image hy.image
  · exact Or.imp hx.database hy.database
  · exact Or.imp hx.encryption hy.encryption
  · exact Or.imp hx.auth hy.auth

/-- More evidence is news wherever less is. -/
theorem Within.isNews {x y : Evidence} (h : x.Within y) {p : Profile} (hx : x.isNews p = true) :
    y.isNews p = true := by
  simp only [Evidence.isNews, Bool.or_eq_true, Bool.and_eq_true] at hx ⊢
  rcases hx with (himage | ⟨hoff, hencryption⟩) | ⟨hunknown, hauth⟩
  · exact Or.inl (Or.inl (h.image himage))
  · exact Or.inl (Or.inr ⟨hoff, h.encryption hencryption⟩)
  · exact Or.inr ⟨hunknown, h.auth hauth⟩

end Evidence

namespace Container

/-- The authentications that variables speak of are known. -/
theorem isKnownAuth_of_authOfKey? {key auth : String} (h : authOfKey? key = some auth) :
    isKnownAuth auth = true := by
  have hterms : ∀ term ∈ authTerms, isKnownAuth term.2 = true := by decide
  obtain ⟨term, hfind, rfl⟩ := Option.map_eq_some_iff.mp h
  exact hterms term (List.mem_of_find?_eq_some hfind)

/-- What an image is evidence of. -/
def imageEvidence (image : String) : Evidence :=
  ⟨isDatabaseImage image || isWebImage image, isDatabaseImage image, false,
    isDatabaseImage image⟩

/-- What the variables of an environment are evidence of. -/
def variableEvidence (environment : List (String × String)) : Evidence :=
  ⟨false, false, environment.any fun v => turnsEncryptionOn v.1 v.2,
    environment.any fun v => (authOfKey? v.1).isSome⟩

/-- What volumes are evidence of. -/
def volumeEvidence (volumes : List String) : Evidence :=
  ⟨false, false, volumes.any bringsCertificates, false⟩

/-- What a container is evidence of. -/
def evidence (c : Container) : Evidence :=
  (((c.image.map imageEvidence).getD .none).join (variableEvidence c.environment)).join
    (volumeEvidence c.volumes)

/-- A container of which only the image is known is evidence of what the image is. -/
@[simp] theorem ofImage_evidence (image : String) :
    (ofImage image).evidence = imageEvidence image := by
  simp [evidence, ofImage, variableEvidence, volumeEvidence, imageEvidence, Evidence.join]

/-- The image of a database is an image of a known kind. -/
theorem image_of_database (c : Container) (h : c.evidence.database = true) :
    c.evidence.image = true := by
  simp only [evidence, Evidence.join, variableEvidence, volumeEvidence, Bool.or_false] at h ⊢
  cases himage : c.image with
  | none => simp [himage, Evidence.none] at h
  | some image =>
    simp only [himage, Option.map_some, Option.getD_some, imageEvidence] at h ⊢
    rw [h, Bool.true_or]

/-- A container of which nothing is known. -/
def nothing : Container :=
  ⟨none, [], []⟩

/-- Only `nothing` is empty. -/
theorem eq_nothing_of_isEmpty {c : Container} (h : c.isEmpty = true) : c = nothing := by
  obtain ⟨image, environment, volumes⟩ := c
  simp only [isEmpty, Bool.and_eq_true, Option.isNone_iff_eq_none, List.isEmpty_iff] at h
  obtain ⟨⟨rfl, rfl⟩, rfl⟩ := h
  rfl

/-- What is known of `c` is known of `c'` too. -/
structure Within (c c' : Container) : Prop where
  /-- The image is unknown, or it is the same. -/
  image : c.image = none ∨ c.image = c'.image
  /-- The variables are there with the same values. -/
  environment : ∀ v ∈ c.environment, v ∈ c'.environment
  /-- The volumes are there. -/
  volumes : ∀ v ∈ c.volumes, v ∈ c'.volumes

/-- `nothing` is evidence of nothing. -/
@[simp] theorem nothing_evidence : nothing.evidence = .none := by
  simp [evidence, nothing, variableEvidence, volumeEvidence, Evidence.join, Evidence.none]

/-- There is no container of which less than nothing is known. -/
theorem nothing_within (c : Container) : nothing.Within c :=
  ⟨Or.inl rfl, fun _ h => absurd h List.not_mem_nil, fun _ h => absurd h List.not_mem_nil⟩

/-- A container of which more is known is evidence of more. -/
theorem Within.evidence {c c' : Container} (h : c.Within c') :
    c.evidence.Within c'.evidence := by
  have himage : ((c.image.map imageEvidence).getD .none).Within
      ((c'.image.map imageEvidence).getD .none) := by
    rcases h.image with hnone | hsame
    · rw [hnone]
      exact Evidence.none_within _
    · rw [hsame]
      exact Evidence.Within.refl _
  have hany {α : Type} {l l' : List α} (hl : ∀ a ∈ l, a ∈ l') (f : α → Bool)
      (ha : l.any f = true) : l'.any f = true := by
    obtain ⟨a, hmem, hfa⟩ := List.any_eq_true.mp ha
    exact List.any_eq_true.mpr ⟨a, hl a hmem, hfa⟩
  have hvariables : (variableEvidence c.environment).Within (variableEvidence c'.environment) :=
    ⟨id, id, hany h.environment _, hany h.environment _⟩
  have hvolumes : (volumeEvidence c.volumes).Within (volumeEvidence c'.volumes) :=
    ⟨id, id, hany h.volumes _, id⟩
  exact (himage.join hvariables).join hvolumes

end Container

/-! ## Stretches of evidence -/

namespace Evidenced

/-- Applies the variables and the volumes of a container, which is all but the image. -/
def withSurroundings (e : Evidenced) (c : Container) : Evidenced :=
  (c.environment.foldl (fun e v => e.withVariable v.1 v.2) e).withVolumes c.volumes

/-- A relation between what there is before a stretch of evidence and what there is after it: it
holds where there is no evidence, joined stretches keep it, and so does every single thing that
variables and volumes do. -/
structure Stepwise (R : Evidenced → Evidenced → Prop) : Prop where
  /-- It holds where there is no evidence. -/
  refl : ∀ e, R e e
  /-- Joined stretches keep it. -/
  trans : ∀ {e₀ e₁ e₂}, R e₀ e₁ → R e₁ e₂ → R e₀ e₂
  /-- It holds where encryption is turned on. -/
  encryption : ∀ e told, R e (e.withEncryption told)
  /-- It holds where a known authentication is named. -/
  auth : ∀ e auth told, isKnownAuth auth = true → R e (e.withAuth auth told)

namespace Stepwise

variable {R : Evidenced → Evidenced → Prop} (h : Stepwise R)

include h

/-- A stepwise relation holds of a variable. -/
theorem withVariable (e : Evidenced) (key value : String) : R e (e.withVariable key value) := by
  have hencryption : R e (if Container.turnsEncryptionOn key value then
      e.withEncryption "TLS environment variable" else e) := by
    split_ifs
    · exact h.encryption e _
    · exact h.refl e
  unfold Evidenced.withVariable
  cases hkey : Container.authOfKey? key with
  | none => exact hencryption
  | some auth =>
    exact h.trans hencryption (h.auth _ _ _ (Container.isKnownAuth_of_authOfKey? hkey))

/-- A stepwise relation holds of volumes. -/
theorem withVolumes (e : Evidenced) (volumes : List String) : R e (e.withVolumes volumes) := by
  unfold Evidenced.withVolumes
  split_ifs
  · exact h.encryption e _
  · exact h.refl e

/-- A stepwise relation holds of the variables and the volumes of a container. -/
theorem withSurroundings (e : Evidenced) (c : Container) : R e (e.withSurroundings c) := by
  have hvariables : R e (c.environment.foldl (fun e v => e.withVariable v.1 v.2) e) :=
    List.foldlRecOn _ _ (h.refl e) fun e he v _ => h.trans he (h.withVariable e v.1 v.2)
  exact h.trans hvariables (h.withVolumes _ _)

/-- A stepwise relation that holds of images holds of containers. -/
theorem withContainer (himage : ∀ e image, R e (e.withImage image)) (e : Evidenced)
    (c : Container) : R e (e.withContainer c) := by
  unfold Evidenced.withContainer
  cases c.image with
  | none => exact h.withSurroundings e c
  | some image => exact h.trans (himage e image) (h.withSurroundings _ c)

end Stepwise

/-- A stretch of evidence of `x` that leads from `e` to `e'` adds what `x` is evidence of, and tells
of it where it is news. -/
structure Gains (e e' : Evidenced) (x : Evidence) : Prop where
  /-- Encryption is what it was or is turned on. -/
  encrypted : e'.profile.encrypted = (e.profile.encrypted || x.encryption)
  /-- The authentication is known if it was or is named. -/
  authKnown : e'.profile.authKnown = (e.profile.authKnown || x.auth)
  /-- The sensitivity rises to that of databases, and only for one. -/
  sensitivity : e'.profile.sensitivity =
    if x.database then max e.profile.sensitivity .confidential else e.profile.sensitivity
  /-- Nothing is told exactly when nothing was told before and there is no news. -/
  isEmpty : e'.applied.isEmpty = (e.applied.isEmpty && !x.isNews e.profile)
  /-- The service stays. -/
  service : e'.profile.service = e.profile.service
  /-- The direction stays. -/
  direction : e'.profile.direction = e.profile.direction
  /-- The grade stays. -/
  grade : e'.profile.grade = e.profile.grade

/-- Evidence of nothing adds nothing. -/
theorem Gains.refl (e : Evidenced) : Gains e e .none := by
  constructor <;> simp [Evidence.none, Evidence.isNews]

/-- Two stretches of evidence add what both are evidence of. -/
theorem Gains.trans {e₀ e₁ e₂ : Evidenced} {x y : Evidence} (h : Gains e₀ e₁ x)
    (h' : Gains e₁ e₂ y) : Gains e₀ e₂ (x.join y) where
  encrypted := by rw [h'.encrypted, h.encrypted, Bool.or_assoc]; rfl
  authKnown := by rw [h'.authKnown, h.authKnown, Bool.or_assoc]; rfl
  sensitivity := by
    rw [h'.sensitivity, h.sensitivity]
    cases hx : x.database <;> cases hy : y.database <;> simp [Evidence.join, hx, hy]
  isEmpty := by
    -- What `x` added is no news any more when `y` is applied, but then `x` was news.
    rw [h'.isEmpty, h.isEmpty]
    simp only [Evidence.isNews, Evidence.join, h.encrypted, h.authKnown]
    cases e₀.profile.encrypted <;> cases e₀.profile.authKnown <;> cases x.encryption <;>
      cases x.auth <;> cases x.image <;> simp
  service := h'.service.trans h.service
  direction := h'.direction.trans h.direction
  grade := h'.grade.trans h.grade

/-- An image adds what it is evidence of. -/
theorem withImage_gains (e : Evidenced) (image : String) :
    Gains e (e.withImage image) (Container.imageEvidence image) := by
  unfold withImage Container.imageEvidence
  generalize Container.isDatabaseImage image = database
  generalize Container.isWebImage image = web
  cases database
  · cases web <;> constructor <;> simp [Evidence.isNews, Profile.authKnown]
  · -- A known authentication is kept, and the one that is named instead is known.
    have hauth : isKnownAuth
        (if e.profile.authKnown then e.profile.auth else "password") = true := by
      split_ifs with hknown
      · exact hknown
      · decide
    constructor <;> simp [Evidence.isNews]
    simpa only [Profile.authKnown] using hauth

/-- What turns encryption on is evidence of encryption. -/
theorem withEncryption_gains (e : Evidenced) (told : String) :
    Gains e (e.withEncryption told) ⟨false, false, true, false⟩ := by
  unfold withEncryption
  split_ifs with h
  · constructor <;> simp [Evidence.isNews, h]
  · constructor <;> simp [Evidence.isNews, h, Profile.authKnown]

/-- What names a known authentication is evidence of an authentication. -/
theorem withAuth_gains (e : Evidenced) {auth : String} (hauth : isKnownAuth auth = true)
    (told : String) : Gains e (e.withAuth auth told) ⟨false, false, false, true⟩ := by
  unfold withAuth
  split_ifs with h
  · constructor <;> simp [Evidence.isNews, h]
  · have hknown : ({ e.profile with auth := auth } : Profile).authKnown = true := hauth
    constructor <;> simp [Evidence.isNews, h, hknown]

/-- A variable adds what its name and its value are evidence of. -/
theorem withVariable_gains (e : Evidenced) (key value : String) :
    Gains e (e.withVariable key value) ⟨false, false, Container.turnsEncryptionOn key value,
      (Container.authOfKey? key).isSome⟩ := by
  have hon : Gains e (if Container.turnsEncryptionOn key value then
      e.withEncryption "TLS environment variable" else e)
      ⟨false, false, Container.turnsEncryptionOn key value, false⟩ := by
    cases Container.turnsEncryptionOn key value
    · exact Gains.refl e
    · exact withEncryption_gains e _
  unfold withVariable
  cases hkey : Container.authOfKey? key with
  | none => exact hon
  | some auth =>
    have hnamed := hon.trans (withAuth_gains _ (Container.isKnownAuth_of_authOfKey? hkey)
      "credential environment variable")
    simpa only [Evidence.join, Bool.or_false, Bool.false_or, Option.isSome_some] using hnamed

/-- Variables add what all of them are evidence of. -/
theorem foldl_withVariable_gains (environment : List (String × String)) (e : Evidenced) :
    Gains e (environment.foldl (fun e v => e.withVariable v.1 v.2) e)
      (Container.variableEvidence environment) := by
  -- Every variable stands on what the ones before it left, so the start is arbitrary.
  induction environment generalizing e with
  | nil => exact Gains.refl e
  | cons v rest ih =>
    have hjoin : Container.variableEvidence (v :: rest) =
        Evidence.join ⟨false, false, Container.turnsEncryptionOn v.1 v.2,
          (Container.authOfKey? v.1).isSome⟩ (Container.variableEvidence rest) := by
      simp only [Container.variableEvidence, Evidence.join, List.any_cons, Bool.or_self]
    rw [hjoin, List.foldl_cons]
    exact (withVariable_gains e v.1 v.2).trans (ih _)

/-- Volumes add what they are evidence of. -/
theorem withVolumes_gains (e : Evidenced) (volumes : List String) :
    Gains e (e.withVolumes volumes) (Container.volumeEvidence volumes) := by
  unfold withVolumes Container.volumeEvidence
  cases volumes.any Container.bringsCertificates
  · exact Gains.refl e
  · exact withEncryption_gains e _

/-- A container adds what it is evidence of. -/
theorem withContainer_gains (e : Evidenced) (c : Container) :
    Gains e (e.withContainer c) c.evidence := by
  have hrest {e' : Evidenced} {x : Evidence} (himage : Gains e e' x) :
      Gains e (e'.withSurroundings c) ((x.join (Container.variableEvidence c.environment)).join
        (Container.volumeEvidence c.volumes)) :=
    (himage.trans (foldl_withVariable_gains c.environment _)).trans (withVolumes_gains _ _)
  unfold withContainer Container.evidence
  cases c.image with
  | none => exact hrest (Gains.refl e)
  | some image => exact hrest (withImage_gains e image)

end Evidenced

/-! ## The protocol -/

namespace Evidenced

variable (e : Evidenced)

/-- The image of a web server says what is spoken where only the transport was known. -/
theorem withImage_protocol (image : String) : (e.withImage image).profile.protocol =
    if Container.isWebImage image && e.profile.protocol == "TCP" then
      (if e.profile.encrypted then "HTTPS" else "HTTP")
    else e.profile.protocol := by
  unfold withImage
  cases hdatabase : Container.isDatabaseImage image
  · cases hweb : Container.isWebImage image <;> simp
  · have hweb : Container.isWebImage image = false := by
      rw [Container.isWebImage, hdatabase, Bool.not_true, Bool.false_and]
    simp [hweb]

/-- Variables and volumes leave the protocol as it is. -/
theorem stepwise_protocol : Stepwise fun e e' => e'.profile.protocol = e.profile.protocol where
  refl _ := rfl
  trans h h' := h'.trans h
  encryption e told := by
    unfold withEncryption
    split_ifs <;> rfl
  auth e auth told _ := by
    unfold withAuth
    split_ifs <;> rfl

/-- Of a container the image alone counts for the protocol. -/
theorem withContainer_protocol (c : Container) : (e.withContainer c).profile.protocol =
    if c.image.any Container.isWebImage && e.profile.protocol == "TCP" then
      (if e.profile.encrypted then "HTTPS" else "HTTP")
    else e.profile.protocol := by
  unfold withContainer
  refine (stepwise_protocol.withSurroundings _ c).trans ?_
  cases c.image with
  | none => rfl
  | some image => exact e.withImage_protocol image

end Evidenced

/-! ## Profiles with containers -/

namespace Profile

/-- The grade that a profile earns once it has the evidence. -/
def gradeWith (p : Profile) (x : Evidence) : Grade :=
  .ofEvidence (p.encrypted || x.encryption) (p.authKnown || x.auth)

variable (p : Profile) (c : Container)

/-- A container that is no news leaves a profile as it is. -/
theorem withContainer_of_not_isNews (h : c.evidence.isNews p = false) : p.withContainer c = p := by
  have hempty := ((Evidenced.mk p []).withContainer_gains c).isEmpty
  rw [h] at hempty
  simp [withContainer, withEvidence, hempty]

/-- A container that is news gives a profile its evidence, and the grade that the evidence earns if
that is more. -/
theorem withContainer_of_isNews (h : c.evidence.isNews p = true) :
    let e := (Evidenced.mk p []).withContainer c
    p.withContainer c = ({ e.profile with grade := max p.grade (p.gradeWith c.evidence) }).remark
      ("container hints: " ++ String.intercalate ", " e.applied) := by
  intro e
  have hgains : Evidenced.Gains (Evidenced.mk p []) e c.evidence :=
    (Evidenced.mk p []).withContainer_gains c
  have htold : e.applied.isEmpty = false := by rw [hgains.isEmpty, h]; rfl
  have hgrade : max e.profile.grade e.profile.earnedGrade =
      max p.grade (p.gradeWith c.evidence) := by
    rw [earnedGrade, hgains.grade, hgains.encrypted, hgains.authKnown]
    rfl
  unfold withContainer withEvidence
  rw [show (Evidenced.mk p []).withContainer c = e from rfl]
  simp only [htold, hgrade]
  rfl

/-- A container adds encryption if it is evidence of it. -/
theorem withContainer_encrypted :
    (p.withContainer c).encrypted = (p.encrypted || c.evidence.encryption) := by
  cases h : c.evidence.isNews p
  · rw [withContainer_of_not_isNews p c h]
    simp only [Evidence.isNews, Bool.or_eq_false_iff] at h
    cases hp : p.encrypted <;> simp_all
  · rw [withContainer_of_isNews p c h]
    exact ((Evidenced.mk p []).withContainer_gains c).encrypted

/-- A container makes the authentication known if it is evidence of one. -/
theorem withContainer_authKnown :
    (p.withContainer c).authKnown = (p.authKnown || c.evidence.auth) := by
  cases h : c.evidence.isNews p
  · rw [withContainer_of_not_isNews p c h]
    simp only [Evidence.isNews, Bool.or_eq_false_iff] at h
    cases hp : p.authKnown <;> simp_all
  · rw [withContainer_of_isNews p c h]
    exact ((Evidenced.mk p []).withContainer_gains c).authKnown

/-- The image of a database makes the data confidential at least; no other evidence counts. -/
theorem withContainer_sensitivity : (p.withContainer c).sensitivity =
    if c.evidence.database then max p.sensitivity .confidential else p.sensitivity := by
  cases h : c.evidence.isNews p
  · -- The image of a database is always news.
    have hdatabase : c.evidence.database = false := by
      simp only [Evidence.isNews, Bool.or_eq_false_iff] at h
      exact Bool.eq_false_iff.mpr fun hd => by simp [c.image_of_database hd] at h
    rw [hdatabase, withContainer_of_not_isNews p c h]
    rfl
  · rw [withContainer_of_isNews p c h]
    exact ((Evidenced.mk p []).withContainer_gains c).sensitivity

/-- The grade rises to what the evidence earns, if there is news. -/
theorem withContainer_grade : (p.withContainer c).grade =
    if c.evidence.isNews p then max p.grade (p.gradeWith c.evidence) else p.grade := by
  cases h : c.evidence.isNews p
  · rw [withContainer_of_not_isNews p c h]
    rfl
  · rw [withContainer_of_isNews p c h]
    rfl

/-- No evidence earns less than `insecure`. -/
theorem insecure_le_gradeWith (x : Evidence) : .insecure ≤ p.gradeWith x :=
  Grade.insecure_le_ofEvidence _ _

/-- With a container something is known of the grade if it was or there is news. -/
theorem insecure_le_withContainer_grade : .insecure ≤ (p.withContainer c).grade ↔
    .insecure ≤ p.grade ∨ c.evidence.isNews p = true := by
  rw [withContainer_grade]
  split_ifs with hnews
  · rw [le_max_iff]
    exact ⟨fun _ => Or.inr hnews, fun _ => Or.inr (p.insecure_le_gradeWith _)⟩
  · rw [or_iff_left hnews]

/-- A container leaves the service as it is. -/
theorem withContainer_service : (p.withContainer c).service = p.service := by
  cases h : c.evidence.isNews p
  · rw [withContainer_of_not_isNews p c h]
  · rw [withContainer_of_isNews p c h]
    exact ((Evidenced.mk p []).withContainer_gains c).service

/-- A container leaves the direction as it is. -/
theorem withContainer_direction : (p.withContainer c).direction = p.direction := by
  cases h : c.evidence.isNews p
  · rw [withContainer_of_not_isNews p c h]
  · rw [withContainer_of_isNews p c h]
    exact ((Evidenced.mk p []).withContainer_gains c).direction

/-- The image of a web server says what is spoken where only the transport is known; no other
evidence counts. -/
theorem withContainer_protocol : (p.withContainer c).protocol =
    if c.image.any Container.isWebImage && p.protocol == "TCP" then
      (if p.encrypted then "HTTPS" else "HTTP")
    else p.protocol := by
  cases h : c.evidence.isNews p
  · -- The image of a web server is always news.
    have hweb : c.image.any Container.isWebImage = false := by
      simp only [Evidence.isNews, Bool.or_eq_false_iff] at h
      cases himage : c.image with
      | none => rfl
      | some image =>
        simp_all [Container.evidence, Evidence.join, Container.imageEvidence]
    rw [withContainer_of_not_isNews p c h, hweb]
    rfl
  · rw [withContainer_of_isNews p c h]
    exact (Evidenced.mk p []).withContainer_protocol c

/-- `nothing` adds nothing. -/
theorem withContainer_nothing : p.withContainer .nothing = p := by
  apply withContainer_of_not_isNews
  simp [Evidence.none, Evidence.isNews]

/-- Under more evidence a profile claims no less security. -/
theorem withContainer_atMost {c c' : Container} (h : c.evidence.Within c'.evidence) :
    (p.withContainer c).AtMost (p.withContainer c') where
  encrypted := by
    simp only [withContainer_encrypted, Bool.or_eq_true]
    exact Or.imp_right h.encryption
  sensitivity := by
    rw [withContainer_sensitivity, withContainer_sensitivity]
    split_ifs with hc hc'
    · exact le_refl _
    · exact absurd (h.database hc) hc'
    · exact le_max_left _ _
    · exact le_refl _
  grade := by
    have hearned : p.gradeWith c.evidence ≤ p.gradeWith c'.evidence := by
      apply Grade.ofEvidence_mono <;> simp only [Bool.or_eq_true]
      · exact Or.imp_right h.encryption
      · exact Or.imp_right h.auth
    rw [withContainer_grade, withContainer_grade]
    split_ifs with hc hc'
    · exact max_le_max (le_refl _) hearned
    · exact absurd (h.isNews hc) hc'
    · exact le_max_left _ _
    · exact le_refl _
  authKnown := by
    simp only [withContainer_authKnown, Bool.or_eq_true]
    exact Or.imp_right h.auth

/-- With a container a profile claims no less security than without. -/
theorem atMost_withContainer : p.AtMost (p.withContainer c) := by
  have hnothing := p.withContainer_atMost c.nothing_within.evidence
  rwa [withContainer_nothing] at hnothing

end Profile

end PortSurvey
