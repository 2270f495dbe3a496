import PortSurvey.Profile.Documented
import PortSurvey.Profile.Guess
import PortSurvey.Proofs.Profile.Auth
import PortSurvey.Proofs.Profile.Description
import PortSurvey.Proofs.Text.Blank

/-!
# Populated profiles

A profile is populated if none of its texts is blank (`Profile.Populated`). Guesses are populated
(`Profile.guess_populated`), and documented profiles are if a protocol and a service are documented
(`Profile.ofStandard_populated`). Neither remarks nor containers blank a text out, and a container
may name an authentication where none was (`Profile.isBlankText_withContainer_auth`).
-/

namespace PortSurvey

open Text

/-! ## Blank texts -/

/-- No text of a profile is blank. -/
structure Profile.Populated (p : Profile) : Prop where
  /-- The protocol is not blank. -/
  protocol : isBlankText p.protocol = false
  /-- The service is not blank. -/
  service : isBlankText p.service = false
  /-- The description is not blank. -/
  description : isBlankText p.description = false
  /-- The authentication is not blank. -/
  auth : isBlankText p.auth = false

/-- A blank authentication is not known. -/
theorem isKnownAuth_of_isBlankText {auth : String} (h : isBlankText auth = true) :
    isKnownAuth auth = false := by
  unfold isKnownAuth
  rw [trim_of_isBlankText h]
  decide

/-- The word for what is unknown is not blank. -/
theorem unknownName_told : isBlankText unknownName = false := by decide

/-- A profile of a blank authentication knows none. -/
theorem Profile.authKnown_of_isBlankText {p : Profile} (h : isBlankText p.auth = true) :
    p.authKnown = false :=
  isKnownAuth_of_isBlankText h

namespace Profile

variable {p : Profile}

/-- A remark does not blank a description out. -/
theorem remark_told (h : isBlankText p.description = false) (note : String) :
    isBlankText (p.remark note).description = false := by
  have hne : p.description ≠ "" := by
    intro hempty
    rw [hempty] at h
    exact absurd h (by decide)
  rw [remark_of_description hne]
  exact isBlankText_append_of_left (isBlankText_append_of_left h _) _

/-- A remark leaves a profile populated. -/
theorem Populated.remark (h : p.Populated) (note : String) : (p.remark note).Populated :=
  ⟨h.protocol, h.service, remark_told h.description note, h.auth⟩

/-! ## Where profiles come from -/

/-- What a number suggests is populated if its protocol and its service are named. -/
theorem suggested_populated {protocol service : String} (hprotocol : isBlankText protocol = false)
    (hservice : isBlankText service = false) (port : Nat) (description : String) (encrypted : Bool)
    (sensitivity : Sensitivity) (grade : Grade) (direction : Direction) :
    (suggested port protocol service description encrypted sensitivity grade
      direction).Populated := by
  have hinferred : isBlankText (description ++ " (inferred from port ") = false :=
    isBlankText_append_of_right _ (by decide)
  exact ⟨hprotocol, hservice,
    isBlankText_append_of_left (isBlankText_append_of_left hinferred _) _, unknownName_told⟩

/-- What is said of a port of which nothing is known is populated. -/
theorem unknown_populated (port : Nat) : (unknown port).Populated := by
  have hprotocol : isBlankText "TCP" = false := by decide
  have hdescription : isBlankText "Unknown service on port " = false := by decide
  exact ⟨hprotocol, unknownName_told, isBlankText_append_of_left hdescription _, unknownName_told⟩

/-- Guesses by number are populated. -/
theorem guess_populated (port : Nat) : (guess port).Populated := by
  have hhttp : isBlankText "HTTP" = false := by decide
  have hhttps : isBlankText "HTTPS" = false := by decide
  have htcp : isBlankText "TCP" = false := by decide
  unfold guess
  split_ifs
  · exact suggested_populated hhttp (by decide) _ _ _ _ _ _
  · exact suggested_populated hhttps (by decide) _ _ _ _ _ _
  · exact suggested_populated hhttps (by decide) _ _ _ _ _ _
  · exact suggested_populated hhttp (by decide) _ _ _ _ _ _
  · exact suggested_populated hhttp (by decide) _ _ _ _ _ _
  · exact suggested_populated hhttp (by decide) _ _ _ _ _ _
  · exact suggested_populated htcp (by decide) _ _ _ _ _ _
  · exact suggested_populated htcp (by decide) _ _ _ _ _ _
  · exact unknown_populated port

/-- The usual authentications of services are not blank. -/
theorem usualSecurity_auth (service : String) :
    isBlankText (UsualSecurity.ofService service).auth = false := by
  have hrows : ∀ row ∈ UsualSecurity.rows, isBlankText row.2.auth = false := by decide
  unfold UsualSecurity.ofService
  generalize hfind :
    UsualSecurity.rows.find? (fun row => UsualSecurity.foldService service ∈ row.1) = found
  cases found with
  | none => decide
  | some row => exact hrows row (List.mem_of_find?_eq_some hfind)

/-- Documented profiles are populated if a protocol and a service are documented. -/
theorem ofStandard_populated {s : Standard} (hprotocol : isBlankText s.protocol = false)
    (hservice : isBlankText s.service = false) : (ofStandard s).Populated := by
  have hdescription : ∀ rest : String, isBlankText (s.protocol ++ rest) = false :=
    isBlankText_append_of_left hprotocol
  have hauth := usualSecurity_auth s.service
  unfold ofStandard
  generalize UsualSecurity.ofService s.service = usual at hauth ⊢
  have hpopulated : ∀ words : String, isBlankText words = false →
      Populated ⟨s.protocol, s.service, words, usual.encrypted, usual.auth, usual.sensitivity,
        usual.grade, usual.direction⟩ :=
    fun words hwords => ⟨hprotocol, hservice, hwords, hauth⟩
  simp only [String.append_assoc]
  cases s.notes with
  | none => exact hpopulated _ (hdescription _)
  | some note => exact (hpopulated _ (hdescription _)).remark note

/-! ## Containers -/

section Containers

variable (p) (c : Container)

/-- A container does not blank a description out. -/
theorem withContainer_told (h : isBlankText p.description = false) :
    isBlankText (p.withContainer c).description = false := by
  cases hnews : c.evidence.isNews p
  · rw [withContainer_of_not_isNews p c hnews]
    exact h
  · rw [withContainer_of_isNews p c hnews]
    refine remark_told ?_ _
    dsimp only
    rw [Evidenced.withContainer_description]
    exact h

/-- With a container a protocol is blank exactly if it was. -/
theorem isBlankText_withContainer_protocol :
    isBlankText (p.withContainer c).protocol = isBlankText p.protocol := by
  rw [withContainer_protocol]
  split_ifs with hweb hencrypted
  · rw [Bool.and_eq_true, beq_iff_eq] at hweb
    rw [hweb.2]
    decide
  · rw [Bool.and_eq_true, beq_iff_eq] at hweb
    rw [hweb.2]
    decide
  · rfl

/-- With a container an authentication is blank exactly if it was and the container is no evidence
of one. -/
theorem isBlankText_withContainer_auth :
    isBlankText (p.withContainer c).auth = (isBlankText p.auth && !c.evidence.auth) := by
  rw [Bool.eq_iff_iff, Bool.and_eq_true, Bool.not_eq_true']
  constructor
  · intro hblank
    have hunknown := authKnown_of_isBlankText hblank
    rcases p.withContainer_auth c with hkept | ⟨-, hknown⟩
    · rw [withContainer_authKnown, Bool.or_eq_false_iff] at hunknown
      exact ⟨hkept ▸ hblank, hunknown.2⟩
    · exact absurd (hknown.symm.trans hunknown) (by decide)
  · rintro ⟨hblank, hnone⟩
    rcases p.withContainer_auth c with hkept | ⟨-, hknown⟩
    · rw [hkept]
      exact hblank
    · rw [withContainer_authKnown, authKnown_of_isBlankText hblank, hnone] at hknown
      exact absurd hknown (by decide)

end Containers

end Profile

end PortSurvey
