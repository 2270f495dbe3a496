import PortSurvey.Proofs.Profile.Container

/-!
# What web servers speak

Where only the transport is known, the image of a web server says whether HTTP or HTTPS is spoken.
It is asked for the encryption before the variables and the volumes are, and these may still turn
encryption on. So the protocol is the one that goes with the encryption there was before the
container, and it goes with the encryption in the end exactly where that is the same
(`Profile.withContainer_speaksWeb_iff`).
-/

namespace PortSurvey

/-- The protocol of the web, with encryption or without. -/
def webProtocol (encrypted : Bool) : String :=
  if encrypted then "HTTPS" else "HTTP"

/-- The protocol tells whether there is encryption. -/
theorem webProtocol_injective : Function.Injective webProtocol := by
  unfold Function.Injective
  decide

namespace Container

/-- Neither the variables nor the volumes of a container turn encryption on. -/
structure LeavesPlain (c : Container) : Prop where
  /-- The variables do not. -/
  environment : ∀ v ∈ c.environment, turnsEncryptionOn v.1 v.2 = false
  /-- The volumes do not. -/
  volumes : ∀ v ∈ c.volumes, bringsCertificates v = false

/-- Variables and volumes are all the evidence of encryption that there is. -/
theorem encryption_eq_false_iff (c : Container) :
    c.evidence.encryption = false ↔ c.LeavesPlain := by
  have himage : ((c.image.map imageEvidence).getD .none).encryption = false := by
    cases c.image <;> rfl
  have hencryption : c.evidence.encryption =
      ((c.environment.any fun v => turnsEncryptionOn v.1 v.2) ||
        c.volumes.any bringsCertificates) := by
    simp only [evidence, Evidence.join, himage, Bool.false_or]
    rfl
  rw [hencryption, Bool.or_eq_false_iff, List.any_eq_false, List.any_eq_false]
  simp only [Bool.not_eq_true]
  exact ⟨fun h => ⟨h.1, h.2⟩, fun h => ⟨h.environment, h.volumes⟩⟩

end Container

namespace Profile

/-- What is spoken is the protocol of the web that goes with the encryption. -/
def SpeaksWeb (p : Profile) : Prop :=
  p.protocol = webProtocol p.encrypted

variable {p : Profile} {c : Container}

/-- Where only the transport was known, the image of a web server names the protocol that goes with
the encryption that there was before. -/
theorem withContainer_protocol_of_web (hprotocol : p.protocol = "TCP")
    (hweb : c.image.any Container.isWebImage = true) :
    (p.withContainer c).protocol = webProtocol p.encrypted := by
  have htransport : (p.protocol == "TCP") = true := beq_iff_eq.mpr hprotocol
  rw [withContainer_protocol, hweb, htransport]
  rfl

/-- Where only the transport was known, the container of a web server gives the protocol that goes
with the encryption in the end exactly if there was encryption before or neither its variables nor
its volumes turn it on. Otherwise it says HTTP of what is encrypted. -/
theorem withContainer_speaksWeb_iff (hprotocol : p.protocol = "TCP")
    (hweb : c.image.any Container.isWebImage = true) :
    ((p.withContainer c).SpeaksWeb ↔ p.encrypted = true ∨ c.LeavesPlain) ∧
      (¬(p.withContainer c).SpeaksWeb →
        (p.withContainer c).protocol = "HTTP" ∧ (p.withContainer c).encrypted = true) := by
  unfold SpeaksWeb
  rw [withContainer_protocol_of_web hprotocol hweb, webProtocol_injective.eq_iff,
    withContainer_encrypted, ← c.encryption_eq_false_iff]
  -- What is left is of two facts: the encryption before, and the evidence of more.
  cases p.encrypted <;> cases c.evidence.encryption <;> decide

/-- Where the variable turns encryption off and the volume brings pages only, HTTP is said of what is
not encrypted. -/
theorem withContainer_speaksWeb_plain :
    let c : Container :=
      ⟨some "nginx:1.25", [("SSL_MODE", " Off ")], ["./pages:/usr/share/nginx/html"]⟩
    (unknown 1234).protocol = "TCP" ∧ c.image.any Container.isWebImage = true ∧
      ((unknown 1234).withContainer c).SpeaksWeb := by
  intro c
  have hweb : c.image.any Container.isWebImage = true := by decide +kernel
  have hplain : c.LeavesPlain := by
    constructor <;> decide +kernel
  exact ⟨rfl, hweb, (withContainer_speaksWeb_iff rfl hweb).1.mpr (.inr hplain)⟩

/-- A web server with a certificate. -/
def certifiedServer : Container :=
  ⟨some "nginx:1.25", [("SSL_CERT_FILE", "/etc/ssl/server.pem")], []⟩

/-- With a certificate HTTP is said of what is encrypted. -/
theorem not_withContainer_speaksWeb :
    let p := (unknown 1234).withContainer certifiedServer
    (unknown 1234).protocol = "TCP" ∧ certifiedServer.image.any Container.isWebImage = true ∧
      p.encrypted = true ∧ p.protocol = "HTTP" ∧ ¬p.SpeaksWeb := by
  unfold SpeaksWeb
  decide +kernel

end Profile

end PortSurvey
