import Mathlib.Data.List.Forall2
import PortSurvey.Artifact.Manifest
import PortSurvey.Proofs.Declaration
import PortSurvey.Proofs.Port.Written

/-!
# Manifests are read all or nothing

A stream of documents declares what each of them declares, in their order (`ofDocuments_ok`), unless
one of them has no value, wherever it stands (`ofDocuments_error`). A document of a kind that is not
read declares nothing, and the stream is read as if it were left out (`ofDocuments_insert`).

Within a document, the declarations go side by side with the entries that tell a port. An entry of a
workload tells the port of a container (`DeclaresContainer`); an entry of a service tells the port
at which the service is reached, and leads to this port or to the one that it names as a number
(`DeclaresService`). One that names it by a name leads nowhere (`leads_of_named`).
`ofDocuments_account` puts this together.
-/

namespace PortSurvey.Artifact.Manifest

open Yaml (Value)

variable (file : File)

/-! ## Streams of documents -/

/-- Documents that all have a value declare what each declares, in order. -/
theorem ofDocuments_ok {documents : List (Except Yaml.Fault Value)}
    (h : ∀ fault, .error fault ∉ documents) : ofDocuments file documents =
      .ok ((documents.filterMap Except.toOption).flatMap (ofDocument file)) := by
  induction documents with
  | nil => rfl
  | cons document rest ih =>
    cases document with
    | error fault => exact absurd List.mem_cons_self (h fault)
    | ok document =>
      rw [ofDocuments, ih fun fault hmem => h fault (List.mem_cons_of_mem _ hmem)]
      rfl

/-- One document without a value spoils all, whatever stands before it. -/
theorem ofDocuments_error {documents : List (Except Yaml.Fault Value)} {fault : Yaml.Fault}
    (h : .error fault ∈ documents) : ofDocuments file documents = .error .malformed := by
  induction documents with
  | nil => exact absurd h List.not_mem_nil
  | cons document rest ih =>
    cases document with
    | error fault' => rfl
    | ok document =>
      have hrest := (List.mem_cons.mp h).resolve_left nofun
      rw [ofDocuments, ih hrest]
      rfl

/-- A stream of documents fails exactly if one of them has no value. -/
theorem ofDocuments_eq_error_iff (documents : List (Except Yaml.Fault Value)) :
    ofDocuments file documents = .error .malformed ↔ ∃ fault, .error fault ∈ documents := by
  constructor
  · intro h
    by_contra hnone
    rw [ofDocuments_ok file fun fault hmem => hnone ⟨fault, hmem⟩] at h
    cases h
  · rintro ⟨fault, hmem⟩
    exact ofDocuments_error file hmem

/-- A document that declares nothing may be left out. -/
theorem ofDocuments_insert {document : Value} (h : ofDocument file document = [])
    (before after : List (Except Yaml.Fault Value)) :
    ofDocuments file (before ++ .ok document :: after) = ofDocuments file (before ++ after) := by
  induction before with
  | nil =>
    rw [List.nil_append, List.nil_append, ofDocuments, h]
    cases ofDocuments file after <;> rfl
  | cons first rest ih =>
    cases first with
    | error fault => rfl
    | ok first => rw [List.cons_append, List.cons_append, ofDocuments, ofDocuments, ih]

/-! ## Entries that tell a port -/

/-- What a manifest declares of a port, apart from the facts that stand beside it. -/
def outline (document entry : Value) (origin : Origin) (port : Nat) (host : Option Nat) :
    Declaration where
  service := resourceName file document
  containerPort := port
  hostPort := host
  protocol := transportName (protocolOf entry)
  origin := origin
  file := file.display
  line := none
  context := []
  confidence := 1

/-- The entries of the lists of ports of a workload, container by container. -/
def workloadEntries (document : Value) : List Value :=
  (itemsAt document ["spec", "template", "spec", "containers"]).flatMap (itemsAt · ["ports"])

/-- Whether an entry of a workload tells the port of a container. -/
def tells (entry : Value) : Bool :=
  (portAt? entry "containerPort").isSome

/-- Whether an entry of a service tells a port and leads to one: to the same, or to one that it
tells as a number. -/
def leads (entry : Value) : Bool :=
  (portAt? entry "port").isSome &&
    (entry.get? "targetPort").all fun target => (Port.ofValue? target).isSome

/-- A declaration is that of an entry of a workload: it declares the port of the container. -/
def DeclaresContainer (document entry : Value) (d : Declaration) : Prop :=
  ∃ port, portAt? entry "containerPort" = some port ∧
    d.bare = outline file document entry .workload port (portAt? entry "hostPort")

/-- A declaration is that of an entry of a service: outside is the port of the entry, and inside the
same where the entry tells no other, and else the one that it tells. -/
def DeclaresService (document entry : Value) (d : Declaration) : Prop :=
  ∃ port target, portAt? entry "port" = some port ∧
    d.bare = outline file document entry .clusterService target (some port) ∧
    (entry.get? "targetPort" = none → target = port) ∧
    ∀ value, entry.get? "targetPort" = some value → Port.ofValue? value = some target

/-- A name with a letter is no number, so that an entry which leads to it leads nowhere. -/
theorem leads_of_named {entry : Value} {name : String}
    (hname : entry.get? "targetPort" = some (.string name)) (h : ∃ c ∈ name.toList, c.isAlpha) :
    leads entry = false := by
  obtain ⟨c, hc, hletter⟩ := h
  have hnone : Port.ofValue? (.string name) = none := Port.read?_eq_none_of_isAlpha hc hletter
  unfold leads
  rw [hname, Option.all_some, hnone]
  exact Bool.and_false _

/-- An entry of a workload is declared exactly if it tells a port. -/
theorem rel_workloadPort? (document container entry : Value) :
    Option.Rel (DeclaresContainer file document) (Option.guard tells entry)
      (workloadPort? file document container entry) := by
  unfold workloadPort? Option.guard tells
  cases hport : portAt? entry "containerPort" with
  | none => exact .none
  | some port =>
    refine .some ⟨port, hport, ?_⟩
    simp only [Declaration.withContext?_bare, Declaration.withContext_bare,
      Declaration.withProtocol_bare]
    rfl

/-- An entry of a service leads to a port exactly if it names none or names it as a number. -/
theorem isSome_target? (entry : Value) (port : Nat) : (target? entry port).isSome =
    (entry.get? "targetPort").all fun target => (Port.ofValue? target).isSome := by
  unfold target?
  cases entry.get? "targetPort" <;> rfl

/-- The port that it leads to is the one that it names, and its own where it names none. -/
theorem target?_eq_some {entry : Value} {port target : Nat} (h : target? entry port = some target) :
    (entry.get? "targetPort" = none → target = port) ∧
      ∀ value, entry.get? "targetPort" = some value → Port.ofValue? value = some target := by
  unfold target? at h
  constructor
  · intro hnone
    rw [hnone] at h
    exact (Option.some.inj h).symm
  · intro value hvalue
    rw [hvalue] at h
    exact h

/-- An entry of a service is declared exactly if it tells a port and leads to one. -/
theorem rel_servicePort? (document entry : Value) :
    Option.Rel (DeclaresService file document) (Option.guard leads entry)
      (servicePort? file document entry) := by
  unfold servicePort? Option.guard leads
  cases hport : portAt? entry "port" with
  | none => exact .none
  | some port =>
    rw [Option.bind_some, Option.isSome_some, Bool.true_and, ← isSome_target? entry port]
    cases htarget : target? entry port with
    | none => exact .none
    | some target =>
      refine .some ⟨port, target, hport, ?_, target?_eq_some htarget⟩
      simp only [Declaration.withContext?_bare, Declaration.withContext_bare,
        Declaration.withProtocol_bare]
      rfl

/-! ## Documents -/

/-- What is declared for each of some entries goes side by side with those of them that are picked.
-/
theorem forall₂_filterMap {α β : Type} {R : α → β → Prop} {p : α → Bool} {f : α → Option β}
    (h : ∀ a, Option.Rel R (Option.guard p a) (f a)) (l : List α) :
    List.Forall₂ R (l.filter p) (l.filterMap f) := by
  rw [← List.filterMap_eq_filter]
  refine List.rel_filterMap (R := Eq) ?_ (List.forall₂_refl l)
  rintro a _ rfl
  exact h a

/-- A workload declares a port for each entry that tells one. -/
theorem ofWorkload_declares (document : Value) : List.Forall₂ (DeclaresContainer file document)
    ((workloadEntries document).filter tells) (ofWorkload file document) := by
  unfold workloadEntries ofWorkload
  rw [List.filter_flatMap]
  refine List.rel_flatMap (R := Eq) (List.forall₂_refl _) ?_
  rintro container _ rfl
  exact forall₂_filterMap (rel_workloadPort? file document container) _

/-- A service declares a port for each entry that tells one and leads to one. -/
theorem ofService_declares (document : Value) : List.Forall₂ (DeclaresService file document)
    ((itemsAt document ["spec", "ports"]).filter leads) (ofService file document) :=
  forall₂_filterMap (rel_servicePort? file document) _

/-- A document of another kind declares nothing. -/
theorem ofDocument_of_other {document : Value}
    (hworkload : textAt? document "kind" ≠ some "Deployment")
    (hservice : textAt? document "kind" ≠ some "Service") : ofDocument file document = [] := by
  unfold ofDocument
  split
  · exact absurd ‹_› hworkload
  · exact absurd ‹_› hservice
  · rfl

/-- A manifest is read all or nothing, document by document. It fails exactly if one of its
documents has no value, and else declares what each declares, in order: a workload a port for each
entry that tells one, and a service one for each entry that tells one and leads to one, so for none
that leads to a name. A document of another kind declares nothing, and its neighbours do not notice
it. -/
theorem ofDocuments_account :
    (∀ content, read file content = ofDocuments file (Value.streamOfText content)) ∧
    (∀ documents, ofDocuments file documents = .error .malformed ↔
      ∃ fault, .error fault ∈ documents) ∧
    (∀ documents, (∀ fault, .error fault ∉ documents) → ofDocuments file documents =
      .ok ((documents.filterMap Except.toOption).flatMap (ofDocument file))) ∧
    (∀ document, textAt? document "kind" = some "Deployment" →
      List.Forall₂ (DeclaresContainer file document) ((workloadEntries document).filter tells)
        (ofDocument file document)) ∧
    (∀ document, textAt? document "kind" = some "Service" →
      List.Forall₂ (DeclaresService file document)
        ((itemsAt document ["spec", "ports"]).filter leads) (ofDocument file document)) ∧
    (∀ (entry : Value) (name : String), entry.get? "targetPort" = some (.string name) →
      (∃ c ∈ name.toList, c.isAlpha) → leads entry = false) ∧
    ∀ document, textAt? document "kind" ≠ some "Deployment" →
      textAt? document "kind" ≠ some "Service" → ofDocument file document = [] ∧
        ∀ before after, ofDocuments file (before ++ .ok document :: after) =
          ofDocuments file (before ++ after) := by
  refine ⟨fun _ => rfl, ofDocuments_eq_error_iff file, fun _ => ofDocuments_ok file, ?_, ?_,
    fun _ _ => leads_of_named, ?_⟩
  · intro document hkind
    unfold ofDocument
    rw [hkind]
    exact ofWorkload_declares file document
  · intro document hkind
    unfold ofDocument
    rw [hkind]
    exact ofService_declares file document
  · intro document hworkload hservice
    have hnothing := ofDocument_of_other file hworkload hservice
    exact ⟨hnothing, ofDocuments_insert file hnothing⟩

/-- A manifest of a workload and a service, of whose three ports one leads to a name, declares one
and two ports, whatever stands between them; and none at all with a document behind them that has no
value. -/
theorem ofDocuments_account_shop :
    let file : File := ⟨⟨"shop-service.yaml"⟩, "shop-service.yaml", "shop"⟩
    let record (fields : List (String × Value)) : Value :=
      .mapping (fields.map fun field => (.string field.1, field.2))
    let port (n : Nat) : Value := .number (.whole n)
    let named := record [("port", port 443), ("targetPort", .string "https")]
    let container := record [("ports",
      .sequence [record [("containerPort", port 8080)], record [("containerPort", port 0)]])]
    let template := record [("spec", record [("containers", .sequence [container])])]
    let workload :=
      record [("kind", .string "Deployment"), ("spec", record [("template", template)])]
    let service := record [("kind", .string "Service"), ("spec", record [("ports",
      .sequence [record [("port", port 80), ("targetPort", port 8080)], named,
        record [("port", port 81)]])])]
    let secret := record [("kind", .string "Secret")]
    leads named = false ∧ ofDocument file secret = [] ∧
      (ofDocument file workload).length = 1 ∧ (ofDocument file service).length = 2 ∧
      ofDocuments file [.ok workload, .ok secret, .ok service] =
        .ok (ofDocument file workload ++ ofDocument file service) ∧
      ofDocuments file [.ok workload, .ok service, .error .key] = .error .malformed := by
  intro file record port named container template workload service secret
  obtain ⟨-, hfails, hreads, hworkload, hservice, hnamed, hother⟩ := ofDocuments_account file
  obtain ⟨hsecret, hleft⟩ := hother secret (by decide) (by decide)
  let both : List (Except Yaml.Fault Value) := [.ok workload, .ok service]
  have hall : ∀ fault, .error fault ∉ both := by simp [both]
  refine ⟨hnamed named "https" rfl ⟨'h', by decide, by decide⟩, hsecret, ?_, ?_, ?_, ?_⟩
  · exact (hworkload workload rfl).length_eq.symm
  · exact (hservice service rfl).length_eq.symm
  · refine (hleft [.ok workload] [.ok service]).trans ((hreads both hall).trans ?_)
    exact congrArg Except.ok (congrArg (ofDocument file workload ++ ·) (List.append_nil _))
  · exact (hfails _).mpr ⟨.key, by simp⟩

end PortSurvey.Artifact.Manifest
