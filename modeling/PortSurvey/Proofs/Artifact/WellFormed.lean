import Mathlib.Data.List.Basic
import PortSurvey.Artifact.Read
import PortSurvey.Proofs.Declaration
import PortSurvey.Proofs.Except
import PortSurvey.Proofs.Port.Range
import PortSurvey.Proofs.Text.Lines

/-!
# What artifacts declare is well formed

Whatever an artifact holds, each of its declarations has ports that are ports, a transport, the
confidence of a kind of place that belongs to the artifact, and the file that the reader was told;
it has a line exactly if the artifact is read line by line, and the line is one of the artifact
(`WellFormed`, `Kind.read_wellFormed`). A declaration is sound from the start and stays so under all
that is given to it (`Sound.basic` and the lemmas after it), so that for each reader only its ports
and lines are left to show.
-/

namespace PortSurvey.Artifact

open Text
open Yaml (Value)

/-! ## Well-formed declarations -/

/-- The kinds of places that an artifact of a kind speaks of. -/
def Kind.origins : Kind → List Origin
  | .compose => [.compose]
  | .buildFile => [.buildFile]
  | .manifest => [.workload, .clusterService]
  | .chart => [.chartValues]
  | .provisioning => [.provisioning]

/-- Whether the declarations of an artifact of a kind tell their lines. -/
def Kind.tellsLines : Kind → Bool
  | .buildFile | .provisioning => true
  | .compose | .manifest | .chart => false

/-- What a declaration says of its line fits an artifact of a kind with a number of lines. -/
def Kind.LineFits (kind : Kind) (lines : Nat) : Option Nat → Prop
  | some line => kind.tellsLines = true ∧ 1 ≤ line ∧ line ≤ lines
  | none => kind.tellsLines = false

/-- A declaration of an artifact of a kind is sound, but for its line. -/
structure Sound (kind : Kind) (file : File) (d : Declaration) : Prop where
  /-- The port inside the container is a port. -/
  containerPort : Port.Valid d.containerPort
  /-- The port outside the container is a port, if there is one. -/
  hostPort : ∀ port, d.hostPort = some port → Port.Valid port
  /-- There is a transport. -/
  protocol : d.protocol ≠ ""
  /-- The declaration is believed as far as its kind of place is. -/
  confidence : d.confidence = d.origin.confidence
  /-- The kind of place is one that the artifact speaks of. -/
  origin : d.origin ∈ kind.origins
  /-- The declaration stands in the file that the reader was told. -/
  file : d.file = file.display

/-- A declaration of an artifact of a kind with a number of lines is well formed. -/
structure WellFormed (kind : Kind) (file : File) (lines : Nat) (d : Declaration) : Prop extends
    Sound kind file d where
  /-- The line is told where it is known, and is one of the lines. -/
  line : kind.LineFits lines d.line

namespace Sound

variable {kind : Kind} {file : File} {d : Declaration}

/-- A declaration of a port is sound from the start. -/
theorem basic {port : Nat} (hport : Port.Valid port) {origin : Origin}
    (horigin : origin ∈ kind.origins) (service : String) :
    Sound kind file (.basic service port origin file.display) where
  containerPort := hport
  hostPort _ h := by cases h
  protocol := by simp [Declaration.basic]
  confidence := rfl
  origin := horigin
  file := rfl

/-- A declaration may be given a port outside the container. -/
theorem withHost (h : Sound kind file d) {host : Option Nat}
    (hhost : ∀ port, host = some port → Port.Valid port) :
    Sound kind file { d with hostPort := host } :=
  ⟨h.containerPort, hhost, h.protocol, h.confidence, h.origin, h.file⟩

/-- A declaration may be given a line. -/
theorem withLine (h : Sound kind file d) (line : Option Nat) :
    Sound kind file { d with line := line } :=
  ⟨h.containerPort, h.hostPort, h.protocol, h.confidence, h.origin, h.file⟩

/-- A declaration may be given a transport. -/
theorem withProtocol (h : Sound kind file d) (protocol : String) :
    Sound kind file (d.withProtocol protocol) := by
  have hname := transportName_ne_empty protocol
  unfold Declaration.withProtocol
  generalize transportName protocol = name at hname ⊢
  exact ⟨h.containerPort, h.hostPort, hname, h.confidence, h.origin, h.file⟩

/-- A declaration may be given a fact. -/
theorem withContext (h : Sound kind file d) (key value : String) :
    Sound kind file (d.withContext key value) :=
  ⟨h.containerPort, h.hostPort, h.protocol, h.confidence, h.origin, h.file⟩

/-- A declaration may be given a fact that may be missing. -/
theorem withContext? (h : Sound kind file d) (key : String) (value : Option String) :
    Sound kind file (d.withContext? key value) := by
  cases value with
  | none => exact h
  | some value => exact h.withContext key value

/-- A sound declaration of an artifact that does not tell lines is well formed without one. -/
theorem wellFormed_of_no_line (h : Sound kind file d) {lines : Nat}
    (hkind : kind.tellsLines = false) (hline : d.line = none) : WellFormed kind file lines d where
  toSound := h
  line := by
    rw [hline]
    exact hkind

/-- A sound declaration of an artifact that tells lines is well formed on one of them. -/
theorem wellFormed_of_line (h : Sound kind file d) {line lines : Nat}
    (hkind : kind.tellsLines = true) (hline : d.line = some line)
    (hbounds : 1 ≤ line ∧ line ≤ lines) : WellFormed kind file lines d where
  toSound := h
  line := by
    rw [hline]
    exact ⟨hkind, hbounds⟩

end Sound

/-! ## Compositions -/

namespace Compose

/-- The ports of a service are ports. -/
structure Published.Valid (p : Published) : Prop where
  /-- The port inside the container is one. -/
  container : Port.Valid p.container
  /-- The port outside the container is one, if there is one. -/
  host : ∀ port, p.host = some port → Port.Valid port

/-- A port that is not published is a port of a service if it is one. -/
theorem unpublished_valid {port : Nat} (h : Port.Valid port) (protocol : String) :
    (Published.unpublished protocol port).Valid :=
  ⟨h, fun _ hnone => by cases hnone⟩

/-- The ports outside the containers are ports. -/
theorem hostPorts_valid {host : Option (List Char)} {containers : List Nat} {h : Option Nat}
    (hmem : h ∈ hostPorts host containers) {port : Nat} (hport : h = some port) :
    Port.Valid port := by
  subst hport
  have hnone : some port ∉ containers.map fun _ => (none : Option Nat) := by simp
  unfold hostPorts at hmem
  split at hmem
  · rename_i hosts hread
    obtain ⟨text, -, htext⟩ := Option.bind_eq_some_iff.mp hread
    split_ifs at hmem
    · obtain ⟨p, hp, hsome⟩ := List.mem_map.mp hmem
      rw [← Option.some.inj hsome]
      exact Port.readRange?_valid htext p hp
    · exact absurd hmem hnone
  · exact absurd hmem hnone

/-- The short form is read as ports. -/
theorem readShort_valid {raw : List Char} : ∀ p ∈ readShort raw, p.Valid := by
  intro p hp
  unfold readShort at hp
  dsimp only at hp
  split at hp
  · exact absurd hp List.not_mem_nil
  · rename_i containers hread
    rw [← List.map_uncurry_zip_eq_zipWith] at hp
    obtain ⟨⟨container, host⟩, hzip, rfl⟩ := List.mem_map.mp hp
    obtain ⟨hcontainer, hhost⟩ := List.of_mem_zip hzip
    exact ⟨Port.readRange?_valid hread _ hcontainer, fun port => hostPorts_valid hhost⟩

/-- The long form is read as ports. -/
theorem readLong_valid {entry : Value} : ∀ p ∈ readLong entry, p.Valid := by
  intro p hp
  unfold readLong at hp
  split at hp
  · exact absurd hp List.not_mem_nil
  · rename_i container hread
    rw [List.mem_singleton.mp hp]
    obtain ⟨v, -, hv⟩ := Option.bind_eq_some_iff.mp hread
    refine ⟨Port.ofValue?_valid hv, fun port hport => ?_⟩
    obtain ⟨w, -, hw⟩ := Option.bind_eq_some_iff.mp hport
    exact Port.ofValue?_valid hw

/-- The items of `ports` are read as ports. -/
theorem readPublished_valid {entry : Value} : ∀ p ∈ readPublished entry, p.Valid := by
  intro p hp
  unfold readPublished at hp
  split at hp
  · obtain ⟨port, hport, rfl⟩ := List.mem_map.mp hp
    exact unpublished_valid (Port.ofNumber?_valid (Option.mem_toList.mp hport)) _
  · exact readShort_valid p hp
  · exact readLong_valid p hp
  · exact absurd hp List.not_mem_nil

/-- The items of `expose` are read as ports. -/
theorem readExposed_valid {entry : Value} : ∀ p ∈ readExposed entry, p.Valid := by
  intro p hp
  unfold readExposed at hp
  split at hp
  · obtain ⟨port, hport, rfl⟩ := List.mem_map.mp hp
    exact unpublished_valid (Port.ofNumber?_valid (Option.mem_toList.mp hport)) _
  · rename_i s
    generalize splitProtocol s.toList = parts at hp
    obtain ⟨text, protocol⟩ := parts
    dsimp only at hp
    cases hread : Port.readRange? text with
    | none => simp [hread] at hp
    | some ports =>
      rw [hread, Option.getD_some] at hp
      obtain ⟨port, hport, rfl⟩ := List.mem_map.mp hp
      exact unpublished_valid (Port.readRange?_valid hread port hport) _
  · exact absurd hp List.not_mem_nil

/-- The declaration of a port of a service is well formed. -/
theorem declare_wellFormed {p : Published} (h : p.Valid) (file : File) (lines : Nat)
    (service : String) (image : Option String) (exposed : Bool) :
    WellFormed .compose file lines (declare file service image exposed p) := by
  have hdeclared : Sound .compose file
      (({ Declaration.basic service p.container .compose file.display with
        hostPort := p.host }).withProtocol p.protocol) :=
    ((Sound.basic h.container List.mem_cons_self service).withHost h.host).withProtocol _
  unfold declare
  cases exposed
  · refine ((hdeclared.withContext? _ _).withContext? _ _).wellFormed_of_no_line rfl ?_
    simp [Declaration.basic]
  · refine (((hdeclared.withContext _ _).withContext? _ _).withContext? _ _).wellFormed_of_no_line
      rfl ?_
    simp [Declaration.basic]

/-- What the values of a composition declare is well formed. -/
theorem ofValue_wellFormed (file : File) (lines : Nat) (root : Value) :
    ∀ d ∈ ofValue file root, WellFormed .compose file lines d := by
  intro d hd
  obtain ⟨⟨key, service⟩, -, hservice⟩ := List.mem_flatMap.mp hd
  dsimp only at hservice
  split at hservice
  · rcases List.mem_append.mp hservice with hpublished | hexposed
    · obtain ⟨entry, -, hentry⟩ := List.mem_flatMap.mp hpublished
      obtain ⟨p, hp, rfl⟩ := List.mem_map.mp hentry
      exact declare_wellFormed (readPublished_valid p hp) file lines _ _ _
    · obtain ⟨entry, -, hentry⟩ := List.mem_flatMap.mp hexposed
      obtain ⟨p, hp, rfl⟩ := List.mem_map.mp hentry
      exact declare_wellFormed (readExposed_valid p hp) file lines _ _ _
  · exact absurd hservice List.not_mem_nil

end Compose

/-! ## Manifests -/

namespace Manifest

/-- The port that a value holds under a key is one. -/
theorem portAt?_valid {v : Value} {key : String} {port : Nat} (h : portAt? v key = some port) :
    Port.Valid port := by
  obtain ⟨w, -, hw⟩ := Option.bind_eq_some_iff.mp h
  exact Port.ofValue?_valid hw

/-- The declaration of a port of a workload is well formed. -/
theorem workloadPort?_wellFormed {file : File} (lines : Nat) {document container entry : Value}
    {d : Declaration} (h : workloadPort? file document container entry = some d) :
    WellFormed .manifest file lines d := by
  obtain ⟨port, hport, rfl⟩ := Option.map_eq_some_iff.mp h
  have hbasic : Sound .manifest file
      (.basic (resourceName file document) port .workload file.display) :=
    Sound.basic (portAt?_valid hport) List.mem_cons_self _
  refine Sound.wellFormed_of_no_line ?_ rfl (by simp [Declaration.basic])
  exact ((((((hbasic.withHost fun _ => portAt?_valid).withProtocol _).withContext _
    _).withContext? _ _).withContext? _ _).withContext? _ _).withContext? _ _

/-- The port that an entry of a service leads to is one. -/
theorem target?_valid {entry : Value} {port target : Nat} (hport : Port.Valid port)
    (h : target? entry port = some target) : Port.Valid target := by
  unfold target? at h
  split at h
  · exact Option.some.inj h ▸ hport
  · exact Port.ofValue?_valid h

/-- The declaration of a port of a service of a cluster is well formed. -/
theorem servicePort?_wellFormed {file : File} (lines : Nat) {document entry : Value}
    {d : Declaration} (h : servicePort? file document entry = some d) :
    WellFormed .manifest file lines d := by
  obtain ⟨port, hport, hmap⟩ := Option.bind_eq_some_iff.mp h
  obtain ⟨target, htarget, rfl⟩ := Option.map_eq_some_iff.mp hmap
  have hvalid := portAt?_valid hport
  have hhost : ∀ p, some port = some p → Port.Valid p := fun p hp => Option.some.inj hp ▸ hvalid
  have hbasic : Sound .manifest file
      (.basic (resourceName file document) target .clusterService file.display) :=
    Sound.basic (target?_valid hvalid htarget) (List.mem_cons_of_mem _ List.mem_cons_self) _
  refine Sound.wellFormed_of_no_line ?_ rfl (by simp [Declaration.basic])
  exact ((((((hbasic.withHost hhost).withProtocol _).withContext _ _).withContext _
    _).withContext? _ _).withContext? _ _).withContext? _ _

/-- What a document declares is well formed. -/
theorem ofDocument_wellFormed (file : File) (lines : Nat) (document : Value) :
    ∀ d ∈ ofDocument file document, WellFormed .manifest file lines d := by
  intro d hd
  unfold ofDocument at hd
  split at hd
  · obtain ⟨container, -, hcontainer⟩ := List.mem_flatMap.mp hd
    obtain ⟨entry, -, hentry⟩ := List.mem_filterMap.mp hcontainer
    exact workloadPort?_wellFormed lines hentry
  · obtain ⟨entry, -, hentry⟩ := List.mem_filterMap.mp hd
    exact servicePort?_wellFormed lines hentry
  · exact absurd hd List.not_mem_nil

/-- What documents declare is well formed, if they are read. -/
theorem ofDocuments_wellFormed (file : File) (lines : Nat)
    {documents : List (Except Yaml.Fault Value)} {ds : List Declaration}
    (h : ofDocuments file documents = .ok ds) : ∀ d ∈ ds, WellFormed .manifest file lines d := by
  induction documents generalizing ds with
  | nil =>
    cases h
    exact fun d hd => absurd hd List.not_mem_nil
  | cons document rest ih =>
    cases document with
    | error fault => cases h
    | ok document =>
      obtain ⟨more, hmore, rfl⟩ := Except.map_eq_ok_iff.mp h
      intro d hd
      rcases List.mem_append.mp hd with hfirst | hrest
      · exact ofDocument_wellFormed file lines document d hfirst
      · exact ih hmore d hrest

end Manifest

/-! ## Charts -/

namespace Chart

/-- The declaration of a port of a chart is sound. -/
theorem declare_sound {file : File} {port : Nat} (h : Port.Valid port) (path keyPath : String) :
    Sound .chart file (declare file path port keyPath) :=
  (Sound.basic h List.mem_cons_self _).withContext _ _

/-- The ports that an item of a list names are ports. -/
theorem itemPorts?_valid {item : Value} {container : Nat} {host : Option Nat}
    (h : itemPorts? item = some (container, host)) :
    Port.Valid container ∧ ∀ port, host = some port → Port.Valid port := by
  have hvalid : ∀ {key : String} {port : Nat},
      (item.get? key).bind Port.ofValue? = some port → Port.Valid port := by
    intro key port hport
    obtain ⟨v, -, hv⟩ := Option.bind_eq_some_iff.mp hport
    exact Port.ofValue?_valid hv
  unfold itemPorts? at h
  split at h
  · rename_i hcontainer
    obtain ⟨rfl, rfl⟩ := Prod.mk.inj (Option.some.inj h)
    refine ⟨hvalid hcontainer, fun port hport => ?_⟩
    exact hvalid (Option.filter_eq_some_iff.mp hport).1
  · rename_i hport
    obtain ⟨rfl, rfl⟩ := Prod.mk.inj (Option.some.inj h)
    exact ⟨hvalid hport, fun _ hnone => by cases hnone⟩
  · cases h

/-- The declaration of an item of a list of ports is well formed. -/
theorem ofItem?_wellFormed {file : File} (lines : Nat) {path itemPath : String} {item : Value}
    {d : Declaration} (h : ofItem? file path item itemPath = some d) :
    WellFormed .chart file lines d := by
  obtain ⟨⟨container, host⟩, hports, rfl⟩ := Option.map_eq_some_iff.mp h
  obtain ⟨hcontainer, hhost⟩ := itemPorts?_valid hports
  refine Sound.wellFormed_of_no_line ?_ rfl (by simp [declare, Declaration.basic])
  exact (((declare_sound hcontainer path itemPath).withHost hhost).withProtocol _).withContext? _ _

/-- What a value declares by its own keys is well formed. -/
theorem ofNode_wellFormed {file : File} (lines : Nat) {path : String} {v : Value} :
    ∀ d ∈ ofNode file path v, WellFormed .chart file lines d := by
  intro d hd
  unfold ofNode at hd
  split at hd
  · obtain ⟨entry, -, hentry⟩ := List.mem_flatMap.mp hd
    unfold ofEntry at hentry
    split at hentry
    · obtain ⟨port, hport, rfl⟩ := List.mem_map.mp hentry
      have hvalid := Port.ofNumber?_valid (Option.mem_toList.mp hport)
      refine (declare_sound hvalid path _).wellFormed_of_no_line rfl ?_
      simp [declare, Declaration.basic]
    · obtain ⟨⟨item, i⟩, -, hitem⟩ := List.mem_filterMap.mp hentry
      exact ofItem?_wellFormed lines hitem
    · exact absurd hentry List.not_mem_nil
  · exact absurd hd List.not_mem_nil

/-- What places declare is well formed. -/
theorem ofPlaces_wellFormed (file : File) (lines : Nat) (todo : List (String × Value)) :
    ∀ d ∈ ofPlaces file todo, WellFormed .chart file lines d := by
  induction todo using ofPlaces.induct with
  | case1 => simp [ofPlaces]
  | case2 path v rest ih =>
    intro d hd
    rw [ofPlaces] at hd
    rcases List.mem_append.mp hd with hnode | hmore
    · exact ofNode_wellFormed lines d hnode
    · exact ih d hmore

end Chart

/-! ## Build files -/

namespace BuildFile

/-- The lines of a build file that are joined into one have the number of the first of them. -/
theorem bounds_of_mem_joinLines {pending : Option (Nat × List Char)} {number : Nat}
    {lines : List (List Char)} (hnumber : 1 ≤ number)
    (hpending : ∀ p, pending = some p → 1 ≤ p.1 ∧ p.1 < number) {x : Nat × List Char}
    (h : x ∈ joinLines pending number lines) : 1 ≤ x.1 ∧ x.1 < number + lines.length := by
  -- What is pending began on a line before, so the bound grows with the lines that are read.
  induction lines generalizing pending number with
  | nil => exact hpending x (Option.mem_toList.mp h)
  | cons line rest ih =>
    have hfirst : 1 ≤ (pending.getD (number, [])).1 ∧
        (pending.getD (number, [])).1 < number + 1 := by
      cases pending with
      | none => exact ⟨hnumber, Nat.lt_succ_self number⟩
      | some p =>
        obtain ⟨hlo, hhi⟩ := hpending p rfl
        exact ⟨hlo, Nat.lt_succ_of_lt hhi⟩
    have hjoined : ∀ (joined : List Char) (p : Nat × List Char),
        some ((pending.getD (number, [])).1, joined) = some p → 1 ≤ p.1 ∧ p.1 < number + 1 := by
      rintro joined p ⟨⟩
      exact hfirst
    rw [List.length_cons]
    unfold joinLines at h
    dsimp only at h
    split_ifs at h
    · have hrest := ih (Nat.le_add_left 1 number) (hjoined _) h
      omega
    · rcases List.mem_cons.mp h with rfl | hmore
      · exact ⟨hfirst.1, by dsimp only; omega⟩
      · have hrest := ih (Nat.le_add_left 1 number) (fun p hp => by cases hp) hmore
        omega

/-- The words after `EXPOSE` are read as ports. -/
theorem exposedPorts_valid {arguments : List Char} :
    ∀ x ∈ exposedPorts arguments, Port.Valid x.1 := by
  intro x hx
  obtain ⟨word, -, hword⟩ := List.mem_flatMap.mp hx
  unfold readExposed at hword
  dsimp only at hword
  generalize hread : Port.readRange? _ = ports at hword
  cases ports with
  | none => simp at hword
  | some ports =>
    rw [Option.getD_some] at hword
    obtain ⟨port, hport, rfl⟩ := List.mem_map.mp hword
    exact Port.readRange?_valid hread port hport

/-- What instructions declare is well formed if their numbers are those of lines. -/
theorem ofLines_wellFormed {file : File} {count : Nat} {image : Option String}
    {lines : List (Nat × List Char)} (hlines : ∀ x ∈ lines, 1 ≤ x.1 ∧ x.1 ≤ count) :
    ∀ d ∈ ofLines file image lines, WellFormed .buildFile file count d := by
  induction lines generalizing image with
  | nil => exact fun d hd => absurd hd List.not_mem_nil
  | cons line rest ih =>
    obtain ⟨number, text⟩ := line
    have hrest := fun x hx => hlines x (List.mem_cons_of_mem _ hx)
    intro d hd
    unfold ofLines at hd
    split at hd
    · exact ih hrest d hd
    · split at hd
      · rcases List.mem_append.mp hd with hown | hmore
        · obtain ⟨x, hx, rfl⟩ := List.mem_map.mp hown
          have hbasic : Sound .buildFile file
              (.basic file.service x.1 .buildFile file.display) :=
            Sound.basic (exposedPorts_valid x hx) List.mem_cons_self _
          refine (((hbasic.withProtocol _).withLine _).withContext? _ _).wellFormed_of_line rfl ?_
            (hlines _ List.mem_cons_self)
          rw [Declaration.withContext?_line]
        · exact ih hrest d hmore
      · exact ih hrest d hd

/-- What a build file declares is well formed. -/
theorem read_wellFormed (file : File) (content : String) : ∀ d ∈ read file content,
    WellFormed .buildFile file (linesChars content.toList).length d := by
  refine ofLines_wellFormed fun x hx => ?_
  have hbounds := bounds_of_mem_joinLines (Nat.le_refl 1) (fun p hp => by cases hp) hx
  omega

end BuildFile

/-! ## Descriptions of infrastructure -/

namespace Provisioning

/-- A declaration on a line of a description is well formed. -/
theorem declare_wellFormed {file : File} {port : Nat} (hport : Port.Valid port)
    {host : Option Nat} (hhost : ∀ p, host = some p → Port.Valid p) {line count : Nat}
    (hline : 1 ≤ line ∧ line ≤ count) (block : Option Block) (setting : String) :
    WellFormed .provisioning file count (declare file block port host line setting) := by
  have hbasic : Sound .provisioning file
      (.basic (serviceOf file block) port .provisioning file.display) :=
    Sound.basic hport List.mem_cons_self _
  refine (((hbasic.withHost hhost).withLine (some line)).withContext _ _).wellFormed_of_line rfl ?_
    hline
  rw [Declaration.withContext_line]

/-- What is found in a text stands on one of its lines. -/
theorem lineAt_bounds {α : Type} {p : Recogniser α} {s : List Char} {x : Nat × α}
    (h : x ∈ occurrences p s) : 1 ≤ lineAt s x.1 ∧ lineAt s x.1 ≤ (linesChars s).length :=
  ⟨Nat.succ_le_succ (Nat.zero_le _), lineAt_le_length_linesChars (lt_length_of_mem_occurrences h)⟩

/-- The ports that assignments name are ports, on lines of the text. -/
theorem sitesOf_valid {blocks : List Block} {s : List Char} {site : Site}
    (h : site ∈ sitesOf blocks s) :
    Port.Valid site.port ∧ 1 ≤ site.line ∧ site.line ≤ (linesChars s).length := by
  obtain ⟨⟨offset, setting, digits⟩, hfound, hsite⟩ := List.mem_filterMap.mp h
  dsimp only at hsite
  split_ifs at hsite
  obtain ⟨port, hport, rfl⟩ := Option.map_eq_some_iff.mp hsite
  exact ⟨Port.read?_valid hport, lineAt_bounds hfound⟩

/-- What the assignments of a text declare is well formed. -/
theorem ofSites_wellFormed {file : File} {blocks : List Block} {s : List Char} :
    ∀ d ∈ ofSites file blocks (sitesOf blocks s),
      WellFormed .provisioning file (linesChars s).length d := by
  intro d hd
  obtain ⟨number, -, hblock⟩ := List.mem_flatMap.mp hd
  obtain ⟨⟨site, i⟩, hmem, rfl⟩ := List.mem_map.mp hblock
  have hsite : site ∈ sitesOf blocks s :=
    List.mem_of_mem_filter (List.mem_of_mem_filter (List.fst_mem_of_mem_zipIdx hmem))
  obtain ⟨hport, hline⟩ := sitesOf_valid hsite
  dsimp only
  generalize hhosts : ((sitesOf blocks s).filter (·.block == number)).filter
    (fun s => isHostSetting s.setting) = hosts
  have hhost : ∀ p, hosts[i]?.map (·.port) = some p → Port.Valid p := by
    intro p hp
    obtain ⟨other, hother, rfl⟩ := Option.map_eq_some_iff.mp hp
    have hmem := List.mem_of_getElem? hother
    rw [← hhosts] at hmem
    exact (sitesOf_valid (List.mem_of_mem_filter (List.mem_of_mem_filter hmem))).1
  have hdeclared : WellFormed .provisioning file (linesChars s).length _ :=
    declare_wellFormed hport hhost hline (blockWith? blocks number) site.setting
  refine ⟨hdeclared.toSound.withContext? _ _, ?_⟩
  rw [Declaration.withContext?_line]
  exact hdeclared.line

/-- What the pairs of a text declare is well formed. -/
theorem ofPairs_wellFormed {file : File} {blocks : List Block} {s : List Char} :
    ∀ d ∈ ofPairs file blocks s, WellFormed .provisioning file (linesChars s).length d := by
  intro d hd
  obtain ⟨⟨offset, host, container⟩, hfound, hpair⟩ := List.mem_filterMap.mp hd
  dsimp only at hpair
  split_ifs at hpair
  split at hpair
  · rename_i hostPort port hhost hport
    cases hpair
    have hvalid := Port.read?_valid hhost
    exact declare_wellFormed (Port.read?_valid hport) (fun p hp => Option.some.inj hp ▸ hvalid)
      (lineAt_bounds hfound) _ _
  · cases hpair

/-- What a description of infrastructure declares is well formed. -/
theorem read_wellFormed (file : File) (content : String) : ∀ d ∈ read file content,
    WellFormed .provisioning file (linesChars content.toList).length d := by
  intro d hd
  rcases List.mem_append.mp (List.mem_mergeSort.mp hd) with hsite | hpair
  · exact ofSites_wellFormed d hsite
  · exact ofPairs_wellFormed d hpair

end Provisioning

/-! ## All kinds -/

/-- What an artifact of a kind declares if its text stands for values, whichever they are. -/
inductive Kind.OfValues (file : File) : Kind → List Declaration → Prop
  /-- A composition is one value. -/
  | compose (root : Value) : OfValues file .compose (Compose.ofValue file root)
  /-- Manifests are values one after the other, all of which can be read. -/
  | manifest {documents : List (Except Yaml.Fault Value)} {ds : List Declaration}
    (h : Manifest.ofDocuments file documents = .ok ds) : OfValues file .manifest ds
  /-- A chart is one value. -/
  | chart (root : Value) : OfValues file .chart (Chart.ofPlaces file [("", root)])

/-- What values declare is well formed. -/
theorem Kind.OfValues.wellFormed {kind : Kind} {file : File} {ds : List Declaration}
    (h : kind.OfValues file ds) (lines : Nat) : ∀ d ∈ ds, WellFormed kind file lines d := by
  cases h with
  | compose root => exact Compose.ofValue_wellFormed file lines root
  | manifest h => exact Manifest.ofDocuments_wellFormed file lines h
  | chart root => exact Chart.ofPlaces_wellFormed file lines _

/-- What an artifact declares is declared by values, or the artifact is read line by line. -/
theorem Kind.ofValues_of_read {kind : Kind} {file : File} {content : String}
    {ds : List Declaration} (h : kind.read file content = .ok ds) :
    kind.OfValues file ds ∨ kind = .buildFile ∧ ds = BuildFile.read file content ∨
      kind = .provisioning ∧ ds = Provisioning.read file content := by
  cases kind with
  | compose =>
    change Compose.read file content = .ok ds at h
    unfold Compose.read at h
    split at h
    · cases h
      exact .inl (.compose _)
    · cases h
  | buildFile => exact .inr (.inl ⟨rfl, (Except.ok.inj h).symm⟩)
  | manifest => exact .inl (.manifest h)
  | chart =>
    change Chart.read file content = .ok ds at h
    unfold Chart.read at h
    split at h
    · cases h
      exact .inl (.chart _)
    · cases h
  | provisioning => exact .inr (.inr ⟨rfl, (Except.ok.inj h).symm⟩)

/-- What an artifact declares is well formed. -/
theorem Kind.read_wellFormed {kind : Kind} {file : File} {content : String}
    {ds : List Declaration} (h : kind.read file content = .ok ds) :
    ∀ d ∈ ds, WellFormed kind file (linesChars content.toList).length d := by
  rcases Kind.ofValues_of_read h with hvalues | ⟨rfl, rfl⟩ | ⟨rfl, rfl⟩
  · exact hvalues.wellFormed _
  · exact BuildFile.read_wellFormed file content
  · exact Provisioning.read_wellFormed file content

end PortSurvey.Artifact
