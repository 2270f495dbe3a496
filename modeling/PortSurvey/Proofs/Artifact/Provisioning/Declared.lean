import Mathlib.Tactic.SplitIfs
import PortSurvey.Artifact.Provisioning

/-!
# What a description declares

Assignments are put together by the block that they belong to, and the ports outside a container are
given away in order. Still each declaration of an assignment comes from one port inside a container,
on its line and under the name of its block (`DeclaredBy`), and each such port is declared
(`exists_declaredBy_of_mem_ofSites`, `exists_mem_ofSites`). Pairs are declared one by one
(`mem_ofPairs_iff`). So the ports inside containers are declared on the lines where the text names
them (`names_iff`). The block that a place belongs to is the last that begins there or before it
(`blockWith?_blockAt?`).
-/

namespace PortSurvey.Artifact.Provisioning

open Text

variable {file : File} {blocks : List Block} {sites : List Site} {s : List Char}

/-- The block that a place belongs to is the last that begins there or before it. -/
theorem blockWith?_blockAt? (blocks : List Block) (offset : Nat) :
    blockWith? blocks (blockAt? blocks offset) =
      (blocks.filter (·.start ≤ offset)).getLast? := by
  have hfirsts : (blocks.zipIdx.filter fun x => decide (x.1.start ≤ offset)).map Prod.fst =
      blocks.filter (·.start ≤ offset) := by
    have hcomp : (fun x : Block × Nat => decide (x.1.start ≤ offset)) =
      (fun b : Block => decide (b.start ≤ offset)) ∘ Prod.fst := rfl
    rw [hcomp, ← List.filter_map, List.zipIdx_map_fst]
  have hlast : (blocks.filter (·.start ≤ offset)).getLast? =
      (blocks.zipIdx.filter fun x => decide (x.1.start ≤ offset)).getLast?.map Prod.fst := by
    rw [← hfirsts, List.getLast?_map]
  unfold blockWith? blockAt?
  rw [hlast]
  cases hfound : (blocks.zipIdx.filter fun x => decide (x.1.start ≤ offset)).getLast? with
  | none => rfl
  | some x =>
    obtain ⟨b, i⟩ := x
    have hmem := (List.mem_filter.mp (List.mem_of_getLast? hfound)).1
    exact List.mk_mem_zipIdx_iff_getElem?.mp hmem

/-! ## Assignments -/

/-- A declaration comes from a port inside a container that an assignment names. -/
structure DeclaredBy (file : File) (blocks : List Block) (sites : List Site) (site : Site)
    (d : Declaration) : Prop where
  /-- The service is that of the block of the assignment. -/
  service : d.service = serviceOf file (blockWith? blocks site.block)
  /-- The port is that of the assignment. -/
  port : d.containerPort = site.port
  /-- The line is that of the assignment. -/
  line : d.line = some site.line
  /-- A port outside the container is named by an assignment of the same block. -/
  host : ∀ port ∈ d.hostPort, ∃ other ∈ sites,
    isHostSetting other.setting = true ∧ other.block = site.block ∧ other.port = port

/-- What is declared of the port inside a container with a number in its block, given the ports
outside. -/
def declareNth (file : File) (block : Option Block) (hosts : List Site) (site : Site) (i : Nat) :
    Declaration :=
  (declare file block site.port (hosts[i]?.map (·.port)) site.line site.setting).withContext?
    "resource_type" (block.map (·.kind))

/-- The ports outside containers that the assignments of a block name. -/
def hostsOf (sites : List Site) (number : Option Nat) : List Site :=
  (sites.filter (·.block == number)).filter fun s => isHostSetting s.setting

/-- The ports inside containers that the assignments of a block name. -/
def containersOf (sites : List Site) (number : Option Nat) : List Site :=
  (sites.filter (·.block == number)).filter fun s => !isHostSetting s.setting

/-- A port outside containers is one of those of its block. -/
theorem mem_hostsOf {number : Option Nat} {site : Site} : site ∈ hostsOf sites number ↔
    site ∈ sites ∧ site.block = number ∧ isHostSetting site.setting = true := by
  unfold hostsOf
  rw [List.mem_filter, List.mem_filter, beq_iff_eq, and_assoc]

/-- A port inside a container is one of those of its block. -/
theorem mem_containersOf {number : Option Nat} {site : Site} : site ∈ containersOf sites number ↔
    site ∈ sites ∧ site.block = number ∧ isHostSetting site.setting = false := by
  unfold containersOf
  rw [List.mem_filter, List.mem_filter, beq_iff_eq, and_assoc, Bool.not_eq_true']

/-- What is declared of a port inside a container comes from it. -/
theorem declareNth_declaredBy (site : Site) (i : Nat) : DeclaredBy file blocks sites site
    (declareNth file (blockWith? blocks site.block) (hostsOf sites site.block) site i) := by
  unfold declareNth
  generalize hblock : blockWith? blocks site.block = block
  have hhost : ∀ port ∈ (hostsOf sites site.block)[i]?.map (·.port), ∃ other ∈ sites,
      isHostSetting other.setting = true ∧ other.block = site.block ∧ other.port = port := by
    intro port hport
    obtain ⟨other, hother, hequal⟩ := Option.map_eq_some_iff.mp hport
    obtain ⟨hmem, hsame, hsetting⟩ := mem_hostsOf.mp (List.mem_of_getElem? hother)
    exact ⟨other, hmem, hsetting, hsame, hequal⟩
  -- The facts that are added last change neither of the fields.
  cases block with
  | none => exact ⟨by rw [hblock]; rfl, rfl, rfl, hhost⟩
  | some b => exact ⟨by rw [hblock]; rfl, rfl, rfl, hhost⟩

/-- Each port inside a container of a block is declared in turn. -/
theorem ofBlock_eq (file : File) (blocks : List Block) (sites : List Site) (number : Option Nat) :
    ofBlock file blocks sites number = (containersOf sites number).zipIdx.map fun x =>
      declareNth file (blockWith? blocks number) (hostsOf sites number) x.1 x.2 :=
  rfl

/-- What is declared of the assignments of one block comes from the ports inside containers. -/
theorem declaredBy_of_mem_ofBlock {number : Option Nat} {d : Declaration}
    (hd : d ∈ ofBlock file blocks sites number) : ∃ site ∈ sites,
      isHostSetting site.setting = false ∧ DeclaredBy file blocks sites site d := by
  rw [ofBlock_eq] at hd
  obtain ⟨⟨site, i⟩, hmem, rfl⟩ := List.mem_map.mp hd
  obtain ⟨hsite, rfl, hcontainer⟩ := mem_containersOf.mp (List.fst_mem_of_mem_zipIdx hmem)
  exact ⟨site, hsite, hcontainer, declareNth_declaredBy site i⟩

/-- A declaration of an assignment comes from a port inside a container. -/
theorem exists_declaredBy_of_mem_ofSites {d : Declaration} (hd : d ∈ ofSites file blocks sites) :
    ∃ site ∈ sites, isHostSetting site.setting = false ∧ DeclaredBy file blocks sites site d := by
  obtain ⟨number, -, hblock⟩ := List.mem_flatMap.mp hd
  exact declaredBy_of_mem_ofBlock hblock

/-- Each port inside a container is declared. -/
theorem exists_mem_ofSites {site : Site} (hsite : site ∈ sites)
    (hcontainer : isHostSetting site.setting = false) :
    ∃ d ∈ ofSites file blocks sites, DeclaredBy file blocks sites site d := by
  have hmem : site ∈ containersOf sites site.block := mem_containersOf.mpr ⟨hsite, rfl, hcontainer⟩
  obtain ⟨i, hi⟩ := List.getElem?_of_mem hmem
  have hblock : site.block ∈ (sites.map (·.block)).eraseDups :=
    List.mem_eraseDups.mpr (List.mem_map_of_mem hsite)
  refine ⟨_, List.mem_flatMap.mpr ⟨site.block, hblock, ?_⟩, declareNth_declaredBy site i⟩
  rw [ofBlock_eq]
  exact List.mem_map_of_mem (List.mk_mem_zipIdx_iff_getElem?.mpr hi)

/-! ## Pairs -/

/-- The pairs outside comments whose numbers are ports are declared one by one. -/
theorem mem_ofPairs_iff {d : Declaration} : d ∈ ofPairs file blocks s ↔
    ∃ offset hostDigits digits host port,
      (offset, hostDigits, digits) ∈ occurrences pairAt? s ∧ isCommented s offset = false ∧
      Port.read? hostDigits = some host ∧ Port.read? digits = some port ∧
      d = declare file (blockWith? blocks (blockAt? blocks offset)) port (some host)
        (lineAt s offset) "port_pair" := by
  constructor
  · intro hd
    obtain ⟨⟨offset, hostDigits, digits⟩, hfound, hpair⟩ := List.mem_filterMap.mp hd
    dsimp only at hpair
    split_ifs at hpair with hcomment
    split at hpair
    · rename_i host port hhost hport
      exact ⟨offset, hostDigits, digits, host, port, hfound, Bool.eq_false_iff.mpr hcomment, hhost,
        hport, (Option.some.inj hpair).symm⟩
    · cases hpair
  · rintro ⟨offset, hostDigits, digits, host, port, hfound, hcomment, hhost, hport, rfl⟩
    refine List.mem_filterMap.mpr ⟨_, hfound, ?_⟩
    dsimp only
    rw [hcomment, if_neg Bool.false_ne_true, hhost, hport]

/-! ## Both -/

/-- What a description declares is what its assignments and its pairs declare. -/
theorem mem_read_iff {content : String} {d : Declaration} : d ∈ read file content ↔
    d ∈ ofSites file (blocksOf content.toList)
      (sitesOf (blocksOf content.toList) content.toList) ∨
    d ∈ ofPairs file (blocksOf content.toList) content.toList := by
  unfold read
  dsimp only
  rw [List.mem_mergeSort, List.mem_append]

/-- A port that an assignment names belongs to the place where the assignment stands. -/
theorem exists_place_of_mem_sitesOf {site : Site} (h : site ∈ sitesOf blocks s) :
    ∃ offset, site.block = blockAt? blocks offset ∧ site.line = lineAt s offset := by
  obtain ⟨⟨offset, setting, digits⟩, -, hsite⟩ := List.mem_filterMap.mp h
  dsimp only at hsite
  split_ifs at hsite
  obtain ⟨port, -, rfl⟩ := Option.map_eq_some_iff.mp hsite
  exact ⟨offset, rfl, rfl⟩

/-- A declaration is on the line of a place, under the name of the block that the place belongs
to. -/
theorem exists_place_of_mem_read {content : String} {d : Declaration} (h : d ∈ read file content) :
    ∃ offset, d.line = some (lineAt content.toList offset) ∧
      d.service = serviceOf file (blockWith? (blocksOf content.toList)
        (blockAt? (blocksOf content.toList) offset)) := by
  rcases mem_read_iff.mp h with hsite | hpair
  · obtain ⟨site, hmem, -, hdeclared⟩ := exists_declaredBy_of_mem_ofSites hsite
    obtain ⟨offset, hblock, hline⟩ := exists_place_of_mem_sitesOf hmem
    exact ⟨offset, hline ▸ hdeclared.line, hblock ▸ hdeclared.service⟩
  · obtain ⟨offset, -, -, -, -, -, -, -, -, rfl⟩ := mem_ofPairs_iff.mp hpair
    exact ⟨offset, rfl, rfl⟩

/-- A text names a port inside a container on a line. -/
inductive Names (s : List Char) : Nat → Nat → Prop
  /-- An assignment names it. -/
  | assignment {site : Site} (hsite : site ∈ sitesOf (blocksOf s) s)
      (hcontainer : isHostSetting site.setting = false) : Names s site.line site.port
  /-- A pair names it, together with a port outside the container. -/
  | pair {offset host port : Nat} {hostDigits digits : List Char}
      (hfound : (offset, hostDigits, digits) ∈ occurrences pairAt? s)
      (hopen : isCommented s offset = false) (hhost : Port.read? hostDigits = some host)
      (hport : Port.read? digits = some port) : Names s (lineAt s offset) port

/-- The ports inside containers that a text names are declared on their lines, and no others. -/
theorem names_iff {content : String} {line port : Nat} : Names content.toList line port ↔
    ∃ d ∈ read file content, d.line = some line ∧ d.containerPort = port := by
  constructor
  · rintro (⟨hsite, hcontainer⟩ | ⟨hfound, hopen, hhost, hport⟩)
    · obtain ⟨d, hd, hdeclared⟩ : ∃ d ∈ ofSites file _ _, DeclaredBy file _ _ _ d :=
        exists_mem_ofSites hsite hcontainer
      exact ⟨d, mem_read_iff.mpr (.inl hd), hdeclared.line, hdeclared.port⟩
    · refine ⟨_, mem_read_iff.mpr (.inr (mem_ofPairs_iff.mpr
        ⟨_, _, _, _, _, hfound, hopen, hhost, hport, rfl⟩)), rfl, rfl⟩
  · rintro ⟨d, hd, hline, rfl⟩
    rcases mem_read_iff.mp hd with hsite | hpair
    · obtain ⟨site, hmem, hcontainer, hdeclared⟩ := exists_declaredBy_of_mem_ofSites hsite
      rw [hdeclared.line] at hline
      rw [hdeclared.port, ← Option.some.inj hline]
      exact .assignment hmem hcontainer
    · obtain ⟨offset, hostDigits, digits, host, port, hfound, hopen, hhost, hport, rfl⟩ :=
        mem_ofPairs_iff.mp hpair
      rw [← Option.some.inj hline]
      exact .pair hfound hopen hhost hport

end PortSurvey.Artifact.Provisioning
