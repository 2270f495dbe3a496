import PortSurvey.Proofs.Artifact.Provisioning.Account
import PortSurvey.Proofs.Artifact.Provisioning.Comment
import PortSurvey.Proofs.Artifact.Provisioning.Nesting

/-!
# Ports outside containers in nested blocks

The resources of a text are found at their places by the searches for headers and for assignments
(`exists_laid`), so that the assignments of a block are those of one resource (`Laid.exists_number`).
They are not told apart by the nested blocks that they stand in: the ports outside containers of a
resource are given to the ports inside one after the other (`Resource.map_told_read`). The ports of
each nested block are told together exactly if no block without a port outside comes before a block
with one (`Resource.together_iff`).
-/

namespace PortSurvey.Artifact.Provisioning

open Text

/-! ## Texts without pairs -/

/-- A pair has a colon. -/
theorem mem_of_pairAt? {prev : Option Char} {s : List Char}
    {x : (List Char × List Char) × Nat} (h : pairAt? prev s = some x) : ':' ∈ s := by
  unfold pairAt? at h
  split at h
  · split at h
    · rename_i hdigits
      rw [(eq_of_digits? hdigits).1]
      exact List.mem_cons_of_mem _ (List.mem_append_right _ List.mem_cons_self)
    · cases h
  · cases h

/-- A text without colons names no pairs. -/
theorem pairsOf_of_notMem {s : List Char} (hcolon : ':' ∉ s) : pairsOf s = [] := by
  have hquiet : ∀ k, 0 ≤ k → k < s.length →
      pairAt? ((s.take k).getLast?.or none) (s.drop k ++ []) = none := by
    intro k _ _
    rw [Option.eq_none_iff_forall_ne_some]
    intro x hx
    have hmem := mem_of_pairAt? hx
    rw [List.append_nil] at hmem
    exact hcolon (List.mem_of_mem_drop hmem)
  have hnone : occurrencesFrom pairAt? 0 0 none (s ++ []) = [] :=
    occurrencesFrom_of_quiet [] (Nat.zero_le _) hquiet
  rw [List.append_nil] at hnone
  unfold pairsOf outside occurrences
  rw [hnone]
  rfl

/-! ## Resources at their places -/

/-- A place belongs to the last block that begins there or before it. -/
theorem blockAt?_append {before later : List Block} {b : Block} {offset : Nat}
    (hbegun : b.start ≤ offset) (hlater : ∀ c ∈ later, offset < c.start) :
    blockAt? (before ++ b :: later) offset = some before.length := by
  have hnone : ((later.zipIdx (before.length + 1)).filter fun x => decide (x.1.start ≤ offset)) =
      [] := by
    refine List.filter_eq_nil_iff.mpr fun x hx => ?_
    have hlt := hlater x.1 (List.fst_mem_of_mem_zipIdx hx)
    rw [decide_eq_true_iff]
    omega
  have hlast : ((before ++ b :: later).zipIdx.filter fun x =>
      decide (x.1.start ≤ offset)).getLast? = some (b, before.length) := by
    rw [List.zipIdx_append, List.zipIdx_cons, List.filter_append, Nat.zero_add,
      List.filter_cons_of_pos (by exact decide_eq_true hbegun), hnone, List.getLast?_concat]
  exact congrArg (Option.map Prod.snd) hlast

/-- A resource at its place in a text. -/
structure Placed where
  /-- The resource. -/
  resource : Resource
  /-- The offset at which its header is found. -/
  start : Nat
  /-- Its settings, each with its offset. -/
  settings : List (Nat × String × List Char)
  /-- The settings are those of its blocks. -/
  settings_eq : settings.map Prod.snd = resource.found
  /-- The settings stand behind the header. -/
  behind : ∀ x ∈ settings, start ≤ x.1

/-- What is found of the header of a resource. -/
def Placed.heading (p : Placed) : Nat × String × String :=
  (p.start, p.resource.header.type, p.resource.header.label)

/-- The block that a resource is. -/
def Placed.block (p : Placed) : Block :=
  ⟨p.start, p.resource.header.type, p.resource.header.label⟩

/-- Resources are found at their places by a search. -/
structure Laid (offset : Nat) (prev : Option Char) (s : List Char) (ps : List Placed) : Prop where
  /-- The headers are those of the resources. -/
  headers : occurrencesFrom headerAt? offset 0 prev s = ps.map Placed.heading
  /-- The settings are those of the resources. -/
  settings : occurrencesFrom assignmentAt? offset 0 prev s = ps.flatMap (·.settings)
  /-- The settings of a resource stand before the headers of those that follow. -/
  apart : ps.Pairwise fun p q => ∀ x ∈ p.settings, x.1 < q.start
  /-- The headers stand behind the begin of the search. -/
  start : ∀ p ∈ ps, offset ≤ p.start

/-- A search finds a resource at its place, and goes on behind it. -/
theorem Resource.exists_placed (r : Resource) (offset : Nat) {prev : Option Char}
    (hprev : r.MayFollow prev) (rest : List Char) : ∃ p : Placed, p.resource = r ∧
      offset ≤ p.start ∧ (∀ x ∈ p.settings, x.1 < offset + r.text.length) ∧
      occurrencesFrom headerAt? offset 0 prev (r.text ++ rest) =
        p.heading :: occurrencesFrom headerAt? (offset + r.text.length) 0
          (r.text.getLast?.or prev) rest ∧
      occurrencesFrom assignmentAt? offset 0 prev (r.text ++ rest) =
        p.settings ++ occurrencesFrom assignmentAt? (offset + r.text.length) 0
          (r.text.getLast?.or prev) rest := by
  obtain ⟨headers, hheaders, hheading, hplace⟩ :=
    r.opening_yields offset prev (r.body ++ rest) hprev trivial
  obtain ⟨inner, hinner, hnoInner, -⟩ :=
    r.body_yields_no_header (offset + r.opening.length) (r.opening.getLast?.or prev) rest trivial
      trivial
  obtain ⟨outer, houter, hnoOuter, -⟩ :=
    r.opening_yields_nothing offset prev (r.body ++ rest) trivial trivial
  obtain ⟨settings, hsettings, hfound, hbounds⟩ :=
    r.body_yields (offset + r.opening.length) (r.opening.getLast?.or prev) rest trivial trivial
  obtain ⟨⟨start, heading⟩, rfl, rfl⟩ := List.map_eq_singleton_iff.mp hheading
  obtain ⟨hlow, hhigh⟩ := hplace _ (List.mem_singleton_self _)
  have hlength : r.text.length = r.opening.length + r.body.length := List.length_append
  have hbehind : ∀ x ∈ settings, start ≤ x.1 := by
    intro x hx
    have hx := (hbounds x hx).1
    dsimp only at hhigh
    omega
  have hlast : r.text.getLast?.or prev = r.body.getLast?.or (r.opening.getLast?.or prev) := by
    unfold text
    rw [List.getLast?_append, Option.or_assoc]
  rw [hlast, hlength, ← Nat.add_assoc]
  refine ⟨⟨r, start, settings, hfound, hbehind⟩, rfl, hlow, fun x hx => (hbounds x hx).2, ?_, ?_⟩
  · unfold text
    rw [List.append_assoc, hheaders, hinner, List.map_eq_nil_iff.mp hnoInner]
    rfl
  · unfold text
    rw [List.append_assoc, houter, hsettings, List.map_eq_nil_iff.mp hnoOuter]
    rfl

/-- There is nothing to be found in white space at the end of a text. -/
theorem Gap.laid (g : Gap) (offset : Nat) (prev : Option Char) : Laid offset prev g.chars [] := by
  refine ⟨?_, ?_, List.Pairwise.nil, fun p hp => absurd hp List.not_mem_nil⟩
  · have hquiet : ∀ k, 0 ≤ k → k < g.chars.length →
        headerAt? ((g.chars.take k).getLast?.or prev) (g.chars.drop k ++ []) = none := by
      intro k _ _
      have hblank : trimStartChars (g.chars.drop k ++ []) = [] := by
        rw [List.append_nil]
        exact List.dropWhile_eq_nil_iff.mpr
          fun c hc => g.isBlank_of_mem c (List.mem_of_mem_drop hc)
      refine headerAt?_of_plain ?_ _
      rw [hblank]
      exact (other_of_afterWord?_eq_none (by decide)).plain
    have hnone : occurrencesFrom headerAt? offset 0 prev (g.chars ++ []) = [] :=
      occurrencesFrom_of_quiet [] (Nat.zero_le _) hquiet
    rwa [List.append_nil] at hnone
  · obtain ⟨found, hfound, hnone, -⟩ := g.yields_nothing offset prev [] trivial trivial
    rw [List.append_nil, List.map_eq_nil_iff.mp hnone] at hfound
    exact hfound

/-- Resources one after the other are found at their places. -/
theorem exists_laid {rs : List Resource} (offset : Nat) {prev : Option Char} (tail : Gap)
    (hfirst : ∀ r ∈ rs.head?, r.MayFollow prev)
    (hlines : ∀ r ∈ rs.tail, '\n' ∈ r.lead.chars) :
    ∃ ps : List Placed, ps.map (·.resource) = rs ∧
      Laid offset prev (rs.flatMap Resource.text ++ tail.chars) ps := by
  induction rs generalizing offset prev with
  | nil => exact ⟨[], rfl, tail.laid offset prev⟩
  | cons r rs ih =>
    have hnext : ∀ q ∈ rs.head?, q.MayFollow (r.text.getLast?.or prev) :=
      fun q hq => .inr (hlines q (List.mem_of_mem_head? hq))
    obtain ⟨p, rfl, hstart, hbefore, hheading, hsettings⟩ :=
      r.exists_placed offset (hfirst r rfl) (rs.flatMap Resource.text ++ tail.chars)
    obtain ⟨ps, rfl, hlaid⟩ := ih (offset + p.resource.text.length) hnext
      fun q hq => hlines q (List.mem_of_mem_tail hq)
    refine ⟨p :: ps, rfl, ?_, ?_, ?_, ?_⟩
    · rw [List.flatMap_cons, List.append_assoc, hheading, hlaid.headers, List.map_cons]
    · rw [List.flatMap_cons, List.append_assoc, hsettings, hlaid.settings, List.flatMap_cons]
    · refine List.pairwise_cons.mpr ⟨fun q hq x hx => ?_, hlaid.apart⟩
      exact Nat.lt_of_lt_of_le (hbefore x hx) (hlaid.start q hq)
    · refine List.forall_mem_cons.mpr ⟨hstart, fun q hq => ?_⟩
      exact Nat.le_trans (Nat.le_add_right _ _) (hlaid.start q hq)

/-! ## The assignments of a resource -/

/-- The assignments that name the ports of a resource. -/
def Placed.mentions (p : Placed) : List Mention :=
  p.settings.filterMap Mention.read?

namespace Laid

variable {s : List Char} {ps : List Placed}

/-- The blocks of a text of resources are the resources. -/
theorem blocksOf_eq (h : Laid 0 none s ps) : blocksOf s = ps.map Placed.block := by
  unfold blocksOf occurrences
  rw [h.headers, List.map_map]
  rfl

/-- The assignments of a text of resources are those of the resources. -/
theorem mentionsOf_eq (h : Laid 0 none s ps) (hopen : ∀ offset, isCommented s offset = false) :
    mentionsOf s = ps.flatMap Placed.mentions := by
  unfold mentionsOf outside occurrences
  rw [List.filter_eq_self.mpr fun x _ => by rw [hopen]; rfl, h.settings, List.filterMap_flatMap]
  rfl

/-- The assignments of a resource belong to it. -/
theorem group_eq (h : Laid 0 none s ps) {front back : List Placed} {p : Placed}
    (hps : ps = front ++ p :: back) {m : Mention} (hm : m ∈ p.mentions) :
    m.group (blocksOf s) = some front.length := by
  obtain ⟨x, hx, hmention⟩ := List.mem_filterMap.mp hm
  have hapart := h.apart
  rw [hps] at hapart
  have hnext := (List.pairwise_cons.mp (List.pairwise_append.mp hapart).2.1).1
  have hlater : ∀ c ∈ back.map Placed.block, x.1 < c.start := by
    intro c hc
    obtain ⟨q, hq, rfl⟩ := List.mem_map.mp hc
    exact hnext q hq x hx
  have hplace : blockAt? (front.map Placed.block ++ p.block :: back.map Placed.block) x.1 =
      some (front.map Placed.block).length := blockAt?_append (p.behind x hx) hlater
  unfold Mention.group
  rw [Mention.offset_of_read? hmention, h.blocksOf_eq, hps, List.map_append, List.map_cons, hplace,
    List.length_map]

/-- The assignments of the resources at other places belong to others. -/
theorem group_ne (h : Laid 0 none s ps) {front middle back : List Placed}
    (hps : ps = front ++ (middle ++ back)) {number : Nat}
    (hnumber : number < front.length ∨ front.length + middle.length ≤ number) :
    ∀ m ∈ middle.flatMap Placed.mentions, m.group (blocksOf s) ≠ some number := by
  intro m hm
  obtain ⟨q, hq, hmq⟩ := List.mem_flatMap.mp hm
  obtain ⟨first, rest, rfl⟩ := List.append_of_mem hq
  have hplace : ps = (front ++ first) ++ q :: (rest ++ back) := by simp [hps]
  rw [h.group_eq hplace hmq, Ne, Option.some.injEq, List.length_append]
  rw [List.length_append, List.length_cons] at hnumber
  omega

/-- A resource is a block with a number, and its assignments are those of the block. -/
theorem exists_number (h : Laid 0 none s ps) (hopen : ∀ offset, isCommented s offset = false)
    {p : Placed} (hp : p ∈ ps) :
    ∃ number, blockWith? (blocksOf s) number = some p.block ∧
      ofGroup (blocksOf s) number (mentionsOf s) = p.mentions := by
  obtain ⟨front, back, hps⟩ := List.append_of_mem hp
  refine ⟨some front.length, ?_, ?_⟩
  · unfold blockWith?
    rw [Option.bind_some, h.blocksOf_eq, hps, List.getElem?_map,
      List.getElem?_append_right (Nat.le_refl _), Nat.sub_self]
    rfl
  · have hbefore : ∀ m ∈ front.flatMap Placed.mentions,
        m.group (blocksOf s) ≠ some front.length := by
      have hsplit : ps = [] ++ (front ++ p :: back) := hps
      exact h.group_ne hsplit (.inr (by simp))
    have hown : ∀ m ∈ p.mentions, m.group (blocksOf s) = some front.length :=
      fun m hm => h.group_eq hps hm
    have hbehind : ∀ m ∈ back.flatMap Placed.mentions,
        m.group (blocksOf s) ≠ some front.length := by
      have hsplit : ps = (front ++ [p]) ++ (back ++ []) := by simp [hps]
      exact h.group_ne hsplit (.inl (by simp))
    have hsplit : ofGroup (blocksOf s) (some front.length) (mentionsOf s) =
        ofGroup (blocksOf s) (some front.length) (front.flatMap Placed.mentions) ++
          (ofGroup (blocksOf s) (some front.length) p.mentions ++
            ofGroup (blocksOf s) (some front.length) (back.flatMap Placed.mentions)) := by
      unfold ofGroup
      rw [h.mentionsOf_eq hopen, hps, List.flatMap_append, List.flatMap_cons, List.filter_append,
        List.filter_append]
    rw [hsplit, ofGroup_eq_nil hbefore, ofGroup_eq_self hown, ofGroup_eq_nil hbehind,
      List.nil_append, List.append_nil]

end Laid

/-- The assignments of a resource name the ports that its blocks set. -/
theorem Placed.map_mentions (p : Placed) : (p.mentions.map fun m => (m.setting, m.port)) =
      p.resource.blocks.flatMap (·.held.ports) := by
  have hmention : ∀ x : Nat × String × List Char,
      (Mention.read? x).map (fun m => (m.setting, m.port)) = portOf? x.2 := fun _ => Option.map_map ..
  calc (p.mentions.map fun m => (m.setting, m.port))
      = p.settings.filterMap (portOf? ∘ Prod.snd) := by
        unfold mentions
        rw [List.map_filterMap]
        exact List.filterMap_congr fun x _ => hmention x
    _ = p.resource.found.filterMap portOf? := by rw [← p.settings_eq, List.filterMap_map]
    _ = p.resource.blocks.flatMap (·.held.ports) := by
        unfold Resource.found
        rw [List.filterMap_flatMap]
        exact List.flatMap_congr fun b _ => b.held.filterMap_found

/-- The ports inside containers that a resource names are those of its blocks. -/
theorem Placed.map_port_containers (p : Placed) :
    (p.mentions.filter fun m => !isHostSetting m.setting).map (·.port) =
      p.resource.blocks.map (·.held.port) := by
  have hports := congrArg (fun l => (l.filter fun x => !isHostSetting x.1).map Prod.snd)
    p.map_mentions
  rw [List.filter_map, List.map_map, List.filter_flatMap, List.map_flatMap] at hports
  have hblocks : (p.resource.blocks.flatMap fun b =>
      (b.held.ports.filter fun x => !isHostSetting x.1).map Prod.snd) =
      p.resource.blocks.map (·.held.port) := by
    rw [List.map_eq_flatMap]
    exact List.flatMap_congr fun b _ => b.held.filter_container_ports
  exact hports.trans hblocks

/-- The ports outside containers that a resource names are those of its blocks that have one. -/
theorem Placed.map_port_hosts (p : Placed) :
    (p.mentions.filter fun m => isHostSetting m.setting).map (·.port) =
      p.resource.blocks.filterMap (·.held.host?) := by
  have hports := congrArg (fun l => (l.filter fun x => isHostSetting x.1).map Prod.snd)
    p.map_mentions
  rw [List.filter_map, List.map_map, List.filter_flatMap, List.map_flatMap] at hports
  rw [List.filterMap_eq_flatMap_toList]
  exact hports.trans (List.flatMap_congr fun b _ => b.held.filter_host_ports)

/-! ## The declarations of resources -/

/-- What a declaration tells of its ports: the service, the port inside the container and the port
outside, if there is one. -/
def told (d : Declaration) : String × Nat × Option Nat :=
  (d.service, d.containerPort, d.hostPort)

/-- What is told of an assignment: the service of its block, its port, and the port outside that it
is given. -/
theorem told_declared (file : File) (blocks : List Block) (s : List Char) (m : Mention) :
    told (m.declared file blocks s) = (serviceOf file (blockWith? blocks (m.group blocks)), m.port,
      (partner blocks s m).map (·.port)) := by
  unfold Mention.declared
  cases blockWith? blocks (m.group blocks) <;> rfl

/-- In a block the ports outside are told of the ports inside one after the other. -/
theorem map_told_ofGroup (file : File) (blocks : List Block) (s : List Char)
    (number : Option Nat) :
    ((ofGroup blocks number (containerMentions s)).map fun m => told (m.declared file blocks s)) =
      ((ofGroup blocks number (containerMentions s)).map (·.port)).zipIdx.map fun x =>
        (serviceOf file (blockWith? blocks number), x.1,
          ((ofGroup blocks number (hostMentions s)).map (·.port))[x.2]?) := by
  rw [List.zipIdx_map, List.map_map]
  refine Eq.trans ?_ (map_zipIdx_eq_map_idxOf (containers_nodup blocks number s) fun m i =>
    (serviceOf file (blockWith? blocks number), m.port,
      ((ofGroup blocks number (hostMentions s)).map (·.port))[i]?)).symm
  refine List.map_congr_left fun m hm => ?_
  obtain ⟨-, rfl⟩ := mem_ofGroup.mp hm
  rw [told_declared, List.getElem?_map]
  rfl

/-- The ports of a resource are told one for each of its blocks, with the ports outside one after the
other. -/
theorem Laid.map_told (file : File) {s : List Char} {ps : List Placed} (h : Laid 0 none s ps)
    (hopen : ∀ offset, isCommented s offset = false) {p : Placed} (hp : p ∈ ps) :
    ((p.mentions.filter fun m => !isHostSetting m.setting).map fun m =>
        told (m.declared file (blocksOf s) s)) =
      p.resource.blocks.zipIdx.map fun x => (p.resource.header.label, x.1.held.port,
        (p.resource.blocks.filterMap (·.held.host?))[x.2]?) := by
  obtain ⟨number, hblock, hown⟩ := h.exists_number hopen hp
  have hcontainers : p.mentions.filter (fun m => !isHostSetting m.setting) =
      ofGroup (blocksOf s) number (containerMentions s) := by
    rw [← hown]
    exact List.filter_comm _ _ _
  have hhosts : p.mentions.filter (fun m => isHostSetting m.setting) =
      ofGroup (blocksOf s) number (hostMentions s) := by
    rw [← hown]
    exact List.filter_comm _ _ _
  rw [hcontainers, map_told_ofGroup, ← hcontainers, ← hhosts, p.map_port_containers,
    p.map_port_hosts, hblock, List.zipIdx_map, List.map_map]
  rfl

namespace Resource

/-- There are no signs of pairs or of comments in a text of resources. -/
theorem notMem_texts {c : Char} (hc : c ∈ [':', '#', '/']) (rs : List Resource) (tail : Gap) :
    c ∉ rs.flatMap text ++ tail.chars := by
  rw [List.mem_append, not_or]
  refine ⟨fun hmem => ?_, tail.notMem_of_foreign (foreign_of_mem c hc)⟩
  obtain ⟨r, -, hr⟩ := List.mem_flatMap.mp hmem
  exact r.notMem_text hc hr

/-- What a text of resources tells of the ports of each: its ports inside containers in order, with
the ports outside given to them one after the other. -/
theorem map_told_read (file : File) {rs : List Resource} {tail : Gap} {content : String}
    (hcontent : content.toList = rs.flatMap text ++ tail.chars)
    (hlines : ∀ r ∈ rs.tail, '\n' ∈ r.lead.chars) :
    (read file content).map told = rs.flatMap fun r => r.blocks.zipIdx.map fun x =>
      (r.header.label, x.1.held.port, (r.blocks.filterMap (·.held.host?))[x.2]?) := by
  have hnone : ∀ c ∈ [':', '#', '/'], c ∉ content.toList := by
    intro c hc
    rw [hcontent]
    exact notMem_texts hc rs tail
  have hopen : ∀ offset, isCommented content.toList offset = false :=
    isCommented_of_notMem (hnone '#' (by decide)) (hnone '/' (by decide))
  have hfirst : ∀ r ∈ rs.head?, r.MayFollow none := fun r _ => .inl (.inl rfl)
  obtain ⟨ps, rfl, hlaid⟩ := exists_laid 0 tail hfirst hlines
  rw [← hcontent] at hlaid
  calc (read file content).map told
      = (containerMentions content.toList).map fun m =>
          told (m.declared file (blocksOf content.toList) content.toList) := by
        rw [read_of_no_pairs file (pairsOf_of_notMem (hnone ':' (by decide))), List.map_map]
        rfl
    _ = ps.flatMap fun p => (p.mentions.filter fun m =>
          !isHostSetting m.setting).map fun m =>
            told (m.declared file (blocksOf content.toList) content.toList) := by
        unfold containerMentions
        rw [hlaid.mentionsOf_eq hopen, List.filter_flatMap, List.map_flatMap]
    _ = ps.flatMap fun p => p.resource.blocks.zipIdx.map fun x => (p.resource.header.label,
          x.1.held.port, (p.resource.blocks.filterMap (·.held.host?))[x.2]?) :=
        List.flatMap_congr fun p hp => hlaid.map_told file hopen hp
    _ = _ := by rw [List.flatMap_map]

/-- A text of resources whose nested blocks hold a port inside containers each, and a port outside at
most, tells of one port inside for each block, in order, with the first port outside that is not yet
given away. So the ports of each block are told together if and only if in no resource a block
without a port outside comes before a block with one. -/
theorem together_iff (file : File) {rs : List Resource} {tail : Gap} {content : String}
    (hcontent : content.toList = rs.flatMap text ++ tail.chars)
    (hlines : ∀ r ∈ rs.tail, '\n' ∈ r.lead.chars) :
    ((read file content).map told = rs.flatMap fun r => r.blocks.zipIdx.map fun x =>
        (r.header.label, x.1.held.port, (r.blocks.filterMap (·.held.host?))[x.2]?)) ∧
      ((read file content).map told = (rs.flatMap fun r => r.blocks.map fun b =>
          (r.header.label, b.held.port, b.held.host?)) ↔
        ∀ r ∈ rs, r.blocks.Pairwise fun b c =>
          c.held.host?.isSome = true → b.held.host?.isSome = true) := by
  have htold := map_told_read file hcontent hlines
  refine ⟨htold, ?_⟩
  rw [htold, flatMap_eq_iff fun r _ => by rw [List.length_map, List.length_map, List.length_zipIdx]]
  refine forall₂_congr fun r _ => map_zipIdx_filterMap_iff (fun b : PortBlock => b.held.host?)
    (g := fun b h => (r.header.label, b.held.port, h)) (fun b x y hxy => ?_) r.blocks
  exact (Prod.mk.inj (Prod.mk.inj hxy).2).2

/-- A blank. -/
def blank : Gap :=
  ⟨[' '], by decide⟩

/-- A blank is not empty. -/
theorem blank_ne_nil : blank.chars ≠ [] :=
  List.cons_ne_nil _ _

/-- There are settings of the port inside a container. -/
theorem internal_mem_settingNames : "internal" ∈ settingNames := by
  decide

/-- There are settings of the port outside a container. -/
theorem external_mem_settingNames : "external" ∈ settingNames := by
  decide

/-- There are headers of resources. -/
theorem resource_mem_headerNames : "resource" ∈ headerNames := by
  decide

/-- Digits that are assigned with a blank before and behind the equals sign. -/
def setting (name : String) (hname : name ∈ settingNames) (digits : List Char)
    (hdigits : digits ≠ [] ∧ (∀ c ∈ digits, c.isDigit = true) ∧ digits.length ≤ 5)
    (hvalid : Port.Valid (Nat.ofDigitChars 10 digits 0)) : PortSetting name where
  assignment :=
    { setting := name
      before := [' ']
      behind := [' ']
      quoted := false
      digits := digits
      setting_mem := hname
      before_blank := isBlank_of_mem_space
      behind_blank := isBlank_of_mem_space
      digits_ne := hdigits.1
      digits_isDigit := hdigits.2.1 }
  setting_eq := rfl
  few := hdigits.2.2
  valid := hvalid

/-- The port 80 inside the container, and none outside. -/
def plain : Held :=
  .internal (setting "internal" internal_mem_settingNames ['8', '0'] (by decide)
    (by unfold Port.Valid; decide))

/-- The port 443 inside the container, and 8443 outside. -/
def published : Held :=
  .internalFirst
    (setting "internal" internal_mem_settingNames ['4', '4', '3'] (by decide)
      (by unfold Port.Valid; decide))
    blank blank_ne_nil
    (setting "external" external_mem_settingNames ['8', '4', '4', '3'] (by decide)
      (by unfold Port.Valid; decide))

/-- A resource with the label `web`, each of whose blocks is on a line of its own. -/
def web (hs : List Held) : Resource where
  lead := ⟨[], by decide⟩
  header :=
    { kind := "resource"
      first := ⟨blank.chars, "x".toList, blank_ne_nil, isBlank_of_mem_space, by decide, by decide⟩
      second :=
        some ⟨blank.chars, "web".toList, blank_ne_nil, isBlank_of_mem_space, by decide, by decide⟩
      close := blank.chars
      kind_mem := resource_mem_headerNames
      close_blank := isBlank_of_mem_space }
  blocks := hs.map fun h => ⟨⟨['\n', ' ', ' '], by decide⟩, blank, blank, h, blank⟩
  close := ⟨['\n'], by decide⟩
  header_plain := by decide

/-- A block without a port outside behind one with a port outside leaves it its own. -/
theorem together_iff_web :
    let file : File := ⟨⟨"infra/main.tf"⟩, "infra/main.tf", "infra"⟩
    let content := String.ofList ([web [published, plain]].flatMap text ++ blank.chars)
    (∀ r ∈ [web [published, plain]].tail, '\n' ∈ r.lead.chars) ∧
      (read file content).map told = [("web", 443, some 8443), ("web", 80, none)] := by
  intro file content
  have hcontent : content.toList = [web [published, plain]].flatMap text ++ blank.chars :=
    String.toList_ofList
  have hlines : ∀ r ∈ [web [published, plain]].tail, '\n' ∈ r.lead.chars := by decide
  refine ⟨hlines, ((together_iff file hcontent hlines).2.mpr ?_).trans rfl⟩
  decide

/-- A block without a port outside takes that of the block behind it. -/
theorem not_together :
    let file : File := ⟨⟨"infra/main.tf"⟩, "infra/main.tf", "infra"⟩
    let content := "resource \"x\" \"web\" \x7b\n  ports \x7b internal = 80 \x7d\n" ++
      "  ports \x7b internal = 443 external = 8443 \x7d\n\x7d\n"
    content.toList = [web [plain, published]].flatMap text ++ ['\n'] ∧
      (read file content).map told = [("web", 80, some 8443), ("web", 443, none)] ∧
      (read file content).map told ≠ [web [plain, published]].flatMap fun r =>
        r.blocks.map fun b => (r.header.label, b.held.port, b.held.host?) := by
  intro file content
  have hread : (read file content).map told = [("web", 80, some 8443), ("web", 443, none)] := by
    rw [read_of_no_pairs file (by decide +kernel : pairsOf content.toList = [])]
    decide +kernel
  exact ⟨by decide +kernel, hread, by rw [hread]; decide⟩

end Resource

end PortSurvey.Artifact.Provisioning
