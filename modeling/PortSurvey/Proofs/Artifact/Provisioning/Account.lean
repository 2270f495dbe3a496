import Mathlib.Data.List.Nodup
import Mathlib.Tactic.ByContra
import PortSurvey.Proofs.Artifact.Provisioning.Declared
import PortSurvey.Proofs.Grouping
import PortSurvey.Proofs.Text.Lines

/-!
# Every port that a text names is accounted for

A text names ports by assignments outside comments (`Mention`) and by pairs outside comments
(`Pair`). Assignments are put together by blocks before they are declared, but since a block never
begins before an earlier one (`blockAt?_mono`), this leaves them in the order of the text
(`ofSites_eq`). So the declarations of a text are those of its ports inside containers, one for each,
and those of its pairs, one for each, sorted by their lines (`read_eq`). A port outside a container
goes to one port inside at most, of the same block, and is left over only where a block has more
ports outside than inside (`partner_allots`). `read_accounts` puts these together.
-/

namespace PortSurvey.Artifact.Provisioning

open Text

/-! ## What a text names -/

/-- An assignment outside comments whose digits make a port. -/
@[ext]
structure Mention where
  /-- The offset at which the assignment begins. -/
  offset : Nat
  /-- The attribute. -/
  setting : String
  /-- The port. -/
  port : Nat
  deriving DecidableEq

/-- A pair outside comments whose numbers are ports. -/
structure Pair where
  /-- The offset at which the pair begins. -/
  offset : Nat
  /-- The port outside the container. -/
  host : Nat
  /-- The port inside the container. -/
  port : Nat
  deriving DecidableEq

/-- What a recogniser accepts outside comments, each with its offset. -/
def outside {α : Type} (p : Recogniser α) (s : List Char) : List (Nat × α) :=
  (occurrences p s).filter fun x => !isCommented s x.1

/-- The port that is named by an assignment that is found at an offset, if its digits make one. -/
def Mention.read? (x : Nat × String × List Char) : Option Mention :=
  (Port.read? x.2.2).map fun port => ⟨x.1, x.2.1, port⟩

/-- The ports that are named by a pair that is found at an offset, if its numbers are ports. -/
def Pair.read? (x : Nat × List Char × List Char) : Option Pair :=
  (Port.read? x.2.1).bind fun host => (Port.read? x.2.2).map fun port => ⟨x.1, host, port⟩

/-- The assignments outside comments that name ports, in the order of the text. -/
def mentionsOf (s : List Char) : List Mention :=
  (outside assignmentAt? s).filterMap Mention.read?

/-- The pairs outside comments that name ports, in the order of the text. -/
def pairsOf (s : List Char) : List Pair :=
  (outside pairAt? s).filterMap Pair.read?

/-- The assignments that name ports inside containers. -/
def containerMentions (s : List Char) : List Mention :=
  (mentionsOf s).filter fun m => !isHostSetting m.setting

/-- The assignments that name ports outside containers. -/
def hostMentions (s : List Char) : List Mention :=
  (mentionsOf s).filter fun m => isHostSetting m.setting

variable {file : File} {blocks : List Block} {s : List Char}

/-- The number of the block that an assignment belongs to: the last whose header begins before. -/
def Mention.group (blocks : List Block) (m : Mention) : Option Nat :=
  blockAt? blocks m.offset

/-- Some assignments, those apart that belong to another block. -/
def ofGroup (blocks : List Block) (number : Option Nat) (ms : List Mention) : List Mention :=
  ms.filter (·.group blocks == number)

/-- An assignment is one of its block. -/
theorem mem_ofGroup {number : Option Nat} {ms : List Mention} {m : Mention} :
    m ∈ ofGroup blocks number ms ↔ m ∈ ms ∧ m.group blocks = number := by
  unfold ofGroup
  rw [List.mem_filter, beq_iff_eq]

/-- Assignments of one block are all left for it. -/
theorem ofGroup_eq_self {number : Option Nat} {ms : List Mention}
    (h : ∀ m ∈ ms, m.group blocks = number) : ofGroup blocks number ms = ms :=
  List.filter_eq_self.mpr fun m hm => beq_iff_eq.mpr (h m hm)

/-- Assignments of other blocks are none of them left. -/
theorem ofGroup_eq_nil {number : Option Nat} {ms : List Mention}
    (h : ∀ m ∈ ms, m.group blocks ≠ number) : ofGroup blocks number ms = [] :=
  List.filter_eq_nil_iff.mpr fun m hm hgroup => h m hm (beq_iff_eq.mp hgroup)

/-- An assignment keeps the offset at which it is found. -/
theorem Mention.offset_of_read? {x : Nat × String × List Char} {m : Mention}
    (h : Mention.read? x = some m) : m.offset = x.1 := by
  obtain ⟨port, -, rfl⟩ := Option.map_eq_some_iff.mp h
  rfl

/-- Assignments are named in the order of the text. -/
theorem mentionsOf_pairwise (s : List Char) :
    (mentionsOf s).Pairwise fun m n => m.offset < n.offset := by
  refine ((occurrences_pairwise assignmentAt? s).filter _).filterMap _ fun x y hlt m hm n hn => ?_
  rw [Mention.offset_of_read? hm, Mention.offset_of_read? hn]
  exact hlt

/-- No assignment is named twice. -/
theorem mentionsOf_nodup (s : List Char) : (mentionsOf s).Nodup :=
  (mentionsOf_pairwise s).imp fun {_ n} hlt heq => absurd (heq ▸ hlt) (Nat.lt_irrefl n.offset)

/-- No assignment stands twice among those that name ports inside containers of a block. -/
theorem containers_nodup (blocks : List Block) (number : Option Nat) (s : List Char) :
    (ofGroup blocks number (containerMentions s)).Nodup :=
  ((mentionsOf_nodup s).filter _).filter _

/-- No assignment stands twice among those that name ports outside containers of a block. -/
theorem hosts_nodup (blocks : List Block) (number : Option Nat) (s : List Char) :
    (ofGroup blocks number (hostMentions s)).Nodup :=
  ((mentionsOf_nodup s).filter _).filter _

/-! ## Ports outside containers -/

/-- The assignment that names the port outside for a port inside a container: in each block the
ports outside are given to the ports inside one after the other. -/
def partner (blocks : List Block) (s : List Char) (m : Mention) : Option Mention :=
  (ofGroup blocks (m.group blocks) (hostMentions s))[
    (ofGroup blocks (m.group blocks) (containerMentions s)).idxOf m]?

/-- The ports outside containers of a text are given to ports inside. -/
structure Allots (blocks : List Block) (s : List Char) (partner : Mention → Option Mention) :
    Prop where
  /-- A port outside that is given away is named in the same block. -/
  own : ∀ m, ∀ h ∈ partner m, h ∈ hostMentions s ∧ h.group blocks = m.group blocks
  /-- No port outside is given away twice. -/
  once : ∀ m ∈ containerMentions s, ∀ n ∈ containerMentions s, ∀ h,
    partner m = some h → partner n = some h → m = n
  /-- A port outside is left over only where a block names more ports outside than inside. -/
  spent : ∀ h ∈ hostMentions s, (∀ m ∈ containerMentions s, partner m ≠ some h) →
    (ofGroup blocks (h.group blocks) (containerMentions s)).length <
      (ofGroup blocks (h.group blocks) (hostMentions s)).length

/-- Giving the ports outside to the ports inside one after the other keeps to the blocks, gives none
twice, and leaves none over that could be given. -/
theorem partner_allots (blocks : List Block) (s : List Char) :
    Allots blocks s (partner blocks s) := by
  have hown : ∀ m, ∀ h ∈ partner blocks s m,
      h ∈ hostMentions s ∧ h.group blocks = m.group blocks :=
    fun m h hh => mem_ofGroup.mp (List.mem_of_getElem? hh)
  refine ⟨hown, fun m hm n hn h hgiven hagain => ?_, fun h hh hleft => ?_⟩
  · -- Both belong to the block of the port outside, and have the same place there.
    have hblock : m.group blocks = n.group blocks :=
      (hown m h hgiven).2.symm.trans (hown n h hagain).2
    have hmem : m ∈ ofGroup blocks (n.group blocks) (containerMentions s) :=
      mem_ofGroup.mpr ⟨hm, hblock⟩
    have hmem' : n ∈ ofGroup blocks (n.group blocks) (containerMentions s) :=
      mem_ofGroup.mpr ⟨hn, rfl⟩
    unfold partner at hgiven hagain
    rw [hblock] at hgiven
    obtain ⟨hlt, -⟩ := List.getElem?_eq_some_iff.mp hgiven
    have hsame := (List.getElem?_inj hlt (hosts_nodup blocks (n.group blocks) s)).mp
      (hgiven.trans hagain.symm)
    exact (List.idxOf_inj hmem).mp hsame
  · by_contra hfew
    rw [Nat.not_lt] at hfew
    have hmem : h ∈ ofGroup blocks (h.group blocks) (hostMentions s) := mem_ofGroup.mpr ⟨hh, rfl⟩
    have hlt := Nat.lt_of_lt_of_le (List.idxOf_lt_length_of_mem hmem) hfew
    obtain ⟨hcontainer, hblock⟩ := mem_ofGroup.mp (List.getElem_mem hlt)
    refine hleft _ hcontainer ?_
    unfold partner
    rw [hblock, (containers_nodup blocks (h.group blocks) s).idxOf_getElem]
    exact List.getElem?_idxOf hmem

/-! ## Declarations of assignments -/

/-- What is declared of an assignment that names a port inside a container. -/
def Mention.declared (file : File) (blocks : List Block) (s : List Char) (m : Mention) :
    Declaration :=
  let block := blockWith? blocks (m.group blocks)
  (declare file block m.port ((partner blocks s m).map (·.port)) (lineAt s m.offset)
    m.setting).withContext? "resource_type" (block.map (·.kind))

/-- The site of an assignment. -/
def Mention.site (blocks : List Block) (s : List Char) (m : Mention) : Site :=
  ⟨m.group blocks, m.setting, m.port, lineAt s m.offset⟩

/-- The sites of a text are those of its assignments. -/
theorem sitesOf_eq_map (blocks : List Block) (s : List Char) :
    sitesOf blocks s = (mentionsOf s).map (Mention.site blocks s) := by
  unfold sitesOf mentionsOf outside
  rw [List.map_filterMap, List.filterMap_filter]
  refine List.filterMap_congr fun x _ => ?_
  unfold Mention.read?
  dsimp only
  cases isCommented s x.1 with
  | true => rfl
  | false =>
    rw [if_neg Bool.false_ne_true, Option.map_map]
    rfl

/-- The ports inside containers of a block are named by its assignments. -/
theorem containersOf_eq_map (blocks : List Block) (s : List Char) (number : Option Nat) :
    containersOf (sitesOf blocks s) number =
      (ofGroup blocks number (containerMentions s)).map (Mention.site blocks s) := by
  unfold containersOf ofGroup containerMentions
  rw [sitesOf_eq_map, List.filter_map, List.filter_map, List.filter_comm]
  rfl

/-- The ports outside containers of a block are named by its assignments. -/
theorem hostsOf_eq_map (blocks : List Block) (s : List Char) (number : Option Nat) :
    hostsOf (sitesOf blocks s) number =
      (ofGroup blocks number (hostMentions s)).map (Mention.site blocks s) := by
  unfold hostsOf ofGroup hostMentions
  rw [sitesOf_eq_map, List.filter_map, List.filter_map, List.filter_comm]
  rfl

/-- The assignments of one block are declared one by one. -/
theorem ofBlock_eq_map (file : File) (blocks : List Block) (s : List Char) (number : Option Nat) :
    ofBlock file blocks (sitesOf blocks s) number =
      (ofGroup blocks number (containerMentions s)).map (Mention.declared file blocks s) := by
  rw [ofBlock_eq, containersOf_eq_map, hostsOf_eq_map, List.zipIdx_map, List.map_map]
  refine Eq.trans (map_zipIdx_eq_map_idxOf (containers_nodup blocks number s) fun m i =>
    declareNth file (blockWith? blocks number) _ (m.site blocks s) i) ?_
  refine List.map_congr_left fun m hm => ?_
  obtain ⟨-, rfl⟩ := mem_ofGroup.mp hm
  unfold declareNth Mention.declared partner
  rw [List.getElem?_map, Option.map_map]
  rfl

/-! ## The order of the assignments -/

/-- The number of a block, those apart that have none. -/
def rank : Option Nat → Nat
  | none => 0
  | some number => number + 1

/-- The number of a block is told by its rank. -/
theorem rank_injective : Function.Injective rank := by
  rintro (_ | m) (_ | n) h
  · rfl
  · cases h
  · cases h
  · exact congrArg some (Nat.succ.inj h)

/-- Further on in a text the blocks have no lower numbers. -/
theorem blockAt?_mono (blocks : List Block) {m n : Nat} (h : m ≤ n) :
    rank (blockAt? blocks m) ≤ rank (blockAt? blocks n) := by
  have hsub : (blocks.zipIdx.filter fun x => decide (x.1.start ≤ m)).Sublist
      (blocks.zipIdx.filter fun x => decide (x.1.start ≤ n)) := by
    refine List.monotone_filter_right _ fun x hx => ?_
    rw [decide_eq_true_iff] at hx ⊢
    exact Nat.le_trans hx h
  unfold blockAt?
  cases hfound : (blocks.zipIdx.filter fun x => decide (x.1.start ≤ m)).getLast? with
  | none => exact Nat.zero_le _
  | some x =>
    obtain ⟨y, hy, hle⟩ := getLast?_le_of_sublist hsub ((zipIdx_pairwise blocks).filter _) hfound
    rw [Option.mem_def.mp hy]
    exact Nat.succ_le_succ hle

/-- The ports inside containers that are declared block by block are declared in the order of the
text. -/
theorem ofSites_eq (file : File) (blocks : List Block) (s : List Char) :
    ofSites file blocks (sitesOf blocks s) =
      (containerMentions s).map (Mention.declared file blocks s) := by
  have hsorted : (mentionsOf s).Pairwise fun m n =>
      rank (m.group blocks) ≤ rank (n.group blocks) :=
    (mentionsOf_pairwise s).imp fun hlt => blockAt?_mono blocks (Nat.le_of_lt hlt)
  have hkeys : (sitesOf blocks s).map (·.block) = (mentionsOf s).map (·.group blocks) := by
    rw [sitesOf_eq_map, List.map_map]
    rfl
  have hgroups : ((mentionsOf s).map (·.group blocks)).eraseDups.flatMap
      (fun number => ofGroup blocks number (mentionsOf s)) = mentionsOf s :=
    flatMap_filter_eraseDups rank_injective (mentionsOf s) hsorted
  have hcontainers : ((mentionsOf s).map (·.group blocks)).eraseDups.flatMap
      (fun number => ofGroup blocks number (containerMentions s)) = containerMentions s := by
    have hcomm : ∀ number, ofGroup blocks number (containerMentions s) =
        (ofGroup blocks number (mentionsOf s)).filter fun m => !isHostSetting m.setting :=
      fun number => List.filter_comm _ _ _
    simp only [hcomm]
    rw [← List.filter_flatMap, hgroups]
    rfl
  calc ofSites file blocks (sitesOf blocks s)
      = ((mentionsOf s).map (·.group blocks)).eraseDups.flatMap fun number =>
          (ofGroup blocks number (containerMentions s)).map (Mention.declared file blocks s) := by
        unfold ofSites
        rw [hkeys]
        exact List.flatMap_congr fun number _ => ofBlock_eq_map file blocks s number
    _ = (containerMentions s).map (Mention.declared file blocks s) := by
        rw [← List.map_flatMap, hcontainers]

/-- What is declared of a pair. -/
def Pair.declared (file : File) (blocks : List Block) (s : List Char) (p : Pair) : Declaration :=
  declare file (blockWith? blocks (blockAt? blocks p.offset)) p.port (some p.host)
    (lineAt s p.offset) "port_pair"

/-- The pairs of a text are declared one by one. -/
theorem ofPairs_eq_map (file : File) (blocks : List Block) (s : List Char) :
    ofPairs file blocks s = (pairsOf s).map (Pair.declared file blocks s) := by
  unfold ofPairs pairsOf outside
  rw [List.map_filterMap, List.filterMap_filter]
  refine List.filterMap_congr fun x _ => ?_
  unfold Pair.read?
  dsimp only
  cases isCommented s x.1 with
  | true => rfl
  | false =>
    rw [if_neg Bool.false_ne_true]
    cases Port.read? x.2.1 with
    | none => rfl
    | some host =>
      cases Port.read? x.2.2 with
      | none => rfl
      | some port => rfl

/-! ## The declarations of a text -/

/-- What a text declares, in the order in which it is found: its ports inside containers, and its
pairs. -/
def produced (file : File) (s : List Char) : List Declaration :=
  (containerMentions s).map (Mention.declared file (blocksOf s) s) ++
    (pairsOf s).map (Pair.declared file (blocksOf s) s)

/-- What a text declares is sorted by lines. -/
theorem read_eq (file : File) (content : String) : read file content =
    (produced file content.toList).mergeSort fun d e => d.line.getD 0 ≤ e.line.getD 0 := by
  unfold read produced
  dsimp only
  rw [ofSites_eq, ofPairs_eq_map]

/-- A declaration says what a text does in one place. -/
structure Reports (d : Declaration) (port : Nat) (host : Option Nat) (setting : String)
    (line : Nat) : Prop where
  /-- The port inside the container. -/
  port : d.containerPort = port
  /-- The port outside the container. -/
  host : d.hostPort = host
  /-- The attribute. -/
  setting : d.context.find? "attribute" = some setting
  /-- The line. -/
  line : d.line = some line

/-- What is declared of an assignment says what it does, with the port outside that it is given. -/
theorem Mention.declared_reports (file : File) (blocks : List Block) (s : List Char)
    (m : Mention) : Reports (m.declared file blocks s) m.port
      ((partner blocks s m).map (·.port)) m.setting (lineAt s m.offset) := by
  unfold Mention.declared
  cases blockWith? blocks (m.group blocks) with
  | none => exact ⟨rfl, rfl, rfl, rfl⟩
  | some b => exact ⟨rfl, rfl, rfl, rfl⟩

/-- What is declared of a pair says what it does. -/
theorem Pair.declared_reports (file : File) (blocks : List Block) (s : List Char) (p : Pair) :
    Reports (p.declared file blocks s) p.port (some p.host) "port_pair" (lineAt s p.offset) :=
  ⟨rfl, rfl, rfl, rfl⟩

/-- Where no pair is named, what a text declares is in the order of the text. -/
theorem read_of_no_pairs (file : File) {content : String} (hnone : pairsOf content.toList = []) :
    read file content = (containerMentions content.toList).map
      (Mention.declared file (blocksOf content.toList) content.toList) := by
  rw [read_eq]
  unfold produced
  rw [hnone, List.map_nil, List.append_nil]
  refine List.mergeSort_of_pairwise (List.pairwise_map.mpr ?_)
  refine ((mentionsOf_pairwise content.toList).filter _).imp fun {m n} hlt => ?_
  rw [(m.declared_reports ..).line, (n.declared_reports ..).line, decide_eq_true_iff]
  exact lineAt_mono _ (Nat.le_of_lt hlt)

/-- The order of lines is transitive. -/
theorem lines_trans (d e f : Declaration) (hde : decide (d.line.getD 0 ≤ e.line.getD 0) = true)
    (hef : decide (e.line.getD 0 ≤ f.line.getD 0) = true) :
    decide (d.line.getD 0 ≤ f.line.getD 0) = true := by
  rw [decide_eq_true_iff] at hde hef ⊢
  exact Nat.le_trans hde hef

/-- The order of lines is total. -/
theorem lines_total (d e : Declaration) : (decide (d.line.getD 0 ≤ e.line.getD 0) ||
    decide (e.line.getD 0 ≤ d.line.getD 0)) = true := by
  rw [Bool.or_eq_true, decide_eq_true_iff, decide_eq_true_iff]
  exact Nat.le_total _ _

/-- What a text declares has no higher line than what is declared behind it. -/
theorem read_pairwise (file : File) (content : String) :
    (read file content).Pairwise fun d e => ∀ m ∈ d.line, ∀ n ∈ e.line, m ≤ n := by
  rw [read_eq]
  refine (List.pairwise_mergeSort lines_trans lines_total _).imp fun {d e} hle m hm n hn => ?_
  rw [decide_eq_true_iff, hm, hn] at hle
  exact hle

/-- What is declared on a line is in the order in which it is found. -/
theorem filter_line_read (file : File) (content : String) (line : Nat) :
    (read file content).filter (·.line == some line) =
      (produced file content.toList).filter (·.line == some line) := by
  rw [read_eq]
  refine filter_mergeSort lines_trans lines_total (fun d e hd he => ?_) _
  rw [beq_iff_eq] at hd he
  rw [hd, he, decide_eq_true_iff]

/-- Each assignment outside comments that names a port inside a container is declared once, and so
is each pair outside comments that names ports, and nothing else is: with its port, its attribute
and its line. The ports outside containers are given to ports inside of the same block, each to one
at most, and none is left over that could be given. What is declared is sorted by lines, and on each
line it stays in the order in which it is found. -/
theorem read_accounts (file : File) (content : String) :
    let s := content.toList
    let blocks := blocksOf s
    ofSites file blocks (sitesOf blocks s) ++ ofPairs file blocks s = produced file s ∧
      (read file content).Perm (produced file s) ∧
      (∀ m : Mention, Reports (m.declared file blocks s) m.port
        ((partner blocks s m).map (·.port)) m.setting (lineAt s m.offset)) ∧
      (∀ p : Pair, Reports (p.declared file blocks s) p.port (some p.host) "port_pair"
        (lineAt s p.offset)) ∧
      (∀ m : Mention, blockWith? blocks (m.group blocks) =
        (blocks.filter (·.start ≤ m.offset)).getLast?) ∧
      Allots blocks s (partner blocks s) ∧
      (read file content).Pairwise (fun d e => ∀ m ∈ d.line, ∀ n ∈ e.line, m ≤ n) ∧
      ∀ line, (read file content).filter (·.line == some line) =
        (produced file s).filter (·.line == some line) := by
  intro s blocks
  refine ⟨?_, ?_, Mention.declared_reports file blocks s, Pair.declared_reports file blocks s,
    fun m => blockWith?_blockAt? blocks m.offset, partner_allots blocks s,
    read_pairwise file content, filter_line_read file content⟩
  · rw [ofSites_eq, ofPairs_eq_map]
    rfl
  · rw [read_eq]
    exact List.mergeSort_perm _ _

end PortSurvey.Artifact.Provisioning
