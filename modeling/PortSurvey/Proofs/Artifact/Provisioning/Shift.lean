import Mathlib.Order.Monotone.Basic
import PortSurvey.Proofs.Artifact.Provisioning.Account

/-!
# What is found at other places

Two texts in which the searches find the same, at places that come in the same order and stand on the
same lines (`Moves`), declare the same (`Moves.read_eq`): a declaration says on which line a port is
named, but not where on the line.
-/

namespace PortSurvey.Artifact.Provisioning

open Text

/-- A block at another place. -/
def Block.moved (move : Nat → Nat) (b : Block) : Block :=
  { b with start := move b.start }

/-- An assignment at another place. -/
def Mention.moved (move : Nat → Nat) (m : Mention) : Mention :=
  { m with offset := move m.offset }

/-- A pair at another place. -/
def Pair.moved (move : Nat → Nat) (p : Pair) : Pair :=
  { p with offset := move p.offset }

/-- What is found in a text is found in another one at other places, in the same order and on the same
lines. -/
structure Moves (move : Nat → Nat) (s t : List Char) : Prop where
  /-- The places come in the same order. -/
  mono : StrictMono move
  /-- The headers are the same. -/
  headers : occurrences headerAt? t = (occurrences headerAt? s).map (Prod.map move id)
  /-- The assignments outside comments are the same. -/
  settings : outside assignmentAt? t = (outside assignmentAt? s).map (Prod.map move id)
  /-- The pairs outside comments are the same. -/
  pairs : outside pairAt? t = (outside pairAt? s).map (Prod.map move id)
  /-- The lines are the same. -/
  line : ∀ offset, lineAt t (move offset) = lineAt s offset

variable {move : Nat → Nat}

/-- A place belongs to the same block at other places. -/
theorem blockAt?_moved (hmove : StrictMono move) (blocks : List Block) (offset : Nat) :
    blockAt? (blocks.map (Block.moved move)) (move offset) = blockAt? blocks offset := by
  have hstart : (fun x : Block × Nat => decide (x.1.start ≤ move offset)) ∘
      Prod.map (Block.moved move) id = fun x => decide (x.1.start ≤ offset) := by
    funext x
    exact decide_eq_decide.mpr hmove.le_iff_le
  have hfilter : ((blocks.map (Block.moved move)).zipIdx.filter fun x =>
      decide (x.1.start ≤ move offset)) =
      (blocks.zipIdx.filter fun x => decide (x.1.start ≤ offset)).map
        (Prod.map (Block.moved move) id) := by
    rw [List.zipIdx_map, List.filter_map, hstart]
  have hlast := congrArg (fun l => (l.getLast?).map Prod.snd) hfilter
  rw [List.getLast?_map, Option.map_map] at hlast
  exact hlast

/-- A block keeps its number at another place. -/
theorem blockWith?_moved (move : Nat → Nat) (blocks : List Block) (number : Option Nat) :
    blockWith? (blocks.map (Block.moved move)) number =
      (blockWith? blocks number).map (Block.moved move) := by
  cases number with
  | none => rfl
  | some number => exact List.getElem?_map

/-- No two assignments come to the same place. -/
theorem Mention.moved_injective (hmove : StrictMono move) :
    Function.Injective (Mention.moved move) := by
  intro m n h
  obtain ⟨hoffset, hsetting, hport⟩ := Mention.mk.inj h
  exact Mention.ext (hmove.injective hoffset) hsetting hport

/-- The assignments of a block are the same at other places. -/
theorem ofGroup_moved (hmove : StrictMono move) (blocks : List Block) (number : Option Nat)
    (ms : List Mention) :
    ofGroup (blocks.map (Block.moved move)) number (ms.map (Mention.moved move)) =
      (ofGroup blocks number ms).map (Mention.moved move) := by
  have hgroup : ∀ m : Mention,
      (m.moved move).group (blocks.map (Block.moved move)) = m.group blocks :=
    fun m => blockAt?_moved hmove blocks m.offset
  unfold ofGroup
  rw [List.filter_map]
  refine congrArg _ (List.filter_congr fun m _ => ?_)
  exact congrArg (· == number) (hgroup m)

namespace Moves

variable {s t : List Char} (h : Moves move s t)

include h

/-- The headers are those at the other places. -/
theorem blocksOf_eq : blocksOf t = (blocksOf s).map (Block.moved move) := by
  unfold blocksOf
  rw [h.headers, List.map_map, List.map_map]
  rfl

/-- The assignments are those at the other places. -/
theorem mentionsOf_eq : mentionsOf t = (mentionsOf s).map (Mention.moved move) := by
  unfold mentionsOf
  rw [h.settings, List.filterMap_map, List.map_filterMap]
  refine List.filterMap_congr fun x _ => ?_
  unfold Mention.read?
  rw [Option.map_map]
  rfl

/-- The pairs are those at the other places. -/
theorem pairsOf_eq : pairsOf t = (pairsOf s).map (Pair.moved move) := by
  unfold pairsOf
  rw [h.pairs, List.filterMap_map, List.map_filterMap]
  refine List.filterMap_congr fun x _ => ?_
  unfold Pair.read?
  show Option.bind (Port.read? x.2.1) _ = Option.map _ (Option.bind (Port.read? x.2.1) _)
  rw [Option.map_bind]
  refine congrArg _ (funext fun host => ?_)
  rw [Function.comp_apply, Option.map_map]
  rfl

/-- The assignments that name ports inside containers are those at the other places. -/
theorem containerMentions_eq : containerMentions t = (containerMentions s).map (Mention.moved move) := by
  unfold containerMentions
  rw [h.mentionsOf_eq, List.filter_map]
  rfl

/-- The assignments that name ports outside containers are those at the other places. -/
theorem hostMentions_eq : hostMentions t = (hostMentions s).map (Mention.moved move) := by
  unfold hostMentions
  rw [h.mentionsOf_eq, List.filter_map]
  rfl

/-- The port outside that an assignment is given is named by the same assignment. -/
theorem partner_eq (m : Mention) : partner (blocksOf t) t (m.moved move) =
    (partner (blocksOf s) s m).map (Mention.moved move) := by
  have hgroup : (m.moved move).group (blocksOf t) = m.group (blocksOf s) := by
    rw [h.blocksOf_eq]
    exact blockAt?_moved h.mono (blocksOf s) m.offset
  unfold partner
  rw [hgroup, h.hostMentions_eq, h.containerMentions_eq, h.blocksOf_eq, ofGroup_moved h.mono,
    ofGroup_moved h.mono, idxOf_map_of_injective (Mention.moved_injective h.mono),
    List.getElem?_map]

/-- What is declared of an assignment does not tell its place on the line. -/
theorem mention_declared_eq (file : File) (m : Mention) :
    (m.moved move).declared file (blocksOf t) t = m.declared file (blocksOf s) s := by
  have hgroup : (m.moved move).group (blocksOf t) = m.group (blocksOf s) := by
    rw [h.blocksOf_eq]
    exact blockAt?_moved h.mono (blocksOf s) m.offset
  have hline : lineAt t (m.moved move).offset = lineAt s m.offset := h.line m.offset
  unfold Mention.declared
  rw [hgroup, h.partner_eq, Option.map_map, hline, h.blocksOf_eq, blockWith?_moved]
  cases blockWith? (blocksOf s) (m.group (blocksOf s)) with
  | none => rfl
  | some b => rfl

/-- What is declared of a pair does not tell its place on the line. -/
theorem pair_declared_eq (file : File) (p : Pair) :
    (p.moved move).declared file (blocksOf t) t = p.declared file (blocksOf s) s := by
  have hgroup : blockAt? (blocksOf t) (p.moved move).offset = blockAt? (blocksOf s) p.offset := by
    rw [h.blocksOf_eq]
    exact blockAt?_moved h.mono (blocksOf s) p.offset
  have hline : lineAt t (p.moved move).offset = lineAt s p.offset := h.line p.offset
  unfold Pair.declared
  rw [hgroup, hline, h.blocksOf_eq, blockWith?_moved]
  cases blockWith? (blocksOf s) (blockAt? (blocksOf s) p.offset) with
  | none => rfl
  | some b => rfl

/-- The texts declare the same. -/
theorem produced_eq (file : File) : produced file t = produced file s := by
  unfold produced
  rw [h.containerMentions_eq, h.pairsOf_eq, List.map_map, List.map_map]
  exact congrArg₂ _ (List.map_congr_left fun m _ => h.mention_declared_eq file m)
    (List.map_congr_left fun p _ => h.pair_declared_eq file p)

end Moves

/-- Descriptions in which the searches find the same, in the same order and on the same lines, declare
the same. -/
theorem Moves.read_eq {content content' : String} (h : Moves move content.toList content'.toList)
    (file : File) : read file content' = read file content := by
  rw [Provisioning.read_eq, Provisioning.read_eq, h.produced_eq]

end PortSurvey.Artifact.Provisioning
