import Mathlib.Data.List.SplitBy
import PortSurvey.Proofs.Artifact.BuildFile.Statements

/-!
# Blocks of lines in a build file

The lines of a build file fall into blocks: a block ends behind each line that does not go on, and where
the lines end (`IsBlocks`). The instructions are the blocks, each with the number of its first line and
with the pieces of its lines joined (`logicalLines_eq_numbered`). So their numbers are those of lines
(`lt_of_mem_numbers`), they ascend (`numbers_pairwise`), and a line other than the first has the number of
an instruction exactly if the line before it does not go on (`mem_numbers_iff`).
-/

namespace PortSurvey.Artifact.BuildFile

open Text

/-! ## Instructions as blocks -/

/-- Lines in blocks: a line that goes on stands in one block with the next. -/
def blocks (lines : List (List Char)) : List (List (List Char)) :=
  lines.splitBy fun line _ => goesOn line

/-- The blocks have all lines. -/
theorem flatten_blocks (lines : List (List Char)) : (blocks lines).flatten = lines :=
  List.flatten_splitBy _ lines

/-- Each block goes on up to its last line, and behind it too only if there is no other. -/
inductive IsBlocks : List (List (List Char)) → Prop
  /-- There are no lines. -/
  | nil : IsBlocks []
  /-- A block stands before others. -/
  | cons {block : List (List Char)} {rest : List (List (List Char))} (hne : block ≠ [])
    (hgo : block.IsChain fun line _ => goesOn line = true)
    (hends : rest ≠ [] → goesOn (block.getLast hne) = false) (hrest : IsBlocks rest) :
    IsBlocks (block :: rest)

/-- The blocks of lines are such blocks. -/
theorem isBlocks_blocks (lines : List (List Char)) : IsBlocks (blocks lines) := by
  have hne : ∀ b ∈ blocks lines, b ≠ [] := fun b hb => List.ne_nil_of_mem_splitBy hb
  have hgo : ∀ b ∈ blocks lines, b.IsChain fun line _ => goesOn line = true := fun b hb =>
    List.isChain_of_mem_splitBy hb
  have hends := List.isChain_getLast_head_splitBy (fun line _ => goesOn line) lines
  change (blocks lines).IsChain _ at hends
  generalize blocks lines = bs at hne hgo hends
  induction bs with
  | nil => exact .nil
  | cons b rest ih =>
    rw [List.forall_mem_cons] at hne hgo
    refine .cons hne.1 hgo.1 (fun hrest => ?_) (ih hne.2 hgo.2 hends.tail)
    obtain ⟨next, more, rfl⟩ := List.exists_cons_of_ne_nil hrest
    obtain ⟨_, _, hlast⟩ := (List.isChain_cons_cons.mp hends).1
    exact hlast

/-- A text with the piece of one more line after it. -/
def appendLine (text line : List Char) : List Char :=
  appendPiece text (trimChars (splitContinuation line).1)

/-- The text of an instruction: the pieces of its lines, joined. -/
def blockText (block : List (List Char)) : List Char :=
  block.foldl appendLine []

/-- The texts of blocks, each with the number of its first line. -/
def numbered (number : Nat) : List (List (List Char)) → List (Nat × List Char)
  | [] => []
  | block :: rest => (number, blockText block) :: numbered (number + block.length) rest

/-- A block adds its lines to the instruction that is pending, and ends it. -/
theorem joinLines_block {block : List (List Char)} (hne : block ≠ [])
    (hgo : block.IsChain fun line _ => goesOn line = true) {rest : List (List Char)}
    (hends : rest ≠ [] → goesOn (block.getLast hne) = false)
    (pending : Option (Nat × List Char)) (number : Nat) :
    joinLines pending number (block ++ rest) =
      ((pending.getD (number, [])).1, block.foldl appendLine (pending.getD (number, [])).2) ::
        joinLines none (number + block.length) rest := by
  -- Along the lines; each but the last leaves the instruction pending.
  induction block generalizing pending number with
  | nil => exact absurd rfl hne
  | cons line more ih =>
    rw [List.cons_append, joinLines_cons]
    cases more with
    | nil =>
      cases hline : goesOn line with
      | false => rfl
      | true =>
        -- A last line that goes on has no line to go on with.
        obtain rfl : rest = [] := by
          by_contra hrest
          cases hline.symm.trans (hends hrest)
        rfl
    | cons next more =>
      obtain ⟨hline, hmore⟩ := List.isChain_cons_cons.mp hgo
      rw [if_pos hline, ih (List.cons_ne_nil next more) hmore hends, List.length_cons,
        Nat.add_assoc, Nat.add_comm 1]
      rfl

/-- The lines of blocks are joined block by block. -/
theorem joinLines_flatten {bs : List (List (List Char))} (h : IsBlocks bs) (number : Nat) :
    joinLines none number bs.flatten = numbered number bs := by
  induction h generalizing number with
  | nil => rfl
  | @cons block rest hne hgo hends hrest ih =>
    have hends' : rest.flatten ≠ [] → goesOn (block.getLast hne) = false := fun hflat =>
      hends fun hnil => hflat (hnil ▸ List.flatten_nil)
    rw [List.flatten_cons, joinLines_block hne hgo hends', ih]
    rfl

/-- The instructions are the texts of the blocks. -/
theorem logicalLines_eq_numbered (content : List Char) :
    logicalLines content = numbered 1 (blocks (linesChars content)) := by
  unfold logicalLines
  rw [← joinLines_flatten (isBlocks_blocks _), flatten_blocks]

/-! ## The numbers of instructions -/

variable {bs : List (List (List Char))} {number : Nat}

/-- The numbers of the texts, in order. -/
def numbers (xs : List (Nat × List Char)) : List Nat :=
  xs.map Prod.fst

/-- No block has a lower number than the first. -/
theorem le_of_mem_numbers {n : Nat} (h : n ∈ numbers (numbered number bs)) : number ≤ n := by
  induction bs generalizing number with
  | nil => cases h
  | cons block rest ih =>
    rcases List.mem_cons.mp h with rfl | hrest
    · exact le_rfl
    · exact Nat.le_trans (Nat.le_add_right _ _) (ih hrest)

/-- Each block has the number of one of its lines. -/
theorem lt_of_mem_numbers (h : IsBlocks bs) {n : Nat} (hn : n ∈ numbers (numbered number bs)) :
    n < number + bs.flatten.length := by
  induction h generalizing number with
  | nil => cases hn
  | cons hne _ _ _ ih =>
    have hpos := List.length_pos_iff.mpr hne
    rw [List.flatten_cons, List.length_append, ← Nat.add_assoc]
    rcases List.mem_cons.mp hn with rfl | hrest
    · omega
    · exact ih hrest

/-- Later blocks have higher numbers. -/
theorem numbers_pairwise (h : IsBlocks bs) : (numbers (numbered number bs)).Pairwise (· < ·) := by
  induction h generalizing number with
  | nil => exact List.Pairwise.nil
  | cons hne _ _ _ ih =>
    refine List.pairwise_cons.mpr ⟨fun n hn => ?_, ih⟩
    have hpos := List.length_pos_iff.mpr hne
    have hle := le_of_mem_numbers hn
    dsimp only
    omega

/-- Where there are lines, the first block has the first number. -/
theorem head?_numbers_blocks {lines : List (List Char)} (hne : lines ≠ []) (number : Nat) :
    (numbers (numbered number (blocks lines))).head? = some number := by
  obtain ⟨block, rest, hcons⟩ := List.exists_cons_of_ne_nil (List.splitBy_ne_nil.mpr hne)
  rw [blocks, hcons]
  rfl

/-- Behind blocks, the first of others has the number of the line behind their lines, and that is where
lines end if there are no others. -/
theorem head?_numbers (bs : List (List (List Char))) (number : Nat) :
    (numbers (numbered number bs)).head?.getD (number + bs.flatten.length) = number := by
  cases bs <;> rfl

/-- A line begins a block exactly if the line before it does not go on. -/
theorem mem_numbers_iff (h : IsBlocks bs) {n : Nat} {line : List Char}
    (hline : bs.flatten[n]? = some line) (hnext : n + 1 < bs.flatten.length) :
    number + (n + 1) ∈ numbers (numbered number bs) ↔ goesOn line = false := by
  induction h generalizing number n with
  | nil => cases hline
  | @cons block rest hne hgo hends hrest ih =>
    have hmem : ∀ k, number < k → (k ∈ numbers (numbered number (block :: rest)) ↔
        k ∈ numbers (numbered (number + block.length) rest)) := fun k hk =>
      ⟨fun hk' => (List.mem_cons.mp hk').resolve_left (Nat.ne_of_gt hk), List.mem_cons_of_mem _⟩
    have hlater : number < number + (n + 1) := by omega
    rw [hmem _ hlater]
    rw [List.flatten_cons] at hline hnext
    rcases Nat.lt_trichotomy (n + 1) block.length with hin | hlast | hbehind
    · -- The line and the next stand in the same block.
      have hn : n < block.length := by omega
      rw [List.getElem?_append_left hn, List.getElem?_eq_getElem hn, Option.some.injEq] at hline
      have hgoes : goesOn line = true := hline ▸ List.isChain_iff_getElem.mp hgo n hin
      refine ⟨fun hk => ?_, fun hfalse => ?_⟩
      · have hle := le_of_mem_numbers hk
        omega
      · cases hgoes.symm.trans hfalse
    · -- The line is the last of the block, and the next begins another.
      have hrest : rest ≠ [] := by
        rintro rfl
        simp at hnext
        omega
      have hn : n = block.length - 1 := by omega
      have hin : n < block.length := by omega
      rw [List.getElem?_append_left hin, hn, ← List.getLast?_eq_getElem?,
        List.getLast?_eq_some_getLast hne, Option.some.injEq] at hline
      rw [hlast]
      obtain ⟨next, more, rfl⟩ := List.exists_cons_of_ne_nil hrest
      exact iff_of_true List.mem_cons_self (hline ▸ hends hrest)
    · -- Both stand behind the block.
      obtain ⟨k, rfl⟩ := Nat.exists_eq_add_of_le (Nat.le_of_lt_succ hbehind)
      rw [List.getElem?_append_right (Nat.le_add_right _ _), Nat.add_sub_cancel_left] at hline
      rw [List.length_append, Nat.add_assoc, Nat.add_lt_add_iff_left] at hnext
      rw [Nat.add_assoc block.length, ← Nat.add_assoc number]
      exact ih hline hnext

end PortSurvey.Artifact.BuildFile
