import PortSurvey.Proofs.Artifact.BuildFile.Blocks
import PortSurvey.Proofs.Text.Visible

/-!
# What instructions have of a build file

An instruction covers the lines from its number up to that of the next instruction, and the last one those
up to the end. As the numbers ascend from the first line on, each line is covered by exactly one
(`exists_unique_covers`). An instruction has the visible characters of the lines that it covers, each
without the backslash that makes it go on (`visible_of_getElem?`), and what is taken off is just that: the
lines that go on are those whose last visible character is a backslash (`goesOn_eq_isMarked`).
`logicalLines_lossless` puts this together for all texts.
-/

namespace PortSurvey.Artifact.BuildFile

open Text

/-! ## Marks -/

/-- Whether the last visible character of a line is a backslash. -/
def isMarked (line : List Char) : Bool :=
  (visible line).getLast? == some '\\'

/-- The visible characters of a line, without the one backslash that marks it. -/
def unmarked (line : List Char) : List Char :=
  if isMarked line then (visible line).dropLast else visible line

/-- A line goes on if a backslash is what is left at its end, and loses that. -/
theorem splitContinuation_cases (line : List Char) :
    (∃ text, trimEndChars line = text ++ ['\\'] ∧ splitContinuation line = (text, true)) ∨
      (trimEndChars line).getLast? ≠ some '\\' ∧ splitContinuation line = (trimEndChars line, false) := by
  unfold splitContinuation
  dsimp only
  by_cases hend : (trimEndChars line).getLast? = some '\\'
  · obtain ⟨text, htext⟩ := List.getLast?_eq_some_iff.mp hend
    refine .inl ⟨text, htext, ?_⟩
    rw [hend, htext, List.dropLast_concat]
    rfl
  · exact .inr ⟨hend, if_neg (by simpa using hend)⟩

/-- The lines that go on are those that are marked. -/
theorem goesOn_eq_isMarked (line : List Char) : goesOn line = isMarked line := by
  unfold goesOn isMarked
  rw [← getLast?_trimEndChars]
  obtain ⟨text, htext, hsplit⟩ | ⟨hend, hsplit⟩ := splitContinuation_cases line
  · rw [hsplit, htext, List.getLast?_concat]
    rfl
  · rw [hsplit]
    exact (beq_eq_false_iff_ne.mpr hend).symm

/-- A line adds its visible characters to its instruction, without the mark. -/
theorem visible_splitContinuation (line : List Char) :
    visible (splitContinuation line).1 = unmarked line := by
  unfold unmarked
  rw [← goesOn_eq_isMarked, ← visible_trimEndChars line, goesOn]
  obtain ⟨text, htext, hsplit⟩ | ⟨-, hsplit⟩ := splitContinuation_cases line
  · have hmark : visible ['\\'] = ['\\'] := rfl
    rw [hsplit, htext, visible_append, hmark, List.dropLast_concat]
    rfl
  · rw [hsplit]
    rfl

/-- A piece adds its visible characters to those of the text. -/
theorem visible_appendPiece (text piece : List Char) :
    visible (appendPiece text piece) = visible text ++ visible piece := by
  unfold appendPiece
  split_ifs with htext
  · rw [List.isEmpty_iff.mp htext]
    rfl
  · exact visible_append_cons rfl text piece

/-- Lines add their visible characters to those of the text, without the marks. -/
theorem visible_foldl_appendLine (text : List Char) (block : List (List Char)) :
    visible (block.foldl appendLine text) = visible text ++ block.flatMap unmarked := by
  induction block generalizing text with
  | nil => exact (List.append_nil _).symm
  | cons line rest ih =>
    rw [List.foldl_cons, ih, appendLine, visible_appendPiece, visible_trimChars,
      visible_splitContinuation, List.flatMap_cons, List.append_assoc]

/-- The text of a block has the visible characters of its lines, without the marks. -/
theorem visible_blockText (block : List (List Char)) :
    visible (blockText block) = block.flatMap unmarked :=
  visible_foldl_appendLine [] block

/-- The texts of blocks have the visible characters of their lines, without the marks. -/
theorem flatMap_visible_numbered (bs : List (List (List Char))) (number : Nat) :
    (numbered number bs).flatMap (visible ·.2) = bs.flatten.flatMap unmarked := by
  induction bs generalizing number with
  | nil => rfl
  | cons block rest ih =>
    rw [numbered, List.flatMap_cons, ih, visible_blockText, List.flatten_cons, List.flatMap_append]

/-! ## Lines that are covered -/

/-- The number of the line behind those that the instruction with an index covers: that of the next
instruction, or else the one behind all `total` lines. -/
def behind (total : Nat) (numbers : List Nat) (i : Nat) : Nat :=
  numbers[i + 1]?.getD (total + 1)

/-- The instruction with an index covers the line `n`. -/
def Covers (total : Nat) (numbers : List Nat) (i n : Nat) : Prop :=
  ∃ number, numbers[i]? = some number ∧ number ≤ n ∧ n < behind total numbers i

/-- The lines from the number of one on, up to that of another, which is not among them. -/
def linesFrom (lines : List (List Char)) (first next : Nat) : List (List Char) :=
  (lines.take (next - 1)).drop (first - 1)

/-- Lines between others are those from the number of the first of them on, up to the others behind. -/
theorem linesFrom_append (front block rest : List (List Char)) :
    linesFrom (front ++ (block ++ rest)) (front.length + 1) (front.length + 1 + block.length) = block := by
  have hnext : front.length + 1 + block.length - 1 = (front ++ block).length := by
    rw [List.length_append]
    omega
  unfold linesFrom
  rw [hnext, ← List.append_assoc, List.take_left, Nat.add_sub_cancel, List.drop_left]

/-- Numbers that ascend part the lines from the first of them on: each is covered by exactly one. -/
theorem exists_unique_covers {total : Nat} {numbers : List Nat} (h : numbers.Pairwise (· < ·))
    {first n : Nat} (hfirst : numbers.head? = some first) (hle : first ≤ n) (hn : n ≤ total) :
    ∃! i, Covers total numbers i n := by
  -- Along the numbers, up to the last that is not higher than that of the line.
  induction numbers generalizing first with
  | nil => cases hfirst
  | cons a rest ih =>
    obtain rfl : a = first := Option.some.inj hfirst
    obtain ⟨-, hrest⟩ := List.pairwise_cons.mp h
    cases rest with
    | nil =>
      refine ⟨0, ⟨a, rfl, hle, Nat.lt_succ_of_le hn⟩, fun j hj => ?_⟩
      obtain ⟨m, hm, -⟩ := hj
      cases j with
      | zero => rfl
      | succ j => cases hm
    | cons b more =>
      by_cases hnext : b ≤ n
      · -- The line stands behind those that the first number covers.
        obtain ⟨i, hi, hunique⟩ := ih hrest rfl hnext
        refine ⟨i + 1, hi, fun j hj => ?_⟩
        cases j with
        | zero =>
          obtain ⟨m, -, -, hlt⟩ := hj
          exact absurd hnext (Nat.not_le_of_lt hlt)
        | succ j => exact congrArg (· + 1) (hunique j hj)
      · -- All other numbers are higher than that of the line.
        refine ⟨0, ⟨a, rfl, hle, Nat.lt_of_not_le hnext⟩, fun j hj => ?_⟩
        cases j with
        | zero => rfl
        | succ j =>
          obtain ⟨m, hm, hmn, -⟩ := hj
          have hmem : m ∈ b :: more := List.mem_of_getElem? (i := j) hm
          have hbm : b ≤ m := by
            rcases List.mem_cons.mp hmem with rfl | hmore
            · exact le_rfl
            · exact Nat.le_of_lt ((List.pairwise_cons.mp hrest).1 m hmore)
          exact absurd (Nat.le_trans hbm hmn) hnext

/-- The first of blocks covers its own lines. -/
theorem behind_numbers {total number : Nat} (block : List (List Char)) (rest : List (List (List Char)))
    (h : number + block.length + rest.flatten.length = total + 1) :
    behind total (numbers (numbered number (block :: rest))) 0 = number + block.length := by
  have hhead := head?_numbers rest (number + block.length)
  rw [h, List.head?_eq_getElem?] at hhead
  exact hhead

/-- A block has the visible characters of the lines that it covers, without the marks. -/
theorem visible_of_getElem? {front : List (List Char)} {bs : List (List (List Char))} {i : Nat}
    {x : Nat × List Char} (hx : (numbered (front.length + 1) bs)[i]? = some x) :
    visible x.2 = (linesFrom (front ++ bs.flatten) x.1 (behind (front ++ bs.flatten).length
      (numbers (numbered (front.length + 1) bs)) i)).flatMap unmarked := by
  -- Along the blocks; those that were passed stand in front.
  induction bs generalizing front i with
  | nil => cases hx
  | cons block rest ih =>
    cases i with
    | zero =>
      obtain rfl : (front.length + 1, blockText block) = x := Option.some.inj hx
      have hlines : front.length + 1 + block.length + rest.flatten.length =
          (front ++ (block :: rest).flatten).length + 1 := by
        rw [List.flatten_cons, List.length_append, List.length_append]
        omega
      rw [behind_numbers block rest hlines, List.flatten_cons, linesFrom_append, visible_blockText]
    | succ i =>
      have hnumber : front.length + 1 + block.length = (front ++ block).length + 1 := by
        rw [List.length_append]
        omega
      rw [numbered, hnumber] at hx ⊢
      rw [List.flatten_cons, ← List.append_assoc]
      exact ih hx

/-! ## Nothing is lost -/

/-- Numbered texts have all lines of a text, and all that is visible of it but the marks of the lines that
go on. -/
structure Lossless (content : List Char) (xs : List (Nat × List Char)) : Prop where
  /-- The numbers ascend. -/
  ascending : (numbers xs).Pairwise (· < ·)
  /-- The first is one, unless there is nothing to number. -/
  first : content ≠ [] → (numbers xs).head? = some 1
  /-- Each is the number of a line. -/
  within : ∀ n ∈ numbers xs, 1 ≤ n ∧ n ≤ (linesChars content).length
  /-- Each line is covered exactly once. -/
  covered : ∀ n, 1 ≤ n → n ≤ (linesChars content).length →
    ∃! i, Covers (linesChars content).length (numbers xs) i n
  /-- A line has its number among them exactly if the line before is not marked. -/
  begins : ∀ n line, (linesChars content)[n]? = some line → n + 1 < (linesChars content).length →
    (n + 2 ∈ numbers xs ↔ isMarked line = false)
  /-- Each text has the visible characters of the lines that it covers, without the marks. -/
  own : ∀ i x, xs[i]? = some x → visible x.2 = (linesFrom (linesChars content) x.1
    (behind (linesChars content).length (numbers xs) i)).flatMap unmarked
  /-- Together the texts have the visible characters of all lines, without the marks. -/
  texts : xs.flatMap (visible ·.2) = (linesChars content).flatMap unmarked
  /-- Together the lines have all that is visible. -/
  lines : (linesChars content).flatMap visible = visible content

/-- The instructions of a build file lose nothing of it. -/
theorem logicalLines_lossless (content : List Char) : Lossless content (logicalLines content) := by
  have hblocks := isBlocks_blocks (linesChars content)
  have hflatten := flatten_blocks (linesChars content)
  have hascending : (numbers (numbered 1 (blocks (linesChars content)))).Pairwise (· < ·) :=
    numbers_pairwise hblocks
  rw [logicalLines_eq_numbered]
  constructor
  case ascending => exact hascending
  case first =>
    intro hne
    exact head?_numbers_blocks (mt linesChars_eq_nil_iff.mp hne) 1
  case within =>
    intro n hn
    have hlt := lt_of_mem_numbers hblocks hn
    rw [hflatten] at hlt
    exact ⟨le_of_mem_numbers hn, by omega⟩
  case covered =>
    intro n hone hn
    have hne : linesChars content ≠ [] := List.ne_nil_of_length_pos (by omega)
    exact exists_unique_covers hascending (head?_numbers_blocks hne 1) hone hn
  case begins =>
    intro n line hline hnext
    have hnumber : n + 2 = 1 + (n + 1) := by omega
    rw [← hflatten] at hline hnext
    rw [hnumber, ← goesOn_eq_isMarked]
    exact mem_numbers_iff hblocks hline hnext
  case own =>
    intro i x hx
    have hown := @visible_of_getElem? [] (blocks (linesChars content)) i x hx
    rwa [List.nil_append, hflatten] at hown
  case texts => rw [flatMap_visible_numbered, hflatten]
  case lines => exact flatMap_visible_linesChars content

/-- One of two backslashes stays, and the mark of the last line goes although no line follows. -/
example : logicalLines "EXPOSE 80 \\\r\n443\n\\\\ \n  9090 \\".toList =
    [(1, "EXPOSE 80 443".toList), (3, "\\ 9090".toList)] := by
  decide +kernel

end PortSurvey.Artifact.BuildFile
