import PortSurvey.Proofs.Artifact.BuildFile.Statements

/-!
# Instructions of a build file

An instruction has the number of its first line and the words of all its lines (`map_joinLines`), and a
build file declares what its instructions do (`read_eq_declared`). A line adds its words to the
instruction that is pending or begins one (`instructions_cons`), so lines matter to those behind them by
what they leave pending (`instructions_append`), and with that by the image that they name
(`declared_append`). Where the same lines have higher numbers, so have their instructions
(`instructions_map`) and what these declare (`declared_map`).
-/

namespace PortSurvey.Artifact.BuildFile

open Text

variable {file : File} {image : Option String}

/-! ## Instructions by their words -/

/-- An instruction of a build file, as far as it matters to what is declared. -/
structure Instruction where
  /-- The number of its first line. -/
  number : Nat
  /-- The words of all its lines. -/
  words : List (List Char)

/-- The instruction on another line. -/
def Instruction.moved (move : Nat → Nat) (x : Instruction) : Instruction :=
  { x with number := move x.number }

/-- The instruction that words of a line go on with or begin, where `pending` is what the lines before
it left unfinished. -/
def continued (pending : Option Instruction) (number : Nat) (words : List (List Char)) : Instruction :=
  match pending with
  | some x => ⟨x.number, x.words ++ words⟩
  | none => ⟨number, words⟩

/-- The instructions that lines make up, where `number` is that of the next line. -/
def instructions (pending : Option Instruction) (number : Nat) : List (List Char) → List Instruction
  | [] => pending.toList
  | line :: rest =>
    if goesOn line then instructions (some (continued pending number (lineWords line))) (number + 1) rest
    else continued pending number (lineWords line) :: instructions none (number + 1) rest

/-- The instructions from one on that goes on with the next line or has ended before it. -/
def resume (goes : Bool) (x : Instruction) (number : Nat) (lines : List (List Char)) :
    List Instruction :=
  if goes then instructions (some x) number lines else x :: instructions none number lines

/-- A line adds its words to the instruction that is pending, or begins one. -/
theorem instructions_cons (pending : Option Instruction) (number : Nat) (line : List Char)
    (rest : List (List Char)) : instructions pending number (line :: rest) =
      resume (goesOn line) (continued pending number (lineWords line)) (number + 1) rest :=
  rfl

/-- The instruction that a joined line is. -/
def Instruction.ofLine (x : Nat × List Char) : Instruction :=
  ⟨x.1, wordsChars x.2⟩

/-- The instructions are the joined lines. -/
theorem map_joinLines (pending : Option (Nat × List Char)) (number : Nat)
    (lines : List (List Char)) : (joinLines pending number lines).map .ofLine =
      instructions (pending.map .ofLine) number lines := by
  -- Along the lines; what is pending grows with every line that goes on.
  induction lines generalizing pending number with
  | nil => cases pending <;> rfl
  | cons line rest ih =>
    have hjoined : Instruction.ofLine (joined pending number line) =
        continued (pending.map .ofLine) number (lineWords line) := by
      rw [Instruction.ofLine, wordsChars_joined]
      cases pending <;> rfl
    rw [joinLines_cons, instructions_cons, ← hjoined, resume]
    split_ifs with hline
    · rw [ih]
      rfl
    · rw [List.map_cons, ih]
      rfl

/-- What instructions declare, where `image` was named before them. -/
def declared (file : File) (image : Option String) : List Instruction → List Declaration
  | [] => []
  | x :: rest =>
    (exposedBy x.words).map (declare file x.number image) ++
      declared file ((namedBy x.words).or image) rest

/-- A build file declares what its instructions do. -/
theorem read_eq_declared (file : File) (content : String) :
    read file content = declared file none (instructions none 1 (linesChars content.toList)) := by
  have hlines : ∀ image lines,
      ofLines file image lines = declared file image (lines.map .ofLine) := by
    intro image lines
    induction lines generalizing image with
    | nil => rfl
    | cons x rest ih =>
      rw [ofLines_cons, ih]
      rfl
  unfold read logicalLines
  rw [hlines, map_joinLines]
  rfl

/-- A declaration is made alike on every line. -/
theorem declare_renumbered (move : Nat → Nat) (number : Nat) (port : Nat × String) :
    (declare file number image port).renumbered move = declare file (move number) image port := by
  unfold declare
  generalize (Declaration.basic file.service port.1 .buildFile file.display).withProtocol port.2 = d
  cases image <;> rfl

/-- Instructions on other lines declare the same on other lines. -/
theorem declared_map (move : Nat → Nat) (image : Option String) (xs : List Instruction) :
    declared file image (xs.map (.moved move)) =
      (declared file image xs).map (.renumbered move) := by
  induction xs generalizing image with
  | nil => rfl
  | cons x rest ih =>
    have hports : (exposedBy x.words).map (declare file (move x.number) image) =
        ((exposedBy x.words).map (declare file x.number image)).map (.renumbered move) := by
      rw [List.map_map]
      exact List.map_congr_left fun port _ => (declare_renumbered move x.number port).symm
    rw [List.map_cons, declared, declared, List.map_append, ← ih, ← hports]
    rfl

/-- Instructions matter to those after them by the image that they name. -/
theorem declared_append (image : Option String) (before after : List Instruction) :
    declared file image (before ++ after) = declared file image before ++
      declared file (imageAfter image (before.map (·.words))) after := by
  induction before generalizing image with
  | nil => rfl
  | cons x rest ih =>
    rw [List.cons_append, declared, declared, ih, List.append_assoc]
    rfl

/-- What is declared stands on the first line of one of the instructions. -/
theorem line_of_mem_declared {xs : List Instruction} {d : Declaration}
    (h : d ∈ declared file image xs) : ∃ x ∈ xs, d.line = some x.number := by
  induction xs generalizing image with
  | nil => cases h
  | cons x rest ih =>
    rw [declared] at h
    rcases List.mem_append.mp h with hport | hrest
    · obtain ⟨port, -, rfl⟩ := List.mem_map.mp hport
      refine ⟨x, List.mem_cons_self, ?_⟩
      unfold declare
      rw [Declaration.withContext?_line]
    · obtain ⟨y, hy, hline⟩ := ih hrest
      exact ⟨y, List.mem_cons_of_mem x hy, hline⟩

/-! ## The numbers of lines -/

/-- Lines with higher numbers make up the same instructions with higher numbers. -/
theorem instructions_map {move : Nat → Nat} {count number : Nat}
    (hmove : ∀ n, number ≤ n → move n = n + count) (pending : Option Instruction)
    (lines : List (List Char)) : instructions (pending.map (.moved move)) (number + count) lines =
      (instructions pending number lines).map (.moved move) := by
  -- Along the lines; all that are still to come have numbers that are moved.
  induction lines generalizing pending number with
  | nil => cases pending <;> rfl
  | cons line rest ih =>
    have hrest : ∀ n, number + 1 ≤ n → move n = n + count := fun n hn => hmove n (by omega)
    have hnext : number + count + 1 = number + 1 + count := by omega
    have hcontinued : continued (pending.map (.moved move)) (number + count) (lineWords line) =
        (continued pending number (lineWords line)).moved move := by
      cases pending with
      | none => exact congrArg (Instruction.mk · (lineWords line)) (hmove number le_rfl).symm
      | some x => rfl
    rw [instructions_cons, instructions_cons, hcontinued, hnext, resume, resume]
    split_ifs with hline
    · exact ih hrest (some (continued pending number (lineWords line)))
    · rw [List.map_cons]
      exact congrArg _ (ih hrest none)

/-- What begins with a line or later has its number or a higher one. -/
theorem le_of_mem_instructions {number : Nat} {lines : List (List Char)} {x : Instruction}
    {pending : Option Instruction} {bound : Nat} (hpending : ∀ p ∈ pending, bound ≤ p.number)
    (hnumber : bound ≤ number) (h : x ∈ instructions pending number lines) : bound ≤ x.number := by
  induction lines generalizing pending number with
  | nil =>
    cases pending with
    | none => cases h
    | some p => exact List.mem_singleton.mp h ▸ hpending p rfl
  | cons line rest ih =>
    have hfirst : bound ≤ (continued pending number (lineWords line)).number := by
      cases pending with
      | none => exact hnumber
      | some p => exact hpending p rfl
    rw [instructions_cons, resume] at h
    split_ifs at h with hline
    · exact ih (fun p hp => Option.mem_some_iff.mp hp ▸ hfirst) (by omega) h
    · rcases List.mem_cons.mp h with rfl | hrest
      · exact hfirst
      · exact ih (fun p hp => absurd hp (Option.not_mem_none p)) (by omega) hrest

/-- Lines leave instructions behind that have ended, and one that is pending, all with numbers of
these lines. None is pending behind a line that does not go on. -/
theorem instructions_append (before : List (List Char)) {pending : Option Instruction} {number : Nat}
    (hpending : ∀ p ∈ pending, p.number < number) : ∃ ended left,
      (∀ after, instructions pending number (before ++ after) =
        ended ++ instructions left (number + before.length) after) ∧
      (∀ x ∈ ended, x.number < number + before.length) ∧
      (∀ p ∈ left, p.number < number + before.length) ∧
      (before ≠ [] ∨ pending = none → (∀ line ∈ before.getLast?, ¬goesOn line = true) →
        left = none) := by
  -- Along the lines; each ends what is pending or leaves it pending with more words.
  induction before generalizing pending number with
  | nil =>
    exact ⟨[], pending, fun after => rfl, by simp, hpending,
      fun hnone _ => hnone.resolve_left fun hne => hne rfl⟩
  | cons line rest ih =>
    have hfirst : (continued pending number (lineWords line)).number < number + 1 := by
      cases pending with
      | none => exact Nat.lt_succ_self number
      | some p => exact Nat.lt_succ_of_lt (hpending p rfl)
    have hlength : number + 1 + rest.length = number + (line :: rest).length := by
      rw [List.length_cons]
      omega
    have hlast : (∀ l ∈ (line :: rest).getLast?, ¬goesOn l = true) →
        ∀ l ∈ rest.getLast?, ¬goesOn l = true :=
      fun h l hl => h l (List.mem_getLast?_cons hl)
    by_cases hline : goesOn line = true
    · have hopen : ∀ p ∈ some (continued pending number (lineWords line)), p.number < number + 1 :=
        fun p hp => Option.mem_some_iff.mp hp ▸ hfirst
      obtain ⟨ended, left, h, hended, hleft, hnone⟩ := ih hopen
      rw [hlength] at hended hleft
      refine ⟨ended, left, fun after => ?_, hended, hleft, fun _ hends => ?_⟩
      · rw [List.cons_append, instructions_cons, resume, if_pos hline, h, hlength]
      · have hrest : rest ≠ [] := by
          rintro rfl
          exact hends line rfl hline
        exact hnone (.inl hrest) (hlast hends)
    · have hclosed : ∀ p ∈ (none : Option Instruction), p.number < number + 1 :=
        fun p hp => absurd hp (Option.not_mem_none p)
      obtain ⟨ended, left, h, hended, hleft, hnone⟩ := ih hclosed
      rw [hlength] at hended hleft
      refine ⟨continued pending number (lineWords line) :: ended, left, fun after => ?_,
        List.forall_mem_cons.mpr ⟨?_, hended⟩, hleft, fun _ hends => hnone (.inr rfl) (hlast hends)⟩
      · rw [List.cons_append, instructions_cons, resume, if_neg hline, h, hlength]
        rfl
      · exact Nat.lt_of_lt_of_le hfirst (hlength ▸ Nat.le_add_right _ _)

end PortSurvey.Artifact.BuildFile
