import PortSurvey.Proofs.Artifact.BuildFile.Instructions
import PortSurvey.Proofs.Text.Lines

/-!
# Continued lines of a build file

A `Line` is made of a keyword and words behind it, and may be broken in any gap between them: a `Break`
is a backslash at the end of one line and the indentation of the next, with blanks wherever they may
stand. At a break the instruction goes on with the next line (`instructions_break`), so the line adds
its words to the instruction that is pending, over all its breaks (`instructions_line`), and what it
declares does not depend on them. `read_broken` says what the breaks do to a whole build file: nothing
but move the numbers of what stands behind the line.
-/

namespace PortSurvey.Artifact.BuildFile

open Text

/-! ## Lines as they are written -/

/-- Blanks as they stand within a line. -/
def Blanks (s : List Char) : Prop :=
  ∀ c ∈ s, isBlank c = true ∧ c ≠ '\n'

instance (s : List Char) : Decidable (Blanks s) :=
  inferInstanceAs (Decidable (∀ c ∈ s, isBlank c = true ∧ c ≠ '\n'))

/-- A word of an instruction. It does not end with a backslash, which could make its line go on. -/
structure Word where
  /-- The characters of the word. -/
  chars : List Char
  /-- There are some. -/
  ne_nil : chars ≠ []
  /-- None of them is a blank. -/
  not_blank : ∀ c ∈ chars, isBlank c = false
  /-- The last is no backslash. -/
  closed : chars.getLast? ≠ some '\\'

/-- A break of a line: it ends with a backslash and goes on in the next. -/
structure Break where
  /-- The blanks before the backslash. -/
  before : List Char
  /-- The blanks between the backslash and the end of the line. -/
  behind : List Char
  /-- The indentation of the next line. -/
  indent : List Char
  /-- What stands before the backslash is blank. -/
  before_blanks : Blanks before
  /-- What stands behind the backslash is blank. -/
  behind_blanks : Blanks behind
  /-- The indentation is blank. -/
  indent_blanks : Blanks indent

/-- The characters of a break. -/
def Break.chars (b : Break) : List Char :=
  b.before ++ '\\' :: (b.behind ++ '\n' :: b.indent)

/-- A word with the gap before it, and a break that may stand in place of the gap. -/
structure Argument where
  /-- The blanks in the gap. -/
  gap : List Char
  /-- There are some. -/
  gap_ne_nil : gap ≠ []
  /-- The gap is blank. -/
  gap_blanks : Blanks gap
  /-- The break, if the line is broken there. -/
  break? : Option Break
  /-- The word. -/
  word : Word

namespace Argument

/-- The characters of an argument, with the break if there is one. -/
def chars (a : Argument) : List Char :=
  a.break?.elim a.gap Break.chars ++ a.word.chars

/-- The argument without a break. -/
def joined (a : Argument) : Argument :=
  { a with break? := none }

end Argument

/-- A line of a keyword and arguments. -/
structure Line where
  /-- The indentation. -/
  indent : List Char
  /-- The keyword. -/
  keyword : Word
  /-- The arguments. -/
  arguments : List Argument
  /-- The blanks behind the last word. -/
  ending : List Char
  /-- The blanks behind a backslash, if the line itself goes on in the next. -/
  mark? : Option (List Char)
  /-- The indentation is blank. -/
  indent_blanks : Blanks indent
  /-- What stands behind the last word is blank. -/
  ending_blanks : Blanks ending
  /-- What stands behind a backslash is blank. -/
  mark_blanks : ∀ behind ∈ mark?, Blanks behind

namespace Line

/-- What stands behind the last word of a line. -/
def tail (line : Line) : List Char :=
  line.ending ++ line.mark?.elim [] ('\\' :: ·)

/-- The characters of a line, with its breaks. -/
def chars (line : Line) : List Char :=
  line.indent ++ (line.keyword.chars ++ (line.arguments.flatMap Argument.chars ++ line.tail))

/-- The line without breaks. -/
def joined (line : Line) : Line :=
  { line with arguments := line.arguments.map Argument.joined }

/-- The words of a line. -/
def words (line : Line) : List (List Char) :=
  line.keyword.chars :: line.arguments.map (·.word.chars)

/-- The number of breaks of a line. -/
def breaks (line : Line) : Nat :=
  line.arguments.countP (·.break?.isSome)

end Line

/-! ## How written lines are read -/

/-- Blanks are blank. -/
theorem Blanks.isBlank {s : List Char} (h : Blanks s) : ∀ c ∈ s, isBlank c = true :=
  fun c hc => (h c hc).1

/-- Blanks do not end a line. -/
theorem Blanks.notMem {s : List Char} (h : Blanks s) : '\n' ∉ s :=
  fun hmem => (h '\n' hmem).2 rfl

/-- A word does not end a line. -/
theorem Word.notMem (word : Word) : '\n' ∉ word.chars := fun hmem => by
  have hblank := word.not_blank '\n' hmem
  cases hblank

/-- Blanks at the end of a line do not matter. -/
theorem splitContinuation_append_blanks (text : List Char) {blanks : List Char}
    (h : ∀ c ∈ blanks, isBlank c = true) :
    splitContinuation (text ++ blanks) = splitContinuation text := by
  have htrim : trimEndChars (text ++ blanks) = trimEndChars text := by
    unfold trimEndChars
    rw [List.reverse_append, List.dropWhile_append_of_pos fun c hc => h c (List.mem_reverse.mp hc)]
  unfold splitContinuation
  rw [htrim]

/-- A carriage return at the end of a line does not matter. -/
theorem splitContinuation_dropLast (line : List Char) : splitContinuation
    (if line.getLast? == some '\r' then line.dropLast else line) = splitContinuation line := by
  split_ifs with hreturn
  · obtain ⟨text, rfl⟩ := List.getLast?_eq_some_iff.mp (beq_iff_eq.mp hreturn)
    rw [List.dropLast_concat, splitContinuation_append_blanks text (List.forall_mem_singleton.mpr rfl)]
  · rfl

/-- A line with a backslash at its end goes on. -/
theorem splitContinuation_mark (text : List Char) {behind : List Char}
    (h : ∀ c ∈ behind, isBlank c = true) : splitContinuation (text ++ '\\' :: behind) = (text, true) := by
  have hsplit : text ++ '\\' :: behind = (text ++ ['\\']) ++ behind := by
    rw [List.append_assoc, List.singleton_append]
  have htrim : trimEndChars (text ++ ['\\']) = text ++ ['\\'] :=
    trimEndChars_append_cons text (by decide) []
  rw [hsplit, splitContinuation_append_blanks _ h]
  unfold splitContinuation
  rw [htrim]
  dsimp only
  rw [List.getLast?_concat, List.dropLast_concat]
  rfl

/-- A line with a word at its end does not go on. -/
theorem splitContinuation_word (text : List Char) (word : Word) :
    splitContinuation (text ++ word.chars) = (text ++ word.chars, false) := by
  obtain ⟨front, last, hword⟩ := (List.eq_nil_or_concat' word.chars).resolve_left word.ne_nil
  have hlast : isBlank last = false := word.not_blank last (by rw [hword]; simp)
  have hclosed : last ≠ '\\' := fun heq => word.closed (by rw [hword, heq, List.getLast?_concat])
  have htrim : trimEndChars (text ++ (front ++ [last])) = text ++ (front ++ [last]) := by
    rw [← List.append_assoc]
    exact trimEndChars_append_cons _ hlast []
  unfold splitContinuation
  rw [hword, htrim, ← List.append_assoc]
  dsimp only
  rw [List.getLast?_concat]
  exact if_neg (by simpa using hclosed)

/-- A line stands before the lines of what follows behind its end. -/
theorem linesChars_line {line back : List Char} (hline : '\n' ∉ line) (hne : line ≠ [])
    (hback : ∀ c ∈ back.head?, c = '\n') : ∃ read,
      linesChars (line ++ back) = read :: linesChars back.tail ∧
        splitContinuation read = splitContinuation line := by
  cases back with
  | nil => exact ⟨line, by rw [List.append_nil, linesChars_of_notMem hline hne]; rfl, rfl⟩
  | cons c rest =>
    obtain rfl : c = '\n' := hback c rfl
    exact ⟨_, linesChars_append_cons hline rest, splitContinuation_dropLast line⟩

/-- Words behind those that an instruction goes on with go on with it too. -/
theorem continued_continued (pending : Option Instruction) (number next : Nat)
    (words more : List (List Char)) : continued (some (continued pending number words)) next more =
      continued pending number (words ++ more) := by
  cases pending with
  | none => rfl
  | some x => exact congrArg (Instruction.mk x.number) (List.append_assoc _ _ _)

/-- What stands behind the last word of a line has no words, and tells whether the line goes on. -/
theorem splitContinuation_tail (line : Line) (text : List Char) (word : Word) :
    goesOn (text ++ word.chars ++ line.tail) = line.mark?.isSome ∧
      lineWords (text ++ word.chars ++ line.tail) = wordsChars (text ++ word.chars) := by
  unfold goesOn lineWords Line.tail
  cases hmark : line.mark? with
  | none =>
    rw [Option.elim_none, List.append_nil, splitContinuation_append_blanks _ line.ending_blanks.isBlank,
      splitContinuation_word]
    exact ⟨rfl, rfl⟩
  | some behind =>
    rw [Option.elim_some, ← List.append_assoc,
      splitContinuation_mark _ (line.mark_blanks behind hmark).isBlank]
    exact ⟨rfl, wordsChars_append_blanks _ line.ending_blanks.isBlank⟩

/-- What stands behind the last word of a line does not end the line. -/
theorem Line.tail_notMem (line : Line) : '\n' ∉ line.tail := by
  refine List.not_mem_append line.ending_blanks.notMem ?_
  cases hmark : line.mark? with
  | none => exact List.not_mem_nil
  | some behind =>
    exact List.not_mem_cons_of_ne_of_not_mem (by decide) (line.mark_blanks behind hmark).notMem

/-- A word behind a gap is a word of its own. -/
theorem wordsChars_append_word (text : List Char) {gap : List Char} (hne : gap ≠ [])
    (hgap : Blanks gap) (word : Word) :
    wordsChars (text ++ gap ++ word.chars) = wordsChars text ++ [word.chars] := by
  obtain ⟨c, blanks, rfl⟩ := List.exists_cons_of_ne_nil hne
  have hblanks : ∀ x ∈ blanks, isBlank x = true := fun x hx =>
    hgap.isBlank x (List.mem_cons_of_mem c hx)
  rw [List.append_assoc, List.cons_append, wordsChars_append_cons text (hgap.isBlank c List.mem_cons_self),
    wordsChars_blanks_append hblanks, wordsChars_of_not_blank word.ne_nil word.not_blank]

/-- A break ends a line, and the instruction goes on with what stands behind the indentation. -/
theorem instructions_break (b : Break) {text : List Char} (htext : '\n' ∉ text)
    (pending : Option Instruction) (number : Nat) (rest : List Char) :
    instructions pending number (linesChars (text ++ (b.chars ++ rest))) =
      instructions (some (continued pending number (wordsChars text))) (number + 1)
        (linesChars (b.indent ++ rest)) := by
  have hline : '\n' ∉ text ++ b.before ++ '\\' :: b.behind :=
    List.not_mem_append (List.not_mem_append htext b.before_blanks.notMem)
      (List.not_mem_cons_of_ne_of_not_mem (by decide) b.behind_blanks.notMem)
  have hchars : text ++ (b.chars ++ rest) =
      (text ++ b.before ++ '\\' :: b.behind) ++ '\n' :: (b.indent ++ rest) := by
    simp [Break.chars]
  have hsplit := (splitContinuation_dropLast _).trans
    (splitContinuation_mark (text ++ b.before) b.behind_blanks.isBlank)
  rw [hchars, linesChars_append_cons hline, instructions_cons, goesOn, lineWords, hsplit,
    wordsChars_append_blanks text b.before_blanks.isBlank]
  rfl

/-- From a word on, a line adds its words to the instruction that is pending, over all its breaks. -/
theorem instructions_arguments (line : Line) {back : List Char} (hback : ∀ c ∈ back.head?, c = '\n')
    (arguments : List Argument) (pending : Option Instruction) (number : Nat)
    {front : List Char} (hfront : '\n' ∉ front) (word : Word) :
    instructions pending number (linesChars
        (front ++ word.chars ++ (arguments.flatMap Argument.chars ++ (line.tail ++ back)))) =
      resume line.mark?.isSome
        (continued pending number
          (wordsChars (front ++ word.chars) ++ arguments.map (·.word.chars)))
        (number + 1 + arguments.countP (·.break?.isSome)) (linesChars back.tail) := by
  have hword : '\n' ∉ front ++ word.chars := List.not_mem_append hfront word.notMem
  -- Along the arguments; with each the line in front grows, or is ended and begun anew.
  induction arguments generalizing pending number front word with
  | nil =>
    have hline : '\n' ∉ front ++ word.chars ++ line.tail := List.not_mem_append hword line.tail_notMem
    have hne : front ++ word.chars ++ line.tail ≠ [] := by
      simp [word.ne_nil]
    obtain ⟨read, hread, hsplit⟩ := linesChars_line hline hne hback
    obtain ⟨hgoes, hwords⟩ := splitContinuation_tail line front word
    rw [goesOn, ← hsplit] at hgoes
    rw [lineWords, ← hsplit] at hwords
    rw [List.flatMap_nil, List.nil_append, ← List.append_assoc, hread, instructions_cons, goesOn, lineWords,
      hgoes, hwords, List.map_nil, List.append_nil, List.countP_nil, Nat.add_zero]
  | cons a rest ih =>
    cases hbreak : a.break? with
    | none =>
      -- The word stands on the same line.
      have hgap : '\n' ∉ front ++ word.chars ++ a.gap := List.not_mem_append hword a.gap_blanks.notMem
      have htext : front ++ word.chars ++ ((a :: rest).flatMap Argument.chars ++ (line.tail ++ back)) =
          front ++ word.chars ++ a.gap ++ a.word.chars ++
            (rest.flatMap Argument.chars ++ (line.tail ++ back)) := by
        simp [Argument.chars, hbreak]
      rw [htext, ih pending number hgap a.word (List.not_mem_append hgap a.word.notMem),
        wordsChars_append_word _ a.gap_ne_nil a.gap_blanks, List.map_cons,
        List.countP_cons_of_neg (by simp [hbreak]), List.append_assoc, List.singleton_append]
    | some b =>
      -- The line ends before the word, and goes on in the next.
      have hindent := b.indent_blanks.notMem
      have htext : front ++ word.chars ++ ((a :: rest).flatMap Argument.chars ++ (line.tail ++ back)) =
          front ++ word.chars ++ (b.chars ++
            (a.word.chars ++ (rest.flatMap Argument.chars ++ (line.tail ++ back)))) := by
        simp [Argument.chars, hbreak]
      have hnext : wordsChars (b.indent ++ a.word.chars) = [a.word.chars] := by
        rw [wordsChars_blanks_append b.indent_blanks.isBlank,
          wordsChars_of_not_blank a.word.ne_nil a.word.not_blank]
      rw [htext, instructions_break b hword, ← List.append_assoc b.indent,
        ih _ (number + 1) hindent a.word (List.not_mem_append hindent a.word.notMem),
        continued_continued, hnext, List.map_cons, List.countP_cons_of_pos (by simp [hbreak]),
        List.singleton_append]
      congr 1
      omega

/-- A line adds its words to the instruction that is pending, over all its breaks. -/
theorem instructions_line (line : Line) {back : List Char} (hback : ∀ c ∈ back.head?, c = '\n')
    (pending : Option Instruction) (number : Nat) :
    instructions pending number (linesChars (line.chars ++ back)) =
      resume line.mark?.isSome (continued pending number line.words) (number + 1 + line.breaks)
        (linesChars back.tail) := by
  have htext : line.chars ++ back = line.indent ++ line.keyword.chars ++
      (line.arguments.flatMap Argument.chars ++ (line.tail ++ back)) := by
    unfold Line.chars
    simp only [List.append_assoc]
  have hkeyword : wordsChars (line.indent ++ line.keyword.chars) = [line.keyword.chars] := by
    rw [wordsChars_blanks_append line.indent_blanks.isBlank,
      wordsChars_of_not_blank line.keyword.ne_nil line.keyword.not_blank]
  rw [htext, instructions_arguments line hback line.arguments pending number
    line.indent_blanks.notMem line.keyword, hkeyword]
  rfl

/-- The words of a line do not change with its breaks. -/
theorem Line.words_joined (line : Line) : line.joined.words = line.words := by
  unfold Line.words Line.joined
  rw [List.map_map]
  rfl

/-- A line without breaks has none. -/
theorem Line.breaks_joined (line : Line) : line.joined.breaks = 0 := by
  unfold Line.breaks Line.joined
  rw [List.countP_map, List.countP_eq_zero]
  exact fun a _ => by simp [Argument.joined]

/-! ## Broken lines -/

/-- The number of a line when the line `number` is broken so many times. -/
def movedBehind (number breaks n : Nat) : Nat :=
  if n ≤ number then n else n + breaks

/-- The instructions from one on are moved if it stays where it is and the lines behind it are moved. -/
theorem resume_map {move : Nat → Nat} {count number : Nat} (hmove : ∀ n, number ≤ n → move n = n + count)
    {x : Instruction} (hstays : x.moved move = x) (goes : Bool) (lines : List (List Char)) :
    resume goes x (number + count) lines = (resume goes x number lines).map (.moved move) := by
  unfold resume
  split_ifs with hgoes
  · rw [← instructions_map hmove, Option.map_some, hstays]
  · rw [List.map_cons, hstays]
    exact congrArg _ (instructions_map hmove none lines)

/-- What stands on a line or before it stays where it is if the line is broken. -/
theorem moved_movedBehind {x : Instruction} {number : Nat} (h : x.number ≤ number) (breaks : Nat) :
    x.moved (movedBehind number breaks) = x :=
  congrArg (Instruction.mk · x.words) (if_pos h)

/-- An instruction has the words of a line, which stands behind a text whose lines are ended. -/
structure Instruction.HasLine (front : List Char) (words : List (List Char)) (x : Instruction) : Prop where
  /-- It begins with the line or before it. -/
  number_le : x.number ≤ front.count '\n' + 1
  /-- It ends with the words of the line. -/
  words_suffix : words <:+ x.words
  /-- It begins with the line if the line before does not go on. -/
  eq_of_ends : (∀ l ∈ (linesChars front).getLast?, ¬goesOn l = true) → x = ⟨front.count '\n' + 1, words⟩

/-- Where a line stands, there are instructions before it, and one that it begins or goes on with. -/
theorem exists_instructions_line {front : List Char} (hfront : ∀ c ∈ front.getLast?, c = '\n')
    (words : List (List Char)) : ∃ (ended : List Instruction) (x : Instruction),
      (∀ y ∈ ended, y.number ≤ front.count '\n' + 1) ∧ x.HasLine front words ∧
      ∀ line : Line, line.words = words → ∀ {back : List Char}, (∀ c ∈ back.head?, c = '\n') →
        instructions none 1 (linesChars (front ++ (line.chars ++ back))) =
          ended ++ resume line.mark?.isSome x (front.count '\n' + 2 + line.breaks)
            (linesChars back.tail) := by
  have hnone : ∀ p ∈ (none : Option Instruction), p.number < 1 :=
    fun p hp => absurd hp (Option.not_mem_none p)
  obtain ⟨ended, pending, h, hended, hpending, hends⟩ := instructions_append (linesChars front) hnone
  rw [length_linesChars_of_ended hfront, Nat.add_comm] at h hended hpending
  have hline : (continued pending (front.count '\n' + 1) words).HasLine front words := by
    constructor
    · cases pending with
      | none => exact le_rfl
      | some p => exact (hpending p rfl).le
    · cases pending with
      | none => exact List.suffix_rfl
      | some p => exact List.suffix_append p.words words
    · intro hlast
      rw [hends (.inr rfl) hlast]
      rfl
  refine ⟨ended, _, fun y hy => (hended y hy).le, hline, ?_⟩
  intro line hwords back hback
  rw [linesChars_append hfront, h, instructions_line line hback, hwords]

/-- Breaking a line at gaps between its words moves what is declared behind it. -/
theorem read_eq_map_renumbered (file : File) (line : Line) {front back : List Char}
    (hfront : ∀ c ∈ front.getLast?, c = '\n') (hback : ∀ c ∈ back.head?, c = '\n') :
    read file (String.ofList (front ++ (line.chars ++ back))) =
      (read file (String.ofList (front ++ (line.joined.chars ++ back)))).map
        (.renumbered (movedBehind (front.count '\n' + 1) line.breaks)) := by
  obtain ⟨ended, x, hended, hx, h⟩ := exists_instructions_line hfront line.words
  have hwhole := h line.joined line.words_joined hback
  rw [line.breaks_joined, Nat.add_zero] at hwhole
  have hmove : ∀ n, front.count '\n' + 2 ≤ n →
      movedBehind (front.count '\n' + 1) line.breaks n = n + line.breaks :=
    fun n hn => if_neg (by omega)
  -- What has begun before the line or with it stays where it is.
  have hstays := moved_movedBehind hx.number_le line.breaks
  have hkept : ended.map (.moved (movedBehind (front.count '\n' + 1) line.breaks)) = ended :=
    (List.map_congr_left fun y hy => moved_movedBehind (hended y hy) line.breaks).trans (List.map_id _)
  calc read file (String.ofList (front ++ (line.chars ++ back)))
      = declared file none (ended ++ resume line.mark?.isSome x
          (front.count '\n' + 2 + line.breaks) (linesChars back.tail)) := by
        rw [read_eq_declared, String.toList_ofList, h line rfl hback]
    _ = declared file none ((ended ++ resume line.mark?.isSome x (front.count '\n' + 2)
          (linesChars back.tail)).map
            (.moved (movedBehind (front.count '\n' + 1) line.breaks))) := by
        rw [List.map_append, hkept, resume_map hmove hstays]
    _ = (read file (String.ofList (front ++ (line.joined.chars ++ back)))).map
          (.renumbered (movedBehind (front.count '\n' + 1) line.breaks)) := by
        rw [declared_map, read_eq_declared, String.toList_ofList, hwhole]
        rfl

/-- A line that does not go on parts what is declared: what the lines up to it declare has no higher
number than it and ends with the ports of its own instruction, and what the lines behind it declare has
a higher one. -/
theorem exists_read_eq_append (file : File) {line : Line} (hends : line.mark? = none)
    {front back : List Char} (hfront : ∀ c ∈ front.getLast?, c = '\n')
    (hback : ∀ c ∈ back.head?, c = '\n') : ∃ (x : Instruction) (image : Option String)
      (before later : List Declaration), x.HasLine front line.words ∧
      read file (String.ofList (front ++ line.chars)) =
        before ++ (exposedBy x.words).map (declare file x.number image) ∧
      read file (String.ofList (front ++ (line.chars ++ back))) =
        read file (String.ofList (front ++ line.chars)) ++ later ∧
      (∀ d ∈ read file (String.ofList (front ++ line.chars)),
        ∃ n, d.line = some n ∧ n ≤ front.count '\n' + 1 + line.breaks) ∧
      ∀ d ∈ later, ∃ n, d.line = some n ∧ front.count '\n' + 1 + line.breaks < n := by
  obtain ⟨ended, x, hended, hx, h⟩ := exists_instructions_line hfront line.words
  have hwhole := h line rfl hback
  have hupTo : instructions none 1 (linesChars (front ++ line.chars)) = ended ++ [x] := by
    have hnil : ∀ c ∈ ([] : List Char).head?, c = '\n' := fun c hc => absurd hc (Option.not_mem_none c)
    have hlast := h line rfl hnil
    rwa [List.append_nil, hends] at hlast
  rw [hends] at hwhole
  -- What is declared before the line names the image for its ports, and the line names it for the rest.
  refine ⟨x, imageAfter none (ended.map (·.words)), declared file none ended,
    declared file (imageAfter none ((ended ++ [x]).map (·.words)))
      (instructions none (front.count '\n' + 2 + line.breaks) (linesChars back.tail)), hx, ?_, ?_,
    fun d hd => ?_, fun d hd => ?_⟩
  · rw [read_eq_declared, String.toList_ofList, hupTo, declared_append, declared, declared,
      List.append_nil]
  · rw [read_eq_declared, read_eq_declared, String.toList_ofList, String.toList_ofList, hupTo, hwhole,
      ← declared_append, List.append_assoc]
    rfl
  · rw [read_eq_declared, String.toList_ofList, hupTo] at hd
    obtain ⟨y, hy, hline⟩ := line_of_mem_declared hd
    refine ⟨y.number, hline, Nat.le_add_right_of_le ?_⟩
    rcases List.mem_append.mp hy with hy | hy
    · exact hended y hy
    · exact List.mem_singleton.mp hy ▸ hx.number_le
  · obtain ⟨y, hy, hline⟩ := line_of_mem_declared hd
    refine ⟨y.number, hline, Nat.lt_of_succ_le ?_⟩
    have hnone : ∀ p ∈ (none : Option Instruction),
        front.count '\n' + 2 + line.breaks ≤ p.number := fun p hp => absurd hp (Option.not_mem_none p)
    have hle := le_of_mem_instructions hnone le_rfl hy
    omega

/-- Breaking a line at gaps between its words changes nothing that a build file declares but the numbers
of later lines, which grow by the number of breaks. If the line does not go on itself, the ports of its
instruction are the last that have a number which does not change. -/
theorem read_broken (file : File) (line : Line) {front back : List Char}
    (hfront : ∀ c ∈ front.getLast?, c = '\n') (hback : ∀ c ∈ back.head?, c = '\n') :
    let number := front.count '\n' + 1
    let upTo := String.ofList (front ++ line.joined.chars)
    let whole := String.ofList (front ++ (line.joined.chars ++ back))
    let broken := String.ofList (front ++ (line.chars ++ back))
    read file broken = (read file whole).map (.renumbered (movedBehind number line.breaks)) ∧
      (line.mark? = none → ∃ (x : Instruction) (image : Option String)
        (before later : List Declaration), x.HasLine front line.words ∧
        read file upTo = before ++ (exposedBy x.words).map (declare file x.number image) ∧
        read file whole = read file upTo ++ later ∧
        (∀ d ∈ read file upTo, ∃ n, d.line = some n ∧ n ≤ number) ∧
          ∀ d ∈ later, ∃ n, d.line = some n ∧ number < n) := by
  intro number upTo whole broken
  refine ⟨read_eq_map_renumbered file line hfront hback, fun hends => ?_⟩
  have hends' : line.joined.mark? = none := hends
  have hparts := exists_read_eq_append file hends' hfront hback
  rwa [line.breaks_joined, Nat.add_zero, line.words_joined] at hparts

/-- A line with two ports behind tabs, broken before the second one. -/
def brokenExpose : Line where
  indent := []
  keyword := ⟨"EXPOSE".toList, by decide, by decide, by decide⟩
  arguments :=
    [⟨['\t'], by decide, by decide, none, ⟨"80".toList, by decide, by decide, by decide⟩⟩,
      ⟨['\t'], by decide, by decide, some ⟨[' '], ['\r'], [' ', ' '], by decide, by decide, by decide⟩,
        ⟨"443/udp".toList, by decide, by decide, by decide⟩⟩]
  ending := []
  mark? := none
  indent_blanks := by decide
  ending_blanks := by decide
  mark_blanks := fun behind h => absurd h (Option.not_mem_none behind)

/-- A break between two ports moves the ports of the instruction behind them. -/
theorem read_broken_expose :
    let file : File := ⟨⟨"api/Dockerfile"⟩, "api/Dockerfile", "svc"⟩
    let whole := "FROM alpine\nEXPOSE\t80\t443/udp\nEXPOSE 9090\n"
    let broken := "FROM alpine\nEXPOSE\t80 \\\r\n  443/udp\nEXPOSE 9090\n"
    let front := "FROM alpine\n".toList
    let back := "\nEXPOSE 9090\n".toList
    (∀ c ∈ front.getLast?, c = '\n') ∧ (∀ c ∈ back.head?, c = '\n') ∧ brokenExpose.mark? = none ∧
      read file broken = (read file whole).map (.renumbered (movedBehind 2 1)) ∧
      (∃ image before, read file "FROM alpine\nEXPOSE\t80\t443/udp" =
        before ++ (exposedBy brokenExpose.words).map (declare file 2 image)) ∧
      (read file whole).map (fun d => (d.containerPort, d.line)) =
        [(80, some 2), (443, some 2), (9090, some 3)] ∧
      (read file broken).map (fun d => (d.containerPort, d.line)) =
        [(80, some 2), (443, some 2), (9090, some 4)] := by
  intro file whole broken front back
  have hfront : ∀ c ∈ front.getLast?, c = '\n' := by decide
  have hback : ∀ c ∈ back.head?, c = '\n' := by decide
  obtain ⟨hmoved, hparts⟩ := read_broken file brokenExpose hfront hback
  obtain ⟨x, image, before, later, hx, hports, -⟩ := hparts rfl
  have hwhole : String.ofList (front ++ (brokenExpose.joined.chars ++ back)) = whole := by
    decide +kernel
  have hbroken : String.ofList (front ++ (brokenExpose.chars ++ back)) = broken := by
    decide +kernel
  have hupTo : String.ofList (front ++ brokenExpose.joined.chars) =
      "FROM alpine\nEXPOSE\t80\t443/udp" := by
    decide +kernel
  have hnumber : front.count '\n' + 1 = 2 := by decide
  have hbreaks : brokenExpose.breaks = 1 := by decide
  -- The line before does not go on, so the instruction begins with the broken line.
  have hends : ∀ l ∈ (linesChars front).getLast?, ¬goesOn l = true := by decide
  rw [hwhole, hbroken, hnumber, hbreaks] at hmoved
  rw [hupTo, hx.eq_of_ends hends, hnumber] at hports
  exact ⟨hfront, hback, rfl, hmoved, ⟨image, before, hports⟩, by decide +kernel, by decide +kernel⟩

end PortSurvey.Artifact.BuildFile
