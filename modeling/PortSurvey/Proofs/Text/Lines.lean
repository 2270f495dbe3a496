import Mathlib.Data.List.Basic
import Mathlib.Tactic.SplitIfs
import PortSurvey.Proofs.Text.Split
import PortSurvey.Text.Search

/-!
# Lines and places in a text

A line with its end is the first line of a text that begins with it (`linesChars_append_cons`), so that
any lines are the lines of some text (`exists_linesChars_eq`), and what holds of lines holds of texts by
induction on their lines (`lines_induction`). Lines that are ended do not depend on what stands behind
them (`linesChars_append`), and are as many as their ends (`length_linesChars_of_ended`).

The number of lines of a text grows with its characters one by one (`length_linesChars_cons`), and
so does the number of the line on which a character stands: every character stands on one of the
lines (`lineAt_le_length_linesChars`), and its line tells whether it stands in a piece at the front
of the text or behind it (`lineAt_le_count`, `count_lt_lineAt`). Further on in a text the lines have
no lower numbers (`lineAt_mono`). What is found in a text is found at one of its characters
(`lt_length_of_mem_occurrences`), and one after the other (`occurrences_pairwise`).
-/

namespace PortSurvey.Text

/-- The number of lines of a text: one for each line feed, and one more for what stands after the
last. -/
theorem length_linesChars (s : List Char) : (linesChars s).length =
    (s.splitOnP (· == '\n')).length - 1 +
      (if (s.splitOnP (· == '\n')).getLast? = some [] then 0 else 1) := by
  have hne : s.splitOnP (· == '\n') ≠ [] := List.splitOnP_ne_nil _ _
  unfold linesChars
  generalize s.splitOnP (· == '\n') = pieces at hne ⊢
  obtain ⟨last, hlast⟩ := Option.isSome_iff_exists.mp
    (List.getLast?_isSome.mpr hne)
  dsimp only
  rw [hlast]
  cases last with
  | nil => simp
  | cons x rest => simp

/-- A line feed ends a line; any other character stands on the first line of what follows, or on a
line of its own if nothing does. -/
theorem length_linesChars_cons (c : Char) (rest : List Char) :
    (linesChars (c :: rest)).length =
      if c = '\n' then (linesChars rest).length + 1 else max 1 (linesChars rest).length := by
  rw [length_linesChars, length_linesChars, List.splitOnP_cons_eq_if_modifyHead]
  have hne : rest.splitOnP (· == '\n') ≠ [] := List.splitOnP_ne_nil _ _
  generalize rest.splitOnP (· == '\n') = pieces at hne ⊢
  obtain ⟨first, more, rfl⟩ := List.exists_cons_of_ne_nil hne
  by_cases hc : c = '\n'
  · simp [hc]
    omega
  · cases more with
    | nil =>
      simp [hc]
      split_ifs <;> simp
    | cons second more =>
      simp [hc]
      omega

/-- What stands before a line feed makes up lines of its own. A carriage return before the end of a line
belongs to the end. -/
theorem linesChars_append_feed (text rest : List Char) : linesChars (text ++ '\n' :: rest) =
    (text.splitOnP (· == '\n')).map (fun l => if l.getLast? == some '\r' then l.dropLast else l) ++
      linesChars rest := by
  have hend : ('\n' == '\n') = true := rfl
  have hne : rest.splitOnP (· == '\n') ≠ [] := List.splitOnP_ne_nil _ _
  unfold linesChars
  rw [List.splitOnP_append_cons (p := (· == '\n')) text rest hend]
  generalize rest.splitOnP (· == '\n') = pieces at hne ⊢
  dsimp only
  rw [List.dropLast_append_of_ne_nil hne, List.getLast?_append_of_ne_nil _ hne, List.map_append]
  cases pieces.getLast? with
  | none => rfl
  | some last =>
    cases last with
    | nil => rfl
    | cons x more => exact List.append_assoc _ _ _

/-- A line with its end is the first of a text that begins with it. -/
theorem linesChars_append_cons {line : List Char} (hline : '\n' ∉ line) (rest : List Char) :
    linesChars (line ++ '\n' :: rest) =
      (if line.getLast? == some '\r' then line.dropLast else line) :: linesChars rest := by
  rw [linesChars_append_feed, splitOnP_of_notMem hline, List.map_singleton, List.singleton_append]

/-- A line without an end is the only one of its text. -/
theorem linesChars_of_notMem {line : List Char} (hline : '\n' ∉ line) (hne : line ≠ []) :
    linesChars line = [line] := by
  obtain ⟨c, rest, rfl⟩ := List.exists_cons_of_ne_nil hne
  unfold linesChars
  rw [splitOnP_of_notMem hline]
  rfl

/-- A text is empty, or it is a line without an end, or it begins with a line and its end. -/
theorem lines_induction {motive : List Char → Prop} (nil : motive [])
    (last : ∀ {line : List Char}, '\n' ∉ line → line ≠ [] → motive line)
    (ended : ∀ {line rest : List Char}, '\n' ∉ line → motive rest → motive (line ++ '\n' :: rest))
    (s : List Char) : motive s := by
  -- Along the lines; what is left of the text behind each is shorter.
  induction hlength : s.length using Nat.strong_induction_on generalizing s with
  | _ n ih =>
    by_cases hend : '\n' ∈ s
    · obtain ⟨line, rest, rfl, hline⟩ := List.eq_append_cons_of_mem hend
      refine ended hline (ih rest.length ?_ rest rfl)
      rw [← hlength, List.length_append, List.length_cons]
      omega
    · cases s with
      | nil => exact nil
      | cons c rest => exact last hend (List.cons_ne_nil c rest)

/-- Lines that are ended stay the same whatever stands behind them. -/
theorem linesChars_append {front : List Char} (h : ∀ c ∈ front.getLast?, c = '\n')
    (rest : List Char) : linesChars (front ++ rest) = linesChars front ++ linesChars rest := by
  rcases List.eq_nil_or_concat' front with rfl | ⟨text, c, rfl⟩
  · rfl
  · obtain rfl : c = '\n' := h c (by rw [List.getLast?_concat]; rfl)
    have hnil : linesChars [] = [] := rfl
    rw [List.append_assoc, List.singleton_append, linesChars_append_feed, linesChars_append_feed,
      hnil, List.append_nil]

/-- Lines that are ended are as many as their ends. -/
theorem length_linesChars_of_ended {front : List Char} (h : ∀ c ∈ front.getLast?, c = '\n') :
    (linesChars front).length = front.count '\n' := by
  induction front with
  | nil => rfl
  | cons c rest ih =>
    rw [length_linesChars_cons, List.count_cons]
    by_cases hc : c = '\n'
    · have hrest : ∀ x ∈ rest.getLast?, x = '\n' := fun x hx => h x (List.mem_getLast?_cons hx)
      rw [if_pos hc, ih hrest, hc]
      rfl
    · cases rest with
      | nil => exact absurd (h c rfl) hc
      | cons next more =>
        have hrest : ∀ x ∈ (next :: more).getLast?, x = '\n' := fun x hx => h x (by
          rwa [List.getLast?_cons_cons])
        have hpos : 0 < (next :: more).count '\n' := by
          have hlast := hrest _ (List.getLast_mem_getLast? (List.cons_ne_nil next more))
          exact List.count_pos_iff.mpr (hlast ▸ List.getLast_mem (List.cons_ne_nil next more))
        rw [if_neg hc, ih hrest, if_neg (by simpa using hc)]
        omega

/-- Only an empty text has no lines. -/
theorem linesChars_eq_nil_iff {s : List Char} : linesChars s = [] ↔ s = [] := by
  refine ⟨fun h => ?_, fun h => h ▸ rfl⟩
  induction s using lines_induction with
  | nil => rfl
  | last hline hne =>
    rw [linesChars_of_notMem hline hne] at h
    cases h
  | ended hline _ =>
    rw [linesChars_append_cons hline] at h
    cases h

/-- Lines without line feeds are the lines of some text. -/
theorem exists_linesChars_eq {lines : List (List Char)} (h : ∀ line ∈ lines, '\n' ∉ line) :
    ∃ content : String, linesChars content.toList = lines := by
  induction lines with
  | nil => exact ⟨"", rfl⟩
  | cons line rest ih =>
    obtain ⟨content, hcontent⟩ := ih fun l hl => h l (List.mem_cons_of_mem line hl)
    -- The carriage return keeps one that the line itself may end with.
    have hend : '\n' ∉ line ++ ['\r'] := by
      simpa using h line List.mem_cons_self
    refine ⟨String.ofList ((line ++ ['\r']) ++ '\n' :: content.toList), ?_⟩
    rw [String.toList_ofList, linesChars_append_cons hend, hcontent, List.getLast?_concat, List.dropLast_concat]
    rfl

/-- Every character of a text stands on one of its lines. -/
theorem lineAt_le_length_linesChars {s : List Char} {offset : Nat} (h : offset < s.length) :
    lineAt s offset ≤ (linesChars s).length := by
  induction s generalizing offset with
  | nil => exact absurd h (Nat.not_lt_zero _)
  | cons c rest ih =>
    rw [length_linesChars_cons]
    cases offset with
    | zero =>
      have hone : lineAt (c :: rest) 0 = 1 := by simp [lineAt]
      rw [hone]
      split_ifs <;> omega
    | succ offset =>
      have hrest := ih (Nat.lt_of_succ_lt_succ h)
      unfold lineAt at hrest ⊢
      rw [List.take_succ_cons, List.count_cons]
      by_cases hc : c = '\n'
      · simp only [hc, beq_self_eq_true, if_true]
        omega
      · simp only [hc, beq_iff_eq, if_false]
        omega

/-- A place in a piece that ends with a line feed stands on one of the lines of the piece. -/
theorem lineAt_le_count {before : List Char} (hend : before.getLast? = some '\n')
    (after : List Char) {offset : Nat} (h : offset < before.length) :
    lineAt (before ++ after) offset ≤ before.count '\n' := by
  have hne : before.drop offset ≠ [] := by
    rw [ne_eq, List.drop_eq_nil_iff]
    omega
  have hfeed : '\n' ∈ before.drop offset := by
    refine List.mem_of_getLast? ?_
    rw [← hend, ← List.getLast?_append_of_ne_nil (before.take offset) hne, List.take_append_drop]
  have hcount : before.count '\n' =
      (before.take offset).count '\n' + (before.drop offset).count '\n' := by
    rw [← List.count_append, List.take_append_drop]
  have hpos := List.count_pos_iff.mpr hfeed
  unfold lineAt
  rw [List.take_append_of_le_length (Nat.le_of_lt h)]
  omega

/-- A place behind a piece stands on a line behind those that the piece ends. -/
theorem count_lt_lineAt (before after : List Char) {offset : Nat} (h : before.length ≤ offset) :
    before.count '\n' < lineAt (before ++ after) offset := by
  unfold lineAt
  rw [List.take_append, List.take_of_length_le h, List.count_append]
  omega

/-- The lines of a text come in the order of their numbers. -/
theorem lineAt_mono (s : List Char) {m n : Nat} (h : m ≤ n) : lineAt s m ≤ lineAt s n := by
  have hprefix : s.take m <+: s.take n := List.take_prefix_take_left h
  have hcount := hprefix.sublist.count_le '\n'
  unfold lineAt
  omega

/-- What is found has the offset of one of the characters that were searched. -/
theorem bounds_of_mem_occurrencesFrom {α : Type} {p : Recogniser α} {offset skip : Nat}
    {prev : Option Char} {s : List Char} {x : Nat × α}
    (h : x ∈ occurrencesFrom p offset skip prev s) :
    offset ≤ x.1 ∧ x.1 < offset + s.length := by
  induction s generalizing offset skip prev with
  | nil => simp [occurrencesFrom] at h
  | cons c rest ih =>
    have hrest : ∀ {skip : Nat}, x ∈ occurrencesFrom p (offset + 1) skip (some c) rest →
        offset ≤ x.1 ∧ x.1 < offset + (c :: rest).length := by
      intro skip hx
      obtain ⟨hlo, hhi⟩ := ih hx
      rw [List.length_cons]
      omega
    cases skip with
    | succ skip =>
      rw [occurrencesFrom] at h
      exact hrest h
    | zero =>
      rw [occurrencesFrom] at h
      split at h
      · rcases List.mem_cons.mp h with rfl | hx
        · simp
        · exact hrest hx
      · exact hrest h

/-- What is found in a text has the offset of one of its characters. -/
theorem lt_length_of_mem_occurrences {α : Type} {p : Recogniser α} {s : List Char} {x : Nat × α}
    (h : x ∈ occurrences p s) : x.1 < s.length := by
  have hbounds := (bounds_of_mem_occurrencesFrom h).2
  rwa [Nat.zero_add] at hbounds

/-- What is found by a search has ascending offsets. -/
theorem occurrencesFrom_pairwise {α : Type} (p : Recogniser α) (offset skip : Nat)
    (prev : Option Char) (s : List Char) :
    (occurrencesFrom p offset skip prev s).Pairwise fun x y => x.1 < y.1 := by
  induction s generalizing offset skip prev with
  | nil => exact List.Pairwise.nil
  | cons c rest ih =>
    cases skip with
    | succ skip => exact ih (offset + 1) skip (some c)
    | zero =>
      rw [occurrencesFrom]
      split
      · -- What is found later stands behind the place where the search goes on.
        refine List.pairwise_cons.mpr ⟨fun x hx => ?_, ih (offset + 1) _ (some c)⟩
        have hbehind := (bounds_of_mem_occurrencesFrom hx).1
        dsimp only
        omega
      · exact ih (offset + 1) 0 (some c)

/-- What is found in a text has ascending offsets. -/
theorem occurrences_pairwise {α : Type} (p : Recogniser α) (s : List Char) :
    (occurrences p s).Pairwise fun x y => x.1 < y.1 :=
  occurrencesFrom_pairwise p 0 0 none s

end PortSurvey.Text
