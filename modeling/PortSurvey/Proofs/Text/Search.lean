import Mathlib.Data.List.Range
import PortSurvey.Text.Search

/-!
# What a search finds

A search passes over what it accepted, so that whether a place is looked at depends on all that
stands before it. A recogniser whose occurrences never begin inside one another (`Recogniser.Apart`)
is free of that: the search finds what is accepted at each place by itself (`occurrences_eq`). Other
searches are followed piece by piece: over a piece in which nothing is accepted
(`occurrencesFrom_of_quiet`), and over a piece that begins with what is accepted and has no more of
it (`occurrencesFrom_of_accepts`). What a piece yields does not depend on what stands around it if
nothing that is accepted reaches over its ends (`Recogniser.Yields`); such pieces are put together by
`Recogniser.Yields.append`. A search in a joined text finds what it finds in the first part, and goes on
behind it, if what is accepted in the first part does not depend on the second wherever the search looks
(`Recogniser.Steady.occurrencesFrom_append`).
-/

namespace PortSurvey.Text

variable {α : Type} {p : Recogniser α}

/-- What a recogniser accepts at an offset of a text. -/
def Recogniser.at? (p : Recogniser α) (s : List Char) (offset : Nat) : Option (α × Nat) :=
  p (s.take offset).getLast? (s.drop offset)

/-- What a recogniser accepts does not begin inside what it accepts. -/
def Recogniser.Apart (p : Recogniser α) : Prop :=
  ∀ {prev : Option Char} {s : List Char} {a : α} {n : Nat}, p prev s = some (a, n) →
    ∀ k, 0 < k → k < n → p.at? s k = none

/-- At the offset where two pieces meet, a recogniser sees the end of one and all of the other. -/
theorem Recogniser.at?_append (p : Recogniser α) (before s : List Char) :
    p.at? (before ++ s) before.length = p before.getLast? s := by
  unfold Recogniser.at?
  rw [List.take_left, List.drop_left]

/-- What stands before a piece does not matter further inside it. -/
theorem Recogniser.at?_append_add (p : Recogniser α) (before : List Char) {s : List Char} {k : Nat}
    (hs : s ≠ []) (hk : 0 < k) : p.at? (before ++ s) (before.length + k) = p.at? s k := by
  have hne : s.take k ≠ [] := by
    rw [ne_eq, List.take_eq_nil_iff]
    rintro (rfl | hnil)
    · exact Nat.lt_irrefl 0 hk
    · exact hs hnil
  unfold Recogniser.at?
  rw [List.take_length_add_append, List.drop_length_add_append,
    List.getLast?_append_of_ne_nil _ hne]

/-- A search that goes on in a text finds what is accepted at each of the places left, if nothing is
accepted at those that it passes over. -/
theorem occurrencesFrom_eq (hp : p.Apart) (before s : List Char) {skip : Nat}
    (hskip : ∀ k < skip, p.at? (before ++ s) (before.length + k) = none) :
    occurrencesFrom p before.length skip before.getLast? s =
      (List.range' before.length s.length).filterMap fun offset =>
        (p.at? (before ++ s) offset).map fun x => (offset, x.1) := by
  -- The pieces meet one character further on with every step.
  induction s generalizing before skip with
  | nil => simp [occurrencesFrom]
  | cons c rest ih =>
    have hmove : before ++ c :: rest = (before ++ [c]) ++ rest := by simp
    have hlength : (before ++ [c]).length = before.length + 1 := by simp
    have hlast : (before ++ [c]).getLast? = some c := by simp
    have hih := @ih (before ++ [c])
    simp only [← hmove, hlength, hlast] at hih
    rw [List.length_cons, List.range'_succ, List.filterMap_cons]
    cases skip with
    | succ skip =>
      have hfirst : p.at? (before ++ c :: rest) before.length = none :=
        hskip 0 (Nat.succ_pos skip)
      rw [occurrencesFrom, hfirst, hih fun k hk => ?_]
      · rfl
      · have hnext := hskip (k + 1) (Nat.succ_lt_succ hk)
        rwa [Nat.add_comm k 1, ← Nat.add_assoc] at hnext
    | zero =>
      rw [occurrencesFrom, Recogniser.at?_append]
      cases haccepts : p before.getLast? (c :: rest) with
      | none => exact hih fun k hk => absurd hk (Nat.not_lt_zero k)
      | some x =>
        obtain ⟨a, n⟩ := x
        refine congrArg ((before.length, a) :: ·) (hih fun k hk => ?_)
        rw [Nat.add_assoc, Nat.add_comm 1 k]
        rw [Recogniser.at?_append_add p before (List.cons_ne_nil c rest) (Nat.succ_pos k)]
        exact hp haccepts (k + 1) (Nat.succ_pos k) (by omega)

/-- A search finds what is accepted at each place, if what is accepted does not begin inside what
is accepted. -/
theorem occurrences_eq (hp : p.Apart) (s : List Char) : occurrences p s =
    (List.range s.length).filterMap fun offset => (p.at? s offset).map fun x => (offset, x.1) := by
  rw [List.range_eq_range']
  exact occurrencesFrom_eq hp [] s fun k hk => absurd hk (Nat.not_lt_zero k)

/-- The last character of a piece, or else what stands before it, moves on with each character. -/
theorem getLast?_or_cons (c : Char) (s : List Char) (prev : Option Char) :
    (c :: s).getLast?.or prev = s.getLast?.or (some c) := by
  rw [List.getLast?_cons, Option.some_or]
  cases s.getLast? <;> rfl

/-- A search passes over a piece in which nothing is accepted behind what it skips. -/
theorem occurrencesFrom_of_quiet {offset skip : Nat} {prev : Option Char} {piece : List Char}
    (rest : List Char) (hskip : skip ≤ piece.length)
    (hquiet : ∀ k, skip ≤ k → k < piece.length →
      p ((piece.take k).getLast?.or prev) (piece.drop k ++ rest) = none) :
    occurrencesFrom p offset skip prev (piece ++ rest) =
      occurrencesFrom p (offset + piece.length) 0 (piece.getLast?.or prev) rest := by
  induction piece generalizing offset skip prev with
  | nil => rw [Nat.le_zero.mp hskip]; rfl
  | cons c piece ih =>
    have hnext : ∀ k, skip - 1 ≤ k → k < piece.length →
        p ((piece.take k).getLast?.or (some c)) (piece.drop k ++ rest) = none := by
      intro k hlow hlt
      have hk := hquiet (k + 1) (by omega) (Nat.succ_lt_succ hlt)
      rwa [List.take_succ_cons, getLast?_or_cons, List.drop_succ_cons] at hk
    have hlength : offset + (c :: piece).length = offset + 1 + piece.length := by
      rw [List.length_cons]
      omega
    rw [List.length_cons] at hskip
    rw [hlength, getLast?_or_cons, ← ih (by omega) hnext, List.cons_append]
    cases skip with
    | succ skip => rw [occurrencesFrom, Nat.add_sub_cancel]
    | zero =>
      have hfirst : p prev (c :: (piece ++ rest)) = none :=
        hquiet 0 (Nat.le_refl 0) (Nat.succ_pos _)
      rw [occurrencesFrom, hfirst]

/-- A search finds what is accepted at the front of a piece, and passes over the rest of the piece
if nothing is accepted behind it. -/
theorem occurrencesFrom_of_accepts {offset n : Nat} {prev : Option Char} {piece : List Char}
    (rest : List Char) {a : α} (haccepts : p prev (piece ++ rest) = some (a, n)) (hpos : 0 < n)
    (hn : n ≤ piece.length)
    (hquiet : ∀ k, n ≤ k → k < piece.length →
      p ((piece.take k).getLast?.or prev) (piece.drop k ++ rest) = none) :
    occurrencesFrom p offset 0 prev (piece ++ rest) =
      (offset, a) ::
        occurrencesFrom p (offset + piece.length) 0 (piece.getLast?.or prev) rest := by
  rw [← occurrencesFrom_of_quiet rest hn hquiet]
  cases piece with
  | nil => exact absurd hpos (Nat.not_lt.mpr hn)
  | cons c piece =>
    obtain ⟨n, rfl⟩ := Nat.exists_eq_succ_of_ne_zero (Nat.ne_of_gt hpos)
    rw [List.cons_append] at haccepts ⊢
    rw [occurrencesFrom, occurrencesFrom, haccepts]
    rfl

/-! ## Pieces -/

/-- What a piece yields to a search that comes from what `before` allows and goes on to what `behind`
allows: what is found has its place in the piece, and the search goes on behind the piece. -/
def Recogniser.YieldsBetween (p : Recogniser α) (before : Option Char → Prop)
    (behind : List Char → Prop) (piece : List Char) (what : List α) : Prop :=
  ∀ offset prev rest, before prev → behind rest → ∃ found : List (Nat × α),
    occurrencesFrom p offset 0 prev (piece ++ rest) =
      found ++ occurrencesFrom p (offset + piece.length) 0 (piece.getLast?.or prev) rest ∧
    found.map Prod.snd = what ∧ ∀ x ∈ found, offset ≤ x.1 ∧ x.1 < offset + piece.length

/-- What a piece yields to a search, whatever stands before it and behind it. -/
def Recogniser.Yields (p : Recogniser α) (piece : List Char) (what : List α) : Prop :=
  p.YieldsBetween (fun _ => True) (fun _ => True) piece what

namespace Recogniser

variable {before before' : Option Char → Prop} {behind behind' : List Char → Prop}
  {first second : List Char} {what more : List α}

/-- Two pieces yield what each of them does, if each allows the other. -/
theorem YieldsBetween.append (hfirst : p.YieldsBetween before behind first what)
    (hsecond : p.YieldsBetween before' behind' second more)
    (hprev : ∀ prev, before prev → before' (first.getLast?.or prev))
    (hrest : ∀ rest, behind' rest → behind (second ++ rest)) :
    p.YieldsBetween before behind' (first ++ second) (what ++ more) := by
  intro offset prev rest hbefore hbehind
  obtain ⟨found, heq, hwhat, hbounds⟩ :=
    hfirst offset prev (second ++ rest) hbefore (hrest rest hbehind)
  obtain ⟨found', heq', hmore, hbounds'⟩ :=
    hsecond (offset + first.length) (first.getLast?.or prev) rest (hprev prev hbefore) hbehind
  refine ⟨found ++ found', ?_, ?_, fun x hx => ?_⟩
  · rw [List.append_assoc, heq, heq', List.append_assoc, List.length_append, Nat.add_assoc,
      List.getLast?_append, Option.or_assoc]
  · rw [List.map_append, hwhat, hmore]
  · rw [List.length_append]
    rcases List.mem_append.mp hx with hx | hx
    · have hbound := hbounds x hx
      omega
    · have hbound := hbounds' x hx
      omega

/-- A piece in which nothing is accepted yields nothing. -/
theorem YieldsBetween.of_quiet {piece : List Char} (hquiet : ∀ prev rest, before prev →
      behind rest → ∀ k < piece.length,
        p ((piece.take k).getLast?.or prev) (piece.drop k ++ rest) = none) :
    p.YieldsBetween before behind piece [] :=
  fun _ prev rest hprev hrest => ⟨[], occurrencesFrom_of_quiet rest (Nat.zero_le _)
    fun k _ hk => hquiet prev rest hprev hrest k hk, rfl, fun _ hx => absurd hx List.not_mem_nil⟩

/-- What a piece yields anywhere it yields between pieces that do not allow everything. -/
theorem Yields.between {piece : List Char} (h : p.Yields piece what)
    (before : Option Char → Prop) (behind : List Char → Prop) :
    p.YieldsBetween before behind piece what :=
  fun offset prev rest _ _ => h offset prev rest trivial trivial

/-- Two pieces yield what each of them does. -/
theorem Yields.append (hfirst : p.Yields first what) (hsecond : p.Yields second more) :
    p.Yields (first ++ second) (what ++ more) :=
  YieldsBetween.append hfirst hsecond (fun _ _ => trivial) fun _ _ => trivial

/-- Pieces in a row yield what each of them does. -/
theorem Yields.flatMap {β : Type} {pieces : List β} {text : β → List Char} {what : β → List α}
    (h : ∀ b ∈ pieces, p.Yields (text b) (what b)) :
    p.Yields (pieces.flatMap text) (pieces.flatMap what) := by
  induction pieces with
  | nil => exact YieldsBetween.of_quiet fun _ _ _ _ k hk => absurd hk (Nat.not_lt_zero k)
  | cons b pieces ih =>
    rw [List.flatMap_cons, List.flatMap_cons]
    exact (h b List.mem_cons_self).append (ih fun c hc => h c (List.mem_cons_of_mem b hc))

end Recogniser

/-! ## Searches of joined texts -/

/-- A search that begins further on finds the same further on. -/
theorem occurrencesFrom_add (p : Recogniser α) (offset d skip : Nat) (prev : Option Char)
    (s : List Char) : occurrencesFrom p (offset + d) skip prev s =
      (occurrencesFrom p offset skip prev s).map (Prod.map (· + d) id) := by
  induction s generalizing offset skip prev with
  | nil => rfl
  | cons c rest ih =>
    have hnext : offset + d + 1 = offset + 1 + d := Nat.add_right_comm offset d 1
    cases skip with
    | succ skip => rw [occurrencesFrom, occurrencesFrom, hnext, ih]
    | zero =>
      rw [occurrencesFrom, occurrencesFrom, hnext]
      cases p prev (c :: rest) with
      | none => exact ih (offset + 1) 0 (some c)
      | some x => exact congrArg (_ :: ·) (ih (offset + 1) (x.2 - 1) (some c))

/-- What a recogniser accepts uses no more characters than there are. -/
def Recogniser.Fits (p : Recogniser α) : Prop :=
  ∀ {prev : Option Char} {s : List Char} {a : α} {n : Nat}, p prev s = some (a, n) → n ≤ s.length

/-- What a recogniser accepts in a text does not depend on what follows from a character on. -/
def Recogniser.StopsAt (p : Recogniser α) (c : Char) : Prop :=
  ∀ prev s rest, p prev (s ++ c :: rest) = p prev s

/-- At each place of a piece, what a recogniser accepts does not depend on what follows, or else it
accepts something with `rest` behind the piece although the place does not have `good`. -/
def Recogniser.Steady (p : Recogniser α) (follows : List Char → Prop) (good : Nat → Prop)
    (rest : List Char) (offset : Nat) (prev : Option Char) (piece : List Char) : Prop :=
  ∀ k < piece.length,
    (∀ t, follows t → p ((piece.take k).getLast?.or prev) (piece.drop k ++ t) =
      p ((piece.take k).getLast?.or prev) (piece.drop k)) ∨
    (p ((piece.take k).getLast?.or prev) (piece.drop k ++ rest) ≠ none ∧ ¬ good (offset + k))

/-- The rest of a steady piece is steady. -/
theorem Recogniser.Steady.tail {follows : List Char → Prop} {good : Nat → Prop}
    {rest piece : List Char} {offset : Nat} {prev : Option Char} {c : Char}
    (h : p.Steady follows good rest offset prev (c :: piece)) :
    p.Steady follows good rest (offset + 1) (some c) piece := by
  intro k hk
  have hplace := h (k + 1) (Nat.succ_lt_succ hk)
  rw [List.take_succ_cons, getLast?_or_cons, List.drop_succ_cons, Nat.add_comm k 1,
    ← Nat.add_assoc] at hplace
  exact hplace

/-- In a steady piece a search finds what it finds in the piece alone and goes on behind it, whatever
follows, if all that it finds with `rest` behind the piece is at places that have `good`. -/
theorem Recogniser.Steady.occurrencesFrom_append (hp : p.Fits) {follows : List Char → Prop}
    {good : Nat → Prop} {offset skip : Nat} {prev : Option Char} {piece rest : List Char}
    (hsteady : p.Steady follows good rest offset prev piece) (hskip : skip ≤ piece.length)
    (hrest : follows rest)
    (hgood : ∀ x ∈ occurrencesFrom p offset skip prev (piece ++ rest), good x.1)
    {t : List Char} (ht : follows t) :
    occurrencesFrom p offset skip prev (piece ++ t) = occurrencesFrom p offset skip prev piece ++
      occurrencesFrom p (offset + piece.length) 0 (piece.getLast?.or prev) t := by
  induction piece generalizing offset skip prev with
  | nil => rw [Nat.le_zero.mp hskip]; rfl
  | cons c piece ih =>
    have hlength : offset + (c :: piece).length = offset + 1 + piece.length := by
      rw [List.length_cons]
      omega
    rw [hlength, getLast?_or_cons, List.cons_append]
    rw [List.cons_append] at hgood
    rw [List.length_cons] at hskip
    cases skip with
    | succ skip =>
      rw [occurrencesFrom] at hgood ⊢
      rw [occurrencesFrom]
      exact ih hsteady.tail (Nat.le_of_succ_le_succ hskip) hgood
    | zero =>
      rcases hsteady 0 (Nat.succ_pos _) with hfirst | ⟨hfirst, hbad⟩
      · have hsee : ∀ t, follows t → p prev (c :: (piece ++ t)) = p prev (c :: piece) := hfirst
        rw [occurrencesFrom, hsee rest hrest] at hgood
        rw [occurrencesFrom, hsee t ht, occurrencesFrom]
        cases haccepts : p prev (c :: piece) with
        | none =>
          rw [haccepts] at hgood
          exact ih hsteady.tail (Nat.zero_le _) hgood
        | some x =>
          rw [haccepts] at hgood
          have hfits : x.2 - 1 ≤ piece.length := by
            have hle := hp haccepts
            rw [List.length_cons] at hle
            omega
          exact congrArg (_ :: ·)
            (ih hsteady.tail hfits fun y hy => hgood y (List.mem_cons_of_mem _ hy))
      · -- What is accepted here would be found.
        have haccepts : p prev (c :: (piece ++ rest)) ≠ none := hfirst
        rw [occurrencesFrom] at hgood
        cases hx : p prev (c :: (piece ++ rest)) with
        | none => exact absurd hx haccepts
        | some x =>
          rw [hx] at hgood
          exact absurd (hgood _ List.mem_cons_self) hbad

/-- A search in a text that goes on with a character at which a recogniser stops finds what it finds
up to there, and goes on. -/
theorem Recogniser.StopsAt.occurrencesFrom_append {c : Char} (hp : p.Fits) (hstops : p.StopsAt c)
    (offset : Nat) (prev : Option Char) (s rest : List Char) :
    occurrencesFrom p offset 0 prev (s ++ c :: rest) = occurrencesFrom p offset 0 prev s ++
      occurrencesFrom p (offset + s.length) 0 (s.getLast?.or prev) (c :: rest) := by
  have hsteady : p.Steady (fun t => ∃ more, t = c :: more) (fun _ => True) (c :: rest) offset prev s :=
    fun k _ => .inl fun t ⟨more, ht⟩ => ht ▸ hstops _ _ _
  exact hsteady.occurrencesFrom_append hp (Nat.zero_le _) ⟨rest, rfl⟩ (fun _ _ => trivial) ⟨rest, rfl⟩

/-- A search in joined texts for what does not begin inside of what is accepted finds what there is in
the first, and goes on in the second. -/
theorem Recogniser.Apart.exists_occurrencesFrom_append (hp : p.Apart)
    (before first second : List Char) : ∃ found,
      occurrencesFrom p before.length 0 before.getLast? (first ++ second) =
        found ++ occurrencesFrom p (before ++ first).length 0 (before ++ first).getLast? second ∧
      ∀ x ∈ found, before.length ≤ x.1 ∧ x.1 < (before ++ first).length := by
  have hfree : ∀ {b s : List Char}, ∀ k < 0, p.at? (b ++ s) (b.length + k) = none :=
    fun k hk => absurd hk (Nat.not_lt_zero k)
  refine ⟨(List.range' before.length first.length).filterMap fun offset =>
    (p.at? (before ++ (first ++ second)) offset).map fun x => (offset, x.1), ?_, fun x hx => ?_⟩
  · rw [occurrencesFrom_eq hp before _ hfree, occurrencesFrom_eq hp (before ++ first) _ hfree,
      List.length_append, ← List.range'_append_1, List.filterMap_append, List.append_assoc,
      List.length_append]
  · obtain ⟨offset, hoffset, hfound⟩ := List.mem_filterMap.mp hx
    obtain ⟨y, -, rfl⟩ := Option.map_eq_some_iff.mp hfound
    rw [List.length_append]
    exact List.mem_range'_1.mp hoffset

end PortSurvey.Text
