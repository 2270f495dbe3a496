import PortSurvey.Proofs.Except
import PortSurvey.Proofs.Port.Written

/-!
# The grammar of ports

A text denotes a port if it is a numeral of one, blanks at its ends apart (`Denotes`). It covers that
port, or the ports from the one before its first hyphen to the one behind it (`Covers`). These are the
texts that are read (`read?_eq_some_iff`, `readRange?_eq_some_iff`), and what is read are at most a hundred
ports, each behind the one before it (`Covers.isRun`).

Words of sixteen bits are enough for that. `wordRange?` reads ports with them, and fails where a difference
or a successor is none of them. It never does, as no difference is taken before its two ports are known to
be in order, and no successor of the last port (`exists_wordRange?_eq`).
-/

namespace PortSurvey.Port

open Text

variable {s before after : List Char} {port : Nat} {ports : List Nat}

/-! ## Ports -/

/-- A text denotes a port: it is a numeral of it, blanks at its ends apart. -/
def Denotes (s : List Char) (port : Nat) : Prop :=
  Numeral.Denotes (trimChars s) port ∧ Valid port

/-- A text is read as the port that it denotes. -/
theorem read?_eq_some_iff : read? s = some port ↔ Denotes s port := by
  constructor
  · intro h
    exact ⟨(Numeral.read_eq_ok_iff.mp (read_of_read?_eq_some h)).1, read?_valid h⟩
  · rintro ⟨hdenotes, hpos, hle⟩
    unfold read?
    rw [Numeral.read_eq_ok_iff.mpr ⟨hdenotes, hle⟩]
    cases port with
    | zero => cases hpos
    | succ port => rfl

/-! ## Ranges -/

/-- A text covers ports: the one that it denotes if it has no hyphen, or else those from the one before
its first hyphen to the one behind it, if these are in order and less than a hundred apart. -/
inductive Covers : List Char → List Nat → Prop
  /-- A port stands alone. -/
  | single {s : List Char} {port : Nat} (hs : '-' ∉ s) (h : Denotes s port) : Covers s [port]
  /-- The first and the last port stand before a hyphen and behind it. -/
  | range {before after : List Char} {first last : Nat} (hbefore : '-' ∉ before)
    (hfirst : Denotes before first) (hlast : Denotes after last) (hle : first ≤ last)
    (hwidth : last - first < 100) :
    Covers (before ++ '-' :: after) (List.range' first (last - first + 1))

/-- Ports that follow one another: at least one and at most a hundred. -/
structure IsRun (ports : List Nat) : Prop where
  /-- There is a port. -/
  ne_nil : ports ≠ []
  /-- There are no more than a hundred. -/
  length_le : ports.length ≤ 100
  /-- Each is the successor of the one before it. -/
  isChain : ports.IsChain fun port next => next = port + 1
  /-- Each is a port. -/
  valid : ∀ port ∈ ports, Valid port

/-- What a text covers is ports that follow one another. -/
theorem Covers.isRun (h : Covers s ports) : IsRun ports := by
  cases h with
  | @single _ port _ h =>
    exact ⟨List.cons_ne_nil _ _, by rw [List.length_singleton]; decide, List.IsChain.singleton port,
      List.forall_mem_singleton.mpr h.2⟩
  | @range _ _ first last _ hfirst hlast hle hwidth =>
    refine ⟨List.ne_nil_of_length_pos ?_, ?_, List.isChain_range' first _ 1, ?_⟩
    · rw [List.length_range']
      exact Nat.succ_pos _
    · rw [List.length_range']
      exact hwidth
    · intro port hport
      rw [List.mem_range'_1] at hport
      exact ⟨Nat.le_trans hfirst.2.1 hport.1, Nat.le_trans (by omega) hlast.2.2⟩

/-- So many ports from one on. -/
theorem consecutive_eq_range' (first n : Nat) : consecutive first n = List.range' first n :=
  List.range'_eq_map_range.symm

/-- A text with a hyphen is read as the ports from the one that it denotes before it to the one behind it.
-/
theorem readRange?_append_eq_some_iff (h : '-' ∉ before) :
    readRange? (before ++ '-' :: after) = some ports ↔ ∃ first last,
      Denotes before first ∧ Denotes after last ∧ first ≤ last ∧ last - first < 100 ∧
        List.range' first (last - first + 1) = ports := by
  simp only [readRange?_append h, Option.bind_eq_some_iff, Option.ite_none_right_eq_some,
    Option.some.injEq, read?_eq_some_iff, consecutive_eq_range']
  constructor
  · rintro ⟨first, hfirst, last, hlast, ⟨hle, hwidth⟩, hports⟩
    exact ⟨first, last, hfirst, hlast, hle, hwidth, hports⟩
  · rintro ⟨first, last, hfirst, hlast, hle, hwidth, hports⟩
    exact ⟨first, hfirst, last, hlast, ⟨hle, hwidth⟩, hports⟩

/-- A text is read as the ports that it covers. -/
theorem readRange?_eq_some_iff : readRange? s = some ports ↔ Covers s ports := by
  constructor
  · intro h
    by_cases hhyphen : '-' ∈ s
    · obtain ⟨before, after, rfl, hbefore⟩ := List.eq_append_cons_of_mem hhyphen
      obtain ⟨first, last, hfirst, hlast, hle, hwidth, rfl⟩ :=
        (readRange?_append_eq_some_iff hbefore).mp h
      exact .range hbefore hfirst hlast hle hwidth
    · rw [readRange?_of_notMem hhyphen] at h
      obtain ⟨port, hread, rfl⟩ := Option.map_eq_some_iff.mp h
      exact .single hhyphen (read?_eq_some_iff.mp hread)
  · intro h
    cases h with
    | single hs h =>
      rw [readRange?_of_notMem hs, read?_eq_some_iff.mpr h]
      rfl
    | range hbefore hfirst hlast hle hwidth =>
      exact (readRange?_append_eq_some_iff hbefore).mpr ⟨_, _, hfirst, hlast, hle, hwidth, rfl⟩

/-! ## Words of sixteen bits -/

/-- A word of sixteen bits. -/
abbrev Word : Type := BitVec 16

/-- Why a number is no word. -/
inductive Overflow
  /-- It is less than zero. -/
  | below
  /-- It is greater than the greatest word. -/
  | above

/-- The difference of two words. -/
def Word.sub (m n : Word) : Except Overflow Word :=
  if BitVec.usubOverflow m n then .error .below else .ok (m - n)

/-- The successor of a word. -/
def Word.next (n : Word) : Except Overflow Word :=
  if BitVec.uaddOverflow n 1 then .error .above else .ok (n + 1)

/-- A word and so many of those behind it. -/
def Word.run (first : Word) : Nat → Except Overflow (List Word)
  | 0 => .ok [first]
  | n + 1 => do
    let next ← first.next
    let rest ← run next n
    return first :: rest

/-- The words from one to another, if these are in order and not too far apart. -/
def Word.range? (first last : Word) : Except Overflow (Option (List Word)) :=
  if last < first then .ok none
  else do
    let width ← last.sub first
    if maxRange ≤ width.toNat then return none
    let words ← first.run width.toNat
    return some words

/-- Reads a port as a word. -/
def readWord? (s : List Char) : Option Word :=
  (read? s).map (BitVec.ofNat 16)

/-- Reads a port or a range of ports as words. -/
def wordRange? (s : List Char) : Except Overflow (Option (List Word)) :=
  match splitOnce '-' s with
  | none => .ok ((readWord? s).map ([·]))
  | some (before, after) =>
    match readWord? before, readWord? after with
    | some first, some last => first.range? last
    | _, _ => .ok none

/-- The difference of words that are in order is a word. -/
theorem Word.sub_eq {m n : Word} (h : n ≤ m) : Word.sub m n = .ok (m - n) := by
  have hle : ¬m.toNat < n.toNat := Nat.not_lt_of_le h
  unfold Word.sub BitVec.usubOverflow
  rw [decide_eq_false hle]
  rfl

/-- The successor of a word that is less than the greatest is a word. -/
theorem Word.exists_next_eq (n : Word) (h : n.toNat < maxPort) :
    ∃ next, Word.next n = .ok next ∧ next.toNat = n.toNat + 1 := by
  have hone : (1 : Word).toNat = 1 := rfl
  have hlt : n.toNat + 1 < 2 ^ 16 := Nat.succ_lt_succ h
  have hfits : ¬n.toNat + (1 : Word).toNat ≥ 2 ^ 16 := Nat.not_le_of_lt hlt
  refine ⟨n + 1, ?_, ?_⟩
  · unfold Word.next BitVec.uaddOverflow
    rw [decide_eq_false hfits]
    rfl
  · rw [BitVec.toNat_add, hone, Nat.mod_eq_of_lt hlt]

/-- A word and those behind it are the numbers from it on, if there are so many words. -/
theorem Word.exists_run_eq (first : Word) (n : Nat) (h : first.toNat + n ≤ maxPort) :
    ∃ words, first.run n = .ok words ∧
      words.map BitVec.toNat = List.range' first.toNat (n + 1) := by
  -- On the number of words behind the first; the bound moves on with the first.
  induction n generalizing first with
  | zero => exact ⟨[first], rfl, rfl⟩
  | succ n ih =>
    obtain ⟨next, hnext, hvalue⟩ := Word.exists_next_eq first (by omega)
    obtain ⟨rest, hrest, hvalues⟩ := ih next (by omega)
    refine ⟨first :: rest, ?_, ?_⟩
    · exact Except.bind_eq_ok_iff.mpr ⟨next, hnext, Except.bind_eq_ok_iff.mpr ⟨rest, hrest, rfl⟩⟩
    · rw [List.map_cons, hvalues, hvalue]
      rfl

/-- The words from one to another are the numbers from one to the other. A difference is taken only of
words that are in order, and the successor only of words before the last. -/
theorem Word.exists_range?_eq (first last : Word) : ∃ words, first.range? last = .ok words ∧
    words.map (List.map BitVec.toNat) =
      if first.toNat ≤ last.toNat ∧ last.toNat - first.toNat < maxRange then
        some (consecutive first.toNat (last.toNat - first.toNat + 1)) else none := by
  unfold Word.range?
  by_cases horder : last < first
  · -- Words that are not in order are refused before their difference is taken.
    have hnot : ¬first.toNat ≤ last.toNat := Nat.not_le_of_lt horder
    exact ⟨none, if_pos horder, (if_neg fun h => hnot h.1).symm⟩
  · have hle : first.toNat ≤ last.toNat := Nat.le_of_not_lt horder
    have hsub := Word.sub_eq (BitVec.not_lt.mp horder)
    have hwidth : (last - first).toNat = last.toNat - first.toNat :=
      BitVec.toNat_sub_of_le (BitVec.not_lt.mp horder)
    rw [if_neg horder, ← hwidth]
    by_cases hwide : maxRange ≤ (last - first).toNat
    · have hnot : ¬(last - first).toNat < maxRange := Nat.not_lt_of_le hwide
      exact ⟨none, Except.bind_eq_ok_iff.mpr ⟨_, hsub, if_pos hwide⟩, (if_neg fun h => hnot h.2).symm⟩
    · -- The last word is reached with its successor not taken, so that it may be the greatest.
      have hfits : first.toNat + (last - first).toNat ≤ maxPort := by
        rw [hwidth, Nat.add_sub_cancel' hle]
        exact Nat.le_of_lt_succ last.isLt
      obtain ⟨words, hrun, hvalues⟩ := Word.exists_run_eq first (last - first).toNat hfits
      refine ⟨some words, Except.bind_eq_ok_iff.mpr ⟨_, hsub, ?_⟩, ?_⟩
      · rw [if_neg hwide]
        exact Except.bind_eq_ok_iff.mpr ⟨words, hrun, rfl⟩
      · rw [if_pos ⟨hle, Nat.lt_of_not_le hwide⟩, consecutive_eq_range', ← hvalues]
        rfl

/-- The word that is read is the port that is read. -/
theorem map_readWord? (s : List Char) : (readWord? s).map BitVec.toNat = read? s := by
  unfold readWord?
  cases hread : read? s with
  | none => rfl
  | some port =>
    have hlt : port < 2 ^ 16 := Nat.lt_succ_of_le (read?_valid hread).2
    rw [Option.map_some, Option.map_some, BitVec.toNat_ofNat, Nat.mod_eq_of_lt hlt]

/-- The ports that are read as words are those that are read, and no number on the way is too small or too
great for a word. -/
theorem exists_wordRange?_eq (s : List Char) :
    ∃ words, wordRange? s = .ok words ∧ words.map (List.map BitVec.toNat) = readRange? s := by
  unfold wordRange? readRange?
  cases splitOnce '-' s with
  | none =>
    refine ⟨_, rfl, ?_⟩
    dsimp only
    rw [← map_readWord?, Option.map_map, Option.map_map]
    rfl
  | some parts =>
    obtain ⟨before, after⟩ := parts
    dsimp only
    rw [← map_readWord? before, ← map_readWord? after]
    cases readWord? before with
    | none => exact ⟨none, rfl, rfl⟩
    | some first =>
      cases readWord? after with
      | none => exact ⟨none, rfl, rfl⟩
      | some last => exact Word.exists_range?_eq first last

/-! ## Exactly the grammar -/

/-- A text is read as the ports that it covers, which follow one another, and as none if it covers none.
Words of sixteen bits are enough to do so. -/
theorem readRange?_exact (s : List Char) :
    (∀ ports, readRange? s = some ports ↔ Covers s ports) ∧
      (readRange? s = none ↔ ∀ ports, ¬Covers s ports) ∧
      (∀ ports ∈ readRange? s, IsRun ports) ∧
      ∃ words, wordRange? s = .ok words ∧ words.map (List.map BitVec.toNat) = readRange? s := by
  refine ⟨fun ports => readRange?_eq_some_iff, ?_, ?_, exists_wordRange?_eq s⟩
  · rw [Option.eq_none_iff_forall_ne_some]
    exact forall_congr' fun ports => not_congr readRange?_eq_some_iff
  · exact fun ports hports => (readRange?_eq_some_iff.mp hports).isRun

/-- A range may end with the greatest port, and have signs, zeros and blanks. -/
theorem readRange?_exact_greatest :
    let s := " +065533 -\t65535".toList
    let ports := [65533, 65534, 65535]
    readRange? s = some ports ∧ Covers s ports ∧ IsRun ports ∧
      ∃ words, wordRange? s = .ok words ∧ words.map (List.map BitVec.toNat) = some ports := by
  intro s ports
  have hread : readRange? s = some ports := by decide +kernel
  obtain ⟨hcovers, -, hrun, hwords⟩ := readRange?_exact s
  rw [hread] at hwords
  exact ⟨hread, (hcovers ports).mp hread, hrun ports hread, hwords⟩

/-- A hundred ports are the most that a range covers. -/
example : (readRange? "65436-65535".toList).map List.length = some 100 ∧
    readRange? "65435-65535".toList = none := by
  decide +kernel

end PortSurvey.Port
