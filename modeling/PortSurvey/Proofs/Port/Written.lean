import PortSurvey.Proofs.Port.Range
import PortSurvey.Proofs.Text.Numeral
import PortSurvey.Proofs.Text.Split
import PortSurvey.Proofs.Text.Trim

/-!
# Ports that are written

A number written in digits is read as the port that the number is (`Port.read?_toDigits`), and a text with
a letter is no port (`Port.read?_eq_none_of_isAlpha`). What is read as a range is told by the ports before
and behind the first hyphen (`Port.readRange?_append`), or by the one port if there is no hyphen
(`Port.readRange?_of_notMem`). So two ports with a hyphen between them are read as all that they cover
(`Port.readRange?_hyphen`), a whole number as the port that it is, and as none if it has a minus sign
(`Port.readRange?_toString`), and a text that does not begin like a number as none
(`Port.readRange?_cons_eq_none`).
-/

namespace PortSurvey.Port

open Text

/-- A whole number that is not negative is a port if it lies in the range of ports. -/
theorem ofNumber?_natCast (n : Nat) :
    ofNumber? (.whole n) = if 1 ≤ n ∧ n ≤ maxPort then some n else none := by
  unfold ofNumber?
  by_cases h : 1 ≤ n ∧ n ≤ maxPort
  · rw [if_pos h]
    exact if_pos ⟨by omega, by omega⟩
  · rw [if_neg h]
    exact if_neg fun hint => h ⟨by omega, by omega⟩

/-- A port is the port that it is as a number. -/
theorem ofNumber?_of_valid {n : Nat} (h : Valid n) : ofNumber? (.whole n) = some n := by
  rw [ofNumber?_natCast]
  exact if_pos h

/-- Digits are read as the port that the number is which they make. -/
theorem read?_of_isDigit {digits : List Char} (hne : digits ≠ [])
    (hdigits : ∀ c ∈ digits, c.isDigit = true) :
    read? digits = ofNumber? (.whole (Nat.ofDigitChars 10 digits 0)) := by
  unfold read?
  rw [trimChars_eq_self fun c hc => isBlank_of_isDigit (hdigits c hc),
    Numeral.read_of_isDigit hne hdigits, ofNumber?_natCast]
  generalize Nat.ofDigitChars 10 digits 0 = n
  by_cases hbound : n ≤ maxPort
  · rw [if_pos hbound]
    cases n with
    | zero => rfl
    | succ n => exact (if_pos ⟨by omega, hbound⟩).symm
  · rw [if_neg hbound, if_neg fun h => hbound h.2]

/-- What is read as a port, blanks apart, is read as a number. -/
theorem read_of_read?_eq_some {s : List Char} {port : Nat} (h : read? s = some port) :
    Numeral.read maxPort (trimChars s) = .ok port := by
  unfold read? at h
  split at h
  · cases h
  · rename_i n hread
    rw [hread, Option.some.inj h]
  · cases h

/-- Digits with something else behind them are read as the number that they make, if at all. -/
theorem eq_of_read?_append {digits more : List Char} (hne : digits ≠ [])
    (hdigits : ∀ c ∈ digits, c.isDigit = true) (hmore : ∀ c ∈ more.head?, c.isDigit = false)
    {port : Nat} (h : read? (digits ++ more) = some port) :
    port = Nat.ofDigitChars 10 digits 0 := by
  have htrim : trimChars (digits ++ more) = digits ++ trimEndChars more := by
    have hhead : ∀ c ∈ (digits ++ more).head?, isBlank c = false := by
      intro c hc
      rw [List.head?_append_of_ne_nil _ hne] at hc
      exact isBlank_of_isDigit (hdigits c (List.mem_of_mem_head? hc))
    unfold trimChars
    rw [trimStartChars_eq_self hhead]
    obtain ⟨first, last, rfl⟩ := (List.eq_nil_or_concat' digits).resolve_left hne
    have hlast := isBlank_of_isDigit (hdigits last (by simp))
    rw [List.append_assoc, List.singleton_append, trimEndChars_append_cons _ hlast,
      ← List.append_cons]
  have hread := read_of_read?_eq_some h
  rw [htrim] at hread
  -- All that is read is digits, so that nothing of what stands behind them is left.
  have hleft : trimEndChars more = [] := by
    obtain ⟨d, rest, rfl⟩ := List.exists_cons_of_ne_nil hne
    have hplus : d ≠ '+' := by
      rintro rfl
      exact absurd (hdigits '+' List.mem_cons_self) (by decide)
    rw [List.cons_append, Numeral.read_cons hplus] at hread
    cases hmore' : trimEndChars more with
    | nil => rfl
    | cons x rest' =>
      have hx : x ∈ (trimEndChars more).head? := by rw [hmore']; rfl
      have hdigit := Numeral.isDigit_of_readDigits hread x (by simp [hmore'])
      rw [hmore x (head?_of_mem_head?_trimEndChars hx)] at hdigit
      cases hdigit
  rw [hleft, List.append_nil, Numeral.read_of_isDigit hne hdigits] at hread
  split_ifs at hread
  exact (Except.ok.inj hread).symm

/-- A text with a character that is neither a digit nor a blank nor a plus sign is no port. -/
theorem read?_eq_none_of_mem {s : List Char} {c : Char} (hc : c ∈ s) (hblank : isBlank c = false)
    (hdigit : c.isDigit = false) (hplus : c ≠ '+') : read? s = none := by
  cases hread : read? s with
  | none => rfl
  | some port =>
    have hdigits := Numeral.isDigit_of_read (read_of_read?_eq_some hread)
    have hc' := hdigits c (mem_trimChars hc hblank) hplus
    exact absurd (hdigit.symm.trans hc') Bool.false_ne_true

/-- A text with a letter is no port. -/
theorem read?_eq_none_of_isAlpha {s : List Char} {c : Char} (hc : c ∈ s) (h : c.isAlpha = true) :
    read? s = none :=
  have ⟨hblank, hdigit, hplus⟩ := apart_of_isAlpha h
  read?_eq_none_of_mem hc hblank hdigit hplus

/-- A text that begins with neither a digit nor a blank nor a plus sign is no port. -/
theorem read?_cons_eq_none {c : Char} (hblank : isBlank c = false) (hdigit : c.isDigit = false)
    (hplus : c ≠ '+') (rest : List Char) : read? (c :: rest) = none :=
  read?_eq_none_of_mem List.mem_cons_self hblank hdigit hplus

/-- No port is read where nothing is written. -/
theorem read?_nil : read? [] = none := rfl

/-- A text without a hyphen is read as the one port that it is. -/
theorem readRange?_of_notMem {s : List Char} (h : '-' ∉ s) : readRange? s = (read? s).map ([·]) := by
  unfold readRange?
  rw [splitOnce_of_notMem h]

/-- A text with a hyphen is read as the ports from the one before it to the one behind it. -/
theorem readRange?_append {before : List Char} (h : '-' ∉ before) (after : List Char) :
    readRange? (before ++ '-' :: after) = (read? before).bind fun first =>
      (read? after).bind fun last =>
        if first ≤ last ∧ last - first < maxRange then some (consecutive first (last - first + 1))
        else none := by
  unfold readRange?
  rw [splitOnce_append h]
  dsimp only
  cases read? before with
  | none => rfl
  | some first => cases read? after <;> rfl

/-- Nor does it begin with one, so that it is no range of ports either. -/
theorem readRange?_cons_eq_none {c : Char} (hblank : isBlank c = false) (hdigit : c.isDigit = false)
    (hplus : c ≠ '+') (rest : List Char) : readRange? (c :: rest) = none := by
  by_cases hhyphen : '-' ∈ c :: rest
  · obtain ⟨before, after, hs, hbefore⟩ := List.eq_append_cons_of_mem hhyphen
    have hfirst : read? before = none := by
      cases before with
      | nil => exact read?_nil
      | cons x before =>
        obtain ⟨rfl, -⟩ := List.cons.inj hs
        exact read?_cons_eq_none hblank hdigit hplus before
    rw [hs, readRange?_append hbefore, hfirst, Option.bind_none]
  · rw [readRange?_of_notMem hhyphen, read?_cons_eq_none hblank hdigit hplus, Option.map_none]

/-- The digits of a number are read as the port that it is. -/
theorem read?_toDigits (n : Nat) : read? (Nat.toDigits 10 n) = ofNumber? (.whole n) := by
  rw [read?_of_isDigit Nat.toDigits_ne_nil fun c hc =>
    Nat.isDigit_of_mem_toDigits (by decide) (by decide) hc, Nat.ofDigitChars_ten_toDigits]

/-- The digits of a port are read as it. -/
theorem read?_toDigits_of_valid {n : Nat} (h : Valid n) : read? (Nat.toDigits 10 n) = some n := by
  rw [read?_toDigits, ofNumber?_of_valid h]

/-- A whole number is written with digits, after a minus sign if it is negative. -/
theorem toList_toString_int (n : Int) : (toString n).toList =
    if 0 ≤ n then Nat.toDigits 10 n.toNat else '-' :: Nat.toDigits 10 (-n).toNat := by
  have hrepr : toString n = n.repr := rfl
  rw [hrepr, Int.repr_eq_if]
  split_ifs
  · rw [Nat.repr_eq_ofList_toDigits, String.toList_ofList]
  · rw [String.toList_append, Nat.repr_eq_ofList_toDigits, String.toList_ofList,
      String.toList_ofList]
    rfl

/-- A whole number that is written is read as the one port that it is. -/
theorem readRange?_toString (n : Int) :
    readRange? (toString n).toList = (ofNumber? (.whole n)).map ([·]) := by
  rw [toList_toString_int]
  split_ifs with hsign
  · obtain ⟨m, rfl⟩ := Int.eq_ofNat_of_zero_le hsign
    rw [readRange?_of_notMem (notMem_toDigits (by decide) _), Int.toNat_natCast, read?_toDigits]
  · have hnone : ofNumber? (.whole n) = none := if_neg fun h => hsign (by omega)
    have hminus := readRange?_append List.not_mem_nil (Nat.toDigits 10 (-n).toNat)
    rw [List.nil_append, read?_nil, Option.bind_none] at hminus
    rw [hminus, hnone, Option.map_none]

/-- The digits of a port are read as a range of it alone. -/
theorem readRange?_toDigits {n : Nat} (h : Valid n) : readRange? (Nat.toDigits 10 n) = some [n] := by
  rw [readRange?_of_notMem (notMem_toDigits (by decide) n), read?_toDigits_of_valid h, Option.map_some]

/-- Two ports with a hyphen between them are read as the ports that they cover. -/
theorem readRange?_hyphen {first last : Nat} (hfirst : Valid first) (hlast : Valid last)
    (hle : first ≤ last) (hrange : last - first < maxRange) :
    readRange? (Nat.toDigits 10 first ++ '-' :: Nat.toDigits 10 last) =
      some (consecutive first (last - first + 1)) := by
  rw [readRange?_append (notMem_toDigits (by decide) first), read?_toDigits_of_valid hfirst,
    read?_toDigits_of_valid hlast, Option.bind_some, Option.bind_some, if_pos ⟨hle, hrange⟩]

end PortSurvey.Port
