import Mathlib.Tactic.SplitIfs
import PortSurvey.Text.Blank
import PortSurvey.Text.Numeral
import PortSurvey.Text.WordTable

/-!
# Written numbers

The digits of a number are read as that number if it keeps to the bound, and as too large if it does
not (`Numeral.read_toDigits`). A digit that carries the number over the bound is the end of it,
since no digit after it makes the number smaller. So what is read at all are the numerals of the
numbers within the bound (`Numeral.read_eq_ok_iff`).
-/

namespace PortSurvey.Text

/-- A digit has the value that its place in the order of characters tells. -/
theorem digitValue?_of_isDigit {c : Char} (h : c.isDigit = true) :
    digitValue? c = some (c.toNat - '0'.toNat) := by
  unfold Char.isDigit at h
  rw [Bool.and_eq_true, decide_eq_true_iff, decide_eq_true_iff] at h
  unfold digitValue?
  exact if_pos h

/-- No digit is a blank. -/
theorem isBlank_of_isDigit {c : Char} (h : c.isDigit = true) : isBlank c = false := by
  unfold Char.isDigit at h
  rw [Bool.and_eq_true, decide_eq_true_iff, decide_eq_true_iff] at h
  have hlo : 48 ≤ c.toNat := h.1
  have hhi : c.toNat ≤ 57 := h.2
  unfold isBlank
  simp only [Bool.or_eq_false_iff, Bool.and_eq_false_iff, decide_eq_false_iff_not, beq_eq_false_iff_ne]
  omega

/-- A letter is neither a blank nor a digit nor a plus sign. -/
theorem apart_of_isAlpha {c : Char} (h : c.isAlpha = true) :
    isBlank c = false ∧ c.isDigit = false ∧ c ≠ '+' := by
  have hrange : 65 ≤ c.toNat ∧ c.toNat ≤ 90 ∨ 97 ≤ c.toNat ∧ c.toNat ≤ 122 := by
    unfold Char.isAlpha Char.isUpper Char.isLower at h
    simp only [Bool.or_eq_true, Bool.and_eq_true, decide_eq_true_iff] at h
    exact h
  refine ⟨?_, ?_, ?_⟩
  · unfold isBlank
    simp only [Bool.or_eq_false_iff, Bool.and_eq_false_iff, decide_eq_false_iff_not,
      beq_eq_false_iff_ne]
    omega
  · cases hdigit : c.isDigit with
    | false => rfl
    | true =>
      unfold Char.isDigit at hdigit
      rw [Bool.and_eq_true, decide_eq_true_iff, decide_eq_true_iff] at hdigit
      have hhi : c.toNat ≤ 57 := hdigit.2
      omega
  · rintro rfl
    cases h

/-- A digit is a decimal digit. -/
theorem isDecimal_of_isDigit {c : Char} (h : c.isDigit = true) : isDecimal c = true := by
  have hascii : c.toNat < 0x80 := by
    unfold Char.isDigit at h
    rw [Bool.and_eq_true, decide_eq_true_iff, decide_eq_true_iff] at h
    exact Nat.lt_of_le_of_lt h.2 (by decide)
  unfold isDecimal
  rw [if_pos hascii, h]

/-- A number is written with its digits. -/
theorem toList_toString (n : Nat) : (toString n).toList = Nat.toDigits 10 n := by
  rw [Nat.toString_eq_ofList_toDigits, String.toList_ofList]

/-- A character that is no digit is not among the digits of a number. -/
theorem notMem_toDigits {c : Char} (hc : c.isDigit = false) (n : Nat) :
    c ∉ Nat.toDigits 10 n := by
  intro hmem
  have hdigit := Nat.isDigit_of_mem_toDigits (by decide) (by decide) hmem
  exact Bool.false_ne_true (hc.symm.trans hdigit)

/-- The digits of a number have no blank among them. -/
theorem isBlank_of_mem_toDigits {n : Nat} {c : Char} (h : c ∈ Nat.toDigits 10 n) :
    isBlank c = false :=
  isBlank_of_isDigit (Nat.isDigit_of_mem_toDigits (by decide) (by decide) h)

/-- Digits after a number do not make it smaller. -/
theorem le_ofDigitChars (n : Nat) (digits : List Char) : n ≤ Nat.ofDigitChars 10 digits n := by
  induction digits generalizing n with
  | nil => exact Nat.le_refl n
  | cons c rest ih =>
    rw [Nat.ofDigitChars_cons]
    exact Nat.le_trans (by omega) (ih (10 * n + (c.toNat - '0'.toNat)))

/-- Digits on top of a number are read as the number that they all make, within the bound. -/
theorem Numeral.readDigits_eq {bound n : Nat} {digits : List Char} (hn : n ≤ bound)
    (hdigits : ∀ c ∈ digits, c.isDigit = true) : Numeral.readDigits bound n digits =
      if Nat.ofDigitChars 10 digits n ≤ bound then .ok (Nat.ofDigitChars 10 digits n)
      else .error .tooLarge := by
  -- The number that was read so far changes with every digit.
  induction digits generalizing n with
  | nil => rw [Nat.ofDigitChars_nil, if_pos hn, Numeral.readDigits]
  | cons c rest ih =>
    have hvalue := digitValue?_of_isDigit (hdigits c List.mem_cons_self)
    have hrest : ∀ x ∈ rest, x.isDigit = true := fun x hx => hdigits x (List.mem_cons_of_mem c hx)
    rw [Numeral.readDigits, hvalue, Nat.ofDigitChars_cons, Nat.mul_comm 10 n]
    dsimp only
    split_ifs with hfits hall hall
    · rw [ih hfits hrest, if_pos hall]
    · rw [ih hfits hrest, if_neg hall]
    · exact absurd (Nat.le_trans (le_ofDigitChars _ rest) hall) hfits
    · rfl

/-- Digits on top of digits that make a number other than zero make a greater one. -/
theorem lt_ofDigitChars_append {digits more : List Char} (hpos : 0 < Nat.ofDigitChars 10 digits 0)
    (hmore : more ≠ []) :
    Nat.ofDigitChars 10 digits 0 < Nat.ofDigitChars 10 (digits ++ more) 0 := by
  obtain ⟨c, rest, rfl⟩ := List.exists_cons_of_ne_nil hmore
  rw [Nat.ofDigitChars_append, Nat.ofDigitChars_cons]
  exact Nat.lt_of_lt_of_le (by omega) (le_ofDigitChars _ rest)

/-- What does not begin with a sign is read digit by digit. -/
theorem Numeral.read_cons {bound : Nat} {c : Char} (hplus : c ≠ '+') (rest : List Char) :
    Numeral.read bound (c :: rest) = Numeral.readDigits bound 0 (c :: rest) := by
  unfold Numeral.read
  split
  · cases ‹c :: rest = []›
  · exact absurd (List.cons.inj ‹c :: rest = ['+']›).1 hplus
  · exact absurd (List.cons.inj ‹c :: rest = '+' :: _›).1 hplus
  · obtain ⟨rfl, rfl⟩ := List.cons.inj ‹c :: rest = _›
    rfl

/-- Digits are read as the number that they make, within the bound. -/
theorem Numeral.read_of_isDigit {bound : Nat} {digits : List Char} (hne : digits ≠ [])
    (hdigits : ∀ c ∈ digits, c.isDigit = true) : Numeral.read bound digits =
      if Nat.ofDigitChars 10 digits 0 ≤ bound then .ok (Nat.ofDigitChars 10 digits 0)
      else .error .tooLarge := by
  obtain ⟨c, rest, rfl⟩ := List.exists_cons_of_ne_nil hne
  have hplus : c ≠ '+' := by
    rintro rfl
    exact absurd (hdigits '+' List.mem_cons_self) (by decide)
  rw [Numeral.read_cons hplus, Numeral.readDigits_eq (Nat.zero_le bound) hdigits]

/-- The digits of a number are read as the number, within the bound. -/
theorem Numeral.read_toDigits (bound n : Nat) : Numeral.read bound (Nat.toDigits 10 n) =
    if n ≤ bound then .ok n else .error .tooLarge := by
  rw [Numeral.read_of_isDigit Nat.toDigits_ne_nil fun c hc =>
    Nat.isDigit_of_mem_toDigits (by decide) (by decide) hc, Nat.ofDigitChars_ten_toDigits]

/-- All that is read on top of a number is digits. -/
theorem Numeral.isDigit_of_readDigits {bound n m : Nat} {s : List Char}
    (h : Numeral.readDigits bound n s = .ok m) : ∀ c ∈ s, c.isDigit = true := by
  induction s generalizing n with
  | nil => exact fun c hc => absurd hc List.not_mem_nil
  | cons x rest ih =>
    unfold Numeral.readDigits at h
    split at h
    · cases h
    · rename_i d hvalue
      have hdigit : x.isDigit = true := by
        unfold digitValue? at hvalue
        split_ifs at hvalue with hrange
        unfold Char.isDigit
        rw [Bool.and_eq_true, decide_eq_true_iff, decide_eq_true_iff]
        exact hrange
      split_ifs at h
      intro c hc
      rcases List.mem_cons.mp hc with rfl | hrest
      · exact hdigit
      · exact ih h c hrest

/-- A text is a numeral of a number: the digits that make it, with a plus sign in front or without.
-/
def Numeral.Denotes (s : List Char) (n : Nat) : Prop :=
  ∃ digits, (s = digits ∨ s = '+' :: digits) ∧ digits ≠ [] ∧
    (∀ c ∈ digits, c.isDigit = true) ∧ Nat.ofDigitChars 10 digits 0 = n

/-- What stands behind a sign is read digit by digit. -/
theorem Numeral.read_plus (bound : Nat) {rest : List Char} (hne : rest ≠ []) :
    Numeral.read bound ('+' :: rest) = Numeral.readDigits bound 0 rest := by
  obtain ⟨c, more, rfl⟩ := List.exists_cons_of_ne_nil hne
  rfl

/-- What is read digit by digit is the number that the digits make, which keeps to the bound. -/
theorem Numeral.readDigits_eq_ok_iff {bound m : Nat} {s : List Char} :
    Numeral.readDigits bound 0 s = .ok m ↔
      (∀ c ∈ s, c.isDigit = true) ∧ Nat.ofDigitChars 10 s 0 = m ∧ m ≤ bound := by
  constructor
  · intro h
    have hdigits := isDigit_of_readDigits h
    rw [readDigits_eq (Nat.zero_le bound) hdigits] at h
    split_ifs at h with hbound
    obtain rfl := Except.ok.inj h
    exact ⟨hdigits, rfl, hbound⟩
  · rintro ⟨hdigits, rfl, hbound⟩
    rw [readDigits_eq (Nat.zero_le bound) hdigits, if_pos hbound]

/-- What is read as a number are the numerals of the numbers within the bound. -/
theorem Numeral.read_eq_ok_iff {bound m : Nat} {s : List Char} :
    Numeral.read bound s = .ok m ↔ Numeral.Denotes s m ∧ m ≤ bound := by
  constructor
  · intro h
    unfold Numeral.read at h
    split at h
    · cases h
    · cases h
    · rename_i rest hsign
      obtain ⟨hdigits, hvalue, hbound⟩ := readDigits_eq_ok_iff.mp h
      exact ⟨⟨rest, .inr rfl, fun hnil => hsign hnil, hdigits, hvalue⟩, hbound⟩
    · rename_i c rest _ _
      obtain ⟨hdigits, hvalue, hbound⟩ := readDigits_eq_ok_iff.mp h
      exact ⟨⟨c :: rest, .inl rfl, List.cons_ne_nil c rest, hdigits, hvalue⟩, hbound⟩
  · rintro ⟨⟨digits, hs, hne, hdigits, hvalue⟩, hbound⟩
    rcases hs with rfl | rfl
    · rw [read_of_isDigit hne hdigits, hvalue, if_pos hbound]
    · rw [read_plus bound hne]
      exact readDigits_eq_ok_iff.mpr ⟨hdigits, hvalue, hbound⟩

/-- All that is read as a number is digits and a plus sign. -/
theorem Numeral.isDigit_of_read {bound m : Nat} {s : List Char} (h : Numeral.read bound s = .ok m) :
    ∀ c ∈ s, c ≠ '+' → c.isDigit = true := by
  obtain ⟨⟨digits, hs, -, hdigits, -⟩, -⟩ := read_eq_ok_iff.mp h
  intro c hc hplus
  rcases hs with rfl | rfl
  · exact hdigits c hc
  · exact hdigits c ((List.mem_cons.mp hc).resolve_left hplus)

end PortSurvey.Text
