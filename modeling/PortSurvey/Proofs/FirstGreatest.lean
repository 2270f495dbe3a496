import Mathlib.Data.List.MinMax

/-!
# The first greatest item of a list

A pass through a list that keeps the greatest item so far, and gives it up only for a greater one,
ends with the first item at which the value is greatest (`foldl_eq_argmax`). Such an item cuts
the list: what comes before it is less, and what comes after it is no more
(`argmax_eq_some_iff_append`). From there it is plain that it stays the first greatest among the
items that meet a condition, if it meets the condition itself (`argmax_filter_of_argmax`).
-/

namespace PortSurvey

variable {α β γ : Type} [LinearOrder β] {f : α → β} {l : List α} {a : α}

/-- A pass that takes the first item, and another one only for what is greater than the one that it
has, finds the first greatest. -/
theorem foldl_eq_argmax {step : Option α → α → Option α} (first : ∀ x, step none x = some x)
    (keep : ∀ b x, f x ≤ f b → step (some b) x = some b)
    (replace : ∀ b x, f b < f x → step (some b) x = some x) (l : List α) :
    l.foldl step none = l.argmax f := by
  unfold List.argmax
  congr 1
  funext best x
  cases best with
  | none => exact first x
  | some b =>
    show step (some b) x = if f b < f x then some x else some b
    split_ifs with h
    · exact replace b x h
    · exact keep b x (not_lt.mp h)

/-- The first greatest of mapped items is mapped from the first greatest. -/
theorem argmax_map (g : γ → α) (f : α → β) (l : List γ) :
    (l.map g).argmax f = (l.argmax (f ∘ g)).map g := by
  induction l using List.reverseRecOn with
  | nil => rfl
  | append_singleton l x ih =>
    rw [List.map_append, List.map_singleton, List.argmax_concat, List.argmax_concat, ih]
    cases l.argmax (f ∘ g) with
    | none => rfl
    | some best =>
      show (if f (g best) < f (g x) then some (g x) else some (g best)) =
        Option.map g (if f (g best) < f (g x) then some x else some best)
      rw [apply_ite (Option.map g)]
      rfl

variable [DecidableEq α]

/-- The first greatest item is the one before which all are less and after which none is more. -/
theorem argmax_eq_some_iff_append : l.argmax f = some a ↔
    ∃ before after, l = before ++ a :: after ∧ (∀ x ∈ before, f x < f a) ∧
      ∀ x ∈ after, f x ≤ f a := by
  rw [List.argmax_eq_some_iff]
  constructor
  · rintro ⟨hmem, hgreatest, hfirst⟩
    -- Cut at the first occurrence, so that the place of `a` is the length of what is before.
    obtain ⟨before, after, rfl, hnotMem⟩ := List.eq_append_cons_of_mem hmem
    refine ⟨before, after, rfl, fun x hx => ?_, fun x hx => ?_⟩
    · by_contra hless
      have hplace : (before ++ a :: after).idxOf a = before.length := by
        rw [List.idxOf_append_of_notMem hnotMem, List.idxOf_cons_self, Nat.add_zero]
      have hbefore : (before ++ a :: after).idxOf x < before.length := by
        rw [List.idxOf_append_of_mem hx]
        exact List.idxOf_lt_length_of_mem hx
      have hle := hfirst x (List.mem_append_left _ hx) (not_lt.mp hless)
      omega
    · exact hgreatest x (List.mem_append_right _ (List.mem_cons_of_mem a hx))
  · rintro ⟨before, after, rfl, hbefore, hafter⟩
    have hnotMem : a ∉ before := fun hmem => lt_irrefl _ (hbefore a hmem)
    refine ⟨List.mem_append_right _ List.mem_cons_self, fun x hx => ?_, fun x hx hgreat => ?_⟩
    · rcases List.mem_append.mp hx with hx | hx
      · exact (hbefore x hx).le
      · rcases List.mem_cons.mp hx with rfl | hx
        · exact le_rfl
        · exact hafter x hx
    · have hlater : x ∉ before := fun hmem => absurd (hbefore x hmem) (not_lt.mpr hgreat)
      rw [List.idxOf_append_of_notMem hnotMem, List.idxOf_append_of_notMem hlater,
        List.idxOf_cons_self]
      omega

/-- The first greatest of the items that meet a condition stands in the list of all where none
before it that meets the condition is as much, and none after it more. -/
theorem argmax_filter_eq_some_iff {p : α → Bool} : (l.filter p).argmax f = some a ↔
    ∃ before after, l = before ++ a :: after ∧ p a = true ∧
      (∀ x ∈ before, p x = true → f x < f a) ∧ ∀ x ∈ after, p x = true → f x ≤ f a := by
  rw [argmax_eq_some_iff_append]
  constructor
  · rintro ⟨front, back, hsplit, hfront, hback⟩
    obtain ⟨first, rest, rfl, rfl, hrest⟩ := List.filter_eq_append_iff.mp hsplit
    obtain ⟨skipped, after, rfl, hskipped, ha, rfl⟩ := List.filter_eq_cons_iff.mp hrest
    refine ⟨first ++ skipped, after, by rw [List.append_assoc], ha, fun x hx hp => ?_,
      fun x hx hp => hback x (List.mem_filter.mpr ⟨hx, hp⟩)⟩
    rcases List.mem_append.mp hx with hx | hx
    · exact hfront x (List.mem_filter.mpr ⟨hx, hp⟩)
    · exact absurd hp (hskipped x hx)
  · rintro ⟨before, after, rfl, ha, hbefore, hafter⟩
    refine ⟨before.filter p, after.filter p, ?_, fun x hx => ?_, fun x hx => ?_⟩
    · rw [List.filter_append, List.filter_cons_of_pos ha]
    · exact hbefore x (List.mem_filter.mp hx).1 (List.mem_filter.mp hx).2
    · exact hafter x (List.mem_filter.mp hx).1 (List.mem_filter.mp hx).2

/-- The first greatest item stays the first greatest of those that meet a condition if it meets
it. -/
theorem argmax_filter_of_argmax {p : α → Bool} (h : l.argmax f = some a) (ha : p a = true) :
    (l.filter p).argmax f = some a := by
  obtain ⟨before, after, rfl, hbefore, hafter⟩ := argmax_eq_some_iff_append.mp h
  exact argmax_filter_eq_some_iff.mpr
    ⟨before, after, rfl, ha, fun x hx _ => hbefore x hx, fun x hx _ => hafter x hx⟩

end PortSurvey
