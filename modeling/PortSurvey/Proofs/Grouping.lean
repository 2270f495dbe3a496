import Mathlib.Data.List.Nodup
import Mathlib.Data.List.Range

/-!
# Places, groups and order in a list

A list may be taken apart by a key and put together again group by group, in the order in which the
groups begin. If no group begins before another one ends, the list comes out as it was
(`flatMap_filter_eraseDups`), and in any order of the groups it comes out rearranged
(`flatMap_filter_perm`). Sorting does not touch the order of items of the same rank
(`filter_mergeSort`). Leaving out the places without an item moves the items that stand behind such a
place, and no others (`getElem?_filterMap_iff`, `map_zipIdx_filterMap_iff`).
-/

namespace PortSurvey

variable {α β κ : Type}

/-- The positions of a list are in order. -/
theorem zipIdx_pairwise (l : List α) : l.zipIdx.Pairwise fun x y => x.2 < y.2 := by
  rw [← List.pairwise_map (f := Prod.snd) (R := (· < ·)), List.zipIdx_map_snd]
  exact List.pairwise_lt_range'

/-- Items that meet a condition are the same with their positions and without. -/
theorem map_filter_zipIdx (p : α → Bool) (l : List α) :
    (l.zipIdx.filter fun x => p x.1).map (·.1) = l.filter p := by
  calc (l.zipIdx.filter fun x => p x.1).map (·.1)
      = (l.zipIdx.map (·.1)).filter p := List.filter_map.symm
    _ = l.filter p := by rw [List.zipIdx_map_fst]

/-- In a list without repetitions an item tells its position. -/
theorem map_zipIdx_eq_map_idxOf [DecidableEq α] {l : List α} (h : l.Nodup) (f : α → Nat → β) :
    (l.zipIdx.map fun x => f x.1 x.2) = l.map fun a => f a (l.idxOf a) := by
  refine List.ext_getElem (by simp) fun i _ hright => ?_
  rw [List.length_map] at hright
  rw [List.getElem_map, List.getElem_map, List.getElem_zipIdx, h.idxOf_getElem, Nat.zero_add]

/-- An item keeps its position when a list is mapped one to one. -/
theorem idxOf_map_of_injective [DecidableEq α] [DecidableEq β] {f : α → β}
    (hf : Function.Injective f) (a : α) (l : List α) : (l.map f).idxOf (f a) = l.idxOf a := by
  induction l with
  | nil => rfl
  | cons b l ih =>
    rw [List.map_cons, List.idxOf_cons, List.idxOf_cons, ih]
    by_cases h : b = a
    · rw [h, beq_self_eq_true, beq_self_eq_true]
    · rw [beq_false_of_ne h, beq_false_of_ne fun heq => h (hf heq)]

/-- The last item of a part of a list in order is not behind the last item of the list. -/
theorem getLast?_le_of_sublist {f : α → Nat} {l m : List α} (hsub : l.Sublist m)
    (hsorted : m.Pairwise fun x y => f x < f y) {x : α} (hx : x ∈ l.getLast?) :
    ∃ y ∈ m.getLast?, f x ≤ f y := by
  have hmem : x ∈ m := hsub.subset (List.mem_of_getLast? hx)
  obtain ⟨first, y, rfl⟩ := (List.eq_nil_or_concat' m).resolve_left (List.ne_nil_of_mem hmem)
  refine ⟨y, List.getLast?_concat, ?_⟩
  rcases List.mem_append.mp hmem with hfirst | hlast
  · exact Nat.le_of_lt ((List.pairwise_append.mp hsorted).2.2 x hfirst y (List.mem_singleton_self y))
  · exact Nat.le_of_eq (congrArg f (List.mem_singleton.mp hlast))

/-- To keep the first of equal items is to keep no two that are equal. -/
theorem nodup_eraseDups [BEq α] [LawfulBEq α] (l : List α) : l.eraseDups.Nodup := by
  -- The first item goes with all that are equal to it, and the others make a shorter list.
  induction hlength : l.length using Nat.strongRecOn generalizing l with
  | _ n ih =>
    cases l with
    | nil => exact .nil
    | cons a rest =>
      have hshort : (rest.filter fun b => !b == a).length < n := by
        have hle := List.length_filter_le (fun b => !b == a) rest
        rw [List.length_cons] at hlength
        omega
      rw [List.eraseDups_cons, List.nodup_cons]
      refine ⟨fun hmem => ?_, ih _ hshort _ rfl⟩
      have hne := (List.mem_filter.mp (List.mem_eraseDups.mp hmem)).2
      rw [beq_self_eq_true] at hne
      exact Bool.false_ne_true hne

/-- In a list in order of rank, the items of a key of the least rank come first. -/
theorem filter_append_filter_of_sorted [BEq κ] [LawfulBEq κ] {key : α → κ} {rank : κ → Nat}
    (hrank : Function.Injective rank) {l : List α}
    (hsorted : l.Pairwise fun a b => rank (key a) ≤ rank (key b)) {k : κ}
    (hleast : ∀ a ∈ l, rank k ≤ rank (key a)) :
    l.filter (key · == k) ++ l.filter (fun a => !key a == k) = l := by
  induction l with
  | nil => rfl
  | cons a rest ih =>
    obtain ⟨hhead, htail⟩ := List.pairwise_cons.mp hsorted
    by_cases hkey : key a = k
    · have hrest := ih htail fun b hb => hleast b (List.mem_cons_of_mem a hb)
      rw [List.filter_cons_of_pos (by simp [hkey]), List.filter_cons_of_neg (by simp [hkey]),
        List.cons_append, hrest]
    · -- The first item has another key, so that no item has this one.
      have hlt : rank k < rank (key a) :=
        Nat.lt_of_le_of_ne (hleast a List.mem_cons_self) fun h => hkey (hrank h).symm
      have hother : ∀ b ∈ a :: rest, key b ≠ k := by
        intro b hb hb'
        rcases List.mem_cons.mp hb with rfl | hb
        · exact hkey hb'
        · have hle := hhead b hb
          rw [hb'] at hle
          omega
      rw [List.filter_eq_nil_iff.mpr fun b hb => by simp [hother b hb], List.nil_append,
        List.filter_eq_self.mpr fun b hb => by simp [hother b hb]]

/-- A list in order of rank is put together again from the groups of its keys, in the order in which
the keys first occur. -/
theorem flatMap_filter_eraseDups [BEq κ] [LawfulBEq κ] {key : α → κ} {rank : κ → Nat}
    (hrank : Function.Injective rank) (l : List α)
    (hsorted : l.Pairwise fun a b => rank (key a) ≤ rank (key b)) :
    ((l.map key).eraseDups.flatMap fun k => l.filter (key · == k)) = l := by
  -- The group of the first item goes, and the others make a shorter list in order.
  induction hlength : l.length using Nat.strongRecOn generalizing l with
  | _ n ih =>
    cases l with
    | nil => rfl
    | cons a rest =>
      obtain ⟨hhead, htail⟩ := List.pairwise_cons.mp hsorted
      have hleast : ∀ b ∈ a :: rest, rank (key a) ≤ rank (key b) := by
        intro b hb
        rcases List.mem_cons.mp hb with rfl | hb
        · exact Nat.le_refl _
        · exact hhead b hb
      have hsplit := filter_append_filter_of_sorted hrank hsorted hleast
      have hothers : (a :: rest).filter (fun b => !key b == key a) =
          rest.filter fun b => !key b == key a :=
        List.filter_cons_of_neg (by simp)
      have hkeys : (rest.map key).filter (fun k => !k == key a) =
          (rest.filter fun b => !key b == key a).map key := by
        rw [List.filter_map]
        rfl
      have hshort : (rest.filter fun b => !key b == key a).length < n := by
        rw [← hlength, List.length_cons]
        exact Nat.lt_succ_of_le (List.length_filter_le _ _)
      have hgroups : ∀ k ∈ ((rest.filter fun b => !key b == key a).map key).eraseDups,
          (a :: rest).filter (key · == k) =
            (rest.filter fun b => !key b == key a).filter (key · == k) := by
        intro k hk
        obtain ⟨b, hb, rfl⟩ := List.mem_map.mp (List.mem_eraseDups.mp hk)
        have hne : key b ≠ key a := by simpa using (List.mem_filter.mp hb).2
        rw [← hothers, List.filter_filter]
        refine List.filter_congr fun c _ => ?_
        by_cases hc : key c = key b
        · simp [hc, hne]
        · simp [hc]
      rw [List.map_cons, List.eraseDups_cons, hkeys, List.flatMap_cons,
        List.flatMap_congr hgroups, ih _ hshort _ (htail.filter _) rfl, ← hothers, hsplit]

/-- The groups of keys that are all different, among them those of all items, hold each item once. -/
theorem flatMap_filter_perm [BEq κ] [LawfulBEq κ] {key : α → κ} {keys : List κ}
    (hkeys : keys.Nodup) {l : List α} (hall : ∀ a ∈ l, key a ∈ keys) :
    (keys.flatMap fun k => l.filter (key · == k)).Perm l := by
  -- The group of the first key goes, and the others are those of a shorter list.
  induction keys generalizing l with
  | nil =>
    obtain rfl : l = [] := List.eq_nil_iff_forall_not_mem.mpr fun a ha => by simpa using hall a ha
    exact .nil
  | cons k keys ih =>
    obtain ⟨hk, hkeys⟩ := List.nodup_cons.mp hkeys
    have hgroups : ∀ k' ∈ keys, l.filter (key · == k') =
        (l.filter fun a => !key a == k).filter (key · == k') := by
      intro k' hk'
      rw [List.filter_filter]
      refine List.filter_congr fun a _ => ?_
      have hne : k' ≠ k := fun h => hk (h ▸ hk')
      by_cases ha : key a = k'
      · simp [ha, hne]
      · simp [ha]
    have hrest : ∀ a ∈ l.filter fun a => !key a == k, key a ∈ keys := by
      intro a ha
      obtain ⟨hmem, hne⟩ := List.mem_filter.mp ha
      exact (List.mem_cons.mp (hall a hmem)).resolve_left (by simpa using hne)
    rw [List.flatMap_cons, List.flatMap_congr hgroups]
    exact ((ih hkeys hrest).append_left _).trans (List.filter_append_perm _ l)

/-- The pieces of a sequence are told apart by their lengths. -/
theorem flatMap_eq_iff {f g : α → List β} {l : List α} (h : ∀ a ∈ l, (f a).length = (g a).length) :
    l.flatMap f = l.flatMap g ↔ ∀ a ∈ l, f a = g a := by
  refine ⟨fun heq => ?_, List.flatMap_congr⟩
  induction l with
  | nil => exact fun a ha => absurd ha List.not_mem_nil
  | cons a rest ih =>
    rw [List.flatMap_cons, List.flatMap_cons] at heq
    obtain ⟨hfirst, hrest⟩ := List.append_inj heq (h a List.mem_cons_self)
    exact List.forall_mem_cons.mpr
      ⟨hfirst, ih (fun b hb => h b (List.mem_cons_of_mem a hb)) hrest⟩

/-- The items that there are keep their places when the places without one are left out, if and only
if no place without one comes before a place with one. -/
theorem getElem?_filterMap_iff (f : α → Option β) (l : List α) :
    (∀ i : Nat, (l.filterMap f)[i]? = l[i]?.bind f) ↔
      l.Pairwise fun a b => (f b).isSome = true → (f a).isSome = true := by
  induction l with
  | nil => simp
  | cons a rest ih =>
    rw [List.pairwise_cons, ← ih]
    cases hfirst : f a with
    | some x =>
      rw [List.filterMap_cons_some hfirst]
      constructor
      · exact fun h => ⟨fun _ _ _ => rfl, fun i => h (i + 1)⟩
      · rintro ⟨-, h⟩ (_ | i)
        · exact hfirst.symm
        · exact h i
    | none =>
      rw [List.filterMap_cons_none hfirst]
      constructor
      · -- No item is left for the first place, so that there is none at all.
        intro h
        have hnil : rest.filterMap f = [] :=
          List.eq_nil_of_length_eq_zero (Nat.le_zero.mp (List.getElem?_eq_none_iff.mp
            ((h 0).trans hfirst)))
        refine ⟨fun b hb hsome => ?_, fun i => ?_⟩
        · rwa [List.filterMap_eq_nil_iff.mp hnil b hb] at hsome
        · have hnext := h (i + 1)
          rw [hnil] at hnext ⊢
          exact hnext
      · rintro ⟨hnone, h⟩
        have hnil : rest.filterMap f = [] := List.filterMap_eq_nil_iff.mpr fun b hb =>
          Option.not_isSome_iff_eq_none.mp fun hsome => Bool.false_ne_true (hnone b hb hsome)
        rw [hnil] at h ⊢
        rintro (_ | i)
        · exact hfirst.symm
        · exact h i

/-- Giving the items that there are to the places one after the other gives each place its own, if
and only if no place without one comes before a place with one. -/
theorem map_zipIdx_filterMap_iff {γ : Type} (f : α → Option β) {g : α → Option β → γ}
    (hg : ∀ a, Function.Injective (g a)) (l : List α) :
    (l.zipIdx.map fun x => g x.1 (l.filterMap f)[x.2]?) = l.map (fun a => g a (f a)) ↔
      l.Pairwise fun a b => (f b).isSome = true → (f a).isSome = true := by
  rw [← getElem?_filterMap_iff, List.ext_getElem?_iff]
  refine forall_congr' fun i => ?_
  rw [List.getElem?_map, List.getElem?_map, List.getElem?_zipIdx, Option.map_map, Nat.zero_add]
  cases hplace : l[i]? with
  | none =>
    have hbehind : (l.filterMap f).length ≤ i :=
      Nat.le_trans (List.length_filterMap_le f l) (List.getElem?_eq_none_iff.mp hplace)
    simp [hbehind]
  | some a => simp [(hg a).eq_iff]

/-- Items of the same rank keep their order when a list is sorted. -/
theorem filter_mergeSort {le : α → α → Bool} {p : α → Bool}
    (trans : ∀ a b c, le a b = true → le b c = true → le a c = true)
    (total : ∀ a b, (le a b || le b a) = true)
    (hsame : ∀ a b, p a = true → p b = true → le a b = true) (l : List α) :
    (l.mergeSort le).filter p = l.filter p := by
  have hsorted : (l.filter p).Pairwise fun a b => le a b = true :=
    List.pairwise_of_forall_mem_list fun a ha b hb =>
      hsame a b (List.mem_filter.mp ha).2 (List.mem_filter.mp hb).2
  have hsub := (List.sublist_mergeSort trans total hsorted List.filter_sublist).filter p
  simp only [List.filter_filter, Bool.and_self] at hsub
  exact (hsub.eq_of_length ((List.mergeSort_perm l le).filter p).length_eq.symm).symm

end PortSurvey
