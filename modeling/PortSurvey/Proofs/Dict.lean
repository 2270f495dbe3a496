import Mathlib.Order.Defs.Unbundled
import Mathlib.Tactic.SplitIfs
import PortSurvey.Dict

/-!
# Look-up in dictionaries

`find?_insert` says what a dictionary answers after an insertion, and `mem_ascending` that putting a
list into order keeps its members. Neither needs to know anything of the order. The keys of a
dictionary are put into their list like members into one that is ascending (`keys_insert`), and
where the order is total the list stays ascending (`pairwise_insertOnce`): each key is there once,
and a dictionary that is made of entries has its keys in order (`pairwise_keys_ofList`), as have the
members of a list that is put into order (`pairwise_ascending`).
-/

namespace PortSurvey.Dict

variable {α β : Type} [DecidableEq α]

/-- The first entry answers for its key. -/
theorem find?_cons (k k' : α) (v : β) (d : Dict α β) :
    find? ((k, v) :: d) k' = if k = k' then some v else d.find? k' := by
  unfold find?
  rw [List.find?_cons]
  by_cases h : k = k'
  · simp [h]
  · simp [h]

/-- A key has a value exactly when it is found. -/
theorem has_eq_isSome_find? (d : Dict α β) (k : α) : d.has k = (d.find? k).isSome := by
  rw [has, find?, Option.isSome_map, List.isSome_find?]

/-- What is found is an entry. -/
theorem mem_of_find? {d : Dict α β} {k : α} {v : β} (h : d.find? k = some v) : (k, v) ∈ d := by
  obtain ⟨e, hfind, rfl⟩ := Option.map_eq_some_iff.mp h
  have hkey : e.1 = k := by simpa only [decide_eq_true_eq] using List.find?_some hfind
  rw [← hkey]
  exact List.mem_of_find?_eq_some hfind

/-- Where each key is there once, an entry is found under its key. -/
theorem find?_of_mem {d : Dict α β} (hkeys : d.keys.Nodup) {e : α × β} (h : e ∈ d) :
    d.find? e.1 = some e.2 := by
  induction d with
  | nil => exact absurd h List.not_mem_nil
  | cons e₀ rest ih =>
    obtain ⟨hfirst, hrest⟩ := List.nodup_cons.mp hkeys
    rw [find?_cons e₀.1 e.1 e₀.2 rest]
    rcases List.mem_cons.mp h with rfl | hmem
    · exact if_pos rfl
    · have hne : e₀.1 ≠ e.1 := fun hsame =>
        hfirst (List.mem_map.mpr ⟨e, hmem, hsame.symm⟩)
      rw [if_neg hne]
      exact ih hrest hmem

variable [LT α] [DecidableLT α]

/-- An inserted key has its new value, and the other keys keep theirs. -/
theorem find?_insert (d : Dict α β) (k k' : α) (v : β) :
    (d.insert k v).find? k' = if k = k' then some v else d.find? k' := by
  induction d with
  | nil => exact find?_cons k k' v []
  | cons e rest ih =>
    obtain ⟨k₀, v₀⟩ := e
    unfold insert
    by_cases hsame : k = k₀
    · -- The entry of the key itself is replaced.
      rw [if_pos hsame, find?_cons, find?_cons, hsame]
      split_ifs <;> rfl
    · rw [if_neg hsame]
      by_cases hless : k < k₀
      · rw [if_pos hless]
        exact find?_cons k k' v _
      · rw [if_neg hless, find?_cons, find?_cons, ih]
        split_ifs with h₀ hk
        · exact absurd (hk.trans h₀.symm) hsame
        · rfl
        · rfl
        · rfl

/-- A member that is put into a list once is in it, and the others stay. -/
theorem mem_insertOnce {a b : α} {l : List α} : b ∈ insertOnce a l ↔ b = a ∨ b ∈ l := by
  induction l with
  | nil => rw [insertOnce, List.mem_singleton, or_iff_left List.not_mem_nil]
  | cons c rest ih =>
    unfold insertOnce
    split_ifs with hsame hless
    · rw [hsame, List.mem_cons]
      exact (or_iff_right_of_imp Or.inl).symm
    · rw [List.mem_cons]
    · rw [List.mem_cons, ih, List.mem_cons]
      exact or_left_comm

/-- Putting a list into order keeps its members. -/
theorem mem_ascending {a : α} {l : List α} : a ∈ ascending l ↔ a ∈ l := by
  unfold ascending
  induction l with
  | nil => rfl
  | cons b rest ih => rw [List.foldr_cons, mem_insertOnce, ih, List.mem_cons]

/-- An entry of a dictionary after an insertion is the inserted one or was there before. -/
theorem mem_of_mem_insert {d : Dict α β} {k : α} {v : β} {e : α × β} (h : e ∈ d.insert k v) :
    e = (k, v) ∨ e ∈ d := by
  induction d with
  | nil => exact Or.inl (List.mem_singleton.mp h)
  | cons e₀ rest ih =>
    unfold insert at h
    split_ifs at h
    · exact (List.mem_cons.mp h).imp_right (List.mem_cons_of_mem e₀)
    · exact List.mem_cons.mp h
    · rcases List.mem_cons.mp h with rfl | hrest
      · exact Or.inr List.mem_cons_self
      · exact (ih hrest).imp_right (List.mem_cons_of_mem e₀)

/-- An inserted key is put among the other keys once. -/
theorem keys_insert (d : Dict α β) (k : α) (v : β) :
    (d.insert k v).keys = insertOnce k d.keys := by
  unfold keys
  induction d with
  | nil => rfl
  | cons e rest ih =>
    unfold insert
    rw [List.map_cons, insertOnce]
    split_ifs with hsame hless
    · rw [List.map_cons, hsame]
    · rfl
    · rw [List.map_cons, ih]

/-- A list that is in order is left as it is when it is put into order. -/
theorem ascending_eq_self [Std.Irrefl (fun a b : α => a < b)] {l : List α}
    (h : l.Pairwise (· < ·)) : ascending l = l := by
  induction l with
  | nil => rfl
  | cons a rest ih =>
    obtain ⟨ha, hrest⟩ := List.pairwise_cons.mp h
    change insertOnce a (ascending rest) = a :: rest
    rw [ih hrest]
    cases rest with
    | nil => rfl
    | cons b rest =>
      have hless := ha b List.mem_cons_self
      have hne : a ≠ b := fun hsame => Std.Irrefl.irrefl b (hsame ▸ hless)
      rw [insertOnce, if_neg hne, if_pos hless]

/-- In a total order an ascending list stays ascending when a member is put into it. -/
theorem pairwise_insertOnce [IsTrans α (· < ·)] [Std.Trichotomous (fun a b : α => a < b)] {a : α}
    {l : List α} (h : l.Pairwise (· < ·)) : (insertOnce a l).Pairwise (· < ·) := by
  induction l with
  | nil => exact List.pairwise_singleton _ _
  | cons b rest ih =>
    obtain ⟨hb, hrest⟩ := List.pairwise_cons.mp h
    unfold insertOnce
    split_ifs with hsame hless
    · exact h
    · refine List.pairwise_cons.mpr ⟨fun c hc => ?_, h⟩
      rcases List.mem_cons.mp hc with rfl | hc
      · exact hless
      · exact trans_of (· < ·) hless (hb c hc)
    · refine List.pairwise_cons.mpr ⟨fun c hc => ?_, ih hrest⟩
      rcases mem_insertOnce.mp hc with rfl | hc
      · by_cases hgreater : b < c
        · exact hgreater
        · exact absurd (Std.Trichotomous.trichotomous c b hless hgreater) hsame
      · exact hb c hc

/-- In a total order a list that is put into order is ascending. -/
theorem pairwise_ascending [IsTrans α (· < ·)] [Std.Trichotomous (fun a b : α => a < b)]
    (l : List α) : (ascending l).Pairwise (· < ·) := by
  unfold ascending
  induction l with
  | nil => exact .nil
  | cons a rest ih => exact pairwise_insertOnce ih

/-- In a total order the keys of a dictionary that is made of entries are ascending. -/
theorem pairwise_keys_ofList [IsTrans α (· < ·)] [Std.Trichotomous (fun a b : α => a < b)]
    (entries : List (α × β)) : (ofList entries).keys.Pairwise (· < ·) := by
  have hfold : ∀ d : Dict α β, d.keys.Pairwise (· < ·) →
      (entries.foldl (fun d e => d.insert e.1 e.2) d).keys.Pairwise (· < ·) := by
    induction entries with
    | nil => exact fun d hd => hd
    | cons e rest ih =>
      intro d hd
      refine ih _ ?_
      rw [keys_insert]
      exact pairwise_insertOnce hd
  exact hfold [] .nil

end PortSurvey.Dict
