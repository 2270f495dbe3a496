import PortSurvey.Proofs.Path.Parts

/-!
# Spellings of one path

Several texts may spell one path, and what is asked of a path does not tell them apart: its name,
the name without its ending, the way to it and where it leads to from another path
(`Path.join_parts_congr`) depend on its parts alone. Among the spellings of a path is the one that
its parts spell (`Path.ofParts_parts`).

A way down from a path is the same way down when the path is seen from elsewhere
(`Path.join_parts_append`). So a path that stands for itself, seen from elsewhere, tells that all
paths below it do (`Path.join_parts_of_prefix`); one that does not has become longer
(`Path.length_lt_of_join_join_ne`).
-/

namespace PortSurvey.Path

/-- What the front of a path says is what no part between slashes could say. -/
theorem mem_front_iff {p : Path} {part : Part} : part ∈ p.front ↔ part ∈ p.parts ∧ ¬ part.Plain := by
  constructor
  · intro hmem
    refine ⟨p.parts_eq ▸ List.mem_append_left _ hmem, fun hplain => ?_⟩
    rcases p.front_eq with hfront | hfront | hfront <;> rw [hfront] at hmem
    · exact absurd hmem List.not_mem_nil
    · exact (List.mem_singleton.mp hmem ▸ hplain : Part.root.Plain)
    · exact (List.mem_singleton.mp hmem ▸ hplain : Part.here.Plain)
  · rintro ⟨hmem, hplain⟩
    exact (plain_or_mem_front hmem).resolve_left hplain

/-- Fronts that say the same are the same. -/
theorem front_eq_of_mem_iff {p q : Path} (h : ∀ part, part ∈ p.front ↔ part ∈ q.front) :
    p.front = q.front := by
  -- A front is one part at most, and so what it holds tells which it is.
  rcases p.front_eq with hp | hp | hp <;> rcases q.front_eq with hq | hq | hq <;>
    simp [hp, hq] at h ⊢

/-- An absolute path is one whose front says so. -/
theorem isAbsolute_iff {p : Path} : p.isAbsolute ↔ p.front = [.root] := by
  unfold front
  split_ifs with habsolute hhere
  · exact iff_of_true habsolute rfl
  · exact iff_of_false habsolute (by decide)
  · exact iff_of_false habsolute (by decide)

/-- A path that plain parts spell has nothing at its front. -/
theorem front_joinParts {ps : List Part} (h : ∀ part ∈ ps, part.Plain) :
    (⟨joinParts ps⟩ : Path).front = [] := by
  refine List.eq_nil_iff_forall_not_mem.mpr fun part hpart => ?_
  rw [mem_front_iff, joinParts_parts h] at hpart
  exact hpart.2 (h part hpart.1)

/-- A path that plain parts spell is relative. -/
theorem not_isAbsolute_joinParts {ps : List Part} (h : ∀ part ∈ ps, part.Plain) :
    ¬ (⟨joinParts ps⟩ : Path).isAbsolute := by
  rw [isAbsolute_iff, front_joinParts h]
  exact (List.cons_ne_nil _ _).symm

/-- To go on by what plain parts spell adds them. -/
theorem join_joinParts_parts {p : Path} (hp : p.text ≠ "") {ps : List Part}
    (h : ∀ part ∈ ps, part.Plain) : (p.join ⟨joinParts ps⟩).parts = p.parts ++ ps := by
  have hparts := joinParts_parts h
  rw [parts_eq, front_joinParts h, List.nil_append] at hparts
  rw [join_parts_of_relative (not_isAbsolute_joinParts h) hp, hparts]

section Congruence

variable {p q : Path} (h : p.parts = q.parts)

include h

/-- The fronts of paths of the same parts say the same. -/
theorem front_congr : p.front = q.front :=
  front_eq_of_mem_iff fun part => by rw [mem_front_iff, mem_front_iff, h]

/-- Of paths of the same parts both are absolute or none. -/
theorem isAbsolute_congr : p.isAbsolute ↔ q.isAbsolute := by
  rw [isAbsolute_iff, isAbsolute_iff, front_congr h]

/-- What stands between the slashes of paths of the same parts says the same. -/
theorem segments_congr : p.segments.filterMap partOf? = q.segments.filterMap partOf? := by
  have hparts := h
  rw [parts_eq, parts_eq, front_congr h] at hparts
  exact List.append_cancel_left hparts

/-- Paths of the same parts lead to the same place from everywhere. -/
theorem join_parts_congr (base : Path) : (base.join p).parts = (base.join q).parts := by
  by_cases hp : p.isAbsolute
  · rw [join_of_isAbsolute hp, join_of_isAbsolute ((isAbsolute_congr h).mp hp)]
    exact h
  · have hq := mt (isAbsolute_congr h).mpr hp
    by_cases hempty : base.text = ""
    · rw [empty_join hempty, empty_join hempty]
      exact h
    · rw [join_parts_of_relative hp hempty, join_parts_of_relative hq hempty, segments_congr h]

/-- Paths of the same parts have the same name. -/
theorem name?_congr : p.name? = q.name? := by
  unfold name?
  rw [h]

/-- Paths of the same parts have the same name without its ending. -/
theorem stem?_congr : p.stem? = q.stem? := by
  unfold stem?
  rw [name?_congr h]

/-- Paths of the same parts are at the same way from everywhere. -/
theorem below?_congr (base : Path) : p.below? base = q.below? base := by
  unfold below?
  rw [h]

end Congruence

/-! ## Ways down, seen from elsewhere -/

/-- What stands between slashes says nothing if it is empty or a dot. -/
theorem partOf?_eq_none_iff {segment : List Char} :
    partOf? segment = none ↔ segment = [] ∨ segment = ['.'] := by
  unfold partOf?
  split_ifs with hnone hup
  · exact iff_of_true rfl (by simpa using hnone)
  · exact iff_of_false id (by simpa using hnone)
  · exact iff_of_false id (by simpa using hnone)

/-- Only the path without a text has no parts. -/
theorem parts_eq_nil_iff {p : Path} : p.parts = [] ↔ p.text = "" := by
  constructor
  · intro h
    by_contra hne
    -- The path begins at the root, or with a segment that is not empty.
    obtain ⟨c, rest, htext⟩ := List.exists_cons_of_ne_nil (mt String.toList_eq_nil_iff.mp hne)
    rw [parts_eq, List.append_eq_nil_iff, front] at h
    obtain ⟨hfront, hsegments⟩ := h
    have hrelative : ¬ p.isAbsolute := fun habsolute => by simp [habsolute] at hfront
    have hc : c ≠ '/' := fun hc => hrelative (by simp [isAbsolute, htext, hc])
    obtain ⟨first, more, hsplit⟩ := List.exists_cons_of_ne_nil
      (List.splitOnP_ne_nil (· == '/') rest)
    have hp : p.segments = (c :: first) :: more := by
      unfold segments
      rw [htext, List.splitOnP_cons_eq_if_modifyHead, if_neg (by simpa using hc), hsplit,
        List.modifyHead_cons]
    rw [if_neg hrelative, hp, List.head?_cons] at hfront
    rw [hp, List.filterMap_eq_nil_iff] at hsegments
    rcases partOf?_eq_none_iff.mp (hsegments _ List.mem_cons_self) with hnil | hdot
    · exact List.cons_ne_nil _ _ hnil
    · simp [hdot] at hfront
  · intro h
    unfold parts isAbsolute
    rw [h]
    rfl

/-- To go on by the path without a text leads nowhere else. -/
theorem join_empty_parts {p : Path} (hp : p.text = "") (base : Path) :
    (base.join p).parts = base.parts := by
  have hnil := parts_eq_nil_iff.mpr hp
  by_cases hbase : base.text = ""
  · rw [empty_join hbase, hnil, parts_eq_nil_iff.mpr hbase]
  · have hrelative : ¬ p.isAbsolute := fun habsolute => parts_ne_nil habsolute hnil
    rw [parts_eq, List.append_eq_nil_iff] at hnil
    rw [join_parts_of_relative hrelative hbase, hnil.2, List.append_nil]

section WayDown

variable {p q : Path} {way : List Part}

/-- A path further down has the same front. -/
theorem front_of_append (h : q.parts = p.parts ++ way) (hp : p.parts ≠ []) : q.front = p.front := by
  refine front_eq_of_mem_iff fun part => ?_
  rw [mem_front_iff, mem_front_iff, h, List.mem_append]
  refine and_congr_left fun hplain => or_iff_left fun hmem => hplain ?_
  exact plain_of_mem_way h hp part hmem

/-- A path further down says more between its slashes. -/
theorem segments_of_append (h : q.parts = p.parts ++ way) (hp : p.parts ≠ []) :
    q.segments.filterMap partOf? = p.segments.filterMap partOf? ++ way := by
  have hparts := h
  rw [parts_eq, parts_eq, front_of_append h hp, List.append_assoc] at hparts
  exact List.append_cancel_left hparts

/-- A way down from a path is the same way down when the path is seen from elsewhere. -/
theorem join_parts_append (h : q.parts = p.parts ++ way) (hp : p.parts ≠ []) (base : Path) :
    (base.join q).parts = (base.join p).parts ++ way := by
  by_cases habsolute : p.isAbsolute
  · have hq : q.isAbsolute := by
      rw [isAbsolute_iff, front_of_append h hp]
      exact isAbsolute_iff.mp habsolute
    rw [join_of_isAbsolute habsolute, join_of_isAbsolute hq, h]
  · have hq : ¬ q.isAbsolute := by
      rw [isAbsolute_iff, front_of_append h hp]
      exact mt isAbsolute_iff.mpr habsolute
    by_cases hempty : base.text = ""
    · rw [empty_join hempty, empty_join hempty, h]
    · rw [join_parts_of_relative habsolute hempty, join_parts_of_relative hq hempty,
        segments_of_append h hp, List.append_assoc]

/-- If a path stands for itself, so does every path below it. -/
theorem join_parts_of_prefix {base : Path} (hp : (base.join p).parts = p.parts)
    (h : p.parts <+: q.parts) : (base.join q).parts = q.parts := by
  obtain ⟨way, hway⟩ := h
  by_cases hnil : p.parts = []
  · -- Seen from elsewhere, the path without a text is that place.
    have hbase : base.text = "" := by
      rwa [join_empty_parts (parts_eq_nil_iff.mp hnil), hnil, parts_eq_nil_iff] at hp
    rw [empty_join hbase]
  · rw [join_parts_append hway.symm hnil, hp, hway]

end WayDown

/-- To go on by a plain part adds it, also when the path is seen from elsewhere. -/
theorem join_join_parts {part : Part} (h : part.Plain) (base p : Path) :
    (base.join (p.join ⟨part.text⟩)).parts = (base.join p).parts ++ [part] := by
  by_cases hp : p.text = ""
  · rw [empty_join hp, join_parts h, join_empty_parts hp]
  · exact join_parts_append (join_parts h p) (mt parts_eq_nil_iff.mp hp) base

/-- What is seen from a path and does not stand for itself there is longer when it is seen again. -/
theorem length_lt_of_join_join_ne {base p : Path}
    (h : (base.join (base.join p)).parts ≠ (base.join p).parts) :
    (base.join p).parts.length < (base.join (base.join p)).parts.length := by
  have hseen : ¬ (base.join p).isAbsolute := fun habsolute =>
    h (congrArg parts (join_of_isAbsolute habsolute base))
  have hbase : base.text ≠ "" := fun hempty => h (congrArg parts (empty_join hempty _))
  have hp : ¬ p.isAbsolute := fun habsolute =>
    hseen ((join_of_isAbsolute habsolute base).symm ▸ habsolute)
  have hdown := join_parts_of_relative hp hbase
  have hfront := (base.join p).parts_eq
  rw [join_parts_of_relative hseen hbase] at h ⊢
  by_contra hlength
  rw [hfront, List.length_append, List.length_append, Nat.add_lt_add_iff_right, not_lt] at hlength
  -- What comes before the path would be its front, and would not be seen twice.
  have hprefix : base.parts <+: (base.join p).front :=
    List.prefix_of_prefix_length_le ⟨_, hdown.symm⟩ ⟨_, hfront.symm⟩ hlength
  have hne : base.parts ≠ [] := mt parts_eq_nil_iff.mp hbase
  have hsame : base.parts = (base.join p).front := by
    rcases (base.join p).front_eq with hx | hx | hx <;> rw [hx] at hprefix ⊢
    · exact List.prefix_nil.mp hprefix
    all_goals
      exact (List.prefix_cons_iff.mp hprefix).elim (absurd · hne) fun ⟨_, hcons, hnil⟩ =>
        hcons.trans (congrArg _ (List.prefix_nil.mp hnil))
  exact h ((congrArg (· ++ _) hsame).trans hfront.symm)

/-- What is seen from a path and does not stand for itself there is a place. -/
theorem parts_ne_nil_of_join_join_ne {base p : Path}
    (h : (base.join (base.join p)).parts ≠ (base.join p).parts) : (base.join p).parts ≠ [] := by
  intro hnil
  have hjoin := join_empty_parts (parts_eq_nil_iff.mp hnil) base
  have hp : ¬ p.isAbsolute := fun habsolute =>
    parts_ne_nil habsolute (by rwa [join_of_isAbsolute habsolute] at hnil)
  have hbase : base.text ≠ "" := fun hempty => h (congrArg parts (empty_join hempty _))
  rw [join_parts_of_relative hp hbase, List.append_eq_nil_iff] at hnil
  exact hbase (parts_eq_nil_iff.mp hnil.1)

/-- The parts of a path spell it. -/
theorem ofParts_parts (p : Path) : (ofParts p.parts).parts = p.parts := by
  have hall := p.ofParts_take_parts p.parts.length
  rwa [List.take_length] at hall

end PortSurvey.Path
