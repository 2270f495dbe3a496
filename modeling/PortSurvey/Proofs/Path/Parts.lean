import Mathlib.Data.List.Basic
import Mathlib.Tactic.SplitIfs
import PortSurvey.Path
import PortSurvey.Proofs.Text.Split

/-!
# How paths are spelled

The parts of a path can be told apart in its spelling: only the first can be the root or the dot,
and all others are plain, that is, their texts can stand between slashes (`Path.plain_of_mem_tail`).
To go on by a plain part adds it to the parts (`Path.join_parts`). Hence the first parts of a path
spell a path that has them (`Path.ofParts_take_parts`), and plain parts with slashes between them
spell a path that has these (`Path.joinParts_parts`).
-/

namespace PortSurvey

/-! ## Plain parts -/

/-- A part that can stand between slashes: a way up, or a name that is not spelled as something
else. -/
def Part.Plain : Part → Prop
  | .root | .here => False
  | .up => True
  | .name s => s ≠ "" ∧ s ≠ "." ∧ s ≠ ".." ∧ '/' ∉ s.toList

namespace Path

/-- What stands between slashes is a plain part or says nothing. -/
theorem plain_of_partOf? {segment : List Char} (hslash : '/' ∉ segment) {part : Part}
    (h : partOf? segment = some part) : part.Plain ∧ part.text.toList = segment := by
  unfold partOf? at h
  split_ifs at h with hnone hup
  · cases h
    exact ⟨trivial, (beq_iff_eq.mp hup).symm⟩
  · cases h
    rw [Bool.or_eq_true, not_or, List.isEmpty_iff, beq_iff_eq] at hnone
    rw [beq_iff_eq] at hup
    have hne : ∀ s : String, s.toList ≠ segment → String.ofList segment ≠ s := by
      rintro s hs rfl
      exact hs (String.toList_ofList ..)
    refine ⟨⟨hne "" (Ne.symm hnone.1), hne "." (Ne.symm hnone.2), hne ".." (Ne.symm hup), ?_⟩, ?_⟩
    · rwa [String.toList_ofList]
    · exact String.toList_ofList ..

/-- The text of a plain part is read as the part. -/
theorem partOf?_text {part : Part} (h : part.Plain) : partOf? part.text.toList = some part := by
  cases part with
  | root => exact h.elim
  | here => exact h.elim
  | up => rfl
  | name s =>
    obtain ⟨hempty, hdot, hup, -⟩ := h
    have hchars : ∀ l : List Char, s ≠ String.ofList l → s.toList ≠ l := by
      rintro l hs rfl
      exact hs (String.ofList_toList ..).symm
    unfold partOf? Part.text
    rw [if_neg, if_neg, String.ofList_toList]
    · rw [beq_iff_eq]
      exact hchars _ hup
    · rw [Bool.or_eq_true, List.isEmpty_iff, beq_iff_eq, not_or]
      exact ⟨hchars [] hempty, hchars _ hdot⟩

/-- The text of a plain part has no slashes. -/
theorem slash_not_mem_text {part : Part} (h : part.Plain) : '/' ∉ part.text.toList := by
  cases part with
  | root => exact h.elim
  | here => exact h.elim
  | up => decide
  | name s => exact h.2.2.2

/-- The text of a plain part is one segment. -/
theorem splitOnP_text {part : Part} (h : part.Plain) :
    part.text.toList.splitOnP (· == '/') = [part.text.toList] :=
  Text.splitOnP_of_notMem (slash_not_mem_text h)

/-! ## The parts of a path -/

/-- What stands between the slashes of a path. -/
def segments (p : Path) : List (List Char) :=
  p.text.toList.splitOnP (· == '/')

/-- What the front of a path says. -/
def front (p : Path) : List Part :=
  if p.isAbsolute then [.root] else if p.segments.head? == some ['.'] then [.here] else []

/-- The parts of a path are what its front says and what stands between its slashes. -/
theorem parts_eq (p : Path) : p.parts = p.front ++ p.segments.filterMap partOf? := by
  unfold parts front segments
  dsimp only
  split_ifs <;> rfl

/-- Breaks are not in the pieces between them. -/
theorem not_break_of_mem_splitOnP {α : Type} {p : α → Bool} {l piece : List α}
    (hpiece : piece ∈ l.splitOnP p) : ∀ x ∈ piece, ¬ p x := by
  induction l generalizing piece with
  | nil =>
    rw [List.splitOnP_nil, List.mem_singleton] at hpiece
    subst hpiece
    exact fun x hx => absurd hx List.not_mem_nil
  | cons y l ih =>
    rw [List.splitOnP_cons_eq_if_modifyHead] at hpiece
    obtain ⟨first, rest, hsplit⟩ := List.exists_cons_of_ne_nil (List.splitOnP_ne_nil p l)
    rw [hsplit] at ih hpiece
    split_ifs at hpiece with hy
    · rcases List.mem_cons.mp hpiece with rfl | hmem
      · exact fun x hx => absurd hx List.not_mem_nil
      · exact ih hmem
    · rw [List.modifyHead_cons] at hpiece
      rcases List.mem_cons.mp hpiece with rfl | hmem
      · intro x hx
        rcases List.mem_cons.mp hx with rfl | hx
        · exact hy
        · exact ih List.mem_cons_self x hx
      · exact ih (List.mem_cons_of_mem _ hmem)

/-- What stands between the slashes of a path and says something is plain. -/
theorem plain_of_mem_segments {p : Path} {part : Part}
    (h : part ∈ p.segments.filterMap partOf?) : part.Plain := by
  obtain ⟨segment, hsegment, hpart⟩ := List.mem_filterMap.mp h
  have hslash : '/' ∉ segment := fun hmem =>
    not_break_of_mem_splitOnP hsegment '/' hmem (beq_self_eq_true _)
  exact (plain_of_partOf? hslash hpart).1

/-- The front of a path is one part at most, and not a plain one. -/
theorem front_eq (p : Path) : p.front = [] ∨ p.front = [.root] ∨ p.front = [.here] := by
  unfold front
  split_ifs
  · exact .inr (.inl rfl)
  · exact .inr (.inr rfl)
  · exact .inl rfl

/-- All parts but the first are plain. -/
theorem plain_of_mem_tail {p : Path} {part : Part} (h : part ∈ p.parts.tail) : part.Plain := by
  rw [parts_eq] at h
  rcases p.front_eq with hfront | hfront | hfront
  · rw [hfront, List.nil_append] at h
    exact plain_of_mem_segments (List.mem_of_mem_tail h)
  · rw [hfront] at h
    exact plain_of_mem_segments h
  · rw [hfront] at h
    exact plain_of_mem_segments h

/-- All parts that come after others are plain. -/
theorem plain_of_mem_way {p : Path} {above way : List Part} (h : p.parts = above ++ way)
    (habove : above ≠ []) : ∀ part ∈ way, part.Plain := by
  intro part hpart
  obtain ⟨first, more, rfl⟩ := List.exists_cons_of_ne_nil habove
  refine plain_of_mem_tail (p := p) ?_
  rw [h, List.cons_append, List.tail_cons]
  exact List.mem_append_right _ hpart

/-- A part of a path that is not plain is its front. -/
theorem plain_or_mem_front {p : Path} {part : Part} (h : part ∈ p.parts) :
    part.Plain ∨ part ∈ p.front := by
  rw [parts_eq] at h
  rcases List.mem_append.mp h with hfront | hsegments
  · exact .inr hfront
  · exact .inl (plain_of_mem_segments hsegments)

/-- The parts of an absolute path begin with the root. -/
theorem parts_of_isAbsolute {p : Path} (h : p.isAbsolute) :
    p.parts = .root :: p.segments.filterMap partOf? := by
  rw [parts_eq, front, if_pos h]
  rfl

/-- An absolute path has parts. -/
theorem parts_ne_nil {p : Path} (h : p.isAbsolute) : p.parts ≠ [] := by
  rw [parts_of_isAbsolute h]
  exact List.cons_ne_nil _ _

/-! ## Going on -/

/-- What comes after a slash only adds to the parts of what comes before it, with the slash or
without. -/
theorem parts_of_slash {p q : Path} {before after : List Char}
    (hp : p.text.toList = before ++ '/' :: after)
    (hq : q.text.toList = before ++ ['/'] ∨ before ≠ [] ∧ q.text.toList = before) :
    p.parts = q.parts ++ (after.splitOnP (· == '/')).filterMap partOf? := by
  have hsegments : ∀ rest : List Char, (before ++ '/' :: rest).splitOnP (· == '/') =
      before.splitOnP (· == '/') ++ rest.splitOnP (· == '/') := fun rest =>
    List.splitOnP_append_cons before rest (beq_self_eq_true '/')
  have hhead : ∀ rest : List (List Char), (before.splitOnP (· == '/') ++ rest).head? =
      (before.splitOnP (· == '/')).head? := fun rest => by
    obtain ⟨first, more, hsplit⟩ := List.exists_cons_of_ne_nil
      (List.splitOnP_ne_nil (· == '/') before)
    rw [hsplit, List.cons_append, List.head?_cons, List.head?_cons]
  rw [parts_eq, parts_eq, front, front, isAbsolute, isAbsolute, segments, segments, hp]
  rcases hq with hslash | ⟨hne, hbare⟩
  · rw [hslash, hsegments, hsegments, hhead, hhead, List.splitOnP_nil]
    cases before <;> simp [partOf?]
  · rw [hbare, hsegments, hhead]
    obtain ⟨c, more, rfl⟩ := List.exists_cons_of_ne_nil hne
    simp

/-- The text of a plain part does not begin at the root. -/
theorem not_isAbsolute_text {part : Part} (h : part.Plain) :
    ¬ (⟨part.text⟩ : Path).isAbsolute := by
  unfold isAbsolute
  rw [beq_iff_eq]
  exact fun hhead => slash_not_mem_text h (List.mem_of_mem_head? hhead)

/-- The text of a plain part has this part. -/
theorem parts_text {part : Part} (h : part.Plain) : (⟨part.text⟩ : Path).parts = [part] := by
  have hdot : part.text.toList ≠ ['.'] := by
    intro htext
    have hread := partOf?_text h
    rw [htext] at hread
    cases hread
  rw [parts_eq, front, if_neg (not_isAbsolute_text h), segments, splitOnP_text h, List.head?_cons,
    if_neg (by simpa using hdot), List.filterMap_cons_some (partOf?_text h), List.filterMap_nil]
  rfl

/-- An absolute path is itself wherever it is seen from. -/
theorem join_of_isAbsolute {q : Path} (h : q.isAbsolute) (p : Path) : p.join q = q :=
  if_pos h

/-- Every path is itself when it is seen from the path without a text. -/
theorem empty_join {p : Path} (h : p.text = "") (q : Path) : p.join q = q := by
  unfold join
  rw [h]
  split_ifs
  · rfl
  · rw [String.empty_append]
  · contradiction

/-- To go on by a relative path adds what it says between its slashes. -/
theorem join_parts_of_relative {p q : Path} (hq : ¬ q.isAbsolute) (hp : p.text ≠ "") :
    (p.join q).parts = p.parts ++ q.segments.filterMap partOf? := by
  unfold join
  rw [if_neg hq]
  split_ifs with hend
  · rw [Bool.or_eq_true, String.isEmpty_iff, beq_iff_eq] at hend
    obtain ⟨before, hbefore⟩ := List.getLast?_eq_some_iff.mp (hend.resolve_left hp)
    refine parts_of_slash ?_ (.inl hbefore)
    rw [String.toList_append, hbefore, List.append_assoc]
    rfl
  · have hne : p.text.toList ≠ [] := fun hnil => hp (String.toList_eq_nil_iff.mp hnil)
    refine parts_of_slash ?_ (.inr ⟨hne, rfl⟩)
    rw [String.toList_append, String.toList_append, List.append_assoc]
    rfl

/-- To go on by a plain part adds it. -/
theorem join_parts {part : Part} (h : part.Plain) (p : Path) :
    (p.join ⟨part.text⟩).parts = p.parts ++ [part] := by
  by_cases hempty : p.text = ""
  · have hparts : p.parts = [] := by
      unfold parts isAbsolute
      rw [hempty]
      rfl
    rw [empty_join hempty, hparts]
    exact parts_text h
  · rw [join_parts_of_relative (not_isAbsolute_text h) hempty, segments, splitOnP_text h,
      List.filterMap_cons_some (partOf?_text h), List.filterMap_nil]

/-- The first parts of a path spell a path that has them. -/
theorem ofParts_take_parts (p : Path) (n : Nat) :
    (ofParts (p.parts.take n)).parts = p.parts.take n := by
  induction n with
  | zero =>
    rw [List.take_zero]
    rfl
  | succ n ih =>
    rcases Nat.lt_or_ge n p.parts.length with hn | hn
    · have htake : p.parts.take (n + 1) = p.parts.take n ++ [p.parts[n]] :=
        List.take_succ_eq_append_getElem hn
      have hjoin : ofParts (p.parts.take (n + 1)) =
          (ofParts (p.parts.take n)).join ⟨p.parts[n].text⟩ := by
        rw [htake]
        exact List.foldl_concat ..
      rw [hjoin, htake]
      rcases plain_or_mem_front (List.getElem_mem hn) with hplain | hfront
      · rw [join_parts hplain, ih]
      · -- Only the first part is not plain, and its text is a path by itself.
        cases n with
        | zero =>
          rcases p.front_eq with h | h | h <;> rw [h] at hfront
          · exact absurd hfront List.not_mem_nil
          · rw [List.mem_singleton.mp hfront, List.take_zero]
            decide
          · rw [List.mem_singleton.mp hfront, List.take_zero]
            decide
        | succ n =>
          have htail : p.parts[n + 1] ∈ p.parts.tail := by
            rw [← List.getElem_tail (by rw [List.length_tail]; omega)]
            exact List.getElem_mem _
          rw [join_parts (plain_of_mem_tail htail), ih]
    · have hall : p.parts.take (n + 1) = p.parts.take n := by
        rw [List.take_of_length_le (by omega), List.take_of_length_le hn]
      rw [hall, ih]

/-! ## Parts between slashes -/

/-- Plain parts that are joined with slashes are the parts of what they spell. -/
theorem joinParts_parts {ps : List Part} (h : ∀ part ∈ ps, part.Plain) :
    (⟨joinParts ps⟩ : Path).parts = ps := by
  rcases List.eq_nil_or_concat ps with rfl | ⟨before, last, hps⟩
  · decide
  have hsegments : (⟨joinParts ps⟩ : Path).segments = ps.map (·.text.toList) := by
    unfold segments joinParts
    rw [String.toList_intercalate, List.map_map, ← List.splitOn_eq_splitOnP]
    refine List.splitOn_intercalate '/' ?_ (by simp [hps])
    intro segment hsegment
    obtain ⟨part, hpart, rfl⟩ := List.mem_map.mp hsegment
    exact slash_not_mem_text (h part hpart)
  -- Every segment says something, and so the front says nothing.
  have hread : ∀ segment ∈ (⟨joinParts ps⟩ : Path).segments, partOf? segment ≠ none := by
    intro segment hsegment
    rw [hsegments] at hsegment
    obtain ⟨part, hpart, rfl⟩ := List.mem_map.mp hsegment
    rw [partOf?_text (h part hpart)]
    exact Option.some_ne_none part
  have hfront : (⟨joinParts ps⟩ : Path).front = [] := by
    unfold front
    rw [if_neg, if_neg]
    · rw [beq_iff_eq]
      exact fun hhead => hread _ (List.mem_of_mem_head? hhead) rfl
    · unfold isAbsolute
      rw [beq_iff_eq]
      intro hhead
      obtain ⟨rest, htext⟩ := List.head?_eq_some_iff.mp hhead
      refine hread [] ?_ rfl
      unfold segments
      rw [htext, List.splitOnP_cons_eq_if_modifyHead, if_pos (beq_self_eq_true _)]
      exact List.mem_cons_self
  rw [parts_eq, hfront, hsegments, List.filterMap_map, List.nil_append]
  calc ps.filterMap (partOf? ∘ fun part => part.text.toList)
      = ps.filterMap some := List.filterMap_congr fun part hpart => partOf?_text (h part hpart)
    _ = ps := List.filterMap_some

/-- A slash stands between a part and those that follow. -/
theorem joinParts_cons (part : Part) {ps : List Part} (h : ps ≠ []) :
    joinParts (part :: ps) = part.text ++ "/" ++ joinParts ps := by
  obtain ⟨x, xs, rfl⟩ := List.exists_cons_of_ne_nil h
  exact String.intercalate_cons_cons

/-- More parts make a longer text. -/
theorem length_joinParts_lt {above below : List Part} (habove : above ≠ []) (hbelow : below ≠ []) :
    (joinParts below).length < (joinParts (above ++ below)).length := by
  have hcons : ∀ (part : Part) (rest : List Part), rest ≠ [] →
      (joinParts rest).length < (joinParts (part :: rest)).length := by
    intro part rest hrest
    have hslash : "/".length = 1 := rfl
    rw [joinParts_cons part hrest, String.length_append, String.length_append, hslash]
    omega
  induction above with
  | nil => exact absurd rfl habove
  | cons part above ih =>
    have hstep := hcons part (above ++ below) (List.append_ne_nil_of_right_ne_nil above hbelow)
    rcases eq_or_ne above [] with rfl | hne
    · exact hstep
    · exact (ih hne).trans hstep

/-- The last parts of a path are told by their text, unless there are none. -/
theorem eq_of_joinParts_eq {ps qs above above' : List Part} (h : above ++ ps = above' ++ qs)
    (hps : ps ≠ []) (hqs : qs ≠ []) (htext : joinParts ps = joinParts qs) : ps = qs := by
  have hlength := congrArg String.length htext
  rcases List.append_eq_append_iff.mp h with ⟨more, -, rfl⟩ | ⟨more, -, rfl⟩
  · rcases eq_or_ne more [] with rfl | hmore
    · rfl
    · exact absurd hlength (length_joinParts_lt hmore hqs).ne'
  · rcases eq_or_ne more [] with rfl | hmore
    · rfl
    · exact absurd hlength (length_joinParts_lt hmore hps).ne

/-- What is joined with slashes may be joined piece by piece. -/
theorem joinParts_append_name (ps : List Part) {rest : List Part} (hrest : rest ≠ []) :
    joinParts (ps ++ [.name (joinParts rest)]) = joinParts (ps ++ rest) := by
  induction ps with
  | nil => exact String.intercalate_singleton
  | cons part ps ih =>
    rw [List.cons_append, List.cons_append, joinParts_cons, ih, joinParts_cons]
    · exact List.append_ne_nil_of_right_ne_nil ps hrest
    · exact List.append_ne_nil_of_right_ne_nil ps (List.cons_ne_nil _ _)

/-! ## Above and below -/

/-- A way leads down from one path to another if it adds up to its parts. -/
theorem below?_eq_some_iff {p q : Path} {way : List Part} :
    p.below? q = some way ↔ p.parts = q.parts ++ way := by
  unfold below?
  split_ifs with h
  · obtain ⟨rest, hrest⟩ := List.isPrefixOf_iff_prefix.mp h
    rw [← hrest, List.drop_left, Option.some.injEq, List.append_cancel_left_eq]
  · refine iff_of_false id fun hparts => h ?_
    rw [hparts]
    exact List.isPrefixOf_iff_prefix.mpr (List.prefix_append _ _)

/-- A path lies below another if it begins with its parts. -/
theorem isSome_below?_iff {p q : Path} : (p.below? q).isSome ↔ q.parts <+: p.parts := by
  simp only [Option.isSome_iff_exists, below?_eq_some_iff]
  exact ⟨fun ⟨way, h⟩ => ⟨way, h.symm⟩, fun ⟨way, h⟩ => ⟨way, h.symm⟩⟩

/-- The directory around an entry has its parts but the last, which is not the root. -/
theorem parentParts?_eq_some_iff {p : Path} {above : List Part} :
    p.parentParts? = some above ↔ ∃ last, last ≠ .root ∧ p.parts = above ++ [last] := by
  unfold parentParts?
  rcases List.eq_nil_or_concat p.parts with hnil | ⟨before, last, hlast⟩
  · rw [hnil]
    simp
  · rw [hlast, List.concat_eq_append, List.getLast?_concat, List.dropLast_concat]
    simp only [List.append_singleton_inj]
    cases last <;> simp

end Path

end PortSurvey
