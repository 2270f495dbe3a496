import Mathlib.Data.List.Infix
import Mathlib.Tactic.SplitIfs
import PortSurvey.Artifact.Provisioning

/-!
# Words at the front of a text

Attributes and headers are recognised by trying a few names in turn. None of these begins another
(`PrefixFree`), so that the order does not matter: where one of them stands, the others find nothing
(`findSome?_afterWord?`).
-/

namespace PortSurvey.Artifact.Provisioning

open Text

/-- What stands behind a word is found. -/
theorem afterWord?_append (word : String) (s : List Char) :
    afterWord? word (word.toList ++ s) = some s := by
  unfold afterWord?
  rw [if_pos (List.isPrefixOf_iff_prefix.mpr (List.prefix_append _ _)), ← String.length_toList,
    List.drop_left]

/-- What has a word at its front begins with it. -/
theorem eq_of_afterWord? {word : String} {s rest : List Char} (h : afterWord? word s = some rest) :
    s = word.toList ++ rest := by
  unfold afterWord? at h
  split_ifs at h with hword
  rw [← Option.some.inj h, ← String.length_toList]
  exact (List.prefix_iff_eq_append.mp (List.isPrefixOf_iff_prefix.mp hword)).symm

/-- Trying names in turn finds the same if each of them does. -/
theorem findSome?_congr {β : Type} {names : List String} {f g : String → Option β}
    (h : ∀ name ∈ names, f name = g name) : names.findSome? f = names.findSome? g := by
  induction names with
  | nil => rfl
  | cons name names ih =>
    rw [List.findSome?_cons, List.findSome?_cons, h name List.mem_cons_self,
      ih fun other hother => h other (List.mem_cons_of_mem name hother)]

/-- None of some names begins another. -/
def PrefixFree (names : List String) : Prop :=
  ∀ name ∈ names, ∀ other ∈ names, name.toList <+: other.toList → name = other

/-- No attribute that speaks of ports begins another. -/
theorem settingNames_prefixFree : PrefixFree settingNames := by
  unfold PrefixFree
  decide

/-- No name of a block begins another. -/
theorem headerNames_prefixFree : PrefixFree headerNames := by
  unfold PrefixFree
  decide

/-- Where one of the names stands, no other is found. -/
theorem afterWord?_eq_none {names : List String} (hfree : PrefixFree names) {name other : String}
    (hname : name ∈ names) (hother : other ∈ names) (hne : other ≠ name) (s : List Char) :
    afterWord? other (name.toList ++ s) = none := by
  rw [Option.eq_none_iff_forall_ne_some]
  intro rest hrest
  have hstart : other.toList <+: name.toList ++ s := ⟨rest, (eq_of_afterWord? hrest).symm⟩
  rcases List.prefix_or_prefix_of_prefix hstart (List.prefix_append _ s) with hpre | hpre
  · exact hne (hfree other hother name hname hpre)
  · exact hne (hfree name hname other hother hpre).symm

/-- Where one of the names stands, trying all of them finds what that one finds. -/
theorem findSome?_afterWord? {β : Type} {names : List String} (hfree : PrefixFree names)
    {name : String} (hname : name ∈ names) (s : List Char)
    (found : String → List Char → Option β) :
    names.findSome? (fun n => (afterWord? n (name.toList ++ s)).bind (found n)) =
      found name s := by
  cases htried : names.findSome? fun n => (afterWord? n (name.toList ++ s)).bind (found n) with
  | none =>
    have hnone := List.findSome?_eq_none_iff.mp htried name hname
    rw [afterWord?_append, Option.bind_some] at hnone
    exact hnone.symm
  | some x =>
    obtain ⟨other, hother, hx⟩ := List.exists_of_findSome?_eq_some htried
    by_cases hsame : other = name
    · rw [hsame, afterWord?_append, Option.bind_some] at hx
      exact hx.symm
    · rw [afterWord?_eq_none hfree hname hother hsame] at hx
      cases hx

end PortSurvey.Artifact.Provisioning
