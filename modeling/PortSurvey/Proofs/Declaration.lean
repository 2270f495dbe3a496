import Mathlib.Tactic.SplitIfs
import PortSurvey.Declaration

/-!
# How declarations are made

A declaration is made of a service, a port and a kind of place, and then given a transport and facts
that stand beside it. The transport is never empty (`transportName_ne_empty`), and whatever is given
to a declaration leaves alone the file in which it stands (`Declaration.moved`). The facts leave
alone all the rest of it (`Declaration.bare`).
-/

namespace PortSurvey

open Text

/-! ## Names of transports -/

/-- A row of the table of wide forms has one, unless it is the row of no character. -/
theorem Text.eq_zero_or_ne_nil_of_mem_wideUppers {row : Nat × List Char} (h : row ∈ wideUppers) :
    row.1 = 0 ∨ row.2 ≠ [] := by
  unfold wideUppers at h
  obtain ⟨item, -, rfl⟩ := List.mem_map.mp h
  split
  · exact Or.inr fun hnil => List.splitOnP_ne_nil _ _ (List.map_eq_nil_iff.mp hnil)
  · exact Or.inl rfl

/-- The upper-case form of a character is not empty. -/
theorem Text.upperChar_ne_nil (c : Char) : upperChar c ≠ [] := by
  unfold upperChar
  generalize Run.lookup upperRuns c.toNat = target
  generalize hfind : wideUppers.find? (fun row => row.1 == c.toNat) = found
  split_ifs with hascii
  · exact List.cons_ne_nil _ _
  · cases found with
    | some row =>
      have hcode := List.find?_some hfind
      rw [beq_iff_eq] at hcode
      rcases eq_zero_or_ne_nil_of_mem_wideUppers (List.mem_of_find?_eq_some hfind) with hzero | hne
      · omega
      · exact hne
    | none => cases target <;> exact List.cons_ne_nil _ _

/-- The upper-case form of a text that is not empty is not either. -/
theorem Text.upper_ne_empty {s : String} (h : s ≠ "") : upper s ≠ "" := by
  have hchars : s.toList ≠ [] := fun hnil => h (String.toList_eq_nil_iff.mp hnil)
  obtain ⟨c, rest, hs⟩ := List.exists_cons_of_ne_nil hchars
  unfold upper
  rw [hs, List.flatMap_cons]
  intro hempty
  have hnil : upperChar c ++ rest.flatMap upperChar = [] := by
    rw [← String.toList_ofList (l := upperChar c ++ _), hempty]
    rfl
  exact upperChar_ne_nil c (List.append_eq_nil_iff.mp hnil).1

/-- The name of a transport is not empty. -/
theorem transportName_ne_empty (s : String) : transportName s ≠ "" := by
  unfold transportName
  dsimp only
  split_ifs with h
  · decide
  · exact upper_ne_empty fun hempty => h (String.isEmpty_iff.mpr hempty)

/-! ## What is given to declarations -/

namespace Declaration

variable (d : Declaration) (key : String)

/-- A transport does not matter to the line. -/
@[simp] theorem withProtocol_line (protocol : String) :
    (d.withProtocol protocol).line = d.line := by
  unfold withProtocol
  generalize transportName protocol = name
  rfl

/-- A fact does not matter to the line. -/
@[simp] theorem withContext_line (value : String) : (d.withContext key value).line = d.line :=
  rfl

/-- A fact that may be missing does not matter to the line. -/
@[simp] theorem withContext?_line (value : Option String) :
    (d.withContext? key value).line = d.line := by
  cases value <;> rfl

/-- A declaration without the facts that stand beside it. -/
def bare (d : Declaration) : Declaration :=
  { d with context := [] }

/-- A fact stands beside the declaration only. -/
@[simp] theorem withContext_bare (value : String) : (d.withContext key value).bare = d.bare :=
  rfl

/-- So does a fact that may be missing. -/
@[simp] theorem withContext?_bare (value : Option String) :
    (d.withContext? key value).bare = d.bare := by
  cases value <;> rfl

/-- A transport is given alike with and without facts beside it. -/
@[simp] theorem withProtocol_bare (protocol : String) :
    (d.withProtocol protocol).bare = { d.bare with protocol := transportName protocol } := by
  unfold withProtocol
  generalize transportName protocol = name
  rfl

/-- What a declaration says, wherever it stands in its file. -/
def unplaced (d : Declaration) : Declaration :=
  { d with line := none }

/-- The declaration as it would stand in another file. -/
def moved (file : String) (d : Declaration) : Declaration :=
  { d with file := file }

/-- The declaration as it would stand on another line of its file. -/
def renumbered (move : Nat → Nat) (d : Declaration) : Declaration :=
  { d with line := d.line.map move }

variable (file : String)

/-- A declaration of a port is made alike in every file. -/
@[simp] theorem basic_moved (service : String) (port : Nat) (origin : Origin) (file' : String) :
    (basic service port origin file').moved file = basic service port origin file :=
  rfl

/-- A transport is given alike in every file. -/
@[simp] theorem withProtocol_moved (protocol : String) :
    (d.withProtocol protocol).moved file = (d.moved file).withProtocol protocol := by
  unfold withProtocol
  generalize transportName protocol = name
  rfl

/-- A fact is given alike in every file. -/
@[simp] theorem withContext_moved (value : String) :
    (d.withContext key value).moved file = (d.moved file).withContext key value :=
  rfl

/-- A fact that may be missing is given alike in every file. -/
@[simp] theorem withContext?_moved (value : Option String) :
    (d.withContext? key value).moved file = (d.moved file).withContext? key value := by
  cases value <;> rfl

end Declaration

end PortSurvey
