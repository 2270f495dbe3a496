import PortSurvey.Proofs.Artifact.Display
import PortSurvey.Proofs.Artifact.WellFormed
import PortSurvey.Proofs.Survey.Isolation
import PortSurvey.Proofs.Tree.Walk

/-!
# Surveys of subdirectories

What a survey finds below a directory is what a survey of the directory itself finds
(`Survey.run_subdirectory`). The walks agree (`Tree.Grounded.filter_walk`), both surveys tell the
same of an artifact but for the path by which it is shown (`Survey.describe_shownAs`), and so it
contributes the same declarations, of files further down (`Survey.contribution_seenFrom`).
-/

namespace PortSurvey

open Artifact (Kind)

/-! ## Declarations seen from further up -/

namespace Declaration

/-- The declaration as a survey finds it from further up; a way leads from there to the root of the
survey that finds it as it is. -/
def seenFrom (way : List Part) (d : Declaration) : Declaration :=
  d.moved (Path.joinParts (way ++ [.name d.file]))

/-- Whether the file of a declaration lies down a way from the root of the survey. -/
def liesDown (way : List Part) (d : Declaration) : Bool :=
  ((⟨d.file⟩ : Path).below? ⟨Path.joinParts way⟩).isSome

end Declaration

namespace Survey

variable {t : Tree} {r d p : Path} {way rest : List Part}

/-! ## What is told about an artifact -/

/-- A path lies at the end of the ways that lead to it. -/
theorem partsBelow_eq (h : p.below? r = some way) : partsBelow r p = way := by
  unfold partsBelow
  rw [h, Option.getD_some]

/-- Ways that follow each other are one way. -/
theorem below?_trans (hway : d.below? r = some way) (hrest : p.below? d = some rest) :
    p.below? r = some (way ++ rest) := by
  rw [Path.below?_eq_some_iff] at hway hrest ⊢
  rw [hrest, hway, List.append_assoc]

/-- The service of a root that has a name is this name. -/
theorem rootService_of_name {above : List Part} {name : String}
    (hparts : d.parts = above ++ [.name name]) (habove : above ≠ []) : rootService d = name := by
  have hplain := Path.plain_of_mem_way hparts habove _ (List.mem_singleton_self _)
  have hname : d.name? = some name := by
    unfold Path.name?
    rw [hparts, List.getLast?_concat]
    rfl
  unfold rootService
  rw [hname]
  exact if_neg fun hempty => hplain.1 (String.isEmpty_iff.mp hempty)

/-- An artifact that names no service is of the same service in both surveys: that of the directory
in which it lies, which may be the root of one of them. -/
theorem describe_service (hr : r.parts ≠ []) (hway : d.below? r = some way)
    (hrest : p.below? d = some rest) (hne : rest ≠ [])
    (hnames : ∀ part ∈ way ++ rest.dropLast, ∃ s, part = .name s) :
    (describe r p).service = (describe d p).service := by
  have hparts := Path.below?_eq_some_iff.mp hway
  unfold describe
  dsimp only
  rw [partsBelow_eq hrest, partsBelow_eq (below?_trans hway hrest),
    List.dropLast_append_of_ne_nil hne]
  rcases List.eq_nil_or_concat rest.dropLast with hdirect | ⟨before, last, hlast⟩
  · rw [hdirect, List.append_nil] at hnames ⊢
    rcases List.eq_nil_or_concat way with rfl | ⟨before, last, rfl⟩
    · rw [List.append_nil] at hparts
      unfold rootService Path.name?
      rw [hparts]
    · -- The last directory on the way is the root of the other survey.
      rw [List.concat_eq_append] at hparts hnames ⊢
      obtain ⟨s, rfl⟩ := hnames last (List.mem_append_right _ (List.mem_singleton_self _))
      rw [← List.append_assoc] at hparts
      rw [rootService_of_name hparts (List.append_ne_nil_of_left_ne_nil hr _),
        List.getLast?_concat]
      rfl
  · rw [hlast, List.concat_eq_append] at hnames ⊢
    obtain ⟨s, rfl⟩ := hnames last
      (List.mem_append_right _ (List.mem_append_right _ (List.mem_singleton_self _)))
    rw [← List.append_assoc, List.getLast?_concat, List.getLast?_concat]
    rfl

/-- An artifact is told the same in both surveys, but for the path by which it is shown. -/
theorem describe_shownAs (hr : r.parts ≠ []) (hway : d.below? r = some way)
    (hrest : p.below? d = some rest) (hne : rest ≠ [])
    (hnames : ∀ part ∈ way ++ rest.dropLast, ∃ s, part = .name s) :
    describe r p = (describe d p).shownAs (Path.joinParts (way ++ rest)) := by
  have hservice := describe_service hr hway hrest hne hnames
  have hdisplay : (describe r p).display = Path.joinParts (way ++ rest) :=
    congrArg Path.joinParts (partsBelow_eq (below?_trans hway hrest))
  unfold Artifact.File.shownAs
  rw [← hservice, ← hdisplay]
  rfl

/-! ## What an artifact contributes -/

/-- The declarations that a file contributes tell the path by which it is shown. -/
theorem file_eq_of_mem_contribution {x : Declaration} (hx : x ∈ contribution t d p) :
    x.file = Path.joinParts (partsBelow d p) := by
  unfold contribution at hx
  split at hx
  · split at hx
    · rename_i ds hds
      exact (Artifact.Kind.read_wellFormed hds x hx).file
    · exact absurd hx List.not_mem_nil
  · exact absurd hx List.not_mem_nil

/-- The path by which a file below the root is shown is its way from there. -/
theorem file_of_mem_contribution (hrest : p.below? d = some rest) {x : Declaration}
    (hx : x ∈ contribution t d p) : x.file = Path.joinParts rest :=
  (file_eq_of_mem_contribution hx).trans (congrArg Path.joinParts (partsBelow_eq hrest))

/-- What a file contributes to a survey from further up. -/
theorem contribution_seenFrom (hr : r.parts ≠ []) (hway : d.below? r = some way)
    (hrest : p.below? d = some rest) (hne : rest ≠ [])
    (hnames : ∀ part ∈ way ++ rest.dropLast, ∃ s, part = .name s) :
    contribution t r p = (contribution t d p).map (.seenFrom way) := by
  have hshown : contribution t r p =
      (contribution t d p).map (.moved (Path.joinParts (way ++ rest))) := by
    unfold contribution
    rw [describe_shownAs hr hway hrest hne hnames]
    cases Kind.ofPath? p with
    | none => rfl
    | some kind =>
      cases t.read p with
      | error fault => rfl
      | ok content =>
        dsimp only
        rw [Artifact.Kind.read_shownAs]
        cases kind.read (describe d p) content <;> rfl
  rw [hshown]
  refine List.map_congr_left fun x hx => ?_
  unfold Declaration.seenFrom
  rw [file_of_mem_contribution hrest hx, Path.joinParts_append_name way hne]

/-- A declaration lies down the way to a directory exactly if the file that contributes it does. -/
theorem liesDown_of_mem_contribution (hr : r.parts ≠ []) (hway : d.below? r = some way)
    (hrest : p.below? r = some rest) {x : Declaration} (hx : x ∈ contribution t r p) :
    x.liesDown way = (p.below? d).isSome := by
  rw [Path.below?_eq_some_iff] at hway
  have hp := Path.below?_eq_some_iff.mp hrest
  unfold Declaration.liesDown
  rw [file_of_mem_contribution hrest hx, Bool.eq_iff_iff, Path.isSome_below?_iff,
    Path.isSome_below?_iff, Path.joinParts_parts (Path.plain_of_mem_way hway hr),
    Path.joinParts_parts (Path.plain_of_mem_way hp hr), hway, hp, List.prefix_append_right_inj]

/-- If what files contribute is told apart as the files are, what is left of it is what the files
contribute that are left. -/
theorem filter_flatMap_eq {files : List Path} {contributed : Path → List Declaration}
    {keeps : Declaration → Bool} {keepsFile : Path → Bool}
    (h : ∀ p ∈ files, ∀ x ∈ contributed p, keeps x = keepsFile p) :
    (files.flatMap contributed).filter keeps = (files.filter keepsFile).flatMap contributed := by
  induction files with
  | nil => rfl
  | cons p files ih =>
    have hfirst := h p List.mem_cons_self
    rw [List.flatMap_cons, List.filter_append, ih fun q hq => h q (List.mem_cons_of_mem p hq)]
    cases hp : keepsFile p with
    | false =>
      have hnone : (contributed p).filter keeps = [] :=
        List.filter_eq_nil_iff.mpr fun x hx => by rw [hfirst x hx, hp]; exact Bool.false_ne_true
      rw [hnone, List.nil_append, List.filter_cons_of_neg (by rw [hp]; exact Bool.false_ne_true)]
    | true =>
      have hall : (contributed p).filter keeps = contributed p :=
        List.filter_eq_self.mpr fun x hx => (hfirst x hx).trans hp
      rw [hall, List.filter_cons_of_pos hp, List.flatMap_cons]

/-! ## What surveys find -/

section Walks

variable (ht : t.Built) (hg : t.Grounded) (hr : r.isAbsolute) (hway : d.below? r = some way)
  (excluded : List String) (depth : Nat)

include ht hg hr hway in
/-- Of what the files of a walk contribute, that lies down the way to a directory which files below
the directory contribute. -/
theorem filter_contribution :
    ((t.walk r depth excluded).flatMap (contribution t r)).filter (·.liesDown way) =
      ((t.walk r depth excluded).filter fun p => (p.below? d).isSome).flatMap
        (contribution t r) := by
  refine filter_flatMap_eq fun p hp x hx => ?_
  rw [(t.walk_perm ..).mem_iff, hg.mem_filesBelow_iff ht hr] at hp
  obtain ⟨-, long, name, content, -, hp, -⟩ := hp
  rw [List.append_assoc] at hp
  exact liesDown_of_mem_contribution (Path.parts_ne_nil hr) hway
    (Path.below?_eq_some_iff.mpr hp) hx

include ht hg hr hway in
/-- The files of a walk contribute the same to a survey from further up, of files further down. -/
theorem flatMap_contribution_seenFrom (hd : d.isAbsolute) :
    (t.walk d depth excluded).flatMap (contribution t r) =
      ((t.walk d depth excluded).flatMap (contribution t d)).map (·.seenFrom way) := by
  rw [List.map_flatMap]
  refine List.flatMap_congr fun p hp => ?_
  rw [(t.walk_perm ..).mem_iff, hg.mem_filesBelow_iff ht hd] at hp
  obtain ⟨-, short, name, content, hfile, hp, -⟩ := hp
  have hrest : p.below? d = some (short ++ [name]) :=
    Path.below?_eq_some_iff.mpr (hp.trans (List.append_assoc ..))
  have hlong := Path.below?_eq_some_iff.mp (below?_trans hway hrest)
  have hnames : ∀ part ∈ way ++ (short ++ [name]).dropLast, ∃ s, part = .name s := by
    intro part hpart
    rw [List.dropLast_concat] at hpart
    refine hg.exists_name hfile hlong (Path.parts_ne_nil hr) ?_
    rw [← List.append_assoc]
    exact List.mem_append_left _ hpart
  exact contribution_seenFrom (Path.parts_ne_nil hr) hway hrest
    (List.append_ne_nil_of_right_ne_nil _ (List.cons_ne_nil _ _)) hnames

end Walks

end Survey

end PortSurvey
