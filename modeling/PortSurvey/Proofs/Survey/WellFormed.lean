import Mathlib.Tactic.NormNum
import PortSurvey.Proofs.Artifact.WellFormed
import PortSurvey.Survey

/-!
# Surveys find well-formed declarations

What a survey finds was read from an artifact of some kind, and is therefore well formed
(`Survey.run_wellFormed`). No kind of artifact speaks of a place that is hardly believed, so that
the report of a survey never counts a declaration of low confidence (`Survey.run_low`).
-/

namespace PortSurvey

open Artifact (Kind File WellFormed)
open Text

/-! ## Confidence -/

/-- A place of which artifacts speak is believed at least at medium confidence. -/
theorem Artifact.Kind.mediumConfidence_le {kind : Kind} {origin : Origin}
    (h : origin ∈ kind.origins) : Report.mediumConfidence ≤ origin.confidence := by
  cases kind <;> simp only [Kind.origins, List.mem_cons, List.not_mem_nil, or_false] at h
  case manifest =>
    rcases h with rfl | rfl <;> norm_num [Report.mediumConfidence, Origin.confidence]
  all_goals
    subst h
    norm_num [Report.mediumConfidence, Origin.confidence]

/-- A well-formed declaration is not of low confidence. -/
theorem Artifact.WellFormed.not_isLow {kind : Kind} {file : File} {lines : Nat} {d : Declaration}
    (h : WellFormed kind file lines d) : ¬ Report.isLow d := by
  have hmedium : Report.mediumConfidence ≤ d.confidence :=
    h.confidence ▸ Kind.mediumConfidence_le h.origin
  simp [Report.isLow, Report.isMedium, hmedium]

namespace Survey

/-- The artifacts among files are those files whose name tells a kind. -/
theorem mem_artifacts_iff {files : List Path} {p : Path} {kind : Kind} :
    (p, kind) ∈ artifacts files ↔ p ∈ files ∧ Kind.ofPath? p = some kind := by
  simp only [artifacts, List.mem_filterMap, Option.map_eq_some_iff, Prod.mk.injEq]
  constructor
  · rintro ⟨q, hq, kind', hkind, rfl, rfl⟩
    exact ⟨hq, hkind⟩
  · rintro ⟨hp, hkind⟩
    exact ⟨p, hp, kind, hkind, rfl, rfl⟩

/-- What an artifact declares to a survey is read from its content. -/
theorem exists_read_of_mem_declarationsOf {store : FileStore} {root p : Path} {kind : Kind}
    {d : Declaration} (h : d ∈ declarationsOf store root p kind) :
    ∃ content ds, store.read p = some content ∧
      kind.read (describe root p) content = .ok ds ∧ d ∈ ds := by
  unfold declarationsOf at h
  split at h
  · exact absurd h List.not_mem_nil
  · rename_i content hcontent
    cases hds : kind.read (describe root p) content with
    | error fault =>
      rw [hds] at h
      exact absurd h List.not_mem_nil
    | ok ds =>
      rw [hds] at h
      exact ⟨content, ds, hcontent, hds, h⟩

/-- What a survey finds is declared by an artifact that it read. -/
theorem exists_artifact_of_mem_run {store : FileStore} {limits : Limits} {root : Path}
    {d : Declaration} (h : d ∈ (run store limits root).declarations) :
    ∃ p kind, Kind.ofPath? p = some kind ∧ d ∈ declarationsOf store root p kind := by
  unfold run at h
  split_ifs at h
  · split at h
    · obtain ⟨⟨p, kind⟩, hmem, hd⟩ := List.mem_flatMap.mp h
      exact ⟨p, kind, (mem_artifacts_iff.mp hmem).2, hd⟩
    · exact absurd h List.not_mem_nil
  · exact absurd h List.not_mem_nil

/-- What a survey finds is well formed. -/
theorem run_wellFormed {store : FileStore} {limits : Limits} {root : Path} {d : Declaration}
    (h : d ∈ (run store limits root).declarations) :
    ∃ p kind content, Kind.ofPath? p = some kind ∧ store.read p = some content ∧
      WellFormed kind (describe root p) (linesChars content.toList).length d := by
  obtain ⟨p, kind, hkind, hdeclared⟩ := exists_artifact_of_mem_run h
  obtain ⟨content, ds, hcontent, hds, hd⟩ := exists_read_of_mem_declarationsOf hdeclared
  exact ⟨p, kind, content, hkind, hcontent, Kind.read_wellFormed hds d hd⟩

/-- The report of a survey counts no declaration of low confidence. -/
theorem run_low (store : FileStore) (limits : Limits) (root : Path) :
    (run store limits root).report.low = 0 := by
  refine List.countP_eq_zero.mpr fun d hd => ?_
  obtain ⟨p, kind, content, -, -, hwell⟩ := run_wellFormed hd
  exact hwell.not_isLow

/-- What an artifact of any kind declares is well formed, whatever its text and whichever values its
text stands for: its ports are ports, it has a transport, the confidence of a kind of place that the
artifact speaks of, the file that the reader was told, and a line of the artifact exactly if it is
read line by line. Therefore no report of a survey counts a declaration of low confidence. -/
theorem declared_wellFormed :
    (∀ (kind : Kind) (file : File) (content : String) (ds : List Declaration),
      kind.read file content = .ok ds ∨ kind.OfValues file ds →
        ∀ d ∈ ds, WellFormed kind file (linesChars content.toList).length d) ∧
    ∀ (store : FileStore) (limits : Limits) (root : Path),
      (run store limits root).report.low = 0 := by
  refine ⟨?_, run_low⟩
  rintro kind file content ds (hread | hvalues)
  · exact Kind.read_wellFormed hread
  · exact hvalues.wellFormed _

/-- A build file that exposes a port on its second line. -/
theorem declared_wellFormed_expose :
    let file : File := ⟨⟨"/shop/Dockerfile"⟩, "Dockerfile", "shop"⟩
    let d : Declaration :=
      { Declaration.basic "shop" 8080 .buildFile "Dockerfile" with
        protocol := "UDP", line := some 2 }
    Kind.buildFile.read file "# ports\nEXPOSE 8080/udp\n" = .ok [d] ∧
      WellFormed .buildFile file (linesChars "# ports\nEXPOSE 8080/udp\n".toList).length d := by
  intro file d
  have hread : Kind.buildFile.read file "# ports\nEXPOSE 8080/udp\n" = .ok [d] := by
    decide +kernel
  exact ⟨hread, declared_wellFormed.1 _ _ _ _ (.inl hread) d (List.mem_singleton_self d)⟩

end Survey

end PortSurvey
