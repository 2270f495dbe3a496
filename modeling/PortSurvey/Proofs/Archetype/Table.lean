import PortSurvey.Archetype.Table
import PortSurvey.Proofs.Except

/-!
# What a table of kinds lists and tells

A table `Reads` patterns if it lists them in their order, each with what its text says is to be
looked for. Every known pattern can be read, so that the known table reads all of them
(`known_reads`), and an operator's patterns come before them exactly if all of those can be read
(`withPatterns_eq_ok_iff`). What a table looks up is then told by the patterns that it reads: the
first that matches some part of the name (`Reads.lookup?_eq`).
-/

namespace PortSurvey

namespace ServicePattern

/-- The text of a pattern can be read. -/
def Readable (p : ServicePattern) : Prop :=
  ∃ pattern, Pattern.ofText? p.text = .ok pattern

/-- A pattern tells the kind of the services with a name if its text can be read and matches some
part of the name. -/
def tells (p : ServicePattern) (name : String) : Bool :=
  (Pattern.ofText? p.text).toOption.any (·.occursIn name)

/-- Whether a pattern can be read is seen from what its text is read as. -/
theorem readable_iff (p : ServicePattern) :
    p.Readable ↔ (Pattern.ofText? p.text).isOk = true := by
  unfold Readable
  cases Pattern.ofText? p.text with
  | error f =>
    constructor
    · rintro ⟨_, h⟩
      cases h
    · intro h
      cases h
  | ok pattern => exact ⟨fun _ => rfl, fun _ => ⟨pattern, rfl⟩⟩

instance (p : ServicePattern) : Decidable p.Readable :=
  decidable_of_iff _ p.readable_iff.symm

end ServicePattern

namespace Archetype

/-- All known patterns can be read. -/
theorem readable_of_mem_rows : ∀ p ∈ rows, p.Readable := by
  decide +kernel

/-- A pattern is read as the matcher that names it as its source. -/
theorem Matcher.ofPattern?_eq_ok_iff {p : ServicePattern} {m : Matcher} :
    Matcher.ofPattern? p = .ok m ↔ m.source = p ∧ Pattern.ofText? p.text = .ok m.pattern := by
  unfold Matcher.ofPattern?
  rw [Except.map_eq_ok_iff]
  constructor
  · rintro ⟨pattern, hread, rfl⟩
    exact ⟨rfl, hread⟩
  · rintro ⟨rfl, hread⟩
    exact ⟨m.pattern, hread, rfl⟩

namespace Table

/-- A table lists patterns in their order, each with what its text is read as. -/
def Reads (t : Table) (patterns : List ServicePattern) : Prop :=
  List.Forall₂ (fun p m => m.source = p ∧ Pattern.ofText? p.text = .ok m.pattern) patterns t

variable {t : Table} {patterns : List ServicePattern}

/-- What a table reads can be read. -/
theorem Reads.readable (h : t.Reads patterns) : ∀ p ∈ patterns, p.Readable := by
  induction h with
  | nil => exact fun _ hmem => absurd hmem List.not_mem_nil
  | cons hp _ ih => exact List.forall_mem_cons.mpr ⟨⟨_, hp.2⟩, ih⟩

/-- Patterns that can be read are read as a table. -/
theorem mapM_ofPattern?_eq_ok_iff : patterns.mapM Matcher.ofPattern? = .ok t ↔ t.Reads patterns := by
  rw [Except.mapM_eq_ok_iff]
  unfold Reads
  simp only [Matcher.ofPattern?_eq_ok_iff]

/-- Where all patterns can be read, none is lost by leaving out the others. -/
theorem reads_filterMap (h : ∀ p ∈ patterns, p.Readable) :
    Reads (patterns.filterMap fun p => (Matcher.ofPattern? p).toOption) patterns := by
  induction patterns with
  | nil => exact .nil
  | cons p patterns ih =>
    obtain ⟨⟨pattern, hp⟩, hrest⟩ := List.forall_mem_cons.mp h
    have hread : (Matcher.ofPattern? p).toOption = some ⟨p, pattern⟩ :=
      Except.toOption_eq_some_iff.mpr (Matcher.ofPattern?_eq_ok_iff.mpr ⟨rfl, hp⟩)
    rw [List.filterMap_cons, hread]
    exact .cons ⟨rfl, hp⟩ (ih hrest)

/-- The known table lists all known patterns. -/
theorem known_reads : known.Reads rows :=
  reads_filterMap readable_of_mem_rows

/-- There is a table with an operator's patterns exactly if all of them can be read: it lists them
before the known ones. -/
theorem withPatterns_eq_ok_iff : withPatterns patterns = .ok t ↔
    ∃ own : Table, own.Reads patterns ∧ t = own ++ known := by
  unfold withPatterns
  rw [Except.map_eq_ok_iff]
  constructor
  · rintro ⟨own, hown, rfl⟩
    exact ⟨own, mapM_ofPattern?_eq_ok_iff.mp hown, rfl⟩
  · rintro ⟨own, hown, rfl⟩
    exact ⟨own, mapM_ofPattern?_eq_ok_iff.mpr hown, rfl⟩

/-- Where all of an operator's patterns can be read, the table lists them before the known ones. -/
theorem exists_withPatterns_eq_ok (h : ∀ p ∈ patterns, p.Readable) :
    ∃ t, withPatterns patterns = .ok t ∧ t.Reads (patterns ++ rows) :=
  ⟨_, withPatterns_eq_ok_iff.mpr ⟨_, reads_filterMap h, rfl⟩,
    List.rel_append (reads_filterMap h) known_reads⟩

/-- Where one of an operator's patterns cannot be read, there is no table with them. -/
theorem withPatterns_toOption_eq_none {p : ServicePattern} (hmem : p ∈ patterns)
    (hp : ¬p.Readable) : (withPatterns patterns).toOption = none := by
  rw [Option.eq_none_iff_forall_ne_some]
  intro t ht
  obtain ⟨own, hown, -⟩ := withPatterns_eq_ok_iff.mp (Except.toOption_eq_some_iff.mp ht)
  exact hp (hown.readable p hmem)

/-- The first entry of a table that matches some part of a name is the first pattern that tells the
kind of the services with that name. -/
theorem Reads.find?_eq (h : t.Reads patterns) (name : String) :
    (t.find? (·.pattern.occursIn name)).map (·.source) = patterns.find? (·.tells name) := by
  induction h with
  | nil => rfl
  | @cons p m _ _ hp _ ih =>
    have htells : p.tells name = m.pattern.occursIn name := by
      rw [ServicePattern.tells, hp.2]
      rfl
    -- Entry and pattern are passed over together, or both are the first.
    rw [List.find?_cons, List.find?_cons, htells]
    cases m.pattern.occursIn name with
    | true => exact congrArg some hp.1
    | false => exact ih

/-- A table looks up the kind that the first of its patterns tells, and none for a blank name. -/
theorem Reads.lookup?_eq (h : t.Reads patterns) (name : String) :
    t.lookup? name = if Text.trim name = "" then none
      else (patterns.find? (·.tells (Text.trim name))).map (·.archetype) := by
  unfold lookup?
  dsimp only
  rw [← h.find?_eq, Option.map_map]
  simp only [String.isEmpty_iff]
  rfl

/-- What a table looks up is the kind of one of the patterns that it reads. -/
theorem Reads.exists_mem_of_lookup? (h : t.Reads patterns) {name : String} {k : Archetype}
    (hk : t.lookup? name = some k) : ∃ p ∈ patterns, p.archetype = k := by
  rw [h.lookup?_eq] at hk
  split_ifs at hk
  obtain ⟨p, hfind, rfl⟩ := Option.map_eq_some_iff.mp hk
  exact ⟨p, List.mem_of_find?_eq_some hfind, rfl⟩

end Table

end Archetype

end PortSurvey
