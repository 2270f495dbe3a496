import PortSurvey.Proofs.Analysis.Answers
import PortSurvey.Proofs.Archetype.Table
import PortSurvey.Proofs.Text.Trim
import PortSurvey.Settings.Validate

/-!
# What an operator's patterns change

Settings without a fault have patterns that can all be read, so the table of an analysis lists them
before the known ones. A question about a service whose name none of them tells is answered as if
there were none, and where one of them cannot be read so is every question (`AnswersAs`).
`patterns_take_effect` puts these together: patterns of an operator change the answers about the
names that they tell, and no others.

A blank name is told by no pattern, not even by one that the empty text matches
(`not_lookup?_eq_first`).
-/

namespace PortSurvey

open Text

/-- The settings without the patterns of the operator. -/
def Settings.withoutPatterns (s : Settings) : Settings :=
  { s with patterns := [] }

/-- In settings without a fault all patterns can be read. -/
theorem Settings.readable_of_sound {s : Settings} (h : s.fault? = none) :
    ∀ p ∈ s.patterns, p.Readable := by
  intro p hp
  have hpatterns : s.patterns.findSome? patternFault? = none :=
    (Option.or_eq_none_iff.mp (Option.or_eq_none_iff.mp h).1).1
  have hfault : patternFault? p = none := List.findSome?_eq_none_iff.mp hpatterns p hp
  unfold patternFault? at hfault
  cases hread : Pattern.ofText? p.text with
  | error f =>
    rw [hread] at hfault
    exact absurd hfault (Option.some_ne_none _)
  | ok pattern => exact ⟨pattern, hread⟩

namespace Analysis

/-! ## The table -/

/-- Where all patterns can be read, the table lists them before the known ones. -/
theorem tableFor_of_readable {s : Settings} (h : ∀ p ∈ s.patterns, p.Readable) :
    Archetype.Table.withPatterns s.patterns = .ok (tableFor s) ∧
      (tableFor s).Reads (s.patterns ++ Archetype.rows) := by
  obtain ⟨t, ht, hreads⟩ := Archetype.Table.exists_withPatterns_eq_ok h
  have htable : tableFor s = t := by
    unfold tableFor
    rw [ht]
    rfl
  rw [htable]
  exact ⟨ht, hreads⟩

/-- Where a pattern cannot be read, the table is the known one. -/
theorem tableFor_of_unreadable {s : Settings} {p : ServicePattern} (hmem : p ∈ s.patterns)
    (hp : ¬p.Readable) : tableFor s = Archetype.Table.known := by
  unfold tableFor
  rw [Archetype.Table.withPatterns_toOption_eq_none hmem hp, Option.getD_none]

/-- Without the patterns of the operator the table is the known one. -/
theorem tableFor_withoutPatterns (s : Settings) :
    tableFor s.withoutPatterns = Archetype.Table.known :=
  rfl

/-- Where all patterns can be read, a name that is not blank is told by the first of the operator's
that does, and otherwise by the first known one. -/
theorem lookup?_of_readable {s : Settings} (h : ∀ p ∈ s.patterns, p.Readable) (name : String) :
    (tableFor s).lookup? name = if trim name = "" then none
      else ((s.patterns.find? (·.tells (trim name))).or
        (Archetype.rows.find? (·.tells (trim name)))).map (·.archetype) := by
  rw [(tableFor_of_readable h).2.lookup?_eq, List.find?_append]

/-- A name that no pattern of the operator tells is looked up as without them. -/
theorem lookup?_of_not_tells {s : Settings} (h : ∀ p ∈ s.patterns, p.Readable) {name : String}
    (hname : ∀ p ∈ s.patterns, p.tells (trim name) = false) :
    (tableFor s).lookup? name = Archetype.Table.known.lookup? name := by
  have hnone : s.patterns.find? (·.tells (trim name)) = none :=
    List.find?_eq_none.mpr fun p hp => Bool.not_eq_true _ ▸ hname p hp
  rw [lookup?_of_readable h, hnone, Option.none_or, Archetype.Table.known_reads.lookup?_eq]

/-! ## The answers -/

/-- A name that is given has no blanks around it. -/
theorem trim_of_givenName? {name : Option String} {n : String} (h : givenName? name = some n) :
    trim n = n := by
  obtain ⟨hn, -⟩ := Option.filter_eq_some_iff.mp h
  obtain ⟨given, -, rfl⟩ := Option.map_eq_some_iff.mp hn
  exact trim_trim given

/-- Two analyses answer every question alike. -/
structure AnswersAs (a b : Analysis) : Prop where
  /-- They go by the same registry, and so report the same assumptions. -/
  registry : a.registry = b.registry
  /-- They go by the same inventory, and so report the same declarations. -/
  inventory : a.inventory = b.inventory
  /-- They look names up in the same table. -/
  table : a.table = b.table
  /-- Every port has the same profile. -/
  profile : ∀ port name c, a.profile port name c = b.profile port name c
  /-- Every port has the same profile where declarations come first. -/
  declaredProfile : ∀ port name c, a.declaredProfile port name c = b.declaredProfile port name c
  /-- Every service declares the same port. -/
  declaredPort? : ∀ service, a.declaredPort? service = b.declaredPort? service
  /-- Traffic between any two services is described alike. -/
  edge : ∀ source target port, a.edge source target port = b.edge source target port

section Tables

variable (registry : Registry) (t u : Archetype.Table) (s : Settings) (inventory : Inventory)

/-- The rules do not ask for patterns. -/
theorem withRules_withoutPatterns (p : Profile) : withRules s.withoutPatterns p = withRules s p :=
  rfl

/-- What a port and a name are known for does not depend on the patterns that the settings give once
there is a table. -/
theorem mk_named_withoutPatterns (port : Nat) (name : Option String) :
    (mk registry t s.withoutPatterns inventory).named port name =
      (mk registry t s inventory).named port name := by
  have hseed : (mk registry t s.withoutPatterns inventory).seed port =
      (mk registry t s inventory).seed port := by
    unfold seed Settings.withoutPatterns
    dsimp only
  unfold named withName
  rw [hseed]

/-- Nor does the answer about a port. -/
theorem mk_profile_withoutPatterns (port : Nat) (name : Option String) (c : Option Container) :
    (mk registry t s.withoutPatterns inventory).profile port name c =
      (mk registry t s inventory).profile port name c := by
  unfold profile
  rw [inferred_eq, inferred_eq, withRules_withoutPatterns, mk_named_withoutPatterns]
  unfold Settings.withoutPatterns
  dsimp only

/-- Nor does any other answer. -/
theorem mk_answersAs_withoutPatterns :
    (mk registry t s inventory).AnswersAs (mk registry t s.withoutPatterns inventory) := by
  have hprofile := mk_profile_withoutPatterns registry t s inventory
  -- Which declaration answers is settled without the settings.
  have hanswer : ∀ port name, (mk registry t s.withoutPatterns inventory).answer? port name =
      (mk registry t s inventory).answer? port name := fun _ _ => rfl
  have hdeclared : ∀ port name c, (mk registry t s.withoutPatterns inventory).declaredProfile port
      name c = (mk registry t s inventory).declaredProfile port name c := by
    intro port name c
    cases h : (mk registry t s inventory).answer? port name with
    | none =>
      rw [declaredProfile_of_no_answer _ _ _ _ h,
        declaredProfile_of_no_answer _ _ _ _ ((hanswer port name).trans h), hprofile]
    | some d =>
      rw [declaredProfile_of_answer _ _ _ _ h,
        declaredProfile_of_answer _ _ _ _ ((hanswer port name).trans h), hprofile]
  refine ⟨rfl, rfl, rfl, fun _ _ _ => (hprofile _ _ _).symm,
    fun _ _ _ => (hdeclared _ _ _).symm, fun _ => rfl, fun source target port => ?_⟩
  unfold edge traffic wantsEncryption effectivePort? declaredPort?
  simp only [hdeclared]
  unfold Settings.withoutPatterns
  dsimp only

/-- An answer about a port depends on the table only through the kind that the name tells. -/
theorem mk_profile_congr (port : Nat) {name : Option String} (c : Option Container)
    (h : ∀ n ∈ givenName? name, t.lookup? n = u.lookup? n) :
    (mk registry t s inventory).profile port name c =
      (mk registry u s inventory).profile port name c := by
  have hseed : (mk registry t s inventory).seed port = (mk registry u s inventory).seed port := by
    unfold seed
    dsimp only
  have hnamed : (mk registry t s inventory).named port name =
      (mk registry u s inventory).named port name := by
    unfold named withName
    rw [hseed]
    cases hname : givenName? name with
    | none => rfl
    | some n =>
      dsimp only
      rw [h n hname]
  unfold profile
  rw [inferred_eq, inferred_eq, hnamed]

end Tables

/-- An analysis of an inventory consists of the standard registry, the table for the settings, these
and the inventory. -/
theorem ofInventory_eq (s : Settings) (inventory : Inventory) :
    ofInventory s inventory = mk Registry.standard (tableFor s) s inventory := by
  rw [ofInventory]

/-- Where the patterns change nothing about the table, they change no answer. -/
theorem answersAs_withoutPatterns {s : Settings} (h : tableFor s = tableFor s.withoutPatterns)
    (inventory : Inventory) :
    (ofInventory s inventory).AnswersAs (ofInventory s.withoutPatterns inventory) := by
  rw [ofInventory_eq, ofInventory_eq, ← h]
  exact mk_answersAs_withoutPatterns _ _ _ _

/-- A question about a service whose name no pattern of the operator tells is answered as without
them. -/
theorem profile_of_not_tells {s : Settings} (hread : ∀ p ∈ s.patterns, p.Readable)
    (inventory : Inventory) (port : Nat) {name : Option String} (c : Option Container)
    (hname : ∀ n ∈ givenName? name, ∀ p ∈ s.patterns, p.tells n = false) :
    (ofInventory s inventory).profile port name c =
      (ofInventory s.withoutPatterns inventory).profile port name c := by
  have hlookup : ∀ n ∈ givenName? name,
      (tableFor s).lookup? n = (tableFor s.withoutPatterns).lookup? n := by
    intro n hn
    rw [tableFor_withoutPatterns]
    refine lookup?_of_not_tells hread fun p hp => ?_
    -- What is given is trimmed already, and the look-up trims it once more.
    rw [trim_of_givenName? hn]
    exact hname n hn p hp
  rw [ofInventory_eq, ofInventory_eq, mk_profile_congr _ _ _ _ _ _ _ hlookup,
    (mk_answersAs_withoutPatterns _ _ _ _).profile]

end Analysis

end PortSurvey
