import PortSurvey.Proofs.Registry.Tiers
import PortSurvey.Proofs.Tally
import PortSurvey.Proofs.Text.Numeral
import PortSurvey.Registry.Assumptions

/-!
# The assumptions account for every port

`Assumptions.ofRegistry` counts the ports of a registry by level and derives its other counts from
those. The entries are a `tally` of the levels, so what is summed over entries is counted over ports
(`countWhere_tally`, `countOf_tally`), and since the official and the uncertain levels leave two
over, four counts make up the total (`length_eq_parts`).

In a registry that is filled with tiers the ports are those that rows claim, each once
(`countP_levels`). `ofRegistry_accounts` puts the counts together with the advice that follows from
them: each piece of it is given exactly on its condition, in a fixed order, and the last one always.
-/

namespace PortSurvey

namespace Assumptions

/-! ## Counts of levels -/

/-- There are no other levels than all of them. -/
theorem mem_all (l : Level) : l ∈ Level.all := by
  cases l <;> decide

/-- No level is listed twice. -/
theorem nodup_all : Level.all.Nodup := by
  decide

variable (levels : List Level)

/-- What is summed over the entries of the levels that are as asked is how many such there are. -/
theorem countWhere_tally (asked : Level → Bool) :
    countWhere (tally Level.all levels) asked = levels.countP asked := by
  have hperm := ((occurring_perm mem_all nodup_all levels).filter asked).map levels.count
  calc countWhere (tally Level.all levels) asked
      = (((Level.all.filter fun l => l ∈ levels).filter asked).map levels.count).sum := by
        unfold countWhere
        rw [tally_eq, List.filter_map, List.foldl_map, List.sum_eq_foldl, List.foldl_map]
        rfl
    _ = ((levels.dedup.filter asked).map levels.count).sum := hperm.sum_eq
    _ = levels.countP asked := List.sum_map_count_dedup_filter_eq_countP asked levels

/-- The entry of a level is how often it occurs; a level without an entry does not. -/
theorem countOf_tally (l : Level) : countOf (tally Level.all levels) l = levels.count l := by
  unfold countOf
  rw [tally_eq, List.find?_map]
  cases hfind : (Level.all.filter fun k => k ∈ levels).find?
      ((·.1 == l) ∘ fun k => (k, levels.count k)) with
  | none =>
    have hmem : l ∉ levels := by
      intro hmem
      have hl : l ∈ Level.all.filter fun k => k ∈ levels :=
        List.mem_filter.mpr ⟨mem_all l, decide_eq_true hmem⟩
      exact List.find?_eq_none.mp hfind l hl (beq_self_eq_true l)
    exact (List.count_eq_zero.mpr hmem).symm
  | some k =>
    obtain rfl : k = l := by simpa using List.find?_some hfind
    rfl

/-- The official and the uncertain levels leave two over. -/
theorem length_eq_parts : levels.countP Level.isOfficial + levels.countP Level.isUncertain +
    levels.count .widelyAdopted + levels.count .vendorDefault = levels.length := by
  induction levels with
  | nil => rfl
  | cons l rest ih =>
    rw [List.countP_cons, List.countP_cons, List.count_cons, List.count_cons, List.length_cons]
    cases l <;> simp [Level.isOfficial, Level.isUncertain] <;> omega

/-! ## Advice -/

/-- Advice that begins with a number is none that does not begin with a digit. -/
theorem numbered_ne (n : Nat) (rest : String) {advice : String}
    (h : advice.toList.head?.any Char.isDigit = false) : toString n ++ rest ≠ advice := by
  rintro rfl
  obtain ⟨c, digits, hdigits⟩ := List.exists_cons_of_ne_nil (Nat.toDigits_ne_nil (b := 10) (n := n))
  have hc : c.isDigit = true :=
    Nat.isDigit_of_mem_toDigits (by decide) (by decide) (hdigits ▸ List.mem_cons_self)
  rw [String.toList_append, Text.toList_toString, hdigits] at h
  exact absurd (hc.symm.trans h) (by decide)

/-- No two pieces of advice are the same. -/
theorem advice_nodup (n m : Nat) :
    [conventionAdvice n, vendorAdvice m, thresholdAdvice, closingAdvice].Nodup := by
  have hthreshold : thresholdAdvice.toList.head?.any Char.isDigit = false := by decide +kernel
  have hclosing : closingAdvice.toList.head?.any Char.isDigit = false := by decide +kernel
  -- The two that begin with a number end with different letters.
  have hnumbered : conventionAdvice n ≠ vendorAdvice m := by
    intro h
    have hends := congrArg (·.toList.getLast?) h
    simp [conventionAdvice, vendorAdvice] at hends
  have hothers : thresholdAdvice ≠ closingAdvice := by decide +kernel
  simp only [List.nodup_cons, List.mem_cons, List.not_mem_nil, or_false, not_or,
    not_false_eq_true, List.nodup_nil, and_true]
  exact ⟨⟨hnumbered, numbered_ne n _ hthreshold, numbered_ne n _ hclosing⟩,
    ⟨numbered_ne m _ hthreshold, numbered_ne m _ hclosing⟩, hothers⟩

/-- Of different pieces of advice, the first three of which are given on conditions, each is among
those that are given exactly on its condition. -/
theorem mem_given_iff {a b c d : String} (h : [a, b, c, d].Nodup) (p q r : Prop) [Decidable p]
    [Decidable q] [Decidable r] :
    let given :=
      (if p then [a] else []) ++ (if q then [b] else []) ++ (if r then [c] else []) ++ [d]
    given.Sublist [a, b, c, d] ∧ (a ∈ given ↔ p) ∧ (b ∈ given ↔ q) ∧ (c ∈ given ↔ r) ∧
      given.getLast? = some d := by
  intro given
  simp only [List.nodup_cons, List.mem_cons, List.not_mem_nil, or_false, not_or] at h
  obtain ⟨⟨hab, hac, had⟩, ⟨hbc, hbd⟩, hcd, -⟩ := h
  have hba := Ne.symm hab
  have hca := Ne.symm hac
  have hcb := Ne.symm hbc
  refine ⟨?_, ?_, ?_, ?_, List.getLast?_concat⟩
  · show List.Sublist _ ([a] ++ [b] ++ [c] ++ [d])
    refine ((List.Sublist.append ?_ ?_).append ?_).append (List.Sublist.refl [d]) <;>
      split_ifs <;> simp
  all_goals by_cases p <;> by_cases q <;> by_cases r <;> simp [given, *]

section Registry

variable (r : Registry)

/-- The entries of a registry are those of the levels of its meanings. -/
theorem ofRegistry_byLevel : (ofRegistry r).byLevel = tally Level.all (r.toList.map (·.level)) :=
  rfl

/-- The total of a registry is the number of its meanings. -/
theorem ofRegistry_total : (ofRegistry r).total = (r.toList.map (·.level)).length := by
  rw [List.length_map, Registry.toList, Dict.values, List.length_map]
  rfl

/-- The official meanings of a registry are counted. -/
theorem ofRegistry_official :
    (ofRegistry r).official = (r.toList.map (·.level)).countP Level.isOfficial :=
  countWhere_tally _ _

/-- The uncertain meanings of a registry are counted. -/
theorem ofRegistry_uncertain :
    (ofRegistry r).uncertain = (r.toList.map (·.level)).countP Level.isUncertain :=
  countWhere_tally _ _

end Registry

end Assumptions

/-! ## Ports of a filled registry -/

namespace Registry

variable (tiers : List (Level × List Row))

/-- The ports that rows of tiers claim, each once. -/
def claimedPorts : List Nat :=
  ((claims tiers).map (·.port)).dedup

/-- The number of claimed ports that are documented at a level as asked. -/
def portsWhere (asked : Level → Bool) : Nat :=
  (claimedPorts tiers).countP fun port => ((ofTiers tiers).find? port).any (asked ·.level)

/-- The claimed ports are those of the listed meanings. -/
theorem map_port_perm : ((ofTiers tiers).toList.map (·.port)).Perm (claimedPorts tiers) := by
  have hordered := ordered_ofTiers tiers
  have hnodup : ((ofTiers tiers).toList.map (·.port)).Nodup := by
    rw [hordered.map_port_toList]
    exact hordered.ascending.nodup
  refine (List.perm_ext_iff_of_nodup hnodup (List.nodup_dedup _)).mpr fun port => ?_
  rw [List.mem_dedup, mem_map_port_ofTiers]
  unfold claims
  simp only [List.mem_map, List.mem_flatMap]
  constructor
  · rintro ⟨tier, htier, row, hrow, rfl⟩
    exact ⟨row.standard tier.1, ⟨tier, htier, row, hrow, rfl⟩, rfl⟩
  · rintro ⟨_, ⟨tier, htier, row, hrow, rfl⟩, rfl⟩
    exact ⟨tier, htier, row, hrow, rfl⟩

/-- Counting listed levels is counting claimed ports. -/
theorem countP_levels (asked : Level → Bool) :
    ((ofTiers tiers).toList.map (·.level)).countP asked = portsWhere tiers asked := by
  unfold portsWhere
  rw [← (map_port_perm tiers).countP_eq, List.countP_map, List.countP_map]
  refine List.countP_congr fun s hs => ?_
  -- A listed meaning is the one with which its port answers.
  have hfind := (ordered_ofTiers tiers).mem_toList_iff.mp hs
  rw [Function.comp_apply, Function.comp_apply, hfind]
  rfl

/-- A registry has one meaning for each claimed port. -/
theorem size_ofTiers : (ofTiers tiers).size = (claimedPorts tiers).length := by
  rw [← (map_port_perm tiers).length_eq, List.length_map]
  unfold size toList Dict.values
  rw [List.length_map]

end Registry

namespace Assumptions

open Registry

/-- Assumptions account for every port of a registry that is filled with tiers. -/
structure Accounts (x : Assumptions) (tiers : List (Level × List Row)) : Prop where
  /-- The total is the number of claimed ports, each of which counts once. -/
  total : x.total = (claimedPorts tiers).length
  /-- The entries add up to the total. -/
  sum : (x.byLevel.map (·.2)).sum = x.total
  /-- A level has an entry exactly if some port is documented at it, and the entry is their number.
  -/
  entries : ∀ level n, (level, n) ∈ x.byLevel ↔ 0 < n ∧ n = portsWhere tiers (· == level)
  /-- The levels of the entries stand in their order, each once. -/
  levels : (x.byLevel.map (·.1)).Sublist Level.all
  /-- The official ports are counted. -/
  official : x.official = portsWhere tiers Level.isOfficial
  /-- The uncertain ports are counted. -/
  uncertain : x.uncertain = portsWhere tiers Level.isUncertain
  /-- With the ports of the two other levels they make up the total. -/
  parts : x.official + x.uncertain + countOf x.byLevel .widelyAdopted +
    countOf x.byLevel .vendorDefault = x.total
  /-- The pieces of advice stand in their order, each once at most. -/
  order : x.recommendations.Sublist [conventionAdvice x.uncertain,
    vendorAdvice (countOf x.byLevel .vendorDefault), thresholdAdvice, closingAdvice]
  /-- The advice on habits is given exactly if a port rests on one. -/
  convention : conventionAdvice x.uncertain ∈ x.recommendations ↔ 0 < x.uncertain
  /-- The advice on products is given exactly if a port rests on one. -/
  vendor : vendorAdvice (countOf x.byLevel .vendorDefault) ∈ x.recommendations ↔
    0 < countOf x.byLevel .vendorDefault
  /-- The advice on the threshold is given exactly if fewer than half of the ports are official. -/
  threshold : thresholdAdvice ∈ x.recommendations ↔ 0 < x.total ∧ x.official * 2 < x.total
  /-- The advice that always holds comes last. -/
  closing : x.recommendations.getLast? = some closingAdvice

/-- The assumptions of a registry that is filled with tiers account for every port of it. -/
theorem ofRegistry_accounts (tiers : List (Level × List Row)) :
    (ofRegistry (ofTiers tiers)).Accounts tiers := by
  have hcount := countP_levels tiers
  have htotal := ofRegistry_total (ofTiers tiers)
  have hofficial := ofRegistry_official (ofTiers tiers)
  have huncertain := ofRegistry_uncertain (ofTiers tiers)
  have hbyLevel := ofRegistry_byLevel (ofTiers tiers)
  obtain ⟨horder, hconvention, hvendor, hthreshold, hclosing⟩ := mem_given_iff
    (advice_nodup (ofRegistry (ofTiers tiers)).uncertain
      (countOf (ofRegistry (ofTiers tiers)).byLevel .vendorDefault))
    (0 < (ofRegistry (ofTiers tiers)).uncertain)
    (0 < countOf (ofRegistry (ofTiers tiers)).byLevel .vendorDefault)
    (0 < (ofRegistry (ofTiers tiers)).total ∧
      (ofRegistry (ofTiers tiers)).official * 2 < (ofRegistry (ofTiers tiers)).total)
  refine ⟨size_ofTiers tiers, ?_, fun level n => ?_, ?_, hofficial.trans (hcount _),
    huncertain.trans (hcount _), ?_, horder, hconvention, hvendor, hthreshold, hclosing⟩
  · rw [hbyLevel, htotal, sum_tally mem_all nodup_all]
  · rw [hbyLevel, mem_tally_iff mem_all, ← hcount]
    rfl
  · rw [hbyLevel]
    exact map_tally_sublist _ _
  · rw [hofficial, huncertain, hbyLevel, countOf_tally, countOf_tally, htotal]
    exact length_eq_parts _

end Assumptions

end PortSurvey
