import PortSurvey.Proofs.Inventory.Lookup
import PortSurvey.Proofs.Text.Split

/-!
# What a look-up selects

`Inventory.lookup?` is told by what it has to find, without the order in which it tries things.
`Considered` says by which declarations a service may be judged: those of its very name or, where
there are none, those whose name resembles it. `Eligible` narrows them to the port in question where
one of them is of that port. The look-up finds nothing exactly where nothing is considered, and else
the first of the eligible declarations that are believed most (`lookup?_selects`).

The list of candidates is first shown to be the considered declarations in their order, and so is
the list after the narrowing; what is then left is that the best of such a list is the first best of
the whole inventory under the condition that made the list.
-/

namespace PortSurvey.Inventory

open Text

/-! ## The first best under a condition -/

/-- The best of the declarations that meet a condition stands in the list of all where none before
it that meets the condition is believed as much, and none after it more. -/
theorem best?_filter_eq_some_iff {l : List Declaration} {p : Declaration → Bool}
    {d : Declaration} :
    best? (l.filter p) = some d ↔ ∃ before after, l = before ++ d :: after ∧ p d = true ∧
      (∀ x ∈ before, p x = true → x.confidence < d.confidence) ∧
      ∀ x ∈ after, p x = true → x.confidence ≤ d.confidence := by
  rw [best?_eq_argmax]
  exact argmax_filter_eq_some_iff

/-! ## The declarations that are considered -/

/-- Two names resemble each other: without blanks around them and in lower case neither is empty,
and one occurs inside the other. -/
def Resembles (query name : String) : Prop :=
  foldName query ≠ "" ∧ foldName name ≠ "" ∧
    ((foldName query).toList <:+: (foldName name).toList ∨
      (foldName name).toList <:+: (foldName query).toList)

instance (query name : String) : Decidable (Resembles query name) :=
  inferInstanceAs (Decidable (_ ∧ _ ∧ (_ ∨ _)))

/-- The test whether a name resembles a query tells whether they resemble each other. -/
theorem resembles_iff {query name : String} :
    resembles query name = true ↔ Resembles query name := by
  unfold resembles Resembles
  simp only [Bool.and_eq_true, Bool.or_eq_true, Bool.not_eq_true', String.isEmpty_eq_false_iff,
    holds_iff_infix, and_assoc]

variable (inventory : Inventory) (service : String) (port : Option Nat)

/-- A service may be judged by a declaration: it is of that service or, where none is, of one whose
name resembles it. -/
def Considered (d : Declaration) : Prop :=
  d.service = service ∨
    (∀ x ∈ inventory.declarations, x.service ≠ service) ∧ Resembles service d.service

instance (d : Declaration) : Decidable (inventory.Considered service d) :=
  inferInstanceAs (Decidable (_ ∨ _ ∧ _))

/-- A declaration may answer a question: it is considered, and it is of the port in question where
some considered declaration is. -/
def Eligible (d : Declaration) : Prop :=
  inventory.Considered service d ∧ ∀ p ∈ port,
    (∃ x ∈ inventory.declarations, inventory.Considered service x ∧ x.containerPort = p) →
      d.containerPort = p

instance (d : Declaration) : Decidable (inventory.Eligible service port d) :=
  inferInstanceAs (Decidable (_ ∧ ∀ p ∈ port, (∃ x ∈ inventory.declarations, _ ∧ _) → _))

/-- The candidates are the considered declarations, in the order of the inventory. -/
theorem candidates_eq_filter : inventory.candidates service =
    inventory.declarations.filter fun d => decide (inventory.Considered service d) := by
  unfold candidates
  dsimp only
  split_ifs with hempty
  · have hnone : ∀ x ∈ inventory.declarations, x.service ≠ service := by
      intro x hx hsame
      rw [List.isEmpty_iff] at hempty
      have hmem : x ∈ inventory.ofService service :=
        List.mem_filter.mpr ⟨hx, beq_iff_eq.mpr hsame⟩
      rw [hempty] at hmem
      exact List.not_mem_nil hmem
    refine List.filter_congr fun d hd => ?_
    rw [Bool.eq_iff_iff, resembles_iff, decide_eq_true_iff]
    exact ⟨fun h => .inr ⟨hnone, h⟩, fun h => (h.resolve_left (hnone d hd)).2⟩
  · obtain ⟨x, hx⟩ := List.exists_mem_of_ne_nil _ (mt List.isEmpty_iff.mpr hempty)
    obtain ⟨hmem, hsame⟩ := List.mem_filter.mp hx
    refine List.filter_congr fun d _ => ?_
    rw [Bool.eq_iff_iff, beq_iff_eq, decide_eq_true_iff]
    exact ⟨.inl, fun h => h.resolve_right fun hnone => hnone.1 x hmem (beq_iff_eq.mp hsame)⟩

/-! ## The declarations that are eligible -/

/-- Without a port in question every considered declaration is eligible. -/
theorem eligible_none_iff {d : Declaration} :
    inventory.Eligible service none d ↔ inventory.Considered service d :=
  ⟨fun h => h.1, fun h => ⟨h, fun _ hp => nomatch hp⟩⟩

/-- Where a considered declaration is of the port in question, just such ones are eligible. -/
theorem eligible_some_iff_of_exists {p : Nat} {d : Declaration}
    (hport : ∃ x ∈ inventory.declarations, inventory.Considered service x ∧ x.containerPort = p) :
    inventory.Eligible service (some p) d ↔
      d.containerPort = p ∧ inventory.Considered service d := by
  constructor
  · exact fun h => ⟨h.2 p rfl hport, h.1⟩
  · rintro ⟨hd, hconsidered⟩
    exact ⟨hconsidered, fun q hq _ => by rw [hd, Option.mem_some_iff.mp hq]⟩

/-- Where no considered declaration is of the port in question, the port makes no difference. -/
theorem eligible_some_iff_of_not_exists {p : Nat} {d : Declaration}
    (hport : ¬∃ x ∈ inventory.declarations, inventory.Considered service x ∧ x.containerPort = p) :
    inventory.Eligible service (some p) d ↔ inventory.Considered service d := by
  refine ⟨fun h => h.1, fun h => ⟨h, fun q hq hany => ?_⟩⟩
  obtain rfl := Option.mem_some_iff.mp hq
  exact absurd hany hport

/-- Where a declaration is considered, one is eligible. -/
theorem exists_eligible_iff : (∃ d ∈ inventory.declarations, inventory.Eligible service port d) ↔
    ∃ d ∈ inventory.declarations, inventory.Considered service d := by
  constructor
  · rintro ⟨d, hd, hconsidered, -⟩
    exact ⟨d, hd, hconsidered⟩
  · rintro ⟨d, hd, hconsidered⟩
    by_cases hport : ∃ p ∈ port, ∃ x ∈ inventory.declarations,
        inventory.Considered service x ∧ x.containerPort = p
    · obtain ⟨p, hp, x, hx, hxconsidered, rfl⟩ := hport
      exact ⟨x, hx, hxconsidered, fun q hq _ => Option.mem_unique hp hq⟩
    · exact ⟨d, hd, hconsidered, fun p hp hany => absurd ⟨p, hp, hany⟩ hport⟩

/-! ## The look-up -/

/-- The look-up finds the best of the eligible declarations. -/
theorem lookup?_eq_best? : inventory.lookup? service port =
    best? (inventory.declarations.filter fun d => decide (inventory.Eligible service port d)) := by
  unfold lookup?
  dsimp only
  rw [candidates_eq_filter]
  cases port with
  | none => simp only [Option.bind_none, Option.none_or, eligible_none_iff]
  | some p =>
    have hnarrow : (inventory.declarations.filter fun d =>
        decide (inventory.Considered service d)).filter (·.containerPort == p) =
        inventory.declarations.filter fun d =>
          decide (d.containerPort = p ∧ inventory.Considered service d) := by
      rw [List.filter_filter]
      refine List.filter_congr fun d _ => ?_
      rw [Bool.decide_and, beq_eq_decide]
    rw [Option.bind_some, hnarrow]
    by_cases hport : ∃ x ∈ inventory.declarations,
        inventory.Considered service x ∧ x.containerPort = p
    · simp only [inventory.eligible_some_iff_of_exists service hport]
      obtain ⟨x, hx, hconsidered, hp⟩ := hport
      have hne : inventory.declarations.filter (fun d =>
          decide (d.containerPort = p ∧ inventory.Considered service d)) ≠ [] :=
        List.ne_nil_of_mem (List.mem_filter.mpr ⟨hx, decide_eq_true ⟨hp, hconsidered⟩⟩)
      obtain ⟨best, hbest⟩ := Option.ne_none_iff_exists'.mp (mt best?_eq_none_iff.mp hne)
      rw [hbest, Option.some_or]
    · have hnone : inventory.declarations.filter (fun d =>
          decide (d.containerPort = p ∧ inventory.Considered service d)) = [] :=
        List.filter_eq_nil_iff.mpr fun d hd h =>
          hport ⟨d, hd, (of_decide_eq_true h).2, (of_decide_eq_true h).1⟩
      simp only [inventory.eligible_some_iff_of_not_exists service hport]
      rw [hnone, best?_eq_none_iff.mpr rfl, Option.none_or]

/-- Where the name of a service is not blank, some declaration is considered exactly if the name of
some declared service resembles it. -/
theorem exists_considered_iff (hname : foldName service ≠ "") :
    (∃ d ∈ inventory.declarations, inventory.Considered service d) ↔
      ∃ d ∈ inventory.declarations, Resembles service d.service := by
  constructor
  · rintro ⟨d, hd, rfl | ⟨-, hlike⟩⟩
    · exact ⟨d, hd, hname, hname, Or.inl (List.infix_refl _)⟩
    · exact ⟨d, hd, hlike⟩
  · rintro ⟨d, hd, hlike⟩
    by_cases hexact : ∃ x ∈ inventory.declarations, x.service = service
    · obtain ⟨x, hx, hsame⟩ := hexact
      exact ⟨x, hx, Or.inl hsame⟩
    · push Not at hexact
      exact ⟨d, hd, Or.inr ⟨hexact, hlike⟩⟩

/-- Without a port in question a look-up finds nothing exactly where nothing is considered. -/
theorem lookup?_none_eq_none_iff : inventory.lookup? service none = none ↔
    ¬∃ d ∈ inventory.declarations, inventory.Considered service d := by
  rw [lookup?_eq_best?, best?_eq_none_iff, List.filter_eq_nil_iff]
  simp only [decide_eq_true_iff, eligible_none_iff, not_exists, not_and]

/-- A look-up finds nothing exactly where no declaration is considered. Otherwise it finds the
eligible declaration that is believed most, and of several the one that was found first. -/
theorem lookup?_selects :
    (inventory.lookup? service port = none ↔
      ∀ d ∈ inventory.declarations, ¬inventory.Considered service d) ∧
    ∀ d, inventory.lookup? service port = some d ↔
      ∃ before after, inventory.declarations = before ++ d :: after ∧
        inventory.Eligible service port d ∧
        (∀ x ∈ before, inventory.Eligible service port x → x.confidence < d.confidence) ∧
        ∀ x ∈ after, inventory.Eligible service port x → x.confidence ≤ d.confidence := by
  rw [lookup?_eq_best?]
  constructor
  · have hnone := not_congr (inventory.exists_eligible_iff service port)
    push Not at hnone
    rw [best?_eq_none_iff, List.filter_eq_nil_iff, ← hnone]
    simp only [decide_eq_true_iff]
  · intro d
    rw [best?_filter_eq_some_iff]
    simp only [decide_eq_true_iff]

end PortSurvey.Inventory
