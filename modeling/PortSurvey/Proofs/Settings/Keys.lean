import Mathlib.Data.String.Basic
import PortSurvey.Proofs.Dict
import PortSurvey.Proofs.Except
import PortSurvey.Settings.File

/-!
# Keys of overrides

The keys of overrides are totally ordered: first the numbers and then the texts, each in their own
order (`PortKey.eq_append_ascending`). The overrides of a document are put into a dictionary one by
one, whichever its format is, so that the layer that a file gives has its keys in order
(`Layer.pairwise_keys_of_ofFile`).
-/

namespace PortSurvey

/-! ## Results of readers -/

namespace Yaml

variable {α β : Type} {p : α → Prop} {q : β → Prop}

/-- All that a reader yields has a property. -/
def Reading.Yields (r : Reading α) (p : α → Prop) : Prop :=
  ∀ n a m, r.run n = .ok (a, m) → p a

/-- What a reader yields is one thing or another. -/
theorem yields_true (r : Reading α) : Reading.Yields r fun _ => True :=
  fun _ _ _ _ => trivial

/-- What is returned is yielded. -/
theorem yields_pure {a : α} (h : p a) : Reading.Yields (pure a) p := by
  rintro n _ _ ⟨⟩
  exact h

/-- Two steps yield what the second does after what the first yields. -/
theorem yields_bind {r : Reading α} {f : α → Reading β} (hr : Reading.Yields r p)
    (hf : ∀ a, p a → Reading.Yields (f a) q) : Reading.Yields (r >>= f) q := by
  intro n b m h
  rw [StateT.run_bind] at h
  obtain ⟨⟨a, m'⟩, ha, hb⟩ := Except.bind_eq_ok_iff.mp h
  exact hf a (hr n a m' ha) m' b m hb

/-- A field that may be missing yields what its reader does, or what stands for it. -/
theorem yields_readFieldOr {fields : List (String × Node)} {name : String} {usual : α}
    {read : Node → Reading α} (husual : p usual) (hread : ∀ node, Reading.Yields (read node) p) :
    Reading.Yields (readFieldOr fields name usual read) p := by
  unfold readFieldOr
  cases field? fields name with
  | none => exact yields_pure husual
  | some node => exact hread node

end Yaml

namespace Settings

open Yaml

/-! ## Order of keys -/

namespace PortKey

/-- Numbers come in their order. -/
@[simp] theorem number_lt_number_iff {m n : Nat} : number m < number n ↔ m < n :=
  decide_eq_true_iff

/-- Texts come in their order. -/
@[simp] theorem text_lt_text_iff {s t : String} : text s < text t ↔ s < t :=
  decide_eq_true_iff

/-- Numbers come before texts. -/
@[simp] theorem number_lt_text (n : Nat) (s : String) : number n < text s :=
  rfl

/-- Texts do not come before numbers. -/
@[simp] theorem not_text_lt_number (s : String) (n : Nat) : ¬text s < number n :=
  Bool.false_ne_true

instance : IsTrans PortKey (· < ·) where
  trans a b c hab hbc := by
    cases a <;> cases b <;> cases c <;> simp only [number_lt_number_iff, text_lt_text_iff,
      number_lt_text, not_text_lt_number] at hab hbc ⊢
    · exact lt_trans hab hbc
    · exact lt_trans hab hbc

instance : Std.Trichotomous fun a b : PortKey => a < b where
  trichotomous a b hab hba := by
    cases a <;> cases b <;> simp only [number_lt_number_iff, text_lt_text_iff,
      number_lt_text, not_text_lt_number, not_true_eq_false] at hab hba
    · exact congrArg number (le_antisymm (not_lt.mp hba) (not_lt.mp hab))
    · exact congrArg text (le_antisymm (not_lt.mp hba) (not_lt.mp hab))

/-! ## Numbers and texts among keys -/

/-- The number that a key is. -/
def number? : PortKey → Option Nat
  | .number n => some n
  | .text _ => none

/-- The text that a key is. -/
def text? : PortKey → Option String
  | .number _ => none
  | .text s => some s

/-- No number comes after a text. -/
theorem number?_of_text_lt {t : String} {k : PortKey} (h : text t < k) : k.number? = none := by
  cases k with
  | number n => exact absurd h (not_text_lt_number t n)
  | text s => rfl

/-- Keys in order are the numbers and then the texts among them. -/
theorem eq_append {keys : List PortKey} (h : keys.Pairwise (· < ·)) :
    keys = (keys.filterMap number?).map .number ++ (keys.filterMap text?).map .text := by
  induction keys with
  | nil => rfl
  | cons k rest ih =>
    obtain ⟨hk, hrest⟩ := List.pairwise_cons.mp h
    cases k with
    | number n => exact congrArg (number n :: ·) (ih hrest)
    | text t =>
      -- All that follows a text are texts.
      have hnone : rest.filterMap number? = [] :=
        List.filterMap_eq_nil_iff.mpr fun k' hk' => number?_of_text_lt (hk k' hk')
      have hrest' := ih hrest
      rw [hnone] at hrest'
      change text t :: rest = (rest.filterMap number?).map .number ++
        text t :: (rest.filterMap text?).map .text
      rw [hnone]
      exact congrArg (text t :: ·) hrest'

/-- Keys in order are the numbers among them in ascending order and then the texts. -/
theorem eq_append_ascending {keys : List PortKey} (h : keys.Pairwise (· < ·)) :
    keys = (ascending (keys.filterMap number?)).map .number ++
      (ascending (keys.filterMap text?)).map .text := by
  have hnumbers : (keys.filterMap number?).Pairwise (· < ·) := by
    refine h.filterMap _ fun k k' hlt n hn n' hn' => ?_
    cases k <;> cases k' <;> cases hn <;> cases hn'
    exact number_lt_number_iff.mp hlt
  have htexts : (keys.filterMap text?).Pairwise (· < ·) := by
    refine h.filterMap _ fun k k' hlt s hs s' hs' => ?_
    cases k <;> cases k' <;> cases hs <;> cases hs'
    exact text_lt_text_iff.mp hlt
  rw [Dict.ascending_eq_self hnumbers, Dict.ascending_eq_self htexts]
  exact eq_append h

end PortKey

/-! ## Layers of files -/

namespace Layer

/-- The overrides of a document have their keys in order. -/
theorem yields_readOverrides (d : Document) (node : Node) :
    Reading.Yields (readOverrides d node) fun o => o.keys.Pairwise (· < ·) := by
  unfold readOverrides
  refine yields_bind (yields_true _) fun nodes _ => ?_
  refine yields_bind (yields_true _) fun entries _ => ?_
  exact yields_pure (Dict.pairwise_keys_ofList entries)

/-- A layer that is read has its keys in order. -/
theorem yields_readLayer (d : Document) (node : Node) :
    Reading.Yields (readLayer d node) fun l => l.overrides.keys.Pairwise (· < ·) := by
  unfold readLayer
  refine yields_bind (yields_true _) fun fields _ => ?_
  refine yields_bind (yields_true _) fun environment _ => ?_
  refine yields_bind (yields_true _) fun threshold _ => ?_
  refine yields_bind (yields_readFieldOr .nil (yields_readOverrides d)) fun overrides hkeys => ?_
  refine yields_bind (yields_true _) fun patterns _ => ?_
  refine yields_bind (yields_true _) fun policy _ => ?_
  exact yields_pure hkeys

/-- A document in YAML gives a layer with its keys in order. -/
theorem pairwise_keys_of_ofYaml {text : String} {l : Layer} (h : ofYaml text = .ok l) :
    l.overrides.keys.Pairwise (· < ·) := by
  unfold ofYaml at h
  obtain ⟨d, -, h⟩ := Except.bind_eq_ok_iff.mp h
  cases hroot : d.root with
  | none =>
    rw [hroot] at h
    cases h
    exact .nil
  | some node =>
    rw [hroot] at h
    dsimp only at h
    rw [StateT.run'] at h
    obtain ⟨⟨l', n⟩, hread, rfl⟩ := Except.map_eq_ok_iff.mp h
    exact yields_readLayer d node 0 _ n hread

/-- The overrides of a table have their keys in order. -/
theorem pairwise_keys_of_overrides? {v : Toml.Value} {o : Dict PortKey Override}
    (h : Table.overrides? v = some o) : o.keys.Pairwise (· < ·) := by
  unfold Table.overrides? at h
  obtain ⟨entries, -, h⟩ := Option.bind_eq_some_iff.mp h
  obtain ⟨given, -, h⟩ := Option.bind_eq_some_iff.mp h
  cases h
  exact Dict.pairwise_keys_ofList given

/-- A document in TOML gives a layer with its keys in order. -/
theorem pairwise_keys_of_ofToml? {text : String} {l : Layer} (h : ofToml? text = some l) :
    l.overrides.keys.Pairwise (· < ·) := by
  unfold ofToml? at h
  obtain ⟨v, -, h⟩ := Option.bind_eq_some_iff.mp h
  unfold Table.layer? at h
  obtain ⟨fields, -, h⟩ := Option.bind_eq_some_iff.mp h
  split_ifs at h
  obtain ⟨environment, -, h⟩ := Option.bind_eq_some_iff.mp h
  obtain ⟨threshold, -, h⟩ := Option.bind_eq_some_iff.mp h
  obtain ⟨overrides, hoverrides, h⟩ := Option.bind_eq_some_iff.mp h
  obtain ⟨patterns, -, h⟩ := Option.bind_eq_some_iff.mp h
  obtain ⟨policy, -, h⟩ := Option.bind_eq_some_iff.mp h
  cases h
  unfold Table.fieldOr? at hoverrides
  split at hoverrides
  · exact pairwise_keys_of_overrides? hoverrides
  · cases hoverrides
    exact .nil

/-- A file gives a layer with its keys in order. -/
theorem pairwise_keys_of_ofFile {path : Path} {content : String} {l : Layer}
    (h : ofFile path content = .ok l) : l.overrides.keys.Pairwise (· < ·) := by
  unfold ofFile at h
  split at h
  · cases h
  · rename_i format _
    split at h
    · rename_i l' hl
      cases h
      cases format with
      | yaml => exact pairwise_keys_of_ofYaml (Except.toOption_eq_some_iff.mp hl)
      | toml => exact pairwise_keys_of_ofToml? hl
    · cases h

end Layer

end Settings

end PortSurvey
