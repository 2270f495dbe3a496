import PortSurvey.Proofs.Artifact.Chart.Naming
import PortSurvey.Proofs.Text.Numeral
import PortSurvey.Proofs.Text.Split

/-!
# The paths of chart values

The path that stands beside a declaration is a text. `stepsOf` reads it as the steps that it was joined
of, and `follow?` takes steps from a value on, telling the positions of the entries and items that it
passes. Where the keys of the mappings are whole and distinct (`Addressable`), the path to each value
that the search looks at is read as the steps that lead there (`exists_follow?_of_leadsTo`), and so is
the path beside a declaration (`exists_follow?_of_declaredAt`). Steps lead to one place only, so no two
declarations have the same path (`path_identifies_site`).
-/

namespace PortSurvey.Artifact.Chart

open Text
open Yaml (Value)

variable {file : File} {path path' : String}

/-! ## Steps -/

/-- A step from a value to one inside it. -/
inductive Step
  /-- To the value of a key of a mapping. -/
  | key (name : String)
  /-- To the item of a sequence at a position. -/
  | index (i : Nat)
  deriving DecidableEq, Repr

/-- Where a step leads to from a value, and the position of the entry or item there. -/
def Step.take? : Step → Value → Option (Nat × Value)
  | .key name, .mapping entries =>
    (entries.findIdx? (·.1.isName name)).bind fun i => entries[i]?.map fun entry => (i, entry.2)
  | .index i, .sequence items => items[i]?.map fun item => (i, item)
  | _, _ => none

/-- Where steps lead to from a value, and the positions of the entries and items on the way. -/
def follow? : List Step → Value → Option (List Nat × Value)
  | [], v => some ([], v)
  | step :: rest, v => (step.take? v).bind fun (i, w) => (follow? rest w).map (Prod.map (i :: ·) id)

/-- The first of some steps is taken, and then the others. -/
theorem follow?_cons {step : Step} {v w : Value} {i : Nat} (h : step.take? v = some (i, w))
    (rest : List Step) : follow? (step :: rest) v = (follow? rest w).map (Prod.map (i :: ·) id) := by
  rw [follow?, h, Option.bind_some]

/-- Steps after others are taken from where these lead to. -/
theorem follow?_append {steps : List Step} {v w : Value} {way : List Nat}
    (h : follow? steps v = some (way, w)) (more : List Step) :
    follow? (steps ++ more) v = (follow? more w).map (Prod.map (way ++ ·) id) := by
  induction steps generalizing v way with
  | nil =>
    obtain ⟨rfl, rfl⟩ := Prod.mk.inj (Option.some.inj h)
    exact Option.map_id'.symm
  | cons step rest ih =>
    obtain ⟨⟨i, u⟩, hstep, hrest⟩ := Option.bind_eq_some_iff.mp h
    obtain ⟨⟨way', w'⟩, hfollow, heq⟩ := Option.map_eq_some_iff.mp hrest
    obtain ⟨rfl, rfl⟩ := Prod.mk.inj heq
    rw [List.cons_append, follow?_cons hstep, ih hfollow, Option.map_map]
    rfl

/-! ## Paths as steps -/

/-- The steps of a part of a path between dots: a key, if there is one, and then positions. -/
def stepsOfSegment (segment : List Char) : List Step :=
  match segment.splitOnP (· == '[') with
  | [] => []
  | name :: indices =>
    (if name.isEmpty then [] else [.key (String.ofList name)]) ++
      indices.map fun piece => .index (Nat.ofDigitChars 10 (piece.takeWhile (· != ']')) 0)

/-- The steps that a path is joined of. -/
def stepsOf (path : String) : List Step :=
  (path.toList.splitOnP (· == '.')).flatMap stepsOfSegment

/-- A whole key is read as one step. -/
theorem stepsOfSegment_of_whole {key : String} (h : Whole key) :
    stepsOfSegment key.toList = [.key key] := by
  have hne : key.toList.isEmpty = false :=
    Bool.eq_false_iff.mpr fun hempty => h.1 (String.toList_eq_nil_iff.mp (List.isEmpty_iff.mp hempty))
  unfold stepsOfSegment
  rw [splitOnP_of_notMem h.2.2]
  dsimp only
  rw [hne, String.ofList_toList]
  rfl

/-- A position behind a part of a path is one more step. -/
theorem stepsOfSegment_append (segment : List Char) (i : Nat) :
    stepsOfSegment (segment ++ '[' :: (Nat.toDigits 10 i ++ [']'])) =
      stepsOfSegment segment ++ [.index i] := by
  have hbracket : ('[' == '[') = true := rfl
  have hpiece : (Nat.toDigits 10 i ++ [']']).splitOnP (· == '[') = [Nat.toDigits 10 i ++ [']']] :=
    splitOnP_of_notMem (List.not_mem_append (notMem_toDigits (by decide) i) (by decide))
  have hdigits : (Nat.toDigits 10 i ++ [']']).takeWhile (· != ']') = Nat.toDigits 10 i := by
    rw [List.takeWhile_append_of_pos fun c hc => ?_]
    · exact List.append_nil _
    · exact bne_iff_ne.mpr fun heq => notMem_toDigits (by decide) i (heq ▸ hc)
  have hne : segment.splitOnP (· == '[') ≠ [] := List.splitOnP_ne_nil _ _
  unfold stepsOfSegment
  -- The bracket begins a new piece, which holds the digits up to the closing bracket.
  rw [List.splitOnP_append_cons (p := (· == '[')) segment _ hbracket, hpiece]
  generalize segment.splitOnP (· == '[') = pieces at hne ⊢
  obtain ⟨name, indices, rfl⟩ := List.exists_cons_of_ne_nil hne
  dsimp only [List.cons_append]
  rw [List.map_append, List.map_singleton, hdigits, Nat.ofDigitChars_ten_toDigits, List.append_assoc]

/-- A whole key below a path is one more step. -/
theorem stepsOf_joinKey {name : String} (h : Whole name) (path : String) :
    stepsOf (joinKey path name) = stepsOf path ++ [.key name] := by
  have hname : name.toList.splitOnP (· == '.') = [name.toList] :=
    splitOnP_of_notMem h.2.1
  by_cases hpath : path = ""
  · have hkey : joinKey "" name = name := rfl
    rw [hpath, hkey]
    unfold stepsOf
    rw [hname, List.flatMap_singleton, stepsOfSegment_of_whole h]
    rfl
  · have hdot : ('.' == '.') = true := rfl
    unfold stepsOf
    rw [toList_joinKey hpath, List.splitOnP_append_cons (p := (· == '.')) _ _ hdot, hname,
      List.flatMap_append, List.flatMap_singleton, stepsOfSegment_of_whole h]

/-- A position below a path is one more step. -/
theorem stepsOf_joinIndex (path : String) (i : Nat) :
    stepsOf (joinIndex path i) = stepsOf path ++ [.index i] := by
  have hindex : '.' ∉ '[' :: (Nat.toDigits 10 i ++ [']']) :=
    List.not_mem_cons_of_ne_of_not_mem (by decide)
      (List.not_mem_append (notMem_toDigits (by decide) i) (by decide))
  -- The position belongs to what stands behind the last dot.
  obtain ⟨front, last, h⟩ := exists_splitOnP_append '.' path.toList
  have hwithout := h [] List.not_mem_nil
  rw [List.append_nil, List.append_nil] at hwithout
  unfold stepsOf
  rw [toList_joinIndex, toList_toString, h _ hindex, hwithout, List.flatMap_append, List.flatMap_append, List.flatMap_singleton,
    List.flatMap_singleton, stepsOfSegment_append, List.append_assoc]

/-! ## Values with whole keys -/

/-- The keys of a mapping are without tags, and its texts are whole and distinct. -/
structure PlainKeys (entries : List (Value × Value)) : Prop where
  /-- No key has a tag. -/
  untagged : ∀ entry ∈ entries, entry.1.bare = entry.1
  /-- Keys that are texts are whole. -/
  whole : ∀ entry ∈ entries, ∀ name ∈ entry.1.text?, Whole name
  /-- No text is the key of two entries. -/
  distinct : (entries.filterMap (·.1.text?)).Nodup

/-- Keys that are all texts without tags are plain if they are whole and distinct. -/
theorem plainKeys_of_strings (entries : List (String × Value)) (hwhole : ∀ entry ∈ entries, Whole entry.1)
    (hdistinct : (entries.map Prod.fst).Nodup) :
    PlainKeys (entries.map fun entry => (.string entry.1, entry.2)) where
  untagged := List.forall_mem_map.mpr fun _ _ => rfl
  whole := List.forall_mem_map.mpr fun entry hentry _ hname => Option.some.inj hname ▸ hwhole entry hentry
  distinct := by
    rw [List.filterMap_map]
    exact (List.filterMap_eq_map (f := Prod.fst)).symm ▸ hdistinct

mutual

/-- The mappings in a value have plain keys, wherever the search may look at them. -/
def Addressable : Value → Prop
  | .mapping entries => PlainKeys entries ∧ AddressableEntries entries
  | .sequence items => AddressableItems items
  | _ => True

/-- The mappings in items have plain keys. -/
def AddressableItems : List Value → Prop
  | [] => True
  | item :: rest => Addressable item ∧ AddressableItems rest

/-- The mappings in the values of entries have plain keys. -/
def AddressableEntries : List (Value × Value) → Prop
  | [] => True
  | (_, child) :: rest => Addressable child ∧ AddressableEntries rest

end

/-- Each item of a sequence with plain keys has plain keys. -/
theorem AddressableItems.of_getElem? {items : List Value} (h : AddressableItems items) {i : Nat}
    {item : Value} (hitem : items[i]? = some item) : Addressable item := by
  induction items generalizing i with
  | nil => cases hitem
  | cons first rest ih =>
    rw [AddressableItems] at h
    cases i with
    | zero => exact Option.some.inj hitem ▸ h.1
    | succ i => exact ih h.2 hitem

/-- Each value of a mapping with plain keys has plain keys. -/
theorem AddressableEntries.of_getElem? {entries : List (Value × Value)}
    (h : AddressableEntries entries) {i : Nat} {key child : Value}
    (hentry : entries[i]? = some (key, child)) : Addressable child := by
  induction entries generalizing i with
  | nil => cases hentry
  | cons first rest ih =>
    obtain ⟨firstKey, firstChild⟩ := first
    rw [AddressableEntries] at h
    cases i with
    | zero => exact (Prod.mk.inj (Option.some.inj hentry)).2 ▸ h.1
    | succ i => exact ih h.2 hentry

/-- A value without a tag whose text is a name is that name. -/
theorem eq_string_of_text? {key : Value} {name : String} (hbare : key.bare = key)
    (hname : key.text? = some name) : key = .string name := by
  unfold Value.text? at hname
  rw [hbare] at hname
  cases key with
  | string s => exact congrArg Value.string (Option.some.inj hname)
  | _ => cases hname

/-- A name is the text of a value that is that name. -/
theorem text?_of_isName {key : Value} {name : String} (h : key.isName name = true) :
    key.text? = some name := by
  cases key with
  | string s => exact congrArg some (beq_iff_eq.mp h)
  | _ => cases h

/-- Among plain keys, the step to a key leads to its entry. -/
theorem take?_key {entries : List (Value × Value)} (h : PlainKeys entries) {i : Nat}
    {key child : Value} {name : String} (hentry : entries[i]? = some (key, child))
    (hname : key.text? = some name) :
    (Step.key name).take? (.mapping entries) = some (i, child) := by
  obtain ⟨hi, hget⟩ := List.getElem?_eq_some_iff.mp hentry
  have hkey : entries[i].1 = .string name := by
    have hbare := h.untagged _ (List.getElem_mem hi)
    rw [hget] at hbare ⊢
    exact eq_string_of_text? hbare hname
  have hfind : entries.findIdx? (·.1.isName name) = some i := by
    refine List.findIdx?_eq_some_iff_getElem.mpr ⟨hi, ?_, fun j hj hsame => ?_⟩
    · rw [hkey]
      exact beq_self_eq_true name
    · -- An earlier entry with the name would have the same text for its key.
      have hdistinct := List.pairwise_iff_getElem.mp (List.pairwise_filterMap.mp h.distinct) j i
        (Nat.lt_trans hj hi) hi hj
      refine hdistinct name (text?_of_isName hsame) name ?_ rfl
      rw [hget]
      exact hname
  rw [Step.take?, hfind, Option.bind_some, hentry, Option.map_some]

/-! ## Paths that lead somewhere -/

/-- What a value with plain keys leads to has plain keys, and the path there goes on with steps that lead
there. -/
theorem exists_follow?_of_leadsTo {v w : Value} {way : List Nat} (h : LeadsTo path v way path' w)
    (hv : Addressable v) : Addressable w ∧
      ∃ steps, stepsOf path' = stepsOf path ++ steps ∧ follow? steps v = some (way, w) := by
  -- Along the way; the first step leads to where the rest of the way begins.
  induction h with
  | here => exact ⟨hv, [], (List.append_nil _).symm, rfl⟩
  | @entry path _ name entries key child _ i _ hentry hname _ _ ih =>
    rw [Addressable] at hv
    obtain ⟨hplain, hchildren⟩ := hv
    obtain ⟨hw, steps, hsteps, hfollow⟩ := ih (hchildren.of_getElem? hentry)
    have hwhole : Whole name := hplain.whole _ (List.mem_of_getElem? hentry) name hname
    refine ⟨hw, .key name :: steps, ?_, ?_⟩
    · rw [hsteps, stepsOf_joinKey hwhole, List.append_assoc, List.singleton_append]
    · rw [follow?_cons (take?_key hplain hentry hname), hfollow]
      rfl
  | @item path _ items child _ i _ hitem _ ih =>
    rw [Addressable] at hv
    obtain ⟨hw, steps, hsteps, hfollow⟩ := ih (hv.of_getElem? hitem)
    have hstep : (Step.index i).take? (.sequence items) = some (i, child) := by
      rw [Step.take?, hitem, Option.map_some]
    refine ⟨hw, .index i :: steps, ?_, ?_⟩
    · rw [hsteps, stepsOf_joinIndex, List.append_assoc, List.singleton_append]
    · rw [follow?_cons hstep, hfollow]
      rfl

/-- At a spot of a mapping a declaration was read from a value. -/
inductive ReadFrom : List Nat → Value → Declaration → Prop
  /-- The number of a key `port` is the port inside the container. -/
  | number {i : Nat} {n : Yaml.Number} {d : Declaration}
      (hport : Port.ofNumber? n = some d.containerPort) : ReadFrom [i] (.number n) d
  /-- An item of a list of ports names the ports inside and outside the container. -/
  | item {i j : Nat} {item : Value} {d : Declaration}
      (hports : itemPorts? item = some (d.containerPort, d.hostPort)) : ReadFrom [i, j] item d

/-- The path that stands beside a declaration leads to its site, and to what the declaration was read
from there. -/
theorem exists_follow?_of_declaredAt {root : Value} (hroot : Addressable root) {s : Site}
    {d : Declaration} (h : DeclaredAt file "" root s d) : ∃ path target,
      d.context.find? "values_path" = some path ∧
        follow? (stepsOf path) root = some (s.way ++ s.spot, target) ∧ ReadFrom s.spot target d := by
  have hport : Whole "port" := by decide
  have hports : Whole "ports" := by decide
  have hnil : stepsOf "" = [] := by decide +kernel
  cases h with
  | @port path entries key n port i way hway hentry hkey hnumber =>
    obtain ⟨hentries, steps, hsteps, hfollow⟩ := exists_follow?_of_leadsTo hway hroot
    rw [Addressable] at hentries
    rw [hnil, List.nil_append] at hsteps
    refine ⟨_, .number n, (told_declare _ _).path_eq, ?_, .number hnumber⟩
    rw [stepsOf_joinKey hport, hsteps, follow?_append hfollow,
      follow?_cons (take?_key hentries.1 hentry hkey)]
    rfl
  | @item path entries key item items d i j way hway hentry hkey hitem hread =>
    obtain ⟨hentries, steps, hsteps, hfollow⟩ := exists_follow?_of_leadsTo hway hroot
    rw [Addressable] at hentries
    rw [hnil, List.nil_append] at hsteps
    obtain ⟨htold, hitemPorts⟩ := told_of_ofItem? hread
    have hstep : (Step.index j).take? (.sequence items) = some (j, item) := by
      rw [Step.take?, hitem, Option.map_some]
    refine ⟨_, item, htold.path_eq, ?_, .item hitemPorts⟩
    rw [stepsOf_joinIndex, stepsOf_joinKey hports, hsteps, List.append_assoc, follow?_append hfollow,
      List.singleton_append, follow?_cons (take?_key hentries.1 hentry hkey), follow?_cons hstep]
    rfl

/-- Sites at which one value was read are the same if the same positions lead there. -/
theorem site_eq_of_append_eq {s t : Site} {target : Value} {d e : Declaration}
    (hs : ReadFrom s.spot target d) (ht : ReadFrom t.spot target e)
    (h : s.way ++ s.spot = t.way ++ t.spot) : s = t := by
  obtain ⟨way, spot⟩ := s
  obtain ⟨way', spot'⟩ := t
  -- A number names no ports as an item does, so the spots are of the same kind.
  have hlength : spot.length = spot'.length := by
    cases hs with
    | number hport =>
      cases ht with
      | number hport' => rfl
      | item hports => cases hports
    | item hports =>
      cases ht with
      | number hport => cases hports
      | item hports' => rfl
  obtain ⟨rfl, rfl⟩ := List.append_inj' h hlength
  rfl

/-- Where the keys of all mappings are whole and distinct, no two declarations have the same path, and
the path of each leads to its site, and to what it was read from there. -/
theorem path_identifies_site (file : File) {root : Value} (h : Addressable root) :
    ((ofPlaces file [("", root)]).map (·.context.find? "values_path")).Nodup ∧
      (∀ d, d ∈ ofPlaces file [("", root)] ↔ ∃ s, DeclaredAt file "" root s d) ∧
      ∀ s d, DeclaredAt file "" root s d → ∃ path target,
        d.context.find? "values_path" = some path ∧
        follow? (stepsOf path) root = some (s.way ++ s.spot, target) ∧
        ReadFrom s.spot target d := by
  refine ⟨?_, fun d => mem_ofPlaces_iff, fun s d hs => exists_follow?_of_declaredAt h hs⟩
  rw [ofPlaces_singleton, List.map_map]
  refine List.pairwise_map.mpr ((walk_pairwise file "" root).imp_of_mem ?_)
  intro x y hx hy hbefore hsame
  obtain ⟨path, target, hpath, hfollow, hread⟩ := exists_follow?_of_declaredAt h (mem_walk_iff.mp hx)
  obtain ⟨path', target', hpath', hfollow', hread'⟩ :=
    exists_follow?_of_declaredAt h (mem_walk_iff.mp hy)
  -- One path leads to one place.
  obtain rfl : path = path' := Option.some.inj (hpath.symm.trans (hsame.trans hpath'))
  obtain ⟨hpositions, rfl⟩ := Prod.mk.inj (Option.some.inj (hfollow.symm.trans hfollow'))
  exact hbefore.ne (site_eq_of_append_eq hread hread' hpositions)

/-- A port and two items of a list of ports have paths of their own. -/
theorem path_identifies_site_gateway :
    let file : File := ⟨⟨"charts/shop/values.yaml"⟩, "charts/shop/values.yaml", "shop"⟩
    let http : Value := .mapping [(.string "containerPort", .number (.whole 8080))]
    let metrics : Value := .mapping [(.string "port", .number (.whole 9102))]
    let gateway : Value := .mapping [(.string "ports", .sequence [http, metrics])]
    let web : Value := .mapping [(.string "port", .number (.whole 80))]
    let root : Value := .mapping [(.string "gateway", gateway), (.string "web", web)]
    let paths := [some "gateway.ports[0]", some "gateway.ports[1]", some "web.port"]
    Addressable root ∧
      (ofPlaces file [("", root)]).map (·.context.find? "values_path") = paths ∧ paths.Nodup ∧
      follow? (stepsOf "gateway.ports[1]") root = some ([0, 0, 1], metrics) := by
  intro file http metrics gateway web root paths
  have hone {name : String} (hname : Whole name) (v : Value) : PlainKeys [(.string name, v)] :=
    plainKeys_of_strings [(name, v)] (List.forall_mem_singleton.mpr hname) (List.nodup_singleton name)
  have hcontainerPort : Whole "containerPort" := by decide
  have hport : Whole "port" := by decide
  have hports : Whole "ports" := by decide
  have hroot : PlainKeys [(.string "gateway", gateway), (.string "web", web)] :=
    plainKeys_of_strings [("gateway", _), ("web", _)] (by decide) (by decide)
  have haddressable : Addressable root := by
    simp only [root, gateway, web, http, metrics, Addressable, AddressableEntries, AddressableItems,
      and_true]
    exact ⟨hroot, ⟨hone hports _, hone hcontainerPort _, hone hport _⟩, hone hport _⟩
  have hpaths : (ofPlaces file [("", root)]).map (·.context.find? "values_path") = paths := by
    rw [ofPlaces_singleton]
    decide +kernel
  have hdistinct := (path_identifies_site file haddressable).1
  rw [hpaths] at hdistinct
  exact ⟨haddressable, hpaths, hdistinct, rfl⟩

end PortSurvey.Artifact.Chart
