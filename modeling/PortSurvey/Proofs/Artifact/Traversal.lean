import Mathlib.Data.List.Basic
import Mathlib.Order.Basic
import PortSurvey.Artifact.Chart
import PortSurvey.Proofs.Dict
import PortSurvey.Proofs.Grouping

/-!
# The traversal of chart values

`ofPlaces` searches the values of a chart with a list of places still to be looked at. `walk` is the
same search as a recursion over the value: what the keys of a mapping declare comes first, then what
stands inside the values of its other keys, in the order of the document; a sequence is walked item
by item. Each declaration of `walk` comes with its `Site`, the place in the document at which it was
found.

The two are equal for every list of places (`ofPlaces_eq_flatMap_walk`): what a value declares is
what its own keys declare, followed by what the places inside it do. What `walk` finds is told
without recursion by `DeclaredAt`: a site declares a port if it lies in a mapping that the root
leads to (`mem_ofPlaces_iff`). A declaration tells the service and the path of its site (`Told`). Sites
are found in ascending order (`walk_pairwise`), so none is found twice.
-/

namespace PortSurvey.Artifact.Chart

open Yaml (Value)

/-! ## Sites -/

/-- A place in a document at which a port may be declared. -/
structure Site where
  /-- The positions of the entries and items that lead from the root to the mapping of the key. -/
  way : List Nat
  /-- The position of the key in its mapping, and that of the item in its list of ports. -/
  spot : List Nat
  deriving DecidableEq, Repr

namespace Site

/-- Whether a site comes before another: what a mapping itself declares comes before what stands
inside it. -/
def Before (s t : Site) : Prop :=
  s.way < t.way ∨ s.way = t.way ∧ s.spot < t.spot

/-- A site below the entry or item at a position. -/
def below (i : Nat) (s : Site) : Site :=
  { s with way := i :: s.way }

/-- No site comes before itself. -/
theorem Before.ne {s t : Site} (h : s.Before t) : s ≠ t := by
  rintro rfl
  rcases h with h | ⟨-, h⟩
  · exact List.lt_irrefl _ h
  · exact List.lt_irrefl _ h

/-- Sites below one position keep their order. -/
theorem Before.below {s t : Site} (h : s.Before t) (i : Nat) : (s.below i).Before (t.below i) := by
  rcases h with h | ⟨hway, hspot⟩
  · exact .inl (List.cons_lt_cons_self.mpr h)
  · exact .inr ⟨congrArg (i :: ·) hway, hspot⟩

end Site

/-- The sites of an entry of a mapping, each with its declaration. -/
def entrySites (file : File) (path : String) (i : Nat) (entry : Value × Value) :
    List (Site × Declaration) :=
  match entry.1.text?, entry.2 with
  | some "port", .number n =>
    (Port.ofNumber? n).toList.map fun port =>
      (⟨[], [i]⟩, declare file path port (joinKey path "port"))
  | some "ports", .sequence items =>
    items.zipIdx.filterMap fun (item, j) =>
      (ofItem? file path item (joinIndex (joinKey path "ports") j)).map fun d => (⟨[], [i, j]⟩, d)
  | _, _ => []

mutual

/-- The sites in a value at a path, each with its declaration, found by recursion. -/
def walk (file : File) (path : String) : Value → List (Site × Declaration)
  | .mapping entries =>
    (entries.zipIdx.flatMap fun (entry, i) => entrySites file path i entry) ++
      walkEntries file path 0 entries
  | .sequence items => walkItems file path 0 items
  | _ => []

/-- The sites inside the values of entries, of which the first has position `i`. -/
def walkEntries (file : File) (path : String) (i : Nat) :
    List (Value × Value) → List (Site × Declaration)
  | [] => []
  | (key, child) :: rest =>
    (match key.text? with
      | some name =>
        if isPorts name child then []
        else (walk file (joinKey path name) child).map (Prod.map (Site.below i) id)
      | none => []) ++ walkEntries file path (i + 1) rest

/-- The sites inside items, of which the first has position `i`. -/
def walkItems (file : File) (path : String) (i : Nat) : List Value → List (Site × Declaration)
  | [] => []
  | item :: rest =>
    (walk file (joinIndex path i) item).map (Prod.map (Site.below i) id) ++
      walkItems file path (i + 1) rest

end

/-! ## The list of places and the recursion -/

/-- The declarations of the sites of an entry are those of the entry. -/
theorem map_entrySites (file : File) (path : String) (i : Nat) (entry : Value × Value) :
    (entrySites file path i entry).map Prod.snd = ofEntry file path entry := by
  unfold entrySites
  split
  · rename_i n hkey hvalue
    simp only [ofEntry, hkey, hvalue, List.map_map]
    rfl
  · rename_i items hkey hvalue
    simp only [ofEntry, hkey, hvalue, List.map_filterMap, Option.map_map]
    refine List.filterMap_congr fun x _ => ?_
    exact Option.map_id'
  · rename_i hport hports
    unfold ofEntry
    split
    · exact (hport _ ‹_› ‹_›).elim
    · exact (hports _ ‹_› ‹_›).elim
    · rfl

/-- What is found below a position declares the same as without the position. -/
theorem map_below (i : Nat) (sites : List (Site × Declaration)) :
    (sites.map (Prod.map (Site.below i) id)).map Prod.snd = sites.map Prod.snd := by
  rw [List.map_map]
  rfl

/-- The values of entries declare what the places do that the entries lead to. -/
theorem map_walkEntries (file : File) (path : String) (i : Nat) (entries : List (Value × Value)) :
    (walkEntries file path i entries).map Prod.snd =
      (entries.filterMap (placeOf? path)).flatMap fun place =>
        (walk file place.1 place.2).map Prod.snd := by
  induction entries generalizing i with
  | nil => simp only [walkEntries, List.filterMap_nil, List.flatMap_nil, List.map_nil]
  | cons entry rest ih =>
    obtain ⟨key, child⟩ := entry
    rw [walkEntries, List.map_append, ih, List.filterMap_cons]
    cases hname : key.text? with
    | none => simp only [placeOf?, hname, List.map_nil, List.nil_append]
    | some name =>
      by_cases hports : isPorts name child = true
      · simp only [placeOf?, hname, hports, if_true, List.map_nil, List.nil_append]
      · simp only [placeOf?, hname, hports, if_false, map_below, List.flatMap_cons,
          Bool.false_eq_true]

/-- Items declare what the places do that they are. -/
theorem map_walkItems (file : File) (path : String) (i : Nat) (items : List Value) :
    (walkItems file path i items).map Prod.snd =
      ((items.zipIdx i).map fun x => (joinIndex path x.2, x.1)).flatMap fun place =>
        (walk file place.1 place.2).map Prod.snd := by
  induction items generalizing i with
  | nil => simp only [walkItems, List.zipIdx_nil, List.map_nil, List.flatMap_nil]
  | cons item rest ih =>
    rw [walkItems, List.map_append, map_below, ih, List.zipIdx_cons, List.map_cons,
      List.flatMap_cons]

/-- A value declares what its own keys do, and then what the places inside it do. -/
theorem map_walk (file : File) (path : String) (v : Value) :
    (walk file path v).map Prod.snd = ofNode file path v ++
      (places path v).flatMap fun place => (walk file place.1 place.2).map Prod.snd := by
  cases v with
  | mapping entries =>
    have hown : ((entries.zipIdx.flatMap fun (entry, i) =>
        entrySites file path i entry).map Prod.snd) = entries.flatMap (ofEntry file path) := by
      rw [List.map_flatMap]
      simp only [map_entrySites]
      rw [← List.flatMap_map Prod.fst (ofEntry file path), List.zipIdx_map_fst]
    rw [walk, List.map_append, hown, map_walkEntries, ofNode, places]
  | sequence items =>
    simp only [walk, map_walkItems, ofNode, places, List.nil_append]
  | _ => simp only [walk, ofNode, places, List.map_nil, List.flatMap_nil, List.append_nil]

/-- The search through places finds what the recursion finds in one place after the other. -/
theorem ofPlaces_eq_flatMap_walk (file : File) (todo : List (String × Value)) :
    ofPlaces file todo = todo.flatMap fun place => (walk file place.1 place.2).map Prod.snd := by
  induction todo using ofPlaces.induct with
  | case1 => rw [ofPlaces, List.flatMap_nil]
  | case2 path v rest ih =>
    -- What is put in front of the rest is found before the rest.
    calc ofPlaces file ((path, v) :: rest)
        = ofNode file path v ++ ofPlaces file (places path v ++ rest) := by rw [ofPlaces]
      _ = (ofNode file path v ++ (places path v).flatMap fun place =>
            (walk file place.1 place.2).map Prod.snd) ++ rest.flatMap fun place =>
            (walk file place.1 place.2).map Prod.snd := by
          rw [ih, List.flatMap_append, List.append_assoc]
      _ = ((path, v) :: rest).flatMap fun place => (walk file place.1 place.2).map Prod.snd := by
          rw [← map_walk, List.flatMap_cons]

/-! ## What is found, and where -/

/-- From a value at a path a way leads to another value at a path: through the values of keys that
are texts, unless they are ports themselves, and through the items of sequences. -/
inductive LeadsTo : String → Value → List Nat → String → Value → Prop
  /-- The way ends where it begins. -/
  | here {path : String} {v : Value} : LeadsTo path v [] path v
  /-- The way goes on in the value of a key. -/
  | entry {path path' name : String} {entries : List (Value × Value)} {key child w : Value} {i : Nat}
      {way : List Nat} (hentry : entries[i]? = some (key, child)) (hname : key.text? = some name)
      (hports : isPorts name child = false) (h : LeadsTo (joinKey path name) child way path' w) :
      LeadsTo path (.mapping entries) (i :: way) path' w
  /-- The way goes on in an item. -/
  | item {path path' : String} {items : List Value} {child w : Value} {i : Nat} {way : List Nat}
      (hitem : items[i]? = some child) (h : LeadsTo (joinIndex path i) child way path' w) :
      LeadsTo path (.sequence items) (i :: way) path' w

/-- At a site below a value at a path a port is declared. -/
inductive DeclaredAt (file : File) (path : String) (v : Value) : Site → Declaration → Prop
  /-- A key `port` has a number that is a port. -/
  | port {path' : String} {entries : List (Value × Value)} {key : Value} {n : Yaml.Number}
      {port i : Nat} {way : List Nat} (hway : LeadsTo path v way path' (.mapping entries))
      (hentry : entries[i]? = some (key, .number n)) (hkey : key.text? = some "port")
      (hport : Port.ofNumber? n = some port) :
      DeclaredAt file path v ⟨way, [i]⟩ (declare file path' port (joinKey path' "port"))
  /-- A key `ports` has a list with an item that names a port. -/
  | item {path' : String} {entries : List (Value × Value)} {key item : Value} {items : List Value}
      {d : Declaration} {i j : Nat} {way : List Nat}
      (hway : LeadsTo path v way path' (.mapping entries))
      (hentry : entries[i]? = some (key, .sequence items)) (hkey : key.text? = some "ports")
      (hitem : items[j]? = some item)
      (hport : ofItem? file path' item (joinIndex (joinKey path' "ports") j) = some d) :
      DeclaredAt file path v ⟨way, [i, j]⟩ d

variable {file : File} {path : String}

/-- An entry has the site of its port or those of the items of its list of ports. -/
theorem mem_entrySites_iff {i : Nat} {entry : Value × Value} {x : Site × Declaration} :
    x ∈ entrySites file path i entry ↔
      (∃ n port, entry.1.text? = some "port" ∧ entry.2 = .number n ∧
        Port.ofNumber? n = some port ∧
        x = (⟨[], [i]⟩, declare file path port (joinKey path "port"))) ∨
      ∃ items item j d, entry.1.text? = some "ports" ∧ entry.2 = .sequence items ∧
        items[j]? = some item ∧
        ofItem? file path item (joinIndex (joinKey path "ports") j) = some d ∧
        x = (⟨[], [i, j]⟩, d) := by
  constructor
  · intro h
    unfold entrySites at h
    split at h
    · rename_i n hkey hvalue
      obtain ⟨port, hport, rfl⟩ := List.mem_map.mp h
      exact .inl ⟨n, port, hkey, hvalue, Option.mem_toList.mp hport, rfl⟩
    · rename_i items hkey hvalue
      obtain ⟨⟨item, j⟩, hitem, hx⟩ := List.mem_filterMap.mp h
      obtain ⟨d, hd, rfl⟩ := Option.map_eq_some_iff.mp hx
      exact .inr ⟨items, item, j, d, hkey, hvalue, List.mk_mem_zipIdx_iff_getElem?.mp hitem, hd,
        rfl⟩
    · exact absurd h List.not_mem_nil
  · rintro (⟨n, port, hkey, hvalue, hport, rfl⟩ | ⟨items, item, j, d, hkey, hvalue, hitem, hd, rfl⟩)
    · simp only [entrySites, hkey, hvalue]
      exact List.mem_map.mpr ⟨port, Option.mem_toList.mpr hport, rfl⟩
    · simp only [entrySites, hkey, hvalue]
      exact List.mem_filterMap.mpr
        ⟨(item, j), List.mk_mem_zipIdx_iff_getElem?.mpr hitem, Option.map_eq_some_iff.mpr ⟨d, hd, rfl⟩⟩

/-- What is found inside the values of entries is found inside one of them, below its position. -/
theorem mem_walkEntries_iff {k : Nat} {entries : List (Value × Value)} {x : Site × Declaration} :
    x ∈ walkEntries file path k entries ↔ ∃ i key child name y,
      entries[i]? = some (key, child) ∧ key.text? = some name ∧ isPorts name child = false ∧
        y ∈ walk file (joinKey path name) child ∧ x = (y.1.below (k + i), y.2) := by
  induction entries generalizing k with
  | nil => simp [walkEntries]
  | cons entry rest ih =>
    obtain ⟨key, child⟩ := entry
    rw [walkEntries, List.mem_append, ih]
    constructor
    · rintro (hfirst | ⟨i, key', child', name, y, hentry, hname, hports, hy, rfl⟩)
      · split at hfirst
        · rename_i name hname
          split_ifs at hfirst with hports
          · exact absurd hfirst List.not_mem_nil
          · obtain ⟨y, hy, rfl⟩ := List.mem_map.mp hfirst
            exact ⟨0, key, child, name, y, rfl, hname, Bool.eq_false_iff.mpr hports, hy, rfl⟩
        · exact absurd hfirst List.not_mem_nil
      · exact ⟨i + 1, key', child', name, y, hentry, hname, hports, hy,
          by rw [Nat.add_assoc, Nat.add_comm 1 i]⟩
    · rintro ⟨i, key', child', name, y, hentry, hname, hports, hy, rfl⟩
      cases i with
      | zero =>
        obtain ⟨rfl, rfl⟩ := Prod.mk.inj (Option.some.inj hentry)
        simp only [hname, hports, Bool.false_eq_true, if_false]
        exact .inl (List.mem_map.mpr ⟨y, hy, rfl⟩)
      | succ i =>
        exact .inr ⟨i, key', child', name, y, hentry, hname, hports, hy,
          by rw [Nat.add_assoc, Nat.add_comm 1 i]⟩

/-- What is found inside items is found inside one of them, below its position. -/
theorem mem_walkItems_iff {k : Nat} {items : List Value} {x : Site × Declaration} :
    x ∈ walkItems file path k items ↔ ∃ i item y,
      items[i]? = some item ∧ y ∈ walk file (joinIndex path (k + i)) item ∧
        x = (y.1.below (k + i), y.2) := by
  induction items generalizing k with
  | nil => simp [walkItems]
  | cons item rest ih =>
    rw [walkItems, List.mem_append, ih, List.mem_map]
    constructor
    · rintro (⟨y, hy, rfl⟩ | ⟨i, item', y, hitem, hy, rfl⟩)
      · exact ⟨0, item, y, rfl, hy, rfl⟩
      · rw [Nat.add_assoc, Nat.add_comm 1 i] at hy ⊢
        exact ⟨i + 1, item', y, hitem, hy, rfl⟩
    · rintro ⟨i, item', y, hitem, hy, rfl⟩
      cases i with
      | zero =>
        obtain rfl := Option.some.inj hitem
        exact .inl ⟨y, hy, rfl⟩
      | succ i =>
        rw [← Nat.add_assoc, Nat.add_right_comm] at hy ⊢
        exact .inr ⟨i, item', y, hitem, hy, rfl⟩

/-- What a mapping has sites for is declared by its own entries or found inside their values. -/
theorem mem_walk_mapping_iff {entries : List (Value × Value)} {x : Site × Declaration} :
    x ∈ walk file path (.mapping entries) ↔
      (∃ i entry, entries[i]? = some entry ∧ x ∈ entrySites file path i entry) ∨
        x ∈ walkEntries file path 0 entries := by
  rw [walk, List.mem_append, List.mem_flatMap]
  refine or_congr_left ⟨?_, ?_⟩
  · rintro ⟨⟨entry, i⟩, hentry, hx⟩
    exact ⟨i, entry, List.mk_mem_zipIdx_iff_getElem?.mp hentry, hx⟩
  · rintro ⟨i, entry, hentry, hx⟩
    exact ⟨(entry, i), List.mk_mem_zipIdx_iff_getElem?.mpr hentry, hx⟩

/-- What the value of a key declares is declared below the entry of the key. -/
theorem DeclaredAt.entry {entries : List (Value × Value)} {key child : Value} {name : String}
    {i : Nat} {s : Site} {d : Declaration} (hentry : entries[i]? = some (key, child))
    (hname : key.text? = some name) (hports : isPorts name child = false)
    (h : DeclaredAt file (joinKey path name) child s d) :
    DeclaredAt file path (.mapping entries) (s.below i) d := by
  cases h with
  | port hway hown hkey hport => exact .port (.entry hentry hname hports hway) hown hkey hport
  | item hway hown hkey hitem hport =>
    exact .item (.entry hentry hname hports hway) hown hkey hitem hport

/-- What an item declares is declared below the item. -/
theorem DeclaredAt.below {items : List Value} {child : Value} {i : Nat} {s : Site}
    {d : Declaration} (hitem : items[i]? = some child)
    (h : DeclaredAt file (joinIndex path i) child s d) :
    DeclaredAt file path (.sequence items) (s.below i) d := by
  cases h with
  | port hway hown hkey hport => exact .port (.item hitem hway) hown hkey hport
  | item hway hown hkey hitem' hport => exact .item (.item hitem hway) hown hkey hitem' hport

/-- What is found is declared where it is found. -/
theorem declaredAt_of_mem_walk {v : Value} {way spot : List Nat} {d : Declaration}
    (h : (⟨way, spot⟩, d) ∈ walk file path v) : DeclaredAt file path v ⟨way, spot⟩ d := by
  -- Along the way to the site: it ends in a mapping and passes through an entry or item before.
  induction way generalizing path v with
  | nil =>
    cases v with
    | mapping entries =>
      rcases mem_walk_mapping_iff.mp h with ⟨i, ⟨key, child⟩, hentry, hx⟩ | hx
      · rcases mem_entrySites_iff.mp hx with ⟨n, port, hkey, rfl, hport, hsite⟩ |
          ⟨items, item, j, d', hkey, rfl, hitem, hport, hsite⟩
        · cases hsite
          exact .port .here hentry hkey hport
        · cases hsite
          exact .item .here hentry hkey hitem hport
      · obtain ⟨i, key, child, name, y, -, -, -, -, hsite⟩ := mem_walkEntries_iff.mp hx
        cases hsite
    | sequence items =>
      rw [walk] at h
      obtain ⟨i, item, y, -, -, hsite⟩ := mem_walkItems_iff.mp h
      cases hsite
    | _ => simp [walk] at h
  | cons i way ih =>
    cases v with
    | mapping entries =>
      rcases mem_walk_mapping_iff.mp h with ⟨j, entry, -, hx⟩ | hx
      · rcases mem_entrySites_iff.mp hx with ⟨n, port, -, -, -, hsite⟩ |
          ⟨items, item, k, d', -, -, -, -, hsite⟩
        · cases hsite
        · cases hsite
      · obtain ⟨j, key, child, name, y, hentry, hname, hports, hy, hsite⟩ :=
          mem_walkEntries_iff.mp hx
        rw [Nat.zero_add] at hsite
        obtain ⟨rfl, rfl⟩ : i = j ∧ (⟨way, spot⟩, d) = y := by
          cases hsite
          exact ⟨rfl, rfl⟩
        exact (ih hy).entry hentry hname hports
    | sequence items =>
      rw [walk] at h
      obtain ⟨j, item, y, hitem, hy, hsite⟩ := mem_walkItems_iff.mp h
      rw [Nat.zero_add] at hsite hy
      obtain ⟨rfl, rfl⟩ : i = j ∧ (⟨way, spot⟩, d) = y := by
        cases hsite
        exact ⟨rfl, rfl⟩
      exact (ih hy).below hitem
    | _ => simp [walk] at h

/-- What is found at the end of a way is found from its begin. -/
theorem mem_walk_of_leadsTo {path' : String} {v w : Value} {way spot : List Nat}
    {d : Declaration} (hway : LeadsTo path v way path' w)
    (h : (⟨[], spot⟩, d) ∈ walk file path' w) : (⟨way, spot⟩, d) ∈ walk file path v := by
  induction hway with
  | here => exact h
  | @entry _ _ _ _ _ _ _ i _ hentry hname hports _ ih =>
    refine mem_walk_mapping_iff.mpr (.inr (mem_walkEntries_iff.mpr ?_))
    exact ⟨i, _, _, _, _, hentry, hname, hports, ih h, by rw [Nat.zero_add]; rfl⟩
  | @item _ _ _ _ _ i _ hitem _ ih =>
    rw [walk]
    refine mem_walkItems_iff.mpr ⟨i, _, (⟨_, spot⟩, d), hitem, ?_, by rw [Nat.zero_add]; rfl⟩
    rw [Nat.zero_add]
    exact ih h

/-- The walk finds the ports that are declared, where they are declared. -/
theorem mem_walk_iff {v : Value} {s : Site} {d : Declaration} :
    (s, d) ∈ walk file path v ↔ DeclaredAt file path v s d := by
  refine ⟨declaredAt_of_mem_walk, fun h => ?_⟩
  cases h with
  | port hway hentry hkey hport =>
    refine mem_walk_of_leadsTo hway (mem_walk_mapping_iff.mpr (.inl ⟨_, _, hentry, ?_⟩))
    exact mem_entrySites_iff.mpr (.inl ⟨_, _, hkey, rfl, hport, rfl⟩)
  | item hway hentry hkey hitem hport =>
    refine mem_walk_of_leadsTo hway (mem_walk_mapping_iff.mpr (.inl ⟨_, _, hentry, ?_⟩))
    exact mem_entrySites_iff.mpr (.inr ⟨_, _, _, _, hkey, rfl, hitem, hport, rfl⟩)

/-! ## What a declaration tells -/

/-- A declaration tells a service and a path. -/
structure Told (service path : String) (d : Declaration) : Prop where
  /-- The service is that of the declaration. -/
  service_eq : d.service = service
  /-- The path stands beside the declaration. -/
  path_eq : d.context.find? "values_path" = some path

/-- The declaration of a key tells the service of the path of its mapping, and the path of the key. -/
theorem told_declare (port : Nat) (keyPath : String) :
    Told (serviceOf file path) keyPath (declare file path port keyPath) := by
  unfold declare
  generalize serviceOf file path = service
  exact ⟨rfl, rfl⟩

/-- The declaration of an item tells the service of the path of its mapping and the path of the item, and
has the ports that the item names. -/
theorem told_of_ofItem? {item : Value} {itemPath : String} {d : Declaration}
    (h : ofItem? file path item itemPath = some d) :
    Told (serviceOf file path) itemPath d ∧ itemPorts? item = some (d.containerPort, d.hostPort) := by
  unfold ofItem? at h
  obtain ⟨⟨container, host⟩, hports, rfl⟩ := Option.map_eq_some_iff.mp h
  have htold : Told (serviceOf file path) itemPath (declare file path container itemPath) :=
    told_declare container itemPath
  have hcontainer : (declare file path container itemPath).containerPort = container := rfl
  rw [hports]
  dsimp only
  generalize declare file path container itemPath = declared at htold hcontainer ⊢
  unfold Declaration.withProtocol
  generalize transportName _ = transport
  -- Only the name of the item may still be added to what stands beside the declaration.
  generalize (item.get? "name").bind Value.text? = name
  cases name with
  | none =>
    exact ⟨⟨htold.service_eq, htold.path_eq⟩, by rw [← hcontainer]; rfl⟩
  | some name =>
    refine ⟨⟨htold.service_eq, ?_⟩, by rw [← hcontainer]; rfl⟩
    exact (Dict.find?_insert _ _ _ _).trans htold.path_eq

/-! ## The order of sites -/

/-- The sites of an entry lie in its mapping itself, at the position of the entry. -/
theorem site_of_mem_entrySites {i : Nat} {entry : Value × Value} {x : Site × Declaration}
    (h : x ∈ entrySites file path i entry) : x.1.way = [] ∧ ∃ rest, x.1.spot = i :: rest := by
  rcases mem_entrySites_iff.mp h with ⟨n, port, -, -, -, rfl⟩ | ⟨items, item, j, d, -, -, -, -, rfl⟩
  · exact ⟨rfl, [], rfl⟩
  · exact ⟨rfl, [j], rfl⟩

/-- The sites of an entry are in order. -/
theorem entrySites_pairwise (file : File) (path : String) (i : Nat) (entry : Value × Value) :
    (entrySites file path i entry).Pairwise fun x y => x.1.Before y.1 := by
  unfold entrySites
  split
  · cases Port.ofNumber? _ with
    | none => exact List.Pairwise.nil
    | some port => exact List.pairwise_singleton _ _
  · rename_i items _ _
    refine (zipIdx_pairwise items).filterMap _ fun x y hlt s hs t ht => ?_
    obtain ⟨d, -, rfl⟩ := Option.map_eq_some_iff.mp hs
    obtain ⟨e, -, rfl⟩ := Option.map_eq_some_iff.mp ht
    refine .inr ⟨rfl, ?_⟩
    rw [List.cons_lt_cons_self, List.cons_lt_cons_iff]
    exact .inl hlt
  · exact List.Pairwise.nil

/-- The sites of the entries of a mapping are in order. -/
theorem entriesSites_pairwise (file : File) (path : String) (entries : List (Value × Value)) :
    (entries.zipIdx.flatMap fun (entry, i) => entrySites file path i entry).Pairwise
      fun x y => x.1.Before y.1 := by
  refine List.pairwise_flatMap.mpr ⟨fun x _ => entrySites_pairwise file path x.2 x.1, ?_⟩
  refine (zipIdx_pairwise entries).imp fun {x y} hlt s hs t ht => ?_
  obtain ⟨hsway, srest, hsspot⟩ := site_of_mem_entrySites hs
  obtain ⟨htway, trest, htspot⟩ := site_of_mem_entrySites ht
  refine .inr ⟨hsway.trans htway.symm, ?_⟩
  rw [hsspot, htspot, List.cons_lt_cons_iff]
  exact .inl hlt

/-- Sites in order stay so below a position. -/
theorem pairwise_map_below {sites : List (Site × Declaration)}
    (h : sites.Pairwise fun x y => x.1.Before y.1) (i : Nat) :
    (sites.map (Prod.map (Site.below i) id)).Pairwise fun x y => x.1.Before y.1 :=
  List.pairwise_map.mpr (h.imp fun hbefore => hbefore.below i)

/-- A site below a position comes before one below a later position. -/
theorem Site.below_before {i j : Nat} (h : i < j) (s t : Site) : (s.below i).Before (t.below j) :=
  .inl (List.cons_lt_cons_iff.mpr (.inl h))

mutual

/-- The walk finds sites in ascending order. -/
theorem walk_pairwise (file : File) (path : String) :
    ∀ v : Value, (walk file path v).Pairwise fun x y => x.1.Before y.1
  | .mapping entries => by
    rw [walk, List.pairwise_append]
    refine ⟨entriesSites_pairwise file path entries, walkEntries_pairwise file path 0 entries,
      fun x hx y hy => ?_⟩
    -- What the mapping itself declares has no way, and what stands inside it has one.
    obtain ⟨⟨entry, i⟩, -, hown⟩ := List.mem_flatMap.mp hx
    obtain ⟨j, key, child, name, z, -, -, -, -, rfl⟩ := mem_walkEntries_iff.mp hy
    refine .inl ?_
    rw [(site_of_mem_entrySites hown).1]
    exact List.nil_lt_cons _ _
  | .sequence items => by
    rw [walk]
    exact walkItems_pairwise file path 0 items
  | .null | .bool _ | .number _ | .string _ | .tagged _ _ => by simp [walk]

/-- The sites inside the values of entries are in ascending order. -/
theorem walkEntries_pairwise (file : File) (path : String) (i : Nat) :
    ∀ entries : List (Value × Value),
      (walkEntries file path i entries).Pairwise fun x y => x.1.Before y.1
  | [] => by simp [walkEntries]
  | (key, child) :: rest => by
    rw [walkEntries, List.pairwise_append]
    refine ⟨?_, walkEntries_pairwise file path (i + 1) rest, fun x hx y hy => ?_⟩
    · split
      · split_ifs
        · exact List.Pairwise.nil
        · exact pairwise_map_below (walk_pairwise file _ child) i
      · exact List.Pairwise.nil
    · obtain ⟨j, key', child', name', z, -, -, -, -, rfl⟩ := mem_walkEntries_iff.mp hy
      split at hx
      · split_ifs at hx
        · exact absurd hx List.not_mem_nil
        · obtain ⟨w, -, rfl⟩ := List.mem_map.mp hx
          exact Site.below_before (by omega) w.1 z.1
      · exact absurd hx List.not_mem_nil

/-- The sites inside items are in ascending order. -/
theorem walkItems_pairwise (file : File) (path : String) (i : Nat) :
    ∀ items : List Value, (walkItems file path i items).Pairwise fun x y => x.1.Before y.1
  | [] => by simp [walkItems]
  | item :: rest => by
    rw [walkItems, List.pairwise_append]
    refine ⟨pairwise_map_below (walk_pairwise file _ item) i,
      walkItems_pairwise file path (i + 1) rest, fun x hx y hy => ?_⟩
    obtain ⟨w, -, rfl⟩ := List.mem_map.mp hx
    obtain ⟨j, item', z, -, -, rfl⟩ := mem_walkItems_iff.mp hy
    exact Site.below_before (by omega) w.1 z.1

end

/-! ## The search -/

/-- One place declares what its value does. -/
theorem ofPlaces_singleton (file : File) (path : String) (v : Value) :
    ofPlaces file [(path, v)] = (walk file path v).map Prod.snd := by
  rw [ofPlaces_eq_flatMap_walk, List.flatMap_cons, List.flatMap_nil, List.append_nil]

/-- One place declares what is declared at the sites of its value. -/
theorem mem_ofPlaces_iff {v : Value} {d : Declaration} :
    d ∈ ofPlaces file [(path, v)] ↔ ∃ s, DeclaredAt file path v s d := by
  rw [ofPlaces_singleton, List.mem_map]
  constructor
  · rintro ⟨⟨s, d⟩, hd, rfl⟩
    exact ⟨s, mem_walk_iff.mp hd⟩
  · rintro ⟨s, hd⟩
    exact ⟨(s, d), mem_walk_iff.mpr hd, rfl⟩

/-- The search of the values of a chart ends with what the recursion over them declares. Its
declarations are those of the sites at which a port is declared, each once and in the order of the
sites. -/
theorem ofPlaces_eq_walk (file : File) (root : Value) :
    ofPlaces file [("", root)] = (walk file "" root).map Prod.snd ∧
      ((walk file "" root).Pairwise fun x y => x.1.Before y.1) ∧
      ((walk file "" root).map Prod.fst).Nodup ∧
      ∀ s d, (s, d) ∈ walk file "" root ↔ DeclaredAt file "" root s d := by
  have hordered := walk_pairwise file "" root
  refine ⟨?_, hordered, ?_, fun s d => mem_walk_iff⟩
  · rw [ofPlaces_eq_flatMap_walk, List.flatMap_cons, List.flatMap_nil, List.append_nil]
  · exact List.pairwise_map.mpr (hordered.imp Site.Before.ne)

/-- A mapping declares its own ports before those inside its other values, wherever these stand, and
nothing below a key that is no text. -/
example :
    let port (key : String) (n : Int) : Value := .mapping [(.string key, .number (.whole n))]
    let root : Value := .mapping
      [(.string "web", port "port" 83), (.string "port", .number (.whole 80)),
        (.string "ports", .sequence [port "containerPort" 81, .null, port "containerPort" 82]),
        (.number (.whole 1), port "port" 84)]
    (walk ⟨⟨"values.yaml"⟩, "values.yaml", "shop"⟩ "" root).map
        (fun found => (found.1, found.2.containerPort)) =
      [(⟨[], [1]⟩, 80), (⟨[], [2, 0]⟩, 81), (⟨[], [2, 2]⟩, 82), (⟨[0], [0]⟩, 83)] := by
  decide +kernel

end PortSurvey.Artifact.Chart
