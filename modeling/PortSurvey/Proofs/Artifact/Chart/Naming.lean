import Mathlib.Data.List.TakeWhile
import PortSurvey.Proofs.Artifact.Traversal

/-!
# The services of chart values

A declaration of chart values is named after the front of the path of its mapping, and paths are made
by joining keys with dots and positions in brackets. All that lies below a key has a path that goes on
behind the key with a dot or a bracket (`below_of_leadsTo`), so the front of the path is the front of the
key (`frontName_of_below`). That is the whole key exactly if the key has neither of the characters that
join paths; `service_eq_serviceOfKey_iff` says what follows for the services that are named.
-/

namespace PortSurvey.Artifact.Chart

open Yaml (Value)

variable {file : File} {path path' key : String}

/-! ## The front of a path -/

/-- A key is told from the rest of a path: it is not empty, and has none of the characters that join
keys and positions. -/
def Whole (key : String) : Prop :=
  key ≠ "" ∧ '.' ∉ key.toList ∧ '[' ∉ key.toList

instance (key : String) : Decidable (Whole key) :=
  inferInstanceAs (Decidable (key ≠ "" ∧ '.' ∉ key.toList ∧ '[' ∉ key.toList))

/-- The front of a path ends where a dot or a bracket begins. -/
theorem toList_frontName (path : String) :
    (frontName path).toList = path.toList.takeWhile fun c => c != '[' && c != '.' := by
  rw [frontName, String.toList_ofList, List.takeWhile_takeWhile]
  refine congrArg (path.toList.takeWhile ·) (funext fun c => ?_)
  simp [bne, beq_eq_decide]

/-- The front of a path is a whole key, if there is one. -/
theorem whole_frontName (h : frontName path ≠ "") : Whole (frontName path) := by
  have hchars : ∀ c ∈ (frontName path).toList, c ≠ '[' ∧ c ≠ '.' := by
    intro c hc
    rw [toList_frontName] at hc
    simpa using List.mem_takeWhile_imp hc
  exact ⟨h, fun hdot => (hchars '.' hdot).2 rfl, fun hbracket => (hchars '[' hbracket).1 rfl⟩

/-- A whole key is its own front. -/
theorem frontName_of_whole (h : Whole key) : frontName key = key := by
  refine String.toList_injective ?_
  rw [toList_frontName, List.takeWhile_eq_self_iff]
  intro c hc
  simpa using ⟨fun heq => h.2.2 (heq ▸ hc), fun heq => h.2.1 (heq ▸ hc)⟩

/-- A path goes on behind another one with a dot or a bracket, if it goes on. -/
def Below (path path' : String) : Prop :=
  ∃ rest, path'.toList = path.toList ++ rest ∧ ∀ c ∈ rest.head?, c = '.' ∨ c = '['

/-- A path need not go on. -/
theorem Below.refl (path : String) : Below path path :=
  ⟨[], (List.append_nil _).symm, fun _ hc => absurd hc (Option.not_mem_none _)⟩

/-- What goes on behind a path that goes on goes on behind the first one. -/
theorem Below.trans {path'' : String} (h : Below path path') (h' : Below path' path'') :
    Below path path'' := by
  obtain ⟨rest, hrest, hhead⟩ := h
  obtain ⟨more, hmore, hhead'⟩ := h'
  refine ⟨rest ++ more, by rw [hmore, hrest, List.append_assoc], fun c hc => ?_⟩
  cases rest with
  | nil => exact hhead' c hc
  | cons x rest => exact hhead c hc

/-- What goes on behind a path that is not empty is not empty. -/
theorem Below.ne_empty (h : Below path path') (hpath : path ≠ "") : path' ≠ "" := by
  rintro rfl
  obtain ⟨rest, hrest, -⟩ := h
  have hempty := List.append_eq_nil_iff.mp hrest.symm
  exact hpath (String.toList_eq_nil_iff.mp hempty.1)

/-- A key stands behind a dot, if it is below a path. -/
theorem toList_joinKey (h : path ≠ "") (name : String) :
    (joinKey path name).toList = path.toList ++ '.' :: name.toList := by
  have hne : ¬path.isEmpty = true := mt String.isEmpty_iff.mp h
  rw [joinKey, if_neg hne, String.toList_append, String.toList_append, List.append_assoc]
  rfl

/-- A position stands in brackets. -/
theorem toList_joinIndex (path : String) (i : Nat) :
    (joinIndex path i).toList = path.toList ++ '[' :: ((toString i).toList ++ [']']) := by
  rw [joinIndex, String.toList_append, String.toList_append, String.toList_append, List.append_assoc,
    List.append_assoc]
  rfl

/-- A key goes on behind a path with a dot. -/
theorem below_joinKey (h : path ≠ "") (name : String) : Below path (joinKey path name) :=
  ⟨'.' :: name.toList, toList_joinKey h name, fun _ hc => .inl (Option.some.inj hc).symm⟩

/-- A position goes on behind a path with a bracket. -/
theorem below_joinIndex (path : String) (i : Nat) : Below path (joinIndex path i) :=
  ⟨_, toList_joinIndex path i, fun _ hc => .inr (Option.some.inj hc).symm⟩

/-- All that a value at a path leads to has a path that goes on behind it. -/
theorem below_of_leadsTo {v w : Value} {way : List Nat} (h : LeadsTo path v way path' w)
    (hpath : path ≠ "") : Below path path' := by
  induction h with
  | here => exact .refl _
  | @entry path _ name _ _ _ _ _ _ _ _ _ _ ih =>
    have hkey := below_joinKey hpath name
    exact hkey.trans (ih (hkey.ne_empty hpath))
  | @item path _ _ _ _ i _ _ _ ih =>
    have hindex := below_joinIndex path i
    exact hindex.trans (ih (hindex.ne_empty hpath))

/-- The front of a path is that of all that goes on behind it. -/
theorem frontName_of_below (h : Below path path') : frontName path' = frontName path := by
  obtain ⟨rest, hrest, hhead⟩ := h
  refine String.toList_injective ?_
  have hstop : rest.takeWhile (fun c => c != '[' && c != '.') = [] := by
    cases rest with
    | nil => rfl
    | cons c rest =>
      have hc := hhead c rfl
      refine List.takeWhile_cons_of_neg ?_
      rcases hc with rfl | rfl <;> decide
  rw [toList_frontName, toList_frontName, hrest, List.takeWhile_append, hstop, List.append_nil]
  -- If the first path is its own front, the front of the other one ends where it goes on.
  split_ifs with hall
  · exact (List.IsPrefix.eq_of_length (List.takeWhile_prefix _) hall).symm
  · rfl

/-! ## The service of a path -/

/-- The names that say what a part of a chart is are whole. -/
theorem whole_of_mem_genericNames : ∀ key ∈ genericNames, Whole key := by
  decide

/-- The service of a path is that of the file or a whole key. -/
theorem serviceOf_cases (file : File) (path : String) :
    serviceOf file path = file.service ∨ Whole (serviceOf file path) := by
  unfold serviceOf
  dsimp only
  split_ifs with hfile
  · exact .inl rfl
  · refine .inr (whole_frontName fun hempty => hfile ?_)
    rw [hempty]
    rfl

/-- The service that the key at the top names: without a key and with a generic one it is that of the
file. -/
def serviceOfKey (file : File) : Option String → String
  | none => file.service
  | some key => if key ∈ genericNames then file.service else key

/-- A whole key is the service of its path, unless it is generic. -/
theorem serviceOf_of_whole (file : File) (h : Whole key) :
    serviceOf file key = serviceOfKey file (some key) := by
  have hne : key.isEmpty = false := Bool.eq_false_iff.mpr (mt String.isEmpty_iff.mp h.1)
  unfold serviceOf
  dsimp only
  rw [frontName_of_whole h, hne, Bool.false_or]
  simp [serviceOfKey]

/-! ## Declarations by the key at the top -/

/-- The key of the root below which a site lies, unless it lies in the root itself. -/
def topKey? (entries : List (Value × Value)) (s : Site) : Option String :=
  s.way.head?.bind fun i => entries[i]?.bind fun entry => entry.1.text?

/-- A declaration has the service of the path that leads to the mapping of its site. -/
theorem exists_leadsTo_of_declaredAt {v : Value} {s : Site} {d : Declaration}
    (h : DeclaredAt file path v s d) :
    ∃ path' w, LeadsTo path v s.way path' w ∧ d.service = serviceOf file path' := by
  cases h with
  | port hway => exact ⟨_, _, hway, (told_declare _ _).service_eq⟩
  | item hway _ _ _ hport => exact ⟨_, _, hway, (told_of_ofItem? hport).1.service_eq⟩

/-- What is declared in the root itself has the service of the file. What is declared below a key has
the service of the key as a path, if the key is not empty. -/
theorem service_of_declaredAt {entries : List (Value × Value)} {s : Site} {d : Declaration}
    (h : DeclaredAt file "" (.mapping entries) s d) :
    (topKey? entries s = none → d.service = file.service) ∧
      ∀ key ∈ topKey? entries s, key ≠ "" → d.service = serviceOf file key := by
  obtain ⟨path, w, hway, hservice⟩ := exists_leadsTo_of_declaredAt h
  unfold topKey?
  generalize s.way = way at hway
  rw [hservice]
  cases hway with
  | here => exact ⟨fun _ => rfl, fun key hkey => absurd hkey (Option.not_mem_none key)⟩
  | entry hentry hname _ hbelow =>
    -- At the root a key is its own path, and all below it goes on behind it.
    rw [List.head?_cons, Option.bind_some, hentry, Option.bind_some, hname]
    refine ⟨fun hnone => absurd hnone (Option.some_ne_none _), fun key hkey hne => ?_⟩
    obtain rfl := Option.mem_some_iff.mp hkey
    unfold serviceOf
    rw [frontName_of_below (below_of_leadsTo hbelow hne)]
    rfl

/-- The search declares what stands at the sites of the root. A declaration there has the service that
the key at the top names exactly if this key is whole, unless the service of the file, on which the
declaration falls back, happens to be called like the key. -/
theorem service_eq_serviceOfKey_iff (file : File) (entries : List (Value × Value)) :
    (∀ d, d ∈ ofPlaces file [("", .mapping entries)] ↔
        ∃ s, DeclaredAt file "" (.mapping entries) s d) ∧
      ∀ s d, DeclaredAt file "" (.mapping entries) s d →
        (d.service = serviceOfKey file (topKey? entries s) ↔
          ∀ key ∈ topKey? entries s, Whole key ∨ d.service = file.service ∧ file.service = key) := by
  refine ⟨fun d => mem_ofPlaces_iff, fun s d h => ?_⟩
  obtain ⟨hroot, hbelow⟩ := service_of_declaredAt h
  obtain ⟨path, -, -, hservice⟩ := exists_leadsTo_of_declaredAt h
  cases htop : topKey? entries s with
  | none => exact iff_of_true (hroot htop) fun key hkey => absurd hkey (Option.not_mem_none key)
  | some key =>
    have hone : (∀ name ∈ some key, Whole name ∨ d.service = file.service ∧ file.service = name) ↔
        Whole key ∨ d.service = file.service ∧ file.service = key :=
      ⟨fun h => h key rfl, fun h name hname => Option.mem_some_iff.mp hname ▸ h⟩
    rw [hone]
    constructor
    · intro heq
      refine or_iff_not_imp_left.mpr fun hwhole => ?_
      have hgeneric : key ∉ genericNames := mt (whole_of_mem_genericNames key) hwhole
      rw [serviceOfKey, if_neg hgeneric] at heq
      -- A service that is read off a path is whole, so it is not this key.
      rcases serviceOf_cases file path with hfile | hfront
      · exact ⟨hservice.trans hfile, (hservice.trans hfile).symm.trans heq⟩
      · rw [← hservice, heq] at hfront
        exact absurd hfront hwhole
    · rintro (hwhole | ⟨hfile, hkey⟩)
      · rw [hbelow key htop hwhole.1, serviceOf_of_whole file hwhole]
      · rw [hfile, serviceOfKey, hkey, ite_self]

/-- A port inside two keys has the service of the outer one. -/
theorem service_eq_serviceOfKey_iff_postgresql :
    let file : File := ⟨⟨"charts/shop/values.yaml"⟩, "charts/shop/values.yaml", "shop"⟩
    let primary : Value := .mapping [(.string "port", .number (.whole 5432))]
    let entries : List (Value × Value) :=
      [(.string "postgresql", .mapping [(.string "primary", primary)])]
    let s : Site := ⟨[0, 0], [0]⟩
    let d := declare file "postgresql.primary" 5432 "postgresql.primary.port"
    DeclaredAt file "" (.mapping entries) s d ∧ topKey? entries s = some "postgresql" ∧
      Whole "postgresql" ∧ d ∈ ofPlaces file [("", .mapping entries)] ∧
      d.service = serviceOfKey file (some "postgresql") := by
  intro file primary entries s d
  have hpath : joinKey (joinKey "" "postgresql") "primary" = "postgresql.primary" := by decide +kernel
  have hkeyPath : joinKey "postgresql.primary" "port" = "postgresql.primary.port" := by decide +kernel
  have hway : LeadsTo "" (.mapping entries) [0, 0] "postgresql.primary" primary :=
    hpath ▸ .entry rfl rfl rfl (.entry rfl rfl rfl .here)
  have hdeclared : DeclaredAt file "" (.mapping entries) s
      (declare file "postgresql.primary" 5432 "postgresql.primary.port") :=
    hkeyPath ▸ .port hway rfl rfl (by decide)
  have hwhole : Whole "postgresql" := by decide
  obtain ⟨hmem, hservice⟩ := service_eq_serviceOfKey_iff file entries
  refine ⟨hdeclared, rfl, hwhole, (hmem d).mpr ⟨s, hdeclared⟩, (hservice s d hdeclared).mpr ?_⟩
  exact fun key hkey => .inl (Option.mem_some_iff.mp hkey ▸ hwhole)

/-- A key with a dot is cut at it. -/
theorem not_service_eq_serviceOfKey :
    let file : File := ⟨⟨"charts/shop/values.yaml"⟩, "charts/shop/values.yaml", "shop"⟩
    let api : Value := .mapping [(.string "port", .number (.whole 80))]
    let entries : List (Value × Value) := [(.string "my.api", api)]
    let s : Site := ⟨[0], [0]⟩
    let d := declare file "my.api" 80 "my.api.port"
    DeclaredAt file "" (.mapping entries) s d ∧ d ∈ ofPlaces file [("", .mapping entries)] ∧
      topKey? entries s = some "my.api" ∧ d.service = "my" ∧
      d.service ≠ serviceOfKey file (topKey? entries s) := by
  intro file api entries s d
  have hpath : joinKey "" "my.api" = "my.api" := by decide +kernel
  have hkeyPath : joinKey "my.api" "port" = "my.api.port" := by decide +kernel
  have hway : LeadsTo "" (.mapping entries) [0] "my.api" api :=
    hpath ▸ .entry rfl rfl rfl .here
  have hdeclared : DeclaredAt file "" (.mapping entries) s
      (declare file "my.api" 80 "my.api.port") :=
    hkeyPath ▸ .port hway rfl rfl (by decide)
  exact ⟨hdeclared, mem_ofPlaces_iff.mpr ⟨s, hdeclared⟩, rfl, by decide +kernel, by decide +kernel⟩

end PortSurvey.Artifact.Chart
