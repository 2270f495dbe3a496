import Mathlib.Data.List.Dedup
import PortSurvey.Proofs.Settings.Layering

/-!
# Which overrides of a layer are kept

The keys of a layer are distinct, but two of them may denote one port: a number and the text of that
number, or two texts of which one has blanks, a plus sign or zeros before its digits. The overrides
are put in one by one in the order of their keys, so the last one of a port prevails
(`find?_addOverrides`), and there are as many in the end as there are ports (`keys_addOverrides`).

`Layer.retained_iff` concludes that settings have all overrides that their layer gives exactly if
its keys denote pairwise distinct ports. Nothing refuses a layer whose keys do not.
-/

namespace PortSurvey.Settings

/-- Whether a key denotes a port. -/
def PortKey.denotes (key : PortKey) (port : Nat) : Bool :=
  key.port.toOption == some port

/-- The ports that the keys of a layer denote, in the order of the keys. -/
def Layer.ports (l : Layer) : List Nat :=
  l.overrides.filterMap (·.1.port.toOption)

/-- Settings retain the overrides of a layer: they have each of them and no more. -/
structure Layer.Retained (l : Layer) (s : Settings) : Prop where
  /-- Every override that is given is that of the port which its key denotes. -/
  found : ∀ e ∈ l.overrides, ∃ port, e.1.port = .ok port ∧ s.overrides.find? port = some e.2
  /-- There are as many overrides as are given. -/
  length : s.overrides.length = l.overrides.length

/-- A key denotes the port that is read from it. -/
theorem PortKey.denotes_iff {key : PortKey} {port : Nat} :
    key.denotes port = true ↔ key.port = .ok port := by
  rw [PortKey.denotes, beq_iff_eq, Except.toOption_eq_some_iff]

section Overrides

variable {known o : Dict Nat Override} {given : Dict PortKey Override}

/-- Overrides that can be put in have keys that denote ports. -/
theorem exists_port_of_addOverrides (h : addOverrides known given = .ok o) :
    ∀ e ∈ given, ∃ port, e.1.port = .ok port := by
  induction given generalizing known with
  | nil => exact fun _ he => absurd he List.not_mem_nil
  | cons e rest ih =>
    obtain ⟨port, hport, hrest⟩ := addOverrides_cons_eq_ok_iff.mp h
    exact List.forall_mem_cons.mpr ⟨⟨port, hport⟩, ih hrest⟩

/-- The override of a port is that of the last key that denotes it, and if none does it is the one
that was known. -/
theorem find?_addOverrides (h : addOverrides known given = .ok o) (port : Nat) : o.find? port =
    ((given.filter (·.1.denotes port)).getLast?.map (·.2)).or (known.find? port) := by
  -- An override that is put in counts as known for those that follow it.
  induction given generalizing known with
  | nil =>
    obtain rfl : known = o := by cases h; rfl
    rfl
  | cons e rest ih =>
    obtain ⟨key, value⟩ := e
    obtain ⟨port', hkey, hrest⟩ := addOverrides_cons_eq_ok_iff.mp h
    rw [ih hrest, Dict.find?_insert]
    by_cases hsame : port' = port
    · have hfilter : ((key, value) :: rest).filter (·.1.denotes port) =
          (key, value) :: rest.filter (·.1.denotes port) :=
        List.filter_cons_of_pos (PortKey.denotes_iff.mpr (hsame ▸ hkey))
      rw [if_pos hsame, hfilter, List.getLast?_cons]
      cases (rest.filter (·.1.denotes port)).getLast? <;> rfl
    · have hfilter : ((key, value) :: rest).filter (·.1.denotes port) =
          rest.filter (·.1.denotes port) :=
        List.filter_cons_of_neg fun hdenotes =>
          hsame (Except.ok.inj (hkey.symm.trans (PortKey.denotes_iff.mp hdenotes)))
      rw [if_neg hsame, hfilter]

/-- The ports with overrides are those that had one and those that keys denote, each once. -/
theorem keys_addOverrides (h : addOverrides known given = .ok o)
    (hknown : known.keys.Pairwise (· < ·)) : o.keys.Pairwise (· < ·) ∧
      ∀ port, port ∈ o.keys ↔ port ∈ known.keys ∨ ∃ e ∈ given, e.1.port = .ok port := by
  induction given generalizing known with
  | nil =>
    obtain rfl : known = o := by cases h; rfl
    exact ⟨hknown, fun port => (or_iff_left fun ⟨_, he, _⟩ => absurd he List.not_mem_nil).symm⟩
  | cons e rest ih =>
    obtain ⟨key, value⟩ := e
    obtain ⟨port', hkey, hrest⟩ := addOverrides_cons_eq_ok_iff.mp h
    have hinserted : (known.insert port' value).keys = insertOnce port' known.keys :=
      Dict.keys_insert known port' value
    obtain ⟨hsorted, hmem⟩ := ih hrest (hinserted ▸ Dict.pairwise_insertOnce hknown)
    have hdenoted : ∀ port, key.port = .ok port ↔ port = port' := fun port =>
      ⟨fun hp => Except.ok.inj (hp.symm.trans hkey), fun hp => hp ▸ hkey⟩
    refine ⟨hsorted, fun port => ?_⟩
    rw [hmem, hinserted, Dict.mem_insertOnce, ← hdenoted, List.exists_mem_cons_iff, or_assoc,
      or_left_comm]

end Overrides

/-! ## Layers -/

variable {l : Layer} {s : Settings}

/-- No environment begins with overrides. -/
theorem preset_overrides (e : Environment) : (preset e).overrides = [] := by
  cases e <;> rfl

/-- The overrides of the settings that a layer makes are those that it gives, put in one by one. -/
theorem Layer.addOverrides_of_settings (h : l.settings = .ok s) :
    addOverrides [] l.overrides = .ok s.overrides := by
  obtain ⟨t, overrides, -, hoverrides, rfl⟩ := Layer.settings_eq_ok_iff.mp h
  rw [preset_overrides] at hoverrides
  exact hoverrides

/-- A port is denoted if some key denotes it. -/
theorem Layer.mem_ports_iff {port : Nat} :
    port ∈ l.ports ↔ ∃ e ∈ l.overrides, e.1.port = .ok port := by
  unfold Layer.ports
  rw [List.mem_filterMap]
  simp only [Except.toOption_eq_some_iff]

/-- Where every key denotes a port, there are as many ports as keys. -/
theorem Layer.map_ports (h : l.settings = .ok s) :
    l.overrides.map (·.1.port) = l.ports.map .ok := by
  have hports := exists_port_of_addOverrides (Layer.addOverrides_of_settings h)
  unfold Layer.ports
  generalize l.overrides = given at hports
  induction given with
  | nil => rfl
  | cons e rest ih =>
    obtain ⟨⟨port, hport⟩, hrest⟩ := List.forall_mem_cons.mp hports
    have hread : (e :: rest).filterMap (·.1.port.toOption) =
        port :: rest.filterMap (·.1.port.toOption) :=
      List.filterMap_cons_some (Except.toOption_eq_some_iff.mpr hport)
    rw [hread, List.map_cons, List.map_cons, ih hrest, hport]

/-- Settings have one override for each port that the keys of their layer denote. -/
theorem Layer.length_overrides (h : l.settings = .ok s) :
    s.overrides.length = l.ports.dedup.length := by
  obtain ⟨hsorted, hmem⟩ := keys_addOverrides (Layer.addOverrides_of_settings h) .nil
  have hsame : ∀ port, port ∈ s.overrides.keys ↔ port ∈ l.ports.dedup := by
    intro port
    rw [hmem, List.mem_dedup, Layer.mem_ports_iff]
    exact or_iff_right List.not_mem_nil
  have hperm : s.overrides.keys.Perm l.ports.dedup :=
    (List.perm_ext_iff_of_nodup hsorted.nodup l.ports.nodup_dedup).mpr hsame
  rw [← hperm.length_eq, Dict.keys, List.length_map]

/-- An override whose port no other key denotes is found under it. -/
theorem Layer.find?_of_nodup (h : l.settings = .ok s) (hports : l.ports.Nodup)
    {e : PortKey × Override} (he : e ∈ l.overrides) {port : Nat} (hport : e.1.port = .ok port) :
    s.overrides.find? port = some e.2 := by
  have hnodup : (l.overrides.map (·.1.port)).Nodup := by
    rw [Layer.map_ports h]
    exact hports.map fun _ _ => Except.ok.inj
  have hdenotes : e.1.denotes port = true := PortKey.denotes_iff.mpr hport
  -- The filter leaves the override itself and nothing else.
  obtain ⟨last, hlast⟩ : ∃ last, (l.overrides.filter (·.1.denotes port)).getLast? = some last := by
    rw [← Option.isSome_iff_exists, List.getLast?_isSome]
    exact List.ne_nil_of_mem (List.mem_filter.mpr ⟨he, hdenotes⟩)
  obtain ⟨hmem, hlastDenotes⟩ := List.mem_filter.mp (List.mem_of_getLast? hlast)
  have hsame : last = e := List.inj_on_of_nodup_map hnodup hmem he
    ((PortKey.denotes_iff.mp hlastDenotes).trans hport.symm)
  rw [find?_addOverrides (Layer.addOverrides_of_settings h), hlast, hsame]
  rfl

/-- In the settings that a layer makes, the override of a port is that of the last key that denotes
it, and there are as many overrides as there are such ports. So all that the layer gives are
retained exactly if its keys denote pairwise distinct ports. -/
theorem Layer.retained_iff (h : l.settings = .ok s) :
    (∀ port, s.overrides.find? port =
        (l.overrides.filter (·.1.denotes port)).getLast?.map (·.2)) ∧
      s.overrides.length = l.ports.dedup.length ∧ (l.Retained s ↔ l.ports.Nodup) := by
  have hlength := Layer.length_overrides h
  have hports : l.overrides.length = l.ports.length := by
    have hmap := congrArg List.length (Layer.map_ports h)
    rwa [List.length_map, List.length_map] at hmap
  refine ⟨fun port => ?_, hlength, fun hretained => ?_, fun hnodup => ⟨fun e he => ?_, ?_⟩⟩
  · rw [find?_addOverrides (Layer.addOverrides_of_settings h)]
    exact Option.or_none
  · -- No port is lost when each is listed once.
    have hall : l.ports.dedup.length = l.ports.length := by
      rw [← hlength, hretained.length, hports]
    rw [← List.dedup_eq_self]
    exact l.ports.dedup_sublist.eq_of_length hall
  · obtain ⟨port, hport⟩ := exists_port_of_addOverrides (Layer.addOverrides_of_settings h) e he
    exact ⟨port, hport, Layer.find?_of_nodup h hnodup he hport⟩
  · rw [hlength, hnodup.dedup, hports]

/-- A port as a number and another one as a text with a sign and a zero are both retained. -/
theorem Layer.retained_admin :
    let web : Override := ⟨"HTTP", "web", none, false, none, none, none, none⟩
    let admin : Override := ⟨"HTTP", "admin", none, false, some "password", none, none, none⟩
    let l : Layer := { Layer.empty with
      overrides := [(.number 8080, web), (.text " +08081", admin)] }
    let s := { preset .production with overrides := [(8080, web), (8081, admin)] }
    l.settings = .ok s ∧ l.ports.Nodup ∧ l.Retained s := by
  intro web admin l s
  have hs : l.settings = .ok s := Except.toOption_eq_some_iff.mp (by decide +kernel)
  have hports : l.ports.Nodup := by decide +kernel
  exact ⟨hs, hports, (Layer.retained_iff hs).2.2.mpr hports⟩

/-- A file gives overrides of `web` under the number 8080 and of `api` under the text of that
number. The keys differ and the file is accepted, but the settings know `api` only. -/
theorem Layer.not_retained :
    let text := "port_overrides:\n  8080:\n    protocol: HTTP\n    service_name: web\n" ++
      "  \"8080\":\n    protocol: gRPC\n    service_name: api\n"
    let web : Override := ⟨"HTTP", "web", none, false, none, none, none, none⟩
    let api : Override := ⟨"gRPC", "api", none, false, none, none, none, none⟩
    let l : Layer := { Layer.empty with
      overrides := [(.number 8080, web), (.text "8080", api)] }
    let s := { preset .production with overrides := [(8080, api)] }
    Layer.ofFile ⟨"o.yaml"⟩ text = .ok l ∧ l.overrides.keys.Nodup ∧ l.settings = .ok s ∧
      Settings.ofFile ⟨"o.yaml"⟩ (some text) = .ok s ∧ ¬l.Retained s := by
  intro text web api l s
  have hl : Layer.ofFile ⟨"o.yaml"⟩ text = .ok l :=
    Except.toOption_eq_some_iff.mp (by decide +kernel)
  have hs : l.settings = .ok s := Except.toOption_eq_some_iff.mp (by decide +kernel)
  have hfile : Settings.ofFile ⟨"o.yaml"⟩ (some text) = .ok s :=
    Except.toOption_eq_some_iff.mp (by decide +kernel)
  exact ⟨hl, by decide, hs, hfile, fun h => absurd h.length (by decide)⟩

end PortSurvey.Settings
