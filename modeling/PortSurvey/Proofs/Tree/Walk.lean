import PortSurvey.Proofs.Path.Spelling
import PortSurvey.Proofs.Tree.Basic

/-!
# What a walk finds

A tree that is built has an entry for every directory above an entry (`Tree.Built.prefixClosed`). A
walk sees every directory that it lists from the root of the tree again. Where this changes nothing,
as with absolute paths, the walk finds the files below its root to which a way down leads that is
not too long and passes directories of no excluded name (`Tree.mem_filesBelow_iff`), each of them
once (`Tree.filesBelow_nodup`). If all paths are absolute, no path goes up and nothing lies under a
file, then only the names on the way matter (`Tree.Grounded.mem_filesBelow_iff`), and what the walk
finds below a directory that it passes is what a walk of this directory finds, in the same order
(`Tree.Grounded.filter_walk`).
-/

namespace PortSurvey.Tree

variable {t : Tree}

/-! ## The parts of the entries -/

/-- A tree has an entry with these parts. -/
def HasParts (t : Tree) (parts : List Part) : Prop :=
  ∃ e ∈ t.entries, e.1.parts = parts

/-- Something is at a path exactly if there is an entry with its parts. -/
theorem hasParts_iff_isSome {p : Path} : t.HasParts p.parts ↔ (t.at? p).isSome := by
  rw [Option.isSome_iff_ne_none, ne_eq, at?_eq_none_iff]
  simp only [HasParts, not_forall, not_not, exists_prop]

/-- Putting an entry into a tree adds its parts. -/
theorem hasParts_put {p : Path} {entry : Entry} {parts : List Part} :
    (t.put p entry).HasParts parts ↔ t.HasParts parts ∨ parts = p.parts := by
  unfold put
  split_ifs with h
  · have hthere : t.HasParts p.parts := hasParts_iff_isSome.mpr h
    have hsame : ∀ e : Path × Entry,
        (if e.1.same p then (e.1, entry) else e).1.parts = e.1.parts := fun e =>
      congrArg Path.parts (replaced_fst p entry e)
    unfold HasParts at hthere ⊢
    simp only [List.mem_map, exists_exists_and_eq_and, hsame]
    exact ⟨.inl, fun hparts => hparts.elim id fun heq => heq ▸ hthere⟩
  · unfold HasParts
    simp only [List.mem_append, List.mem_singleton, or_and_right, exists_or, exists_eq_left]
    exact or_congr_right eq_comm

/-- Making a directory adds its parts. -/
theorem hasParts_putMissing {p : Path} {parts : List Part} :
    (t.putMissing p).HasParts parts ↔ t.HasParts parts ∨ parts = p.parts := by
  unfold putMissing
  split_ifs with h
  · have hthere : t.HasParts p.parts := hasParts_iff_isSome.mpr h
    exact ⟨.inl, fun hparts => hparts.elim id fun heq => heq ▸ hthere⟩
  · exact hasParts_put

/-- Making directories down a path adds the parts of all of them. -/
theorem hasParts_putDirectories (p : Path) {down parts : List Part} (hdown : down <+: p.parts) :
    (t.putDirectories down).HasParts parts ↔
      t.HasParts parts ∨ parts ≠ [] ∧ parts <+: down := by
  have hstep : ∀ n, (Path.ofParts (down.take (n + 1))).parts = down.take (n + 1) := by
    intro n
    rw [List.prefix_iff_eq_take.mp hdown, List.take_take]
    exact p.ofParts_take_parts _
  have hrun : ∀ count, ((List.range count).foldl
      (fun s n => s.putMissing (Path.ofParts (down.take (n + 1)))) t).HasParts parts ↔
        t.HasParts parts ∨ ∃ n < count, parts = down.take (n + 1) := by
    intro count
    induction count with
    | zero => simp
    | succ count ih =>
      rw [List.range_succ, List.foldl_concat, hasParts_putMissing, ih, hstep, or_assoc]
      refine or_congr_right ⟨?_, ?_⟩
      · rintro (⟨n, hn, hparts⟩ | hparts)
        · exact ⟨n, by omega, hparts⟩
        · exact ⟨count, by omega, hparts⟩
      · rintro ⟨n, hn, hparts⟩
        rcases Nat.lt_succ_iff_lt_or_eq.mp hn with hlt | rfl
        · exact .inl ⟨n, hlt, hparts⟩
        · exact .inr hparts
  unfold putDirectories
  rw [hrun]
  refine or_congr_right ⟨?_, ?_⟩
  · rintro ⟨n, hn, rfl⟩
    refine ⟨fun hnil => ?_, List.take_prefix _ _⟩
    have hlength := congrArg List.length hnil
    rw [List.length_take, List.length_nil] at hlength
    omega
  · rintro ⟨hne, hprefix⟩
    have hpos := List.length_pos_iff.mpr hne
    have hle := hprefix.length_le
    refine ⟨parts.length - 1, by omega, ?_⟩
    rw [Nat.sub_add_cancel hpos]
    exact List.prefix_iff_eq_take.mp hprefix

/-- The directory around an entry is above it. -/
theorem parentParts?_prefix (p : Path) : p.parentParts?.getD [] <+: p.parts := by
  unfold Path.parentParts?
  split
  · exact List.nil_prefix
  · exact List.nil_prefix
  · exact List.dropLast_prefix _

/-- What is above an entry is the directory around it or above that. -/
theorem prefix_parentParts? {p : Path} {above : List Part} (hne : above ≠ [])
    (h : above <+: p.parts) (hp : above ≠ p.parts) : above <+: p.parentParts?.getD [] := by
  rcases List.eq_nil_or_concat p.parts with hnil | ⟨before, last, hlast⟩
  · exact absurd (List.prefix_nil.mp (hnil ▸ h)) hne
  · rw [List.concat_eq_append] at hlast
    rw [hlast] at h hp
    have hbefore : above <+: before := (List.prefix_concat_iff.mp h).resolve_left hp
    have hplain : last.Plain :=
      Path.plain_of_mem_way hlast (fun hnil => hne (List.prefix_nil.mp (hnil ▸ hbefore))) last
        (List.mem_singleton_self last)
    have hparent : p.parentParts? = some before :=
      Path.parentParts?_eq_some_iff.mpr ⟨last, by rintro rfl; exact hplain, hlast⟩
    rwa [hparent]

/-! ## Closed trees -/

/-- All that is above an entry of a tree is in the tree. -/
def PrefixClosed (t : Tree) : Prop :=
  ∀ ⦃parts above : List Part⦄, t.HasParts parts → above ≠ [] → above <+: parts → t.HasParts above

/-- A tree to which the directories above an entry are added stays closed. -/
theorem PrefixClosed.putDirectories (h : t.PrefixClosed) {p : Path} {down : List Part}
    (hdown : down <+: p.parts) : (t.putDirectories down).PrefixClosed := by
  intro parts above hparts hne hprefix
  rw [hasParts_putDirectories p hdown] at hparts ⊢
  rcases hparts with hold | ⟨-, hnew⟩
  · exact .inl (h hold hne hprefix)
  · exact .inr ⟨hne, hprefix.trans hnew⟩

/-- A tree to which a file is added stays closed. -/
theorem PrefixClosed.addFile (h : t.PrefixClosed) (p : Path) (content : String) :
    (t.addFile p content).PrefixClosed := by
  intro parts above hparts hne hprefix
  have hdown := parentParts?_prefix (t.resolve p)
  unfold Tree.addFile at hparts ⊢
  dsimp only at hparts ⊢
  rw [hasParts_put] at hparts ⊢
  rcases hparts with hold | rfl
  · exact .inl (h.putDirectories hdown hold hne hprefix)
  · by_cases hp : above = (t.resolve p).parts
    · exact .inr hp
    · refine .inl ((hasParts_putDirectories _ hdown).mpr (.inr ⟨hne, ?_⟩))
      exact prefix_parentParts? hne hprefix hp

/-- Built trees are closed. -/
theorem Built.prefixClosed (h : t.Built) : t.PrefixClosed := by
  induction h with
  | empty root =>
    rintro parts above ⟨e, he, -⟩
    exact absurd he List.not_mem_nil
  | addFile p content _ ih => exact ih.addFile p content
  | addDirectory p _ ih => exact ih.putDirectories (List.prefix_refl _)

/-! ## The way down -/

/-- The entries of a directory are those with its parts and one more. -/
theorem mem_children_iff {p : Path} {e : Path × Entry} :
    e ∈ t.children p ↔ t.find? p = some .directory ∧ e ∈ t.entries ∧
      ∃ last, last ≠ .root ∧ e.1.parts = (t.resolve p).parts ++ [last] := by
  by_cases hp : t.find? p = some .directory
  · unfold children
    rw [hp]
    simp only [List.mem_filter, beq_iff_eq, Path.parentParts?_eq_some_iff, true_and]
  · rw [children_of_not_directory hp]
    exact iff_of_false List.not_mem_nil fun h => hp h.1

/-- A walk passes down a way: each of its parts leads to a directory whose name is not excluded. -/
def Passes (t : Tree) (excluded : List String) : List Part → List Part → Prop
  | _, [] => True
  | above, part :: way =>
    (∃ q, (q, .directory) ∈ t.entries ∧ q.parts = above ++ [part] ∧ q.name?.getD "" ∉ excluded) ∧
      t.Passes excluded (above ++ [part]) way

/-- A file is within reach of a walk: it lies below the root of the walk, no more than `depth`
levels down, and all that is between is directories whose names are not excluded. -/
def Reaches (t : Tree) (excluded : List String) (depth : Nat) (r p : Path) : Prop :=
  ∃ way name content, (p, .file content) ∈ t.entries ∧
    p.parts = (t.resolve r).parts ++ way ++ [name] ∧ way.length < depth ∧
    t.Passes excluded (t.resolve r).parts way

/-- An absolute path is seen alike from the root of every tree. -/
theorem resolve_of_isAbsolute {p : Path} (h : p.isAbsolute) : t.resolve p = p :=
  Path.join_of_isAbsolute h t.root

/-- A path stands for itself if it leads nowhere else when it is seen from the root of the tree. -/
def Fixes (t : Tree) (p : Path) : Prop :=
  (t.resolve p).parts = p.parts

/-- An absolute path stands for itself. -/
theorem fixes_of_isAbsolute {p : Path} (h : p.isAbsolute) : t.Fixes p :=
  congrArg Path.parts (resolve_of_isAbsolute h)

/-- What lies below a path that stands for itself does so too. -/
theorem Fixes.of_prefix {p q : Path} (hp : t.Fixes p) (h : p.parts <+: q.parts) : t.Fixes q :=
  Path.join_parts_of_prefix hp h

/-- A walk is settled if the place to which its root leads stands for itself. -/
structure Settled (t : Tree) (r : Path) : Prop where
  /-- The place stands for itself. -/
  fixes : t.Fixes (t.resolve r)
  /-- It is a place. -/
  ne_nil : (t.resolve r).parts ≠ []

/-- A walk of an absolute path is settled. -/
theorem settled_of_isAbsolute {r : Path} (h : r.isAbsolute) : t.Settled r := by
  constructor
  · rw [resolve_of_isAbsolute h]
    exact fixes_of_isAbsolute h
  · rw [resolve_of_isAbsolute h]
    exact Path.parts_ne_nil h

namespace Settled

variable {r q : Path} {way : List Part}
variable (hr : t.Settled r) (hq : q.parts = (t.resolve r).parts ++ way)

include hr hq

/-- What lies below the root of a settled walk stands for itself. -/
theorem fixes_of_append : t.Fixes q :=
  hr.fixes.of_prefix ⟨way, hq.symm⟩

/-- A walk of what lies below the root of a settled walk is settled. -/
theorem of_append : t.Settled q := by
  have hfix := hr.fixes_of_append hq
  refine ⟨hfix.of_prefix ⟨[], (List.append_nil _).trans hfix.symm⟩, ?_⟩
  rw [hfix, hq]
  exact List.append_ne_nil_of_left_ne_nil hr.ne_nil way

end Settled

/-- What lies directly below a path is not the root. -/
theorem ne_root_of_below {q : Path} {above : List Part} {part : Part}
    (hq : q.parts = above ++ [part]) (habove : above ≠ []) : part ≠ .root := by
  rintro rfl
  exact Path.plain_of_mem_way hq habove .root List.mem_cons_self

/-- A settled walk finds the files that are within its reach. -/
theorem mem_filesBelow_iff (ht : t.Proper) {excluded : List String} {depth : Nat} {r p : Path}
    (hr : t.Settled r) :
    p ∈ t.filesBelow excluded depth r ↔
      t.find? r = some .directory ∧ t.Reaches excluded depth r p := by
  induction depth generalizing r with
  | zero =>
    refine iff_of_false List.not_mem_nil ?_
    rintro ⟨-, way, name, content, -, -, hlength, -⟩
    exact absurd hlength (Nat.not_lt_zero _)
  | succ depth ih =>
    rw [filesBelow_succ, List.mem_flatMap]
    constructor
    · rintro ⟨⟨q, entry⟩, hchild, hp⟩
      obtain ⟨hdirectory, hq, last, -, hparts⟩ := mem_children_iff.mp hchild
      refine ⟨hdirectory, ?_⟩
      cases entry with
      | file content =>
        rw [filesAt, List.mem_singleton] at hp
        subst hp
        refine ⟨[], last, content, hq, ?_, Nat.succ_pos depth, trivial⟩
        rw [List.append_nil]
        exact hparts
      | directory =>
        rw [filesAt] at hp
        split_ifs at hp with hname
        · exact absurd hp List.not_mem_nil
        · obtain ⟨-, way, name, content, hfile, hway, hlength, hpasses⟩ :=
            (ih (hr.of_append hparts)).mp hp
          have hfix : (t.resolve q).parts = q.parts := hr.fixes_of_append hparts
          rw [hfix, hparts] at hway hpasses
          refine ⟨last :: way, name, content, hfile, ?_, Nat.succ_lt_succ hlength, ?_⟩
          · rw [hway, List.append_assoc _ [last]]
            rfl
          · exact ⟨⟨q, hq, hparts, hname⟩, hpasses⟩
    · rintro ⟨hdirectory, way, name, content, hfile, hparts, hlength, hpasses⟩
      cases way with
      | nil =>
        rw [List.append_nil] at hparts
        have hname := ne_root_of_below hparts hr.ne_nil
        exact ⟨(p, .file content), mem_children_iff.mpr ⟨hdirectory, hfile, name, hname, hparts⟩,
          List.mem_singleton_self p⟩
      | cons part way =>
        obtain ⟨⟨d, hd, hdparts, hname⟩, hpasses⟩ := hpasses
        have hpart := ne_root_of_below hdparts hr.ne_nil
        have hfix : (t.resolve d).parts = d.parts := hr.fixes_of_append hdparts
        refine ⟨(d, .directory), mem_children_iff.mpr ⟨hdirectory, hd, part, hpart, hdparts⟩, ?_⟩
        rw [filesAt, if_neg hname, ih (hr.of_append hdparts)]
        refine ⟨ht.at?_eq_some_iff.mpr ⟨d, hd, hfix.symm⟩, way, name, content, hfile, ?_,
          Nat.lt_of_succ_lt_succ hlength, ?_⟩
        · rw [hparts, hfix, hdparts, List.append_assoc _ [part]]
          rfl
        · rwa [hfix, hdparts]

/-- The files that a settled walk finds at an entry of its root are below it or are the entry
itself. -/
theorem prefix_of_mem_filesAt (ht : t.Proper) {excluded : List String} {depth : Nat} {r : Path}
    (hr : t.Settled r) {e : Path × Entry} (he : e ∈ t.children r) {p : Path}
    (h : p ∈ t.filesAt excluded depth e) : e.1.parts <+: p.parts := by
  obtain ⟨-, -, last, -, hlast⟩ := mem_children_iff.mp he
  obtain ⟨q, content | _⟩ := e
  · obtain rfl := List.mem_singleton.mp h
    exact List.prefix_refl _
  · rw [filesAt] at h
    split_ifs at h
    · exact absurd h List.not_mem_nil
    · obtain ⟨-, way, name, content, -, hparts, -⟩ :=
        (mem_filesBelow_iff ht (hr.of_append hlast)).mp h
      have hfix : (t.resolve q).parts = q.parts := hr.fixes_of_append hlast
      rw [hfix, List.append_assoc] at hparts
      exact ⟨way ++ [name], hparts.symm⟩

/-- The entries of a directory have different parts. -/
theorem Proper.children_pairwise (ht : t.Proper) (p : Path) :
    (t.children p).Pairwise fun e e' => e.1.parts ≠ e'.1.parts := by
  have hentries : t.entries.Pairwise fun e e' => e.1.parts ≠ e'.1.parts := List.pairwise_map.mp ht
  unfold children
  split
  · exact hentries.filter _
  · exact .nil

/-- A settled walk finds every file once. -/
theorem filesBelow_nodup (ht : t.Proper) (excluded : List String) (depth : Nat) {r : Path}
    (hr : t.Settled r) : (t.filesBelow excluded depth r).Nodup := by
  induction depth generalizing r with
  | zero => exact List.nodup_nil
  | succ depth ih =>
    rw [filesBelow_succ, List.nodup_flatMap]
    constructor
    · rintro ⟨q, content | _⟩ he
      · exact List.nodup_singleton q
      · obtain ⟨-, -, last, -, hlast⟩ := mem_children_iff.mp he
        rw [filesAt]
        split_ifs
        · exact List.nodup_nil
        · exact ih (hr.of_append hlast)
    · -- A file below two entries of one directory would tell their parts to be the same.
      refine (ht.children_pairwise r).imp_of_mem fun {e e'} he he' hne p hp hp' => hne ?_
      obtain ⟨-, -, last, -, hparts⟩ := mem_children_iff.mp he
      obtain ⟨-, -, last', -, hparts'⟩ := mem_children_iff.mp he'
      have hprefix := prefix_of_mem_filesAt ht hr he hp
      have hprefix' := prefix_of_mem_filesAt ht hr he' hp'
      have hlength : e.1.parts.length = e'.1.parts.length := by
        rw [hparts, hparts', List.length_append, List.length_append]
        rfl
      exact (List.prefix_of_prefix_length_le hprefix hprefix' hlength.le).eq_of_length hlength

/-! ## Grounded trees -/

/-- A tree such as can stand on a disk. -/
structure Grounded (t : Tree) : Prop where
  /-- All paths are absolute. -/
  isAbsolute : ∀ e ∈ t.entries, e.1.isAbsolute
  /-- No path goes up. -/
  not_up : ∀ e ∈ t.entries, Part.up ∉ e.1.parts
  /-- Nothing lies under a file. -/
  directory : ∀ e ∈ t.entries, ∀ e' ∈ t.entries,
    e.1.parts <+: e'.1.parts → e.1.parts ≠ e'.1.parts → e.2 = .directory

namespace Grounded

/-- All parts of an entry that come after others are names. -/
theorem exists_name (hg : t.Grounded) {e : Path × Entry} (he : e ∈ t.entries)
    {above way : List Part} (hparts : e.1.parts = above ++ way) (habove : above ≠ [])
    {part : Part} (hpart : part ∈ way) : ∃ s, part = .name s := by
  have hplain := Path.plain_of_mem_way hparts habove part hpart
  cases part with
  | root => exact hplain.elim
  | here => exact hplain.elim
  | up => exact absurd (hparts ▸ List.mem_append_right above hpart) (hg.not_up e he)
  | name s => exact ⟨s, rfl⟩

/-- What is above an entry is a directory. -/
theorem exists_directory (hg : t.Grounded) (hclosed : t.PrefixClosed) {e : Path × Entry}
    (he : e ∈ t.entries) {above way : List Part} (hparts : e.1.parts = above ++ way)
    (habove : above ≠ []) (hway : way ≠ []) :
    ∃ q, (q, .directory) ∈ t.entries ∧ q.parts = above := by
  have hprefix : above <+: e.1.parts := ⟨way, hparts.symm⟩
  obtain ⟨⟨q, entry⟩, hq, rfl⟩ := hclosed ⟨e, he, rfl⟩ habove hprefix
  have hne : q.parts ≠ e.1.parts := by
    rw [hparts]
    exact fun heq => hway (List.self_eq_append_right.mp heq)
  have hentry : entry = .directory := hg.directory _ hq e he hprefix hne
  exact ⟨q, hentry ▸ hq, rfl⟩

/-- A walk passes down to an entry if no name on the way is excluded. -/
theorem passes_iff (hg : t.Grounded) (hclosed : t.PrefixClosed) {e : Path × Entry}
    (he : e ∈ t.entries) {excluded : List String} {above way rest : List Part}
    (hparts : e.1.parts = above ++ way ++ rest) (habove : above ≠ []) (hrest : rest ≠ []) :
    t.Passes excluded above way ↔ ∀ s ∈ excluded, Part.name s ∉ way := by
  induction way generalizing above with
  | nil => exact iff_of_true trivial fun _ _ => List.not_mem_nil
  | cons part way ih =>
    have hdown : e.1.parts = above ++ part :: (way ++ rest) :=
      hparts.trans (List.append_assoc ..)
    obtain ⟨s, rfl⟩ := hg.exists_name he hdown habove List.mem_cons_self
    have hnext : above ++ [.name s] ≠ [] := List.append_ne_nil_of_left_ne_nil habove _
    have hstep : e.1.parts = (above ++ [.name s]) ++ (way ++ rest) :=
      hdown.trans (List.append_cons ..)
    have hname : ∀ {q : Path}, q.parts = above ++ [.name s] → q.name?.getD "" = s := by
      intro q hq
      unfold Path.name?
      rw [hq, List.getLast?_concat]
      rfl
    obtain ⟨q, hq, hqparts⟩ := hg.exists_directory hclosed he hstep hnext
      (List.append_ne_nil_of_right_ne_nil way hrest)
    have hdirectory : (∃ q, (q, .directory) ∈ t.entries ∧ q.parts = above ++ [.name s] ∧
        q.name?.getD "" ∉ excluded) ↔ s ∉ excluded := by
      constructor
      · rintro ⟨q, -, hqparts, hexcluded⟩
        rwa [hname hqparts] at hexcluded
      · exact fun hs => ⟨q, hq, hqparts, (hname hqparts).symm ▸ hs⟩
    rw [Passes, hdirectory, ih (hstep.trans (List.append_assoc ..).symm) hnext]
    simp only [List.mem_cons, Part.name.injEq, not_or]
    exact ⟨fun ⟨hs, hmore⟩ x hx => ⟨fun heq => hs (heq ▸ hx), hmore x hx⟩,
      fun hall => ⟨fun hs => (hall s hs).1 rfl, fun x hx => (hall x hx).2⟩⟩

/-- A walk finds the files below its root that are near enough and lie in no directory of an
excluded name. -/
theorem mem_filesBelow_iff (hg : t.Grounded) (ht : t.Built) {excluded : List String}
    {depth : Nat} {r p : Path} (hr : r.isAbsolute) :
    p ∈ t.filesBelow excluded depth r ↔ t.find? r = some .directory ∧
      ∃ way name content, (p, .file content) ∈ t.entries ∧
        p.parts = r.parts ++ way ++ [name] ∧ way.length < depth ∧
        ∀ s ∈ excluded, Part.name s ∉ way := by
  rw [Tree.mem_filesBelow_iff ht.proper (settled_of_isAbsolute hr), Reaches,
    resolve_of_isAbsolute hr]
  refine and_congr_right fun _ => exists_congr fun way => exists_congr fun name =>
    exists_congr fun content => and_congr_right fun hfile => and_congr_right fun hparts =>
    and_congr_right fun _ => ?_
  exact hg.passes_iff ht.prefixClosed hfile hparts (Path.parts_ne_nil hr) (List.cons_ne_nil name [])

variable {r d : Path} {way : List Part}

/-- What is above a directory is a directory. -/
theorem find?_above (hg : t.Grounded) (ht : t.Built) (hr : r.isAbsolute) (hd : d.isAbsolute)
    (hdirectory : t.find? d = some .directory) (hway : d.below? r = some way) :
    t.find? r = some .directory := by
  unfold find? at hdirectory ⊢
  rw [resolve_of_isAbsolute hd] at hdirectory
  rw [resolve_of_isAbsolute hr]
  obtain ⟨q, hq, hparts⟩ := exists_mem_of_at? hdirectory
  rw [Path.below?_eq_some_iff.mp hway] at hparts
  refine ht.proper.at?_eq_some_iff.mpr ?_
  rcases eq_or_ne way [] with rfl | hne
  · exact ⟨q, hq, hparts.trans (List.append_nil _)⟩
  · exact hg.exists_directory ht.prefixClosed hq hparts (Path.parts_ne_nil hr) hne

/-- The files that a walk finds below a directory that it passes are those that a walk of this
directory finds. -/
theorem mem_filesBelow_and_below?_iff (hg : t.Grounded) (ht : t.Built) (hr : r.isAbsolute)
    (hd : d.isAbsolute) (hdirectory : t.find? d = some .directory) (hway : d.below? r = some way)
    {excluded : List String} (hopen : ∀ s ∈ excluded, Part.name s ∉ way) {depth : Nat} {p : Path} :
    p ∈ t.filesBelow excluded depth r ∧ (p.below? d).isSome ↔
      p ∈ t.filesBelow excluded (depth - way.length) d := by
  have hparts := Path.below?_eq_some_iff.mp hway
  rw [hg.mem_filesBelow_iff ht hr, hg.mem_filesBelow_iff ht hd]
  constructor
  · rintro ⟨⟨-, long, name, content, hfile, hp, hlength, hnames⟩, hbelow⟩
    obtain ⟨rest, hrest⟩ := Option.isSome_iff_exists.mp hbelow
    rw [Path.below?_eq_some_iff] at hrest
    refine ⟨hdirectory, ?_⟩
    rcases List.eq_nil_or_concat rest with rfl | ⟨short, last, rfl⟩
    · -- The file would be the directory.
      obtain ⟨q, hq, hsame⟩ := exists_mem_of_at? hdirectory
      rw [resolve_of_isAbsolute hd] at hsame
      rw [List.append_nil] at hrest
      have heq := List.inj_on_of_nodup_map ht.proper hfile hq (hrest.trans hsame.symm)
      cases heq
    · rw [List.concat_eq_append, hp, hparts, List.append_assoc, List.append_assoc,
        List.append_cancel_left_eq, ← List.append_assoc, List.append_singleton_inj] at hrest
      obtain ⟨rfl, rfl⟩ := hrest
      refine ⟨short, name, content, hfile, ?_, ?_, ?_⟩
      · rw [hp, hparts, ← List.append_assoc r.parts]
      · rw [List.length_append] at hlength
        omega
      · exact fun s hs hmem => hnames s hs (List.mem_append_right way hmem)
  · rintro ⟨-, short, name, content, hfile, hp, hlength, hnames⟩
    refine ⟨⟨hg.find?_above ht hr hd hdirectory hway, way ++ short, name, content, hfile,
      ?_, ?_, ?_⟩, ?_⟩
    · rw [hp, hparts, ← List.append_assoc r.parts]
    · rw [List.length_append]
      omega
    · intro s hs hmem
      exact (List.mem_append.mp hmem).elim (hopen s hs) (hnames s hs)
    · refine Option.isSome_iff_exists.mpr ⟨short ++ [name], Path.below?_eq_some_iff.mpr ?_⟩
      rw [hp, List.append_assoc]

/-- What a walk finds below a directory that it passes is what a walk of this directory finds, in
the same order. -/
theorem filter_walk (hg : t.Grounded) (ht : t.Built) (hr : r.isAbsolute) (hd : d.isAbsolute)
    (hdirectory : t.find? d = some .directory) (hway : d.below? r = some way)
    {excluded : List String} (hopen : ∀ s ∈ excluded, Part.name s ∉ way) (depth : Nat) :
    (t.walk r depth excluded).filter (fun p => (p.below? d).isSome) =
      t.walk d (depth - way.length) excluded := by
  refine ht.proper.walk_eq_of_perm ?_ ((t.walk_pairwise ..).filter _)
  refine (List.perm_ext_iff_of_nodup ?_ ?_).mpr fun p => ?_
  · have hwalk := (t.walk_perm r depth excluded).nodup_iff.mpr
      (filesBelow_nodup ht.proper excluded depth (settled_of_isAbsolute hr))
    exact hwalk.filter _
  · exact filesBelow_nodup ht.proper _ _ (settled_of_isAbsolute hd)
  · rw [List.mem_filter, (t.walk_perm ..).mem_iff]
    exact hg.mem_filesBelow_and_below?_iff ht hr hd hdirectory hway hopen

end Grounded

end PortSurvey.Tree
