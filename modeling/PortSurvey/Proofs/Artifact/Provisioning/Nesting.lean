import PortSurvey.Proofs.Artifact.Provisioning.Assignment
import PortSurvey.Proofs.Artifact.Provisioning.Header

/-!
# Resources with nested blocks of ports

A resource is written as a header and nested blocks with white space of any kind between the words
(`Resource`), and a nested block as one or two settings between braces (`PortBlock`). What the searches
for assignments and for headers find in such a text is found piece by piece: the settings in the
blocks (`PortBlock.yields`, `Resource.body_yields`), and the header at the front
(`Resource.opening_yields`). A piece that ends with a brace and has no equals sign yields no assignment
(`yields_nothing_of_brace`), and a word that does not begin like a header yields none
(`yields_nothing_of_word`).
-/

namespace PortSurvey.Artifact.Provisioning

open Text

/-! ## Pieces without assignments -/

/-- Before what is assigned there are an attribute, blanks and an equals sign. -/
theorem exists_equals_of_assignmentAt? {prev : Option Char} {s : List Char}
    {x : (String × List Char) × Nat} (h : assignmentAt? prev s = some x) :
    ∃ front rest, s = front ++ '=' :: rest ∧
      ∀ c ∈ front, isWordChar c = true ∨ isBlank c = true := by
  unfold assignmentAt? at h
  split_ifs at h
  obtain ⟨name, hname, hfound⟩ := List.exists_of_findSome?_eq_some h
  obtain ⟨rest, hrest, hassigned⟩ := Option.bind_eq_some_iff.mp hfound
  obtain ⟨found, hfound, -⟩ := Option.map_eq_some_iff.mp hassigned
  unfold assigned? at hfound
  split at hfound
  · rename_i behind hequals
    refine ⟨name.toList ++ rest.takeWhile isBlank, behind, ?_, fun c hc => ?_⟩
    · rw [List.append_assoc, ← hequals]
      unfold trimStartChars
      rw [List.takeWhile_append_dropWhile]
      exact eq_of_afterWord? hrest
    · rcases List.mem_append.mp hc with hword | hblank
      · exact .inl (List.all_eq_true.mp (all_isWordChar_of_mem_settingNames name hname) c hword)
      · exact .inr (List.mem_takeWhile_imp hblank)
  · cases hfound

/-- A brace is neither part of a word nor blank. -/
theorem not_word_of_brace : ∀ c ∈ ['\x7b', '\x7d'],
    isWordChar c = false ∧ isBlank c = false := by
  decide

/-- A piece without an equals sign that ends with a brace has no assignment. -/
theorem yields_nothing_of_brace {piece : List Char} (hequals : '=' ∉ piece) {brace : Char}
    (hlast : piece.getLast? = some brace) (hbrace : brace ∈ ['\x7b', '\x7d']) :
    Recogniser.Yields assignmentAt? piece [] := by
  refine Recogniser.YieldsBetween.of_quiet fun prev rest _ _ k hk => ?_
  rw [Option.eq_none_iff_forall_ne_some]
  intro x hx
  obtain ⟨front, behind, hs, hfront⟩ := exists_equals_of_assignmentAt? hx
  obtain ⟨hword, hblank⟩ := not_word_of_brace brace hbrace
  have hmem : brace ∈ piece.drop k := by
    refine List.mem_of_getLast? ?_
    rw [List.getLast?_drop, if_neg (Nat.not_le.mpr hk), hlast]
  have hnotFront : brace ∉ front := by
    intro hin
    rcases hfront brace hin with h | h
    · exact Bool.false_ne_true (hword.symm.trans h)
    · exact Bool.false_ne_true (hblank.symm.trans h)
  rcases List.append_eq_append_iff.mp hs with ⟨tail, hfront', -⟩ | ⟨tail, hdrop, htail⟩
  · exact hnotFront (hfront' ▸ List.mem_append_left tail hmem)
  · -- What is left of the piece would begin with the equals sign.
    cases tail with
    | nil =>
      rw [List.append_nil] at hdrop
      exact hnotFront (hdrop ▸ hmem)
    | cons c tail =>
      have hc : '=' = c := (List.cons.inj htail).1
      refine hequals (List.mem_of_mem_drop (i := k) ?_)
      rw [hdrop, hc]
      exact List.mem_append_right _ List.mem_cons_self

/-- No assignment begins with a blank. -/
theorem assignmentAt?_of_isBlank {prev : Option Char} {c : Char} (hc : isBlank c = true)
    (rest : List Char) : assignmentAt? prev (c :: rest) = none := by
  rw [Option.eq_none_iff_forall_ne_some]
  rintro ⟨x, n⟩ hx
  obtain ⟨-, name, hname, joints, after, hs, -⟩ := eq_of_assignmentAt? hx
  obtain ⟨hne, hjoint⟩ := head?_of_mem_settingNames name hname
  have hhead := congrArg List.head? hs
  rw [List.head?_append_of_ne_nil _ hne, List.head?_cons] at hhead
  rw [← hhead, Option.any_some] at hjoint
  unfold isJoint at hjoint
  rw [hc] at hjoint
  cases hjoint

/-! ## Pieces without headers -/

/-- Whether a character may begin a word that is not the name of a block whose header is looked
for. -/
def BeginsOther (c : Char) : Prop :=
  isBlank c = false ∧ ∀ name ∈ headerNames, name.toList.head? ≠ some c

/-- No name of a block is empty. -/
theorem ne_nil_of_mem_headerNames : ∀ name ∈ headerNames, name.toList ≠ [] := by
  decide

/-- No header begins in a word that does not begin like one, nor in the blanks before it. -/
theorem headerAt?_of_word {blanks word : List Char} (hblanks : ∀ c ∈ blanks, isBlank c = true)
    (hfeed : '\n' ∉ word) {c : Char} (hhead : word.head? = some c) (hc : BeginsOther c) {k : Nat}
    (hk : k < (blanks ++ word).length) (prev : Option Char) (rest : List Char) :
    headerAt? (((blanks ++ word).take k).getLast?.or prev) ((blanks ++ word).drop k ++ rest) =
      none := by
  obtain ⟨more, rfl⟩ : ∃ more, word = c :: more := by
    cases word with
    | nil => cases hhead
    | cons x more => exact ⟨more, by rw [Option.some.inj hhead]⟩
  rcases Nat.lt_or_ge blanks.length k with hlow | hle
  · -- Inside the word no line begins.
    have hne : (c :: more).take (k - blanks.length) ≠ [] := by
      rw [ne_eq, List.take_eq_nil_iff, not_or]
      exact ⟨by omega, List.cons_ne_nil c more⟩
    rw [List.take_append, List.take_of_length_le hlow.le, List.getLast?_append_of_ne_nil _ hne,
      List.getLast?_eq_some_getLast hne, Option.some_or]
    exact headerAt?_of_prev (fun hlast => hfeed (hlast ▸
      List.mem_of_mem_take (List.getLast_mem hne))) _
  · have hfront : trimStartChars ((blanks ++ c :: more).drop k ++ rest) = c :: (more ++ rest) := by
      rw [List.drop_append_of_le_length hle, List.append_assoc, List.cons_append]
      exact trimStartChars_append_cons
        (fun x hx => hblanks x (List.mem_of_mem_drop hx)) hc.1 _
    refine headerAt?_of_plain ?_ _
    rw [hfront]
    refine (other_of_afterWord?_eq_none fun name hname => ?_).plain
    rw [Option.eq_none_iff_forall_ne_some]
    intro behind hbehind
    have hstart := congrArg List.head? (eq_of_afterWord? hbehind)
    rw [List.head?_cons, List.head?_append_of_ne_nil _ (ne_nil_of_mem_headerNames name hname)]
      at hstart
    exact hc.2 name hname hstart.symm

/-- A word that does not begin like a header yields none, with the blanks before it. -/
theorem yields_nothing_of_word {blanks word : List Char} (hblanks : ∀ c ∈ blanks, isBlank c = true)
    (hfeed : '\n' ∉ word) {c : Char} (hhead : word.head? = some c) (hc : BeginsOther c) :
    Recogniser.Yields headerAt? (blanks ++ word) [] :=
  Recogniser.YieldsBetween.of_quiet fun prev rest _ _ _ hk =>
    headerAt?_of_word hblanks hfeed hhead hc hk prev rest

/-! ## White space and settings -/

/-- White space between the words of a description. -/
structure Gap where
  /-- The characters. -/
  chars : List Char
  /-- The characters are blanks, tabs and ends of lines. -/
  white : ∀ c ∈ chars, c ∈ [' ', '\t', '\n', '\r']

/-- White space is blank, and ends words and numbers. -/
theorem isBlank_of_white : ∀ c ∈ [' ', '\t', '\n', '\r'],
    isBlank c = true ∧ isWordChar c = false ∧ isDecimal c = false ∧ c ≠ '"' := by
  decide

/-- A word may begin behind a character. -/
def MayBegin (prev : Option Char) : Prop :=
  prev.any isWordChar = false

/-- A number ends before a text, and so do the quotes around it. -/
def EndsNumber (rest : List Char) : Prop :=
  ∀ c ∈ rest.head?, isDecimal c = false ∧ c ≠ '"'

namespace Gap

variable (g : Gap)

/-- A gap is blank. -/
theorem isBlank_of_mem : ∀ c ∈ g.chars, isBlank c = true :=
  fun c hc => (isBlank_of_white c (g.white c hc)).1

/-- A gap has no character other than white space. -/
theorem notMem {c : Char} (hc : c ∉ [' ', '\t', '\n', '\r']) : c ∉ g.chars :=
  fun hmem => hc (g.white c hmem)

/-- A gap has no assignment. -/
theorem yields_nothing : Recogniser.Yields assignmentAt? g.chars [] := by
  refine Recogniser.YieldsBetween.of_quiet fun prev rest _ _ k hk => ?_
  rw [List.drop_eq_getElem_cons hk, List.cons_append]
  exact assignmentAt?_of_isBlank (g.isBlank_of_mem _ (List.getElem_mem hk)) _

/-- Behind a gap a word may begin, if there is a gap or if it may begin before. -/
theorem mayBegin {prev : Option Char} (hprev : g.chars = [] → MayBegin prev) :
    MayBegin (g.chars.getLast?.or prev) := by
  cases hlast : g.chars.getLast? with
  | none => exact hprev (List.getLast?_eq_none_iff.mp hlast)
  | some c => exact (isBlank_of_white c (g.white c (List.mem_of_getLast? hlast))).2.1

/-- A number ends before a gap, if there is a gap or if it ends before what stands behind. -/
theorem endsNumber {rest : List Char} (hrest : g.chars = [] → EndsNumber rest) :
    EndsNumber (g.chars ++ rest) := by
  intro c hc
  cases hchars : g.chars with
  | nil =>
    rw [hchars] at hc
    exact hrest hchars c hc
  | cons x more =>
    rw [hchars] at hc
    refine (isBlank_of_white c (g.white c ?_)).2.2
    rw [hchars, ← Option.some.inj hc]
    exact List.mem_cons_self

end Gap

/-- Five digits at most that are assigned, with neither a digit nor a quote behind, are recognised
with all of the assignment. -/
theorem Assignment.assignmentAt?_of_few (a : Assignment) (hfew : a.digits.length ≤ 5)
    {prev : Option Char} (hprev : MayBegin prev) {back : List Char} (hback : EndsNumber back) :
    assignmentAt? prev (a.text ++ back) = some ((a.setting, a.digits), a.text.length) := by
  have htold : a.Told back := by
    refine .inr ?_
    unfold Assignment.quote
    cases a.quoted with
    | true => exact (by decide : isDecimal '"' = false)
    | false =>
      rw [if_neg Bool.false_ne_true, List.nil_append]
      cases hhead : back.head? with
      | none => rfl
      | some c => exact (hback c hhead).1
  obtain ⟨after, hdigits⟩ := a.digits?_append back
  rw [Assignment.taken_of_told htold, List.take_of_length_le hfew] at hdigits
  have hafter : after = a.quote ++ back :=
    (List.append_cancel_left (eq_of_digits? hdigits).1).symm
  have hquote : afterQuote (a.quote ++ back) = back := by
    unfold Assignment.quote
    cases a.quoted with
    | true => rfl
    | false =>
      rw [if_neg Bool.false_ne_true, List.nil_append]
      unfold afterQuote
      split
      · exact absurd rfl (hback '"' rfl).2
      · rfl
  rw [Assignment.assignmentAt?_of_digits? hprev hdigits, hafter, hquote, List.length_append,
    Nat.add_sub_cancel]

/-- A sign that is in no setting and no gap, nor one of the braces around them. -/
structure Foreign (c : Char) : Prop where
  /-- It is not in a word. -/
  word : isWordChar c = false
  /-- It is not blank. -/
  blank : isBlank c = false
  /-- It is no digit. -/
  digit : c.isDigit = false
  /-- It is no other sign of settings or blocks. -/
  sign : ∀ x ∈ ['=', '"', '\x7b', '\x7d'], c ≠ x

/-- The signs of pairs and of comments are not those of settings. -/
theorem foreign_of_mem : ∀ c ∈ [':', '#', '/'], Foreign c :=
  fun c hc => ⟨by revert c; decide, by revert c; decide, by revert c; decide, by revert c; decide⟩

/-- There is no foreign sign in an assignment. -/
theorem Assignment.notMem_text (a : Assignment) {c : Char} (hc : Foreign c) : c ∉ a.text := by
  have hquote : c ∉ a.quote := by
    unfold Assignment.quote
    split_ifs
    · exact fun hmem => hc.sign '"' (by decide) (List.mem_singleton.mp hmem)
    · exact List.not_mem_nil
  have hsetting : c ∉ a.setting.toList := fun hmem => by
    have hword := List.all_eq_true.mp (all_isWordChar_of_mem_settingNames _ a.setting_mem) c hmem
    exact Bool.false_ne_true (hc.word.symm.trans hword)
  have hequals : c ≠ '=' := hc.sign '=' (by decide)
  have hbefore : c ∉ a.before :=
    fun hmem => Bool.false_ne_true (hc.blank.symm.trans (a.before_blank c hmem))
  have hbehind : c ∉ a.behind :=
    fun hmem => Bool.false_ne_true (hc.blank.symm.trans (a.behind_blank c hmem))
  have hdigits : c ∉ a.digits :=
    fun hmem => Bool.false_ne_true (hc.digit.symm.trans (a.digits_isDigit c hmem))
  unfold Assignment.text
  simp [hquote, hsetting, hequals, hbefore, hbehind, hdigits]

/-- There is no foreign sign in a gap. -/
theorem Gap.notMem_of_foreign (g : Gap) {c : Char} (hc : Foreign c) : c ∉ g.chars :=
  fun hmem => Bool.false_ne_true (hc.blank.symm.trans (g.isBlank_of_mem c hmem))

/-- The port that digits make which are found, with the attribute. -/
def portOf? (x : String × List Char) : Option (String × Nat) :=
  (Port.read? x.2).map (x.1, ·)

/-- An assignment of a port to an attribute, by five digits at most. -/
structure PortSetting (name : String) where
  /-- The assignment. -/
  assignment : Assignment
  /-- It is one to the attribute. -/
  setting_eq : assignment.setting = name
  /-- There are five digits at most. -/
  few : assignment.digits.length ≤ 5
  /-- The digits make a port. -/
  valid : Port.Valid assignment.number

namespace PortSetting

variable {name : String} (p : PortSetting name)

/-- A setting as it is written. -/
def text : List Char :=
  p.assignment.text

/-- The port that is set. -/
def port : Nat :=
  p.assignment.number

/-- What is found of a setting. -/
def found : String × List Char :=
  (name, p.assignment.digits)

/-- What is found of a setting makes its port. -/
theorem portOf?_found : portOf? p.found = some (name, p.port) := by
  have hread : Port.read? p.assignment.digits = some p.port := by
    rw [Port.read?_of_isDigit p.assignment.digits_ne p.assignment.digits_isDigit]
    exact Port.ofNumber?_of_valid p.valid
  exact congrArg (Option.map _) hread

/-- A setting is found where a word may begin and a number ends. -/
theorem yields : Recogniser.YieldsBetween assignmentAt? MayBegin EndsNumber p.text [p.found] := by
  intro offset prev rest hprev hrest
  have haccepts := p.assignment.assignmentAt?_of_few p.few hprev hrest
  rw [p.setting_eq] at haccepts
  have hpos : 0 < p.text.length := by
    unfold text Assignment.text
    simp only [List.length_append, List.length_cons]
    omega
  refine ⟨[(offset, p.found)], ?_, rfl, fun x hx => ?_⟩
  · exact occurrencesFrom_of_accepts rest haccepts hpos (Nat.le_refl _)
      fun k hlow hlt => absurd hlt (Nat.not_lt.mpr hlow)
  · rw [List.mem_singleton.mp hx]
    exact ⟨Nat.le_refl _, Nat.lt_add_of_pos_right hpos⟩

/-- A setting is found behind a gap. -/
theorem yields_gap (g : Gap) : Recogniser.YieldsBetween assignmentAt?
    (fun prev => g.chars = [] → MayBegin prev) EndsNumber (g.chars ++ p.text) [p.found] :=
  (g.yields_nothing.between _ fun _ => True).append p.yields (fun _ => g.mayBegin) fun _ _ => trivial

/-- No attribute that speaks of ports begins like a header. -/
theorem beginsOther_of_mem_settingNames : ∀ name ∈ settingNames,
    '\n' ∉ name.toList ∧ ∃ c ∈ name.toList.head?, BeginsOther c := by
  unfold BeginsOther
  decide

/-- No name of a block begins with a digit. -/
theorem isDigit_head?_of_mem_headerNames :
    ∀ name ∈ headerNames, ∀ c ∈ name.toList.head?, c.isDigit = false := by
  decide

/-- A digit does not begin a header. -/
theorem beginsOther_of_isDigit {c : Char} (hc : c.isDigit = true) : BeginsOther c := by
  refine ⟨isBlank_of_isDigit hc, fun name hname hhead => ?_⟩
  have hnone := isDigit_head?_of_mem_headerNames name hname c hhead
  exact Bool.false_ne_true (hnone.symm.trans hc)

/-- A quote does not begin a header. -/
theorem beginsOther_quote : BeginsOther '"' := by
  unfold BeginsOther
  decide

/-- What is assigned has no header, nor have the blanks before it. -/
theorem yields_no_header_value (a : Assignment) : Recogniser.Yields headerAt?
    (a.behind ++ (a.quote ++ (a.digits ++ a.quote))) [] := by
  obtain ⟨d, more, hdigits, hd⟩ := a.exists_head_digits
  have hfeed : '\n' ∉ a.quote ++ (a.digits ++ a.quote) := by
    have hquote : '\n' ∉ a.quote := by
      unfold Assignment.quote
      split_ifs <;> decide
    have hnone : '\n' ∉ a.digits := fun hmem => absurd (a.digits_isDigit _ hmem) (by decide)
    simp only [List.mem_append, hquote, hnone, or_self, not_false_eq_true]
  have hhead : ∃ c, (a.quote ++ (a.digits ++ a.quote)).head? = some c ∧ BeginsOther c := by
    unfold Assignment.quote
    split_ifs
    · exact ⟨'"', rfl, beginsOther_quote⟩
    · exact ⟨d, by rw [hdigits]; rfl, beginsOther_of_isDigit hd⟩
  obtain ⟨c, hc, hother⟩ := hhead
  exact yields_nothing_of_word a.behind_blank hfeed hc hother

/-- A setting has no header, nor has the gap before it. -/
theorem yields_no_header (g : Gap) : Recogniser.Yields headerAt? (g.chars ++ p.text) [] := by
  obtain ⟨hfeed, c, hhead, hc⟩ := beginsOther_of_mem_settingNames _ p.assignment.setting_mem
  have hname := yields_nothing_of_word g.isBlank_of_mem hfeed hhead hc
  have hequals : Recogniser.Yields headerAt? (p.assignment.before ++ ['=']) [] :=
    yields_nothing_of_word p.assignment.before_blank (by decide) rfl (by unfold BeginsOther; decide)
  have hall := hname.append (hequals.append (yields_no_header_value p.assignment))
  unfold text Assignment.text
  simpa only [List.append_assoc, List.singleton_append, List.append_nil] using hall

end PortSetting

/-! ## Nested blocks of ports -/

/-- What a nested block of ports holds: a port inside the container, and a port outside at most,
before it or behind it. -/
inductive Held
  /-- There is no port outside. -/
  | internal (i : PortSetting "internal")
  /-- The port inside comes first. -/
  | internalFirst (i : PortSetting "internal") (between : Gap) (apart : between.chars ≠ [])
    (e : PortSetting "external")
  /-- The port outside comes first. -/
  | externalFirst (e : PortSetting "external") (between : Gap) (apart : between.chars ≠ [])
    (i : PortSetting "internal")

namespace Held

/-- The settings as they are written. -/
def text : Held → List Char
  | .internal i => i.text
  | .internalFirst i between _ e => i.text ++ (between.chars ++ e.text)
  | .externalFirst e between _ i => e.text ++ (between.chars ++ i.text)

/-- What is found of the settings. -/
def found : Held → List (String × List Char)
  | .internal i => [i.found]
  | .internalFirst i _ _ e => [i.found, e.found]
  | .externalFirst e _ _ i => [e.found, i.found]

/-- The port inside the container. -/
def port : Held → Nat
  | .internal i | .internalFirst i _ _ _ | .externalFirst _ _ _ i => i.port

/-- The port outside the container, if there is one. -/
def host? : Held → Option Nat
  | .internal _ => none
  | .internalFirst _ _ _ e | .externalFirst e _ _ _ => some e.port

/-- The ports that are set, in the order in which they are written, each with its attribute. -/
def ports : Held → List (String × Nat)
  | .internal i => [("internal", i.port)]
  | .internalFirst i _ _ e => [("internal", i.port), ("external", e.port)]
  | .externalFirst e _ _ i => [("external", e.port), ("internal", i.port)]

/-- What is found of the settings makes the ports that are set. -/
theorem filterMap_found (h : Held) : h.found.filterMap portOf? = h.ports := by
  cases h with
  | internal i => exact List.filterMap_cons_some i.portOf?_found
  | internalFirst i _ _ e =>
    exact (List.filterMap_cons_some i.portOf?_found).trans
      (congrArg _ (List.filterMap_cons_some e.portOf?_found))
  | externalFirst e _ _ i =>
    exact (List.filterMap_cons_some e.portOf?_found).trans
      (congrArg _ (List.filterMap_cons_some i.portOf?_found))

/-- One port that is set is one inside the container. -/
theorem filter_container_ports (h : Held) :
    ((h.ports.filter fun x => !isHostSetting x.1).map Prod.snd) = [h.port] := by
  cases h <;> rfl

/-- The other is the one outside, if there is one. -/
theorem filter_host_ports (h : Held) :
    ((h.ports.filter fun x => isHostSetting x.1).map Prod.snd) = h.host?.toList := by
  cases h <;> rfl

/-- Two settings with a gap between them are found behind a gap. -/
theorem yields_two {first second : String} (p : PortSetting first) (q : PortSetting second)
    {between : Gap} (hapart : between.chars ≠ []) (g : Gap) :
    Recogniser.YieldsBetween assignmentAt? (fun prev => g.chars = [] → MayBegin prev) EndsNumber
      (g.chars ++ (p.text ++ (between.chars ++ q.text))) [p.found, q.found] := by
  rw [← List.append_assoc]
  refine (p.yields_gap g).append (q.yields_gap between) (fun _ _ hnil => absurd hnil hapart)
    fun rest _ => ?_
  rw [List.append_assoc]
  exact between.endsNumber fun hnil => absurd hnil hapart

/-- What a block holds is found behind a gap. -/
theorem yields (h : Held) (g : Gap) : Recogniser.YieldsBetween assignmentAt?
    (fun prev => g.chars = [] → MayBegin prev) EndsNumber (g.chars ++ h.text) h.found := by
  cases h with
  | internal i => exact i.yields_gap g
  | internalFirst i between hapart e => exact yields_two i e hapart g
  | externalFirst e between hapart i => exact yields_two e i hapart g

/-- What a block holds has no header, nor has the gap before it. -/
theorem yields_no_header (h : Held) (g : Gap) :
    Recogniser.Yields headerAt? (g.chars ++ h.text) [] := by
  cases h with
  | internal i => exact i.yields_no_header g
  | internalFirst i between hapart e =>
    unfold text
    rw [← List.append_assoc]
    exact (i.yields_no_header g).append (e.yields_no_header between)
  | externalFirst e between hapart i =>
    unfold text
    rw [← List.append_assoc]
    exact (e.yields_no_header g).append (i.yields_no_header between)

/-- There is no foreign sign in what a block holds. -/
theorem notMem_text (h : Held) {c : Char} (hc : Foreign c) : c ∉ h.text := by
  have hsetting : ∀ {name : String} (p : PortSetting name), c ∉ p.text :=
    fun p => p.assignment.notMem_text hc
  cases h with
  | internal i => exact hsetting i
  | internalFirst i between _ e | externalFirst e between _ i =>
    unfold text
    simp [hsetting, between.notMem_of_foreign hc]

end Held

/-- A nested block of ports. -/
structure PortBlock where
  /-- The white space before its name. -/
  lead : Gap
  /-- The white space before its brace. -/
  brace : Gap
  /-- The white space before what it holds. -/
  first : Gap
  /-- What it holds. -/
  held : Held
  /-- The white space before its closing brace. -/
  close : Gap

namespace PortBlock

variable (b : PortBlock)

/-- The name of a block, up to its brace. -/
def opening : List Char :=
  b.lead.chars ++ ("ports".toList ++ (b.brace.chars ++ ['\x7b']))

/-- The closing brace of a block. -/
def closing : List Char :=
  b.close.chars ++ ['\x7d']

/-- A block as it is written. -/
def text : List Char :=
  b.opening ++ ((b.first.chars ++ b.held.text) ++ b.closing)

/-- A block ends its name with a brace. -/
theorem getLast?_opening : b.opening.getLast? = some '\x7b' := by
  unfold opening
  rw [← List.append_assoc, ← List.append_assoc, List.getLast?_concat]

/-- The search for assignments finds what a block holds. -/
theorem yields : Recogniser.Yields assignmentAt? b.text b.held.found := by
  have hopening : Recogniser.Yields assignmentAt? b.opening [] := by
    refine yields_nothing_of_brace ?_ b.getLast?_opening (by decide)
    unfold opening
    have hlead := b.lead.notMem (c := '=') (by decide)
    have hbrace := b.brace.notMem (c := '=') (by decide)
    simp [hlead, hbrace]
  have hclosing : Recogniser.Yields assignmentAt? b.closing [] := by
    refine yields_nothing_of_brace ?_ List.getLast?_concat (by decide)
    unfold closing
    have hclose := b.close.notMem (c := '=') (by decide)
    simp [hclose]
  have hend : ∀ rest, EndsNumber (b.closing ++ rest) := by
    intro rest
    unfold closing
    rw [List.append_assoc]
    refine b.close.endsNumber fun _ c hc => ?_
    rw [← Option.some.inj hc]
    decide
  have hbegin : ∀ prev, MayBegin (b.opening.getLast?.or prev) := by
    intro prev
    rw [b.getLast?_opening, Option.some_or]
    unfold MayBegin
    decide
  have hheld : Recogniser.YieldsBetween assignmentAt? _ (fun _ => True)
      ((b.first.chars ++ b.held.text) ++ b.closing) (b.held.found ++ []) :=
    (b.held.yields b.first).append hclosing (fun _ _ => trivial) fun rest _ => hend rest
  rw [List.append_nil] at hheld
  exact (hopening.between (fun _ => True) fun _ => True).append hheld
    (fun prev _ _ => hbegin prev) fun _ _ => trivial

/-- A block has no header. -/
theorem yields_no_header : Recogniser.Yields headerAt? b.text [] := by
  have hname : Recogniser.Yields headerAt? (b.lead.chars ++ "ports".toList) [] :=
    yields_nothing_of_word b.lead.isBlank_of_mem (by decide) rfl (by unfold BeginsOther; decide)
  have hbrace : Recogniser.Yields headerAt? (b.brace.chars ++ ['\x7b']) [] :=
    yields_nothing_of_word b.brace.isBlank_of_mem (by decide) rfl (by unfold BeginsOther; decide)
  have hclosing : Recogniser.Yields headerAt? b.closing [] :=
    yields_nothing_of_word b.close.isBlank_of_mem (by decide) rfl (by unfold BeginsOther; decide)
  have hall := (hname.append hbrace).append ((b.held.yields_no_header b.first).append hclosing)
  unfold text opening
  simpa only [List.append_assoc, List.append_nil] using hall

/-- There is no foreign sign in a block. -/
theorem notMem_text {c : Char} (hc : Foreign c) : c ∉ b.text := by
  have hgap : ∀ g : Gap, c ∉ g.chars := fun g => g.notMem_of_foreign hc
  have hname : c ∉ "ports".toList := fun hmem => by
    have hword : ∀ x ∈ "ports".toList, isWordChar x = true := by decide
    exact Bool.false_ne_true (hc.word.symm.trans (hword c hmem))
  have hopen : c ≠ '\x7b' := hc.sign '\x7b' (by decide)
  have hclose : c ≠ '\x7d' := hc.sign '\x7d' (by decide)
  unfold text opening closing
  simp only [List.mem_append, List.mem_singleton, hgap, hname, hopen, hclose,
    b.held.notMem_text hc, or_self, not_false_eq_true]

end PortBlock

/-! ## Resources -/

namespace Header

variable (h : Header)

/-- A header up to its last label. -/
def named : List Char :=
  h.kind.toList ++ (h.first.text ++ h.more)

/-- Behind the labels of a header there is nothing but its brace. -/
theorem line_eq : h.line = h.named ++ (h.close ++ ['\x7b']) := by
  unfold line named
  simp only [List.append_assoc]

/-- No name of a block begins with a blank. -/
theorem isBlank_head?_of_mem_headerNames :
    ∀ name ∈ headerNames, ∃ c ∈ name.toList.head?, isBlank c = false := by
  decide

/-- Blanks before a header are taken off. -/
theorem trimStartChars_line {blanks : List Char} (hblanks : ∀ c ∈ blanks, isBlank c = true)
    (rest : List Char) : trimStartChars (blanks ++ (h.line ++ rest)) = h.line ++ rest := by
  obtain ⟨c, hhead, hc⟩ := isBlank_head?_of_mem_headerNames h.kind h.kind_mem
  rw [trimStartChars_append hblanks]
  refine trimStartChars_eq_self fun x hx => ?_
  unfold line at hx
  rw [List.append_assoc, List.head?_append, hhead, Option.some_or] at hx
  rwa [← Option.some.inj hx]

/-- A header is found where a line begins, with the blanks before it. -/
theorem yields {blanks : List Char} (hblanks : ∀ c ∈ blanks, isBlank c = true) :
    Recogniser.YieldsBetween headerAt? BeginsLine (fun _ => True) (blanks ++ h.line)
      [(h.type, h.label)] := by
  have hnamed : Recogniser.YieldsBetween headerAt? BeginsLine
      (fun rest => ∃ s, rest = h.close ++ ['\x7b'] ++ s) (blanks ++ h.named)
      [(h.type, h.label)] := by
    rintro offset prev rest hprev ⟨s, rfl⟩
    have hs : trimStartChars (blanks ++ h.named ++ (h.close ++ ['\x7b'] ++ s)) = h.line ++ s := by
      rw [← h.trimStartChars_line hblanks s, h.line_eq]
      simp only [List.append_assoc]
    have haccepts := h.headerAt?_line hprev hs
    rw [List.length_append, Nat.add_sub_cancel] at haccepts
    have hpos : 0 < (blanks ++ h.named).length := by
      unfold named Label.text
      simp only [List.length_append, List.length_cons]
      omega
    refine ⟨[(offset, h.type, h.label)], ?_, rfl, fun x hx => ?_⟩
    · exact occurrencesFrom_of_accepts _ haccepts hpos (Nat.le_refl _)
        fun k hlow hlt => absurd hlt (Nat.not_lt.mpr hlow)
    · rw [List.mem_singleton.mp hx]
      exact ⟨Nat.le_refl _, Nat.lt_add_of_pos_right hpos⟩
  have hclose : Recogniser.Yields headerAt? (h.close ++ ['\x7b']) [] :=
    yields_nothing_of_word h.close_blank (by decide) rfl (by unfold BeginsOther; decide)
  rw [h.line_eq, ← List.append_assoc]
  exact hnamed.append hclose (fun _ _ => trivial) fun rest _ => ⟨rest, rfl⟩

end Header

/-- No header begins up to the first line feed of a text that does not begin a line. -/
theorem yields_nothing_of_lineFeed {front : List Char} (hfront : '\n' ∉ front) :
    Recogniser.YieldsBetween headerAt? (fun prev => ¬BeginsLine prev) (fun _ => True)
      (front ++ ['\n']) [] := by
  refine Recogniser.YieldsBetween.of_quiet fun prev rest hprev _ k hk => ?_
  have hle : k ≤ front.length := by
    rw [List.length_append, List.length_singleton] at hk
    omega
  rw [List.take_append_of_le_length hle]
  cases hlast : (front.take k).getLast? with
  | some c =>
    rw [Option.some_or]
    exact headerAt?_of_prev (fun hfeed => hfront (hfeed ▸
      List.mem_of_mem_take (List.mem_of_getLast? hlast))) _
  | none =>
    rw [Option.none_or]
    exact headerAt?_of_not_beginsLine hprev _

/-- A labelled block that holds nothing but nested blocks of ports. -/
structure Resource where
  /-- The white space before its header. -/
  lead : Gap
  /-- Its header. -/
  header : Header
  /-- What it holds. -/
  blocks : List PortBlock
  /-- The white space before its closing brace. -/
  close : Gap
  /-- The header has no sign that speaks of values, of pairs or of comments. -/
  header_plain : ∀ c ∈ header.line, c ∉ ['=', ':', '#', '/']

namespace Resource

variable (r : Resource)

/-- The header of a resource with the white space before it. -/
def opening : List Char :=
  r.lead.chars ++ r.header.line

/-- A resource behind its header. -/
def body : List Char :=
  r.blocks.flatMap PortBlock.text ++ (r.close.chars ++ ['\x7d'])

/-- A resource as it is written. -/
def text : List Char :=
  r.opening ++ r.body

/-- What is found of the settings of a resource. -/
def found : List (String × List Char) :=
  r.blocks.flatMap (·.held.found)

/-- Where a resource is told from what stands before it: at the front of a line, or behind a line
feed. -/
def MayFollow (prev : Option Char) : Prop :=
  BeginsLine prev ∨ '\n' ∈ r.lead.chars

/-- There is no assignment in the header of a resource. -/
theorem opening_yields_nothing : Recogniser.Yields assignmentAt? r.opening [] := by
  have hlast : r.opening.getLast? = some '\x7b' := by
    unfold opening
    rw [r.header.line_eq, ← List.append_assoc, ← List.append_assoc, List.getLast?_concat]
  refine yields_nothing_of_brace ?_ hlast (by decide)
  have hlead := r.lead.notMem (c := '=') (by decide)
  have hheader : '=' ∉ r.header.line := fun hmem => r.header_plain _ hmem (by decide)
  unfold opening
  simp [hlead, hheader]

/-- The search for assignments finds what the blocks of a resource hold. -/
theorem body_yields : Recogniser.Yields assignmentAt? r.body r.found := by
  have hclose : Recogniser.Yields assignmentAt? (r.close.chars ++ ['\x7d']) [] := by
    refine yields_nothing_of_brace ?_ List.getLast?_concat (by decide)
    have hnone := r.close.notMem (c := '=') (by decide)
    simp [hnone]
  have hall := (Recogniser.Yields.flatMap fun b (_ : b ∈ r.blocks) => b.yields).append hclose
  rwa [List.append_nil] at hall

/-- The search for headers finds that of a resource. -/
theorem opening_yields : Recogniser.YieldsBetween headerAt? r.MayFollow (fun _ => True) r.opening
    [(r.header.type, r.header.label)] := by
  intro offset prev rest hprev _
  by_cases hline : BeginsLine prev
  · exact r.header.yields r.lead.isBlank_of_mem offset prev rest hline trivial
  · -- The header is found from the first line feed on.
    obtain ⟨front, back, hlead, hfront⟩ := List.eq_append_cons_of_mem (hprev.resolve_left hline)
    have hblank : ∀ c ∈ back, isBlank c = true := fun c hc => r.lead.isBlank_of_mem c (by
      rw [hlead]
      exact List.mem_append_right _ (List.mem_cons_of_mem _ hc))
    have hall := (yields_nothing_of_lineFeed hfront).append (r.header.yields hblank)
      (fun _ _ => .inr (by rw [List.getLast?_concat, Option.some_or])) fun _ _ => trivial
    have hopening : r.opening = front ++ ['\n'] ++ (back ++ r.header.line) := by
      unfold opening
      rw [hlead]
      simp only [List.append_assoc, List.cons_append, List.nil_append]
    rw [hopening]
    exact hall offset prev rest hline trivial

/-- There is no header behind that of a resource. -/
theorem body_yields_no_header : Recogniser.Yields headerAt? r.body [] := by
  have hclose : Recogniser.Yields headerAt? (r.close.chars ++ ['\x7d']) [] :=
    yields_nothing_of_word r.close.isBlank_of_mem (by decide) rfl (by unfold BeginsOther; decide)
  have hblocks := Recogniser.Yields.flatMap fun b (_ : b ∈ r.blocks) => b.yields_no_header
  rw [List.flatMap_eq_nil_iff.mpr fun _ _ => rfl] at hblocks
  exact hblocks.append hclose

/-- There is no sign of pairs or of comments in a resource. -/
theorem notMem_text {c : Char} (hc : c ∈ [':', '#', '/']) : c ∉ r.text := by
  have hforeign := foreign_of_mem c hc
  have hgap : ∀ g : Gap, c ∉ g.chars := fun g => g.notMem_of_foreign hforeign
  have hheader : c ∉ r.header.line :=
    fun hmem => r.header_plain c hmem (List.mem_cons_of_mem _ hc)
  have hblocks : c ∉ r.blocks.flatMap PortBlock.text := fun hmem => by
    obtain ⟨b, -, hb⟩ := List.mem_flatMap.mp hmem
    exact b.notMem_text hforeign hb
  have hclose : c ≠ '\x7d' := hforeign.sign '\x7d' (by decide)
  unfold text opening body
  simp only [List.mem_append, List.mem_singleton, hgap, hheader, hblocks, hclose, or_self,
    not_false_eq_true]

end Resource

end PortSurvey.Artifact.Provisioning
