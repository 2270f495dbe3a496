import Mathlib.Tactic.ByContra
import PortSurvey.Proofs.Artifact.Provisioning.Basic
import PortSurvey.Proofs.Artifact.Provisioning.Declared
import PortSurvey.Proofs.Port.Written
import PortSurvey.Proofs.Text.Search

/-!
# What an assignment contributes

An assignment is an attribute that speaks of ports, an equals sign and digits, with or without
quotes (`Assignment`). It is recognised wherever it stands (`Assignment.assignmentAt?_text`), and
since no assignment begins inside another (`assignmentAt?_apart`), what the text names is what each
place names by itself (`sitesOf_eq`).

Of the digits the first five are read, whatever follows them. So the port is the number that they
make all together exactly if there are no more of them, or if the first five make no port
(`Assignment.contributes_iff`).
-/

namespace PortSurvey.Artifact.Provisioning

open Text

/-! ## Recognising -/

/-- The digits at the front of a text are decimal digits, and nothing is lost of what follows. -/
theorem eq_of_digits? {s digits after : List Char} (h : digits? s = some (digits, after)) :
    s = digits ++ after ∧ ∀ c ∈ digits, isDecimal c = true := by
  unfold digits? at h
  dsimp only at h
  split_ifs at h
  obtain ⟨rfl, rfl⟩ := Prod.mk.inj (Option.some.inj h)
  have hprefix : (s.takeWhile isDecimal).take 5 <+: s :=
    (List.take_prefix _ _).trans (List.takeWhile_prefix _)
  exact ⟨(List.prefix_iff_eq_append.mp hprefix).symm,
    fun c hc => List.mem_takeWhile_imp (List.mem_of_mem_take hc)⟩

/-- A text begins with what a quote is taken from. -/
theorem eq_of_afterQuote (s : List Char) :
    ∃ quote, s = quote ++ afterQuote s ∧ ∀ c ∈ quote, c = '"' := by
  unfold afterQuote
  split
  · exact ⟨['"'], rfl, fun c hc => List.mem_singleton.mp hc⟩
  · exact ⟨[], rfl, fun c hc => absurd hc List.not_mem_nil⟩

/-- Whether a character may stand behind the attribute in an assignment. -/
def isJoint (c : Char) : Bool :=
  isBlank c || c == '=' || c == '"' || isDecimal c

/-- What is assigned stands behind an equals sign, blanks and a quote. -/
theorem assigned?_of_equals {s rest : List Char} (h : trimStartChars s = '=' :: rest) :
    assigned? s = (digits? (afterQuote (trimStartChars rest))).map fun x =>
      (x.1, afterQuote x.2) := by
  unfold assigned?
  rw [h]
  rfl

/-- What is assigned at the front of a text is made of blanks, an equals sign, quotes and digits. -/
theorem eq_of_assigned? {s digits after : List Char} (h : assigned? s = some (digits, after)) :
    ∃ joints, s = joints ++ after ∧ ∀ c ∈ joints, isJoint c = true := by
  unfold assigned? at h
  split at h
  · rename_i rest hequals
    obtain ⟨⟨found, behind⟩, hdigits, heq⟩ := Option.map_eq_some_iff.mp h
    obtain ⟨rfl, rfl⟩ := Prod.mk.inj heq
    obtain ⟨hfound, hdecimal⟩ := eq_of_digits? hdigits
    obtain ⟨opening, hopening, hopens⟩ := eq_of_afterQuote (trimStartChars rest)
    obtain ⟨closing, hclosing, hcloses⟩ := eq_of_afterQuote behind
    have hbefore : s = s.takeWhile isBlank ++ '=' :: rest := by
      rw [← hequals]
      exact (List.takeWhile_append_dropWhile).symm
    have hbetween : rest = rest.takeWhile isBlank ++ trimStartChars rest :=
      (List.takeWhile_append_dropWhile).symm
    refine ⟨s.takeWhile isBlank ++ '=' :: (rest.takeWhile isBlank ++ (opening ++
      (found ++ closing))), ?_, fun c hc => ?_⟩
    · calc s = s.takeWhile isBlank ++ '=' :: rest := hbefore
        _ = s.takeWhile isBlank ++ '=' :: (rest.takeWhile isBlank ++ (opening ++
              (found ++ (closing ++ afterQuote behind)))) := by
            rw [← hclosing, ← hfound, ← hopening, ← hbetween]
        _ = _ := by simp only [List.append_assoc, List.cons_append]
    · simp only [List.mem_append, List.mem_cons] at hc
      unfold isJoint
      rcases hc with hblank | rfl | hblank | hquote | hdigit | hquote
      · simp [List.mem_takeWhile_imp hblank]
      · rfl
      · simp [List.mem_takeWhile_imp hblank]
      · simp [hopens c hquote]
      · simp [hdecimal c hdigit]
      · simp [hcloses c hquote]
  · cases h

/-- An assignment is recognised by the attribute at its front and by what is assigned then. -/
theorem eq_of_assignmentAt? {prev : Option Char} {s : List Char} {x : String × List Char} {n : Nat}
    (h : assignmentAt? prev s = some (x, n)) :
    prev.any isWordChar = false ∧ ∃ name ∈ settingNames, ∃ joints after,
      s = name.toList ++ (joints ++ after) ∧ (∀ c ∈ joints, isJoint c = true) ∧
        n = name.toList.length + joints.length := by
  unfold assignmentAt? at h
  split_ifs at h with hprev
  obtain ⟨name, hname, hfound⟩ := List.exists_of_findSome?_eq_some h
  obtain ⟨rest, hrest, hassigned⟩ := Option.bind_eq_some_iff.mp hfound
  obtain ⟨⟨digits, after⟩, hdigits, heq⟩ := Option.map_eq_some_iff.mp hassigned
  obtain ⟨joints, hjoints, hall⟩ := eq_of_assigned? hdigits
  have hs : s = name.toList ++ (joints ++ after) := by
    rw [← hjoints]
    exact eq_of_afterWord? hrest
  have hn : n = s.length - after.length := (Prod.mk.inj heq).2.symm
  refine ⟨Bool.eq_false_iff.mpr hprev, name, hname, joints, after, hs, hall, ?_⟩
  have hlength := congrArg List.length hs
  rw [List.length_append, List.length_append] at hlength
  omega

/-- The attributes are words. -/
theorem all_isWordChar_of_mem_settingNames :
    ∀ name ∈ settingNames, name.toList.all isWordChar = true := by
  decide

/-- No attribute is empty or begins with what may stand behind one. -/
theorem head?_of_mem_settingNames :
    ∀ name ∈ settingNames, name.toList ≠ [] ∧ name.toList.head?.any isJoint = false := by
  decide

/-- No assignment begins inside another. -/
theorem assignmentAt?_apart : Recogniser.Apart assignmentAt? := by
  intro prev s x n h k hpos hlt
  obtain ⟨-, name, hname, joints, after, rfl, hjoints, rfl⟩ := eq_of_assignmentAt? h
  rw [Option.eq_none_iff_forall_ne_some]
  rintro ⟨y, m⟩ hinside
  obtain ⟨hprev, other, hother, joints', after', hdrop, -, -⟩ := eq_of_assignmentAt? hinside
  rcases Nat.lt_or_ge name.toList.length k with hk | hk
  · -- Behind the attribute stands nothing that an attribute begins with.
    obtain ⟨hother, hjoint⟩ := head?_of_mem_settingNames other hother
    have hne : joints.drop (k - name.toList.length) ≠ [] := by
      rw [ne_eq, List.drop_eq_nil_iff]
      omega
    rw [List.drop_append, List.drop_eq_nil_of_le hk.le, List.nil_append,
      List.drop_append_of_le_length (by omega)] at hdrop
    have hhead := congrArg List.head? hdrop
    rw [List.head?_append_of_ne_nil _ hne, List.head?_append_of_ne_nil _ hother,
      List.head?_eq_some_head hne] at hhead
    rw [← hhead, Option.any_some] at hjoint
    have hjoint' := hjoints _ (List.mem_of_mem_drop (List.head_mem hne))
    exact Bool.false_ne_true (hjoint.symm.trans hjoint')
  · -- Inside the attribute a character of a word stands before the place.
    rw [List.take_append_of_le_length hk] at hprev
    have hne : name.toList.take k ≠ [] := by
      intro hnil
      have hlength := congrArg List.length hnil
      rw [List.length_take_of_le hk, List.length_nil] at hlength
      omega
    rw [List.getLast?_eq_some_getLast hne, Option.any_some] at hprev
    have hword := List.all_eq_true.mp (all_isWordChar_of_mem_settingNames name hname) _
      (List.mem_of_mem_take (List.getLast_mem hne))
    exact Bool.false_ne_true (hprev.symm.trans hword)

/-! ## What each place names -/

/-- The port that an assignment outside comments names, if one begins at an offset. -/
def siteAt? (blocks : List Block) (s : List Char) (offset : Nat) : Option Site :=
  if isCommented s offset then none
  else
    (Recogniser.at? assignmentAt? s offset).bind fun x =>
      (Port.read? x.1.2).map fun port =>
        ⟨blockAt? blocks offset, x.1.1, port, lineAt s offset⟩

/-- A text names the ports that its places name, one by one. -/
theorem sitesOf_eq (blocks : List Block) (s : List Char) :
    sitesOf blocks s = (List.range s.length).filterMap (siteAt? blocks s) := by
  unfold sitesOf
  rw [occurrences_eq assignmentAt?_apart, List.filterMap_filterMap]
  refine List.filterMap_congr fun offset _ => ?_
  unfold siteAt?
  cases Recogniser.at? assignmentAt? s offset with
  | none => split_ifs <;> rfl
  | some x => rfl

/-! ## Assignments in a text -/

/-- An assignment of digits to an attribute that speaks of ports, with or without quotes. -/
structure Assignment where
  /-- The attribute. -/
  setting : String
  /-- The blanks before the equals sign. -/
  before : List Char
  /-- The blanks behind the equals sign. -/
  behind : List Char
  /-- Whether the digits stand between quotes. -/
  quoted : Bool
  /-- The digits. -/
  digits : List Char
  /-- The attribute speaks of ports. -/
  setting_mem : setting ∈ settingNames
  /-- There is nothing but blanks before the equals sign. -/
  before_blank : ∀ c ∈ before, isBlank c = true
  /-- There is nothing but blanks behind the equals sign. -/
  behind_blank : ∀ c ∈ behind, isBlank c = true
  /-- There is a digit at least. -/
  digits_ne : digits ≠ []
  /-- The digits are digits. -/
  digits_isDigit : ∀ c ∈ digits, c.isDigit = true

namespace Assignment

variable (a : Assignment)

/-- The quote before and behind the digits, if they stand between quotes. -/
def quote : List Char :=
  if a.quoted then ['"'] else []

/-- An assignment as it is written. -/
def text : List Char :=
  a.setting.toList ++ (a.before ++ '=' :: (a.behind ++ (a.quote ++ (a.digits ++ a.quote))))

/-- The number that all of the digits make. -/
def number : Nat :=
  Nat.ofDigitChars 10 a.digits 0

/-- The number that the first five of the digits make. -/
def firstFive : Nat :=
  Nat.ofDigitChars 10 (a.digits.take 5) 0

/-- An assignment stands between two pieces of a text: its attribute is all of a word, and its
digits are all of the digits there. -/
structure StandsBetween (front back : List Char) : Prop where
  /-- No character of a word stands before the attribute. -/
  apart : front.getLast?.any isWordChar = false
  /-- No digit stands behind the digits. -/
  whole : (a.quote ++ back).head?.any Char.isDigit = false

variable {a}

/-- The digits begin with a digit. -/
theorem exists_head_digits (a : Assignment) :
    ∃ d rest, a.digits = d :: rest ∧ d.isDigit = true := by
  obtain ⟨d, rest, hdigits⟩ := List.exists_cons_of_ne_nil a.digits_ne
  exact ⟨d, rest, hdigits, a.digits_isDigit d (by rw [hdigits]; exact List.mem_cons_self)⟩

/-- The first five digits begin with a digit. -/
theorem take_digits_ne (a : Assignment) : a.digits.take 5 ≠ [] := by
  obtain ⟨d, rest, hdigits, -⟩ := a.exists_head_digits
  rw [hdigits]
  exact List.cons_ne_nil _ _

/-- The first five digits are digits. -/
theorem take_digits_isDigit (a : Assignment) : ∀ c ∈ a.digits.take 5, c.isDigit = true :=
  fun c hc => a.digits_isDigit c (List.mem_of_mem_take hc)

/-- Blanks before the digits or their quote are passed over, and the quote then. -/
theorem afterQuote_trimStartChars (a : Assignment) (more : List Char) :
    afterQuote (trimStartChars (a.behind ++ (a.quote ++ (a.digits ++ more)))) =
      a.digits ++ more := by
  obtain ⟨d, rest, hdigits, hd⟩ := a.exists_head_digits
  have hquote : d ≠ '"' := by
    rintro rfl
    exact absurd hd (by decide)
  unfold quote
  rw [hdigits]
  cases a.quoted with
  | true =>
    have hopening : isBlank '"' = false := by decide
    rw [if_pos rfl, List.singleton_append, trimStartChars_append_cons a.behind_blank hopening]
    rfl
  | false =>
    rw [if_neg Bool.false_ne_true, List.nil_append, List.cons_append,
      trimStartChars_append_cons a.behind_blank (isBlank_of_isDigit hd)]
    unfold afterQuote
    split
    · exact absurd (List.cons.inj ‹d :: _ = _›).1 hquote
    · rfl

/-- The digits that are read from an assignment with a text behind it. -/
def taken (a : Assignment) (back : List Char) : List Char :=
  a.digits.take 5 ++ ((a.quote ++ back).takeWhile isDecimal).take (5 - a.digits.length)

/-- Five digits at most are found where an assignment has its digits. -/
theorem digits?_append (a : Assignment) (back : List Char) :
    ∃ after, digits? (a.digits ++ (a.quote ++ back)) = some (a.taken back, after) := by
  have hdecimal : ∀ c ∈ a.digits, isDecimal c = true :=
    fun c hc => isDecimal_of_isDigit (a.digits_isDigit c hc)
  have htaken : ((a.digits ++ (a.quote ++ back)).takeWhile isDecimal).take 5 = a.taken back := by
    rw [List.takeWhile_append_of_pos hdecimal, List.take_append]
    rfl
  have hne : a.taken back ≠ [] := List.append_ne_nil_of_left_ne_nil a.take_digits_ne _
  unfold digits?
  dsimp only
  rw [htaken, if_neg (by rwa [List.isEmpty_iff])]
  exact ⟨_, rfl⟩

/-- An assignment is recognised behind what is no character of a word, with the digits that are found
in it, up to what stands behind these and their quote. -/
theorem assignmentAt?_of_digits? {prev : Option Char} (hprev : prev.any isWordChar = false)
    {back digits after : List Char}
    (hdigits : digits? (a.digits ++ (a.quote ++ back)) = some (digits, after)) :
    assignmentAt? prev (a.text ++ back) =
      some ((a.setting, digits), (a.text ++ back).length - (afterQuote after).length) := by
  have htext : a.text ++ back = a.setting.toList ++ (a.before ++ '=' :: (a.behind ++
      (a.quote ++ (a.digits ++ (a.quote ++ back))))) := by
    unfold text
    simp only [List.append_assoc, List.cons_append]
  have hassigned : assigned? (a.before ++ '=' :: (a.behind ++
      (a.quote ++ (a.digits ++ (a.quote ++ back))))) = some (digits, afterQuote after) := by
    rw [assigned?_of_equals (trimStartChars_append_cons a.before_blank (by decide) _),
      a.afterQuote_trimStartChars, hdigits]
    rfl
  unfold assignmentAt?
  rw [hprev, if_neg Bool.false_ne_true, htext,
    findSome?_afterWord? settingNames_prefixFree a.setting_mem, hassigned]
  rfl

/-- An assignment is recognised where it stands, with the digits that are read from it. -/
theorem assignmentAt?_text {front back : List Char} (h : a.StandsBetween front back) :
    ∃ n, assignmentAt? front.getLast? (a.text ++ back) =
      some ((a.setting, a.taken back), n) := by
  obtain ⟨after, hdigits⟩ := a.digits?_append back
  exact ⟨_, assignmentAt?_of_digits? h.apart hdigits⟩

/-- What is read of an assignment is the number that its first five digits make, if anything. -/
theorem eq_of_read?_taken {front back : List Char} (h : a.StandsBetween front back) {port : Nat}
    (hport : Port.read? (a.taken back) = some port) : port = a.firstFive := by
  refine Port.eq_of_read?_append a.take_digits_ne a.take_digits_isDigit (fun c hc => ?_) hport
  -- What is taken beyond the digits begins with what stands behind them.
  have hprefix : ((a.quote ++ back).takeWhile isDecimal).take (5 - a.digits.length) <+:
      a.quote ++ back :=
    (List.take_prefix _ _).trans (List.takeWhile_prefix _)
  obtain ⟨rest, hrest⟩ := hprefix
  have hwhole := h.whole
  rwa [← hrest, List.head?_append, hc, Option.some_or, Option.any_some] at hwhole

/-- The digits of an assignment are told from what follows: there are five of them, or no digit of
any script stands behind them. -/
def Told (a : Assignment) (back : List Char) : Prop :=
  5 ≤ a.digits.length ∨ (a.quote ++ back).head?.any isDecimal = false

/-- Of digits that are told from what follows the first five are taken. -/
theorem taken_of_told {back : List Char} (htold : a.Told back) :
    a.taken back = a.digits.take 5 := by
  unfold taken
  rcases htold with hfive | hnone
  · rw [Nat.sub_eq_zero_of_le hfive, List.take_zero, List.append_nil]
  · have hempty : (a.quote ++ back).takeWhile isDecimal = [] := by
      cases hrest : a.quote ++ back with
      | nil => rfl
      | cons c rest =>
        rw [hrest, List.head?_cons, Option.any_some] at hnone
        exact List.takeWhile_cons_of_neg (Bool.eq_false_iff.mp hnone)
    rw [hempty, List.take_nil, List.append_nil]

/-- Digits that are told from what follows are read as the port that the first five make. -/
theorem read?_taken {back : List Char} (htold : a.Told back) :
    Port.read? (a.taken back) = Port.ofNumber? (.whole a.firstFive) := by
  rw [taken_of_told htold, Port.read?_of_isDigit a.take_digits_ne a.take_digits_isDigit]
  rfl

/-- The first five of more digits make a number less than all of them, unless it is zero. -/
theorem firstFive_lt_number (a : Assignment) (hmore : 5 < a.digits.length)
    (hpos : 0 < a.firstFive) : a.firstFive < a.number := by
  have hrest : a.digits.drop 5 ≠ [] := by
    rw [ne_eq, List.drop_eq_nil_iff]
    omega
  have hlt := lt_ofDigitChars_append hpos hrest
  rwa [List.take_append_drop] at hlt

/-- Five digits at most make the number that the first five make. -/
theorem firstFive_eq_number (a : Assignment) (hfew : a.digits.length ≤ 5) :
    a.firstFive = a.number := by
  unfold firstFive number
  rw [List.take_of_length_le hfew]

/-- An assignment in a text. -/
def within (a : Assignment) (front back : List Char) : List Char :=
  front ++ (a.text ++ back)

/-- What an assignment outside comments names is read from its digits. -/
theorem siteAt?_within {front back : List Char} (h : a.StandsBetween front back)
    (hopen : isCommented (a.within front back) front.length = false) (blocks : List Block) :
    siteAt? blocks (a.within front back) front.length =
      (Port.read? (a.taken back)).map fun port => ⟨blockAt? blocks front.length, a.setting, port,
        lineAt (a.within front back) front.length⟩ := by
  obtain ⟨n, hfound⟩ := assignmentAt?_text h
  have hplace : Recogniser.at? assignmentAt? (a.within front back) front.length =
      some ((a.setting, a.taken back), n) := by
    unfold within
    rw [Recogniser.at?_append, hfound]
  unfold siteAt?
  rw [hopen, if_neg Bool.false_ne_true, hplace, Option.bind_some]

/-- What assignments declare are ports that the places of a text name one by one. An assignment
outside comments never names another port than the first five of its digits make. It names the
number that all of them make, or nothing, exactly if there are no more than five of them or the
first five make no port. -/
theorem contributes_iff (file : File) {front back : List Char} (h : a.StandsBetween front back)
    (hopen : isCommented (a.within front back) front.length = false) (blocks : List Block) :
    (∀ d ∈ ofSites file blocks (sitesOf blocks (a.within front back)),
        ∃ site ∈ sitesOf blocks (a.within front back),
          DeclaredBy file blocks (sitesOf blocks (a.within front back)) site d) ∧
      sitesOf blocks (a.within front back) =
        (List.range (a.within front back).length).filterMap
          (siteAt? blocks (a.within front back)) ∧
      (∀ site ∈ siteAt? blocks (a.within front back) front.length,
        site.setting = a.setting ∧ site.port = a.firstFive ∧ Port.Valid a.firstFive) ∧
      (a.Told back → siteAt? blocks (a.within front back) front.length =
        (Port.ofNumber? (.whole a.firstFive)).map fun port => ⟨blockAt? blocks front.length,
          a.setting, port, lineAt (a.within front back) front.length⟩) ∧
      ((∀ site ∈ siteAt? blocks (a.within front back) front.length,
          Port.Valid a.number ∧ site.port = a.number) ↔
        a.digits.length ≤ 5 ∨ ¬ Port.Valid a.firstFive) := by
  have hread := siteAt?_within h hopen blocks
  have hfirst : ∀ site ∈ siteAt? blocks (a.within front back) front.length,
      site.setting = a.setting ∧ site.port = a.firstFive ∧ Port.Valid a.firstFive := by
    intro site hsite
    rw [hread] at hsite
    obtain ⟨port, hport, rfl⟩ := Option.map_eq_some_iff.mp hsite
    have hfive := eq_of_read?_taken h hport
    exact ⟨rfl, hfive, hfive ▸ Port.read?_valid hport⟩
  refine ⟨fun d hd => ?_, sitesOf_eq blocks _, hfirst, fun htold => ?_, fun hwhole => ?_,
    fun hfew site hsite => ?_⟩
  · obtain ⟨site, hsite, -, hdeclared⟩ := exists_declaredBy_of_mem_ofSites hd
    exact ⟨site, hsite, hdeclared⟩
  · rw [hread, read?_taken htold]
  · -- The first five of more digits would be contributed, which are less than all of them.
    by_contra hcut
    rw [not_or, not_not, Nat.not_le] at hcut
    obtain ⟨hmore, hvalid⟩ := hcut
    rw [hread, read?_taken (.inl hmore.le), Port.ofNumber?_of_valid hvalid, Option.map_some]
      at hwhole
    obtain ⟨-, hsame⟩ := hwhole _ rfl
    exact Nat.ne_of_lt (a.firstFive_lt_number hmore hvalid.1) hsame
  · obtain ⟨-, hport, hvalid⟩ := hfirst site hsite
    have hlength := hfew.resolve_right (not_not_intro hvalid)
    rw [a.firstFive_eq_number hlength] at hport hvalid
    exact ⟨hvalid, hport⟩

/-- Five digits between quotes that are assigned to a port outside a container. -/
def padded : Assignment where
  setting := "external"
  before := [' ']
  behind := [' ']
  quoted := true
  digits := ['0', '0', '4', '4', '3']
  setting_mem := by decide
  before_blank := isBlank_of_mem_space
  behind_blank := isBlank_of_mem_space
  digits_ne := List.cons_ne_nil _ _
  digits_isDigit := List.all_eq_true.mp rfl

/-- Five digits name the port that they make. -/
theorem contributes_iff_padded :
    let front := "ports \x7b ".toList
    let back := " \x7d".toList
    padded.StandsBetween front back ∧ isCommented (padded.within front back) front.length = false ∧
      siteAt? [] (padded.within front back) front.length = some ⟨none, "external", 443, 1⟩ ∧
      ∀ site ∈ siteAt? [] (padded.within front back) front.length,
        Port.Valid padded.number ∧ site.port = padded.number := by
  intro front back
  have hstands : padded.StandsBetween front back := ⟨by decide, by decide⟩
  have hopen : isCommented (padded.within front back) front.length = false := by decide
  obtain ⟨-, -, -, htold, hwhole⟩ :=
    contributes_iff ⟨⟨"infra/main.tf"⟩, "infra/main.tf", "infra"⟩ hstands hopen []
  refine ⟨hstands, hopen, ?_, hwhole.mpr (.inl (by decide))⟩
  rw [htold (.inl (by decide))]
  decide

/-- Six digits that are assigned to a port inside a container. -/
def six : Assignment where
  setting := "port"
  before := [' ']
  behind := [' ']
  quoted := false
  digits := ['1', '2', '3', '4', '5', '6']
  setting_mem := by decide
  before_blank := isBlank_of_mem_space
  behind_blank := isBlank_of_mem_space
  digits_ne := List.cons_ne_nil _ _
  digits_isDigit := List.all_eq_true.mp rfl

/-- Six digits make no port, and still the port that the first five make is declared. -/
theorem not_contributes_whole :
    let file : File := ⟨⟨"infra/main.tf"⟩, "infra/main.tf", "infra"⟩
    let front := "resource \"x\" \"api\" \x7b\n  ".toList
    let back := "\n\x7d\n".toList
    six.StandsBetween front back ∧ isCommented (six.within front back) front.length = false ∧
      ¬ Port.Valid six.number ∧
      (read file (String.ofList (six.within front back))).map (·.containerPort) = [12345] := by
  refine ⟨⟨by decide, by decide⟩, by decide, ?_, by decide +kernel⟩
  unfold Port.Valid
  decide

end Assignment

end PortSurvey.Artifact.Provisioning
