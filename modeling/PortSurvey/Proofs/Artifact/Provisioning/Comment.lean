import Mathlib.Data.List.DropRight
import Mathlib.Tactic.SplitIfs
import PortSurvey.Artifact.Provisioning

/-!
# Strings and comments

A text is followed character by character (`Mode.step?`), through strings that close on their own
lines and through comments. Where a text ends outside both (`EndsOutside`), a comment mark begins a
comment: what stands behind the mark on its line is commented (`isCommented_of_mark`). Comments do
not reach over the end of a line (`isCommented_append_lineFeed`).
-/

namespace PortSurvey.Artifact.Provisioning

open Text

/-! ## Modes -/

/-- What a character stands in. -/
inductive Mode
  /-- It stands outside strings and comments. -/
  | code
  /-- So it does, and a slash stands before it. -/
  | slash
  /-- It stands in a string. -/
  | string
  /-- It stands in a string, behind a backslash. -/
  | escape
  /-- It stands in a comment. -/
  | comment
  deriving DecidableEq

/-- What follows a character outside strings and comments that does not end a comment mark. -/
def afterCode (c : Char) : Mode :=
  if c = '"' then .string else if c = '#' then .comment else if c = '/' then .slash else .code

/-- What follows a character, unless it ends the line in a string. -/
def Mode.step? : Mode → Char → Option Mode
  | .code, c => some (afterCode c)
  | .slash, c => some (if c = '/' then .comment else afterCode c)
  | .string, c =>
    if c = '\n' then none
    else some (if c = '\\' then .escape else if c = '"' then .code else .string)
  | .escape, c => if c = '\n' then none else some .string
  | .comment, c => some (if c = '\n' then .code else .comment)

/-- What follows a text, unless a line of it ends in a string. -/
def scan? (m : Mode) (s : List Char) : Option Mode :=
  s.foldlM Mode.step? m

/-- Each string of a text closes on its own line, and the text ends outside strings and comments. -/
def EndsOutside (s : List Char) : Prop :=
  scan? .code s = some .code ∨ scan? .code s = some .slash

instance (s : List Char) : Decidable (EndsOutside s) :=
  inferInstanceAs (Decidable (_ ∨ _))

variable {s t : List Char} {m m' : Mode}

/-- A joined text is followed piece by piece. -/
theorem scan?_append (m : Mode) (s t : List Char) :
    scan? m (s ++ t) = (scan? m s).bind fun m' => scan? m' t :=
  List.foldlM_append

/-- A text is followed from its first character on. -/
theorem scan?_cons (m : Mode) (c : Char) (s : List Char) :
    scan? m (c :: s) = (m.step? c).bind fun m' => scan? m' s :=
  List.foldlM_cons

/-- Behind the end of a line there is neither a string nor a comment. -/
theorem Mode.step?_lineFeed (m : Mode) : m.step? '\n' = some .code ∨ m.step? '\n' = none := by
  cases m <;> decide

/-- A text is followed from the begin of one of its lines on. -/
theorem scan?_of_lineFeed (h : scan? m (s ++ '\n' :: t) = some m') : scan? .code t = some m' := by
  rw [scan?_append] at h
  obtain ⟨middle, -, hmiddle⟩ := Option.bind_eq_some_iff.mp h
  rw [scan?_cons] at hmiddle
  obtain ⟨next, hnext, ht⟩ := Option.bind_eq_some_iff.mp hmiddle
  rcases middle.step?_lineFeed with hcode | hnone
  · rw [hcode] at hnext
    rwa [Option.some.inj hnext]
  · rw [hnone] at hnext
    cases hnext

/-- From the begin of one of its lines on a text ends outside strings and comments if it does. -/
theorem EndsOutside.of_lineFeed (h : EndsOutside (s ++ '\n' :: t)) : EndsOutside t :=
  h.imp scan?_of_lineFeed scan?_of_lineFeed

/-- A text without quotes, hashes and slashes has neither strings nor comments. -/
theorem scan?_code_of_plain (hs : ∀ c ∈ s, c ∉ ['"', '#', '/']) :
    scan? .code s = some .code := by
  induction s with
  | nil => rfl
  | cons c s ih =>
    have hc := hs c List.mem_cons_self
    simp only [List.mem_cons, List.not_mem_nil, or_false, not_or] at hc
    have hcode : Mode.step? .code c = some .code := by
      unfold Mode.step? afterCode
      simp only [if_neg hc.1, if_neg hc.2.1, if_neg hc.2.2]
    rw [scan?_cons, hcode]
    exact ih fun x hx => hs x (List.mem_cons_of_mem c hx)

/-- Behind a text without quotes, hashes and slashes a text ends outside strings and comments if both
together do. -/
theorem EndsOutside.of_plain (hs : ∀ c ∈ s, c ∉ ['"', '#', '/']) (h : EndsOutside (s ++ t)) :
    EndsOutside t := by
  unfold EndsOutside at h
  rwa [scan?_append, scan?_code_of_plain hs] at h

/-- In a string without a quote nothing but the string goes on. -/
theorem scan?_string_of_notMem (hquote : '"' ∉ s) (hm : m = .string ∨ m = .escape)
    (h : scan? m s = some m') : m' = .string ∨ m' = .escape := by
  induction s generalizing m with
  | nil =>
    rw [← Option.some.inj h]
    exact hm
  | cons c s ih =>
    rw [scan?_cons] at h
    obtain ⟨next, hnext, hs⟩ := Option.bind_eq_some_iff.mp h
    rw [List.mem_cons, not_or] at hquote
    refine ih hquote.2 ?_ hs
    rcases hm with rfl | rfl
    · unfold Mode.step? at hnext
      simp only [if_neg (Ne.symm hquote.1)] at hnext
      split_ifs at hnext <;> simp_all
    · simp only [Mode.step?] at hnext
      split_ifs at hnext
      exact .inl (Option.some.inj hnext).symm

/-- A string without a backslash goes on up to the next quote. -/
theorem scan?_string_of_plain (hquote : '"' ∉ s) (hslash : '\\' ∉ s)
    (h : scan? .string s = some m') : m' = .string := by
  induction s with
  | nil => exact (Option.some.inj h).symm
  | cons c s ih =>
    rw [scan?_cons] at h
    obtain ⟨next, hnext, hs⟩ := Option.bind_eq_some_iff.mp h
    rw [List.mem_cons, not_or] at hquote hslash
    unfold Mode.step? at hnext
    simp only [if_neg (Ne.symm hquote.1), if_neg (Ne.symm hslash.1)] at hnext
    split_ifs at hnext
    rw [← Option.some.inj hnext] at hs
    exact ih hquote.2 hslash.2 hs

/-- A string that is opened in a text is closed in it, if the text ends outside strings. -/
theorem EndsOutside.mem_quote (h : EndsOutside ('"' :: t)) : '"' ∈ t := by
  by_contra hquote
  have hopen : scan? .code ('"' :: t) = scan? .string t := rfl
  unfold EndsOutside at h
  rw [hopen] at h
  rcases h with h | h
  · have hmode := scan?_string_of_notMem hquote (.inl rfl) h
    simp at hmode
  · have hmode := scan?_string_of_notMem hquote (.inl rfl) h
    simp at hmode

/-- Behind a string without a backslash a text ends outside strings and comments if it does with the
string. -/
theorem EndsOutside.of_string (hquote : '"' ∉ s) (hslash : '\\' ∉ s)
    (h : EndsOutside ('"' :: (s ++ '"' :: t))) : EndsOutside t := by
  have hclosed : ∀ {m' : Mode}, scan? .code ('"' :: (s ++ '"' :: t)) = some m' →
      scan? .code t = some m' := by
    intro m' hm'
    have hopen : scan? .code ('"' :: (s ++ '"' :: t)) = scan? .string (s ++ '"' :: t) := rfl
    rw [hopen, scan?_append] at hm'
    obtain ⟨middle, hmiddle, ht⟩ := Option.bind_eq_some_iff.mp hm'
    rwa [scan?_string_of_plain hquote hslash hmiddle] at ht
  exact h.imp hclosed hclosed

/-! ## Comments -/

/-- Whether a comment begins in what follows on a line. -/
def Mode.holdsComment : Mode → List Char → Bool
  | .code, s => Provisioning.holdsComment false s
  | .slash, s => Provisioning.holdsComment false ('/' :: s)
  | .string, s => Provisioning.holdsComment true s
  | .escape, s => Provisioning.holdsComment true ('\\' :: s)
  | .comment, _ => true

/-- A character that is neither a quote nor part of a comment mark is passed over outside strings. -/
theorem holdsComment_false_cons {c : Char} (hquote : c ≠ '"') (hhash : c ≠ '#') (hslash : c ≠ '/')
    (s : List Char) : holdsComment false (c :: s) = holdsComment false s := by
  have hopen : (c == '"') = false := beq_false_of_ne hquote
  simp [holdsComment, hopen, hslash]

/-- A slash is passed over outside strings if no slash stands behind it. -/
theorem holdsComment_false_slash {c : Char} (hslash : c ≠ '/') (s : List Char) :
    holdsComment false ('/' :: c :: s) = holdsComment false (c :: s) := by
  simp [holdsComment, hslash]

/-- A character that is neither a quote nor a backslash is passed over in a string. -/
theorem holdsComment_true_cons {c : Char} (hquote : c ≠ '"') (hslash : c ≠ '\\')
    (s : List Char) : holdsComment true (c :: s) = holdsComment true s := by
  have hopen : (c != '"') = true := bne_iff_ne.mpr hquote
  simp [holdsComment, hopen, hslash]

/-- Following a character that does not end the line does not change whether a comment begins. -/
theorem Mode.holdsComment_cons {c : Char} (hc : c ≠ '\n') (h : m.step? c = some m')
    (s : List Char) : m.holdsComment (c :: s) = m'.holdsComment s := by
  have hcode : ∀ {m' : Mode}, afterCode c = m' →
      Provisioning.holdsComment false (c :: s) = m'.holdsComment s := by
    intro m' h
    unfold afterCode at h
    split_ifs at h with hquote hhash hslash
    · rw [hquote, ← h]; rfl
    · rw [hhash, ← h]; rfl
    · rw [hslash, ← h]; rfl
    · rw [← h, holdsComment_false_cons hquote hhash hslash]; rfl
  cases m with
  | code => exact hcode (Option.some.inj h)
  | slash =>
    simp only [Mode.step?, Option.some.injEq] at h
    split_ifs at h with hslash
    · rw [hslash, ← h]; rfl
    · exact (holdsComment_false_slash hslash s).trans (hcode h)
  | string =>
    simp only [Mode.step?, if_neg hc, Option.some.injEq] at h
    split_ifs at h with hslash hquote
    · rw [hslash, ← h]; rfl
    · rw [hquote, ← h]; rfl
    · rw [← h]
      exact holdsComment_true_cons hquote hslash s
  | escape =>
    simp only [Mode.step?, if_neg hc, Option.some.injEq] at h
    rw [← h]; rfl
  | comment =>
    simp only [Mode.step?, if_neg hc, Option.some.injEq] at h
    rw [← h]; rfl

/-- Following a text on one line does not change whether a comment begins. -/
theorem holdsComment_append (hfeed : '\n' ∉ s) (h : scan? m s = some m') (t : List Char) :
    m.holdsComment (s ++ t) = m'.holdsComment t := by
  induction s generalizing m with
  | nil => rw [← Option.some.inj h, List.nil_append]
  | cons c s ih =>
    rw [scan?_cons] at h
    obtain ⟨next, hnext, hs⟩ := Option.bind_eq_some_iff.mp h
    rw [List.mem_cons, not_or] at hfeed
    rw [List.cons_append, Mode.holdsComment_cons (Ne.symm hfeed.1) hnext, ih hfeed.2 hs]

/-- A comment that begins behind a line that ends outside strings and comments begins on the line. -/
theorem EndsOutside.holdsComment_append (h : EndsOutside s) (hfeed : '\n' ∉ s)
    (ht : holdsComment false t = true) : holdsComment false (s ++ t) = true := by
  rcases h with h | h
  · exact (Provisioning.holdsComment_append hfeed h t).trans ht
  · refine (Provisioning.holdsComment_append hfeed h t).trans ?_
    cases t with
    | nil => cases ht
    | cons c t =>
      by_cases hslash : c = '/'
      · rw [hslash]; rfl
      · exact (holdsComment_false_slash hslash t).trans ht

/-- The marks that begin a comment. -/
def commentMarks : List (List Char) :=
  [['#'], ['/', '/']]

/-- No comment mark has a line feed. -/
theorem lineFeed_notMem_of_mem_commentMarks : ∀ mark ∈ commentMarks, '\n' ∉ mark := by
  unfold commentMarks
  decide

/-- A comment mark begins a comment. -/
theorem holdsComment_of_mark : ∀ mark ∈ commentMarks, ∀ t : List Char,
    holdsComment false (mark ++ t) = true := by
  unfold commentMarks
  simp [holdsComment]

/-! ## Lines -/

/-- What stands on the last line of a text. -/
def lastLine (s : List Char) : List Char :=
  (s.reverse.takeWhile (· != '\n')).reverse

/-- No line feed stands on a line. -/
theorem lineFeed_notMem_lastLine (s : List Char) : '\n' ∉ lastLine s := by
  intro hmem
  have hne := List.mem_takeWhile_imp (List.mem_reverse.mp hmem)
  exact absurd hne (by decide)

/-- A text goes on on its last line. -/
theorem lastLine_append (s : List Char) (ht : '\n' ∉ t) : lastLine (s ++ t) = lastLine s ++ t := by
  have hall : ∀ c ∈ t.reverse, (c != '\n') = true :=
    fun c hc => bne_iff_ne.mpr fun hfeed => ht (hfeed ▸ List.mem_reverse.mp hc)
  unfold lastLine
  rw [List.reverse_append, List.takeWhile_append_of_pos hall, List.reverse_append,
    List.reverse_reverse]

/-- What stands before a line feed does not stand on the last line. -/
theorem lastLine_append_lineFeed (s t : List Char) : lastLine (s ++ '\n' :: t) = lastLine t := by
  unfold lastLine
  rw [List.reverse_append, List.reverse_cons, List.append_assoc, List.takeWhile_append]
  split_ifs with hall
  · rw [List.singleton_append, List.takeWhile_cons_of_neg (by decide), List.append_nil,
      (List.takeWhile_prefix _).eq_of_length hall]
  · rfl

/-- A text ends outside strings and comments if its last line does so. -/
theorem EndsOutside.lastLine (h : EndsOutside s) : EndsOutside (lastLine s) := by
  have hsplit : s = (s.reverse.dropWhile (· != '\n')).reverse ++ Provisioning.lastLine s := by
    unfold Provisioning.lastLine
    rw [← List.reverse_append, List.takeWhile_append_dropWhile, List.reverse_reverse]
  cases hrest : s.reverse.dropWhile (· != '\n') with
  | nil =>
    rw [hrest, List.reverse_nil, List.nil_append] at hsplit
    rwa [← hsplit]
  | cons c more =>
    have hfeed : c = '\n' := by
      have hhead := List.head?_dropWhile_not (· != '\n') s.reverse
      rw [hrest] at hhead
      simpa using hhead
    rw [hrest, List.reverse_cons, List.append_assoc, hfeed, List.singleton_append] at hsplit
    rw [hsplit] at h
    exact h.of_lineFeed

variable {front back mark comment : List Char} {offset : Nat}

/-- What stands behind a place does not matter for comments. -/
theorem isCommented_append (rest : List Char) (h : offset ≤ front.length) :
    isCommented (front ++ rest) offset = isCommented front offset := by
  unfold isCommented lineBefore
  rw [List.take_append_of_le_length h]

/-- A comment does not reach over the end of a line. -/
theorem isCommented_append_lineFeed (front back : List Char) (k : Nat) :
    isCommented (front ++ '\n' :: back) (front.length + 1 + k) = isCommented back k := by
  have htake : (front ++ '\n' :: back).take (front.length + 1 + k) =
      front ++ '\n' :: back.take k := by
    rw [Nat.add_assoc, List.take_length_add_append, Nat.add_comm 1 k, List.take_succ_cons]
  have hline : lineBefore (front ++ '\n' :: back) (front.length + 1 + k) = lineBefore back k := by
    show lastLine _ = lastLine _
    rw [htake, lastLine_append_lineFeed]
  unfold isCommented
  rw [hline]

/-- What stands behind a comment mark on its line is commented, if strings close on their own lines
and the mark stands outside of them. -/
theorem isCommented_of_mark (hfront : EndsOutside front) (hmark : mark ∈ commentMarks)
    (hcomment : '\n' ∉ comment) (back : List Char) (hlow : (front ++ mark).length ≤ offset)
    (hhigh : offset ≤ (front ++ (mark ++ comment)).length) :
    isCommented (front ++ (mark ++ (comment ++ back))) offset = true := by
  obtain ⟨k, rfl⟩ := Nat.exists_eq_add_of_le hlow
  have hk : k ≤ comment.length := by
    simp only [List.length_append] at hhigh
    omega
  have htake : (front ++ (mark ++ (comment ++ back))).take ((front ++ mark).length + k) =
      front ++ (mark ++ comment.take k) := by
    rw [← List.append_assoc, List.take_length_add_append, List.take_append_of_le_length hk,
      List.append_assoc]
  have hfeed : '\n' ∉ mark ++ comment.take k := by
    rw [List.mem_append, not_or]
    exact ⟨lineFeed_notMem_of_mem_commentMarks mark hmark,
      fun hmem => hcomment (List.mem_of_mem_take hmem)⟩
  have hline : lineBefore (front ++ (mark ++ (comment ++ back))) ((front ++ mark).length + k) =
      lastLine front ++ (mark ++ comment.take k) := by
    show lastLine _ = _
    rw [htake, lastLine_append _ hfeed]
  unfold isCommented
  rw [hline]
  exact hfront.lastLine.holdsComment_append (lineFeed_notMem_lastLine front)
    (holdsComment_of_mark mark hmark _)

/-! ## Texts without comment marks -/

/-- Nothing in a text without comment marks stands in a comment. -/
theorem isCommented_of_notMem (hhash : '#' ∉ s) (hslash : '/' ∉ s) (offset : Nat) :
    isCommented s offset = false := by
  have hnone : ∀ (inside : Bool) (t : List Char), '#' ∉ t → '/' ∉ t →
      holdsComment inside t = false := by
    intro inside t hhash hslash
    fun_induction holdsComment inside t <;> simp_all
  have hsub : ∀ c ∈ lineBefore s offset, c ∈ s := by
    intro c hc
    unfold lineBefore at hc
    have hmem := (List.takeWhile_sublist _).subset (List.mem_reverse.mp hc)
    exact List.mem_of_mem_take (List.mem_reverse.mp hmem)
  exact hnone false _ (fun h => hhash (hsub _ h)) fun h => hslash (hsub _ h)

end PortSurvey.Artifact.Provisioning
