import PortSurvey.Proofs.Artifact.Provisioning.Basic
import PortSurvey.Proofs.Artifact.Provisioning.Comment
import PortSurvey.Proofs.Artifact.Provisioning.Header
import PortSurvey.Proofs.Text.Search
import PortSurvey.Proofs.Text.Trim

/-!
# How far the searches look

What is accepted at a place is made of words, blanks, digits and quotes. None of these contains a comment
mark, so that an assignment or a pair that begins before a comment is accepted as if the text ended
there (`assignmentAt?_stopsAt`, `pairAt?_stopsAt`). A header may contain anything between its quotes;
but where strings close before the comment, the header does too, unless it has a backslash, which is no
part of a string's syntax to a header (`headerAt?_stops`).
-/

namespace PortSurvey.Artifact.Provisioning

open Text

variable {c : Char}

/-! ## Fronts -/

/-- A word is found in a text that goes on with a character of none of its own as it is found in the
text alone. -/
theorem afterWord?_append_cons {word : String} (hc : c ∉ word.toList) (s rest : List Char) :
    afterWord? word (s ++ c :: rest) = (afterWord? word s).map (· ++ c :: rest) := by
  cases hword : afterWord? word s with
  | some more =>
    rw [eq_of_afterWord? hword, List.append_assoc, afterWord?_append, Option.map_some]
  | none =>
    rw [Option.map_none, Option.eq_none_iff_forall_ne_some]
    intro more hmore
    rcases List.append_eq_append_iff.mp (eq_of_afterWord? hmore) with
      ⟨tail, hname, htail⟩ | ⟨tail, rfl, -⟩
    · -- The character would be one of the word, unless the word is all of the text.
      cases tail with
      | nil =>
        have hall : s = word.toList ++ [] := by rw [hname]; simp
        rw [hall, afterWord?_append] at hword
        cases hword
      | cons x tail =>
        rw [(List.cons.inj htail).1] at hc
        exact hc (by rw [hname]; simp)
    · rw [afterWord?_append] at hword
      cases hword

/-- Blanks are found in a text that goes on with a character that is none as they are found in the
text alone. -/
theorem afterBlanks?_append_cons (hc : isBlank c = false) (s rest : List Char) :
    afterBlanks? (s ++ c :: rest) = (afterBlanks? s).map (· ++ c :: rest) := by
  cases s with
  | nil =>
    show (if isBlank c = true then _ else _) = _
    rw [hc, if_neg Bool.false_ne_true]
    rfl
  | cons x s =>
    show (if isBlank x = true then some (trimStartChars (s ++ c :: rest)) else none) =
      (if isBlank x = true then some (trimStartChars s) else none).map _
    rw [trimStartChars_append_of_not_blank s hc]
    split_ifs <;> rfl

/-- Digits are found in a text that goes on with a character that is none as they are found in the
text alone. -/
theorem digits?_append_cons (hc : isDecimal c = false) (s rest : List Char) :
    digits? (s ++ c :: rest) = (digits? s).map fun x => (x.1, x.2 ++ c :: rest) := by
  have htaken : (s ++ c :: rest).takeWhile isDecimal = s.takeWhile isDecimal := by
    rw [List.takeWhile_append]
    split_ifs with hall
    · rw [List.takeWhile_cons_of_neg (by rw [hc]; exact Bool.false_ne_true), List.append_nil,
        (List.takeWhile_prefix _).eq_of_length hall]
    · rfl
  have hle : ((s.takeWhile isDecimal).take 5).length ≤ s.length :=
    ((List.take_prefix _ _).trans (List.takeWhile_prefix _)).length_le
  unfold digits?
  dsimp only
  rw [htaken, List.drop_append_of_le_length hle]
  split_ifs <;> rfl

/-- A text that does not begin with a quote keeps its begin. -/
theorem afterQuote_eq_self {s : List Char} (h : ∀ x ∈ s.head?, x ≠ '"') : afterQuote s = s := by
  unfold afterQuote
  split
  · exact absurd rfl (h '"' rfl)
  · rfl

/-- A quote is taken off a text that goes on with another character as it is taken off the text
alone. -/
theorem afterQuote_append_cons (hc : c ≠ '"') (s rest : List Char) :
    afterQuote (s ++ c :: rest) = afterQuote s ++ c :: rest := by
  cases s with
  | nil => exact afterQuote_eq_self fun x hx => Option.some.inj hx ▸ hc
  | cons x s =>
    by_cases hx : x = '"'
    · rw [hx]; rfl
    · have hkept : ∀ y ∈ (x :: s).head?, y ≠ '"' := fun y hy => Option.some.inj hy ▸ hx
      rw [afterQuote_eq_self hkept]
      exact afterQuote_eq_self fun y hy => Option.some.inj hy ▸ hx

/-! ## Assignments and pairs -/

/-- A character that ends what is assigned. -/
structure EndsAssignment (c : Char) : Prop where
  /-- It is not blank. -/
  blank : isBlank c = false
  /-- It is no digit. -/
  decimal : isDecimal c = false
  /-- It is neither an equals sign nor a quote. -/
  sign : c ≠ '=' ∧ c ≠ '"'
  /-- It is in no attribute. -/
  word : ∀ name ∈ settingNames, c ∉ name.toList

/-- What is assigned at the front of a text that goes on with a character that ends it is what is
assigned in the text alone. -/
theorem assigned?_append_cons (hc : EndsAssignment c) (s rest : List Char) :
    assigned? (s ++ c :: rest) = (assigned? s).map fun x => (x.1, x.2 ++ c :: rest) := by
  unfold assigned?
  rw [trimStartChars_append_of_not_blank s hc.blank]
  cases trimStartChars s with
  | nil =>
    rw [List.nil_append]
    split
    · exact absurd (List.cons.inj ‹c :: rest = _›).1 hc.sign.1
    · rfl
  | cons x more =>
    by_cases hx : x = '='
    · subst hx
      show ((digits? (afterQuote (trimStartChars (more ++ c :: rest)))).map _) =
        ((digits? (afterQuote (trimStartChars more))).map _).map _
      rw [trimStartChars_append_of_not_blank more hc.blank, afterQuote_append_cons hc.sign.2,
        digits?_append_cons hc.decimal, Option.map_map, Option.map_map]
      refine congrArg (Option.map · _) (funext fun x => ?_)
      exact congrArg (Prod.mk x.1) (afterQuote_append_cons hc.sign.2 x.2 rest)
    · rw [List.cons_append]
      split
      · exact absurd (List.cons.inj ‹x :: _ = _›).1 hx
      · split
        · exact absurd (List.cons.inj ‹x :: _ = _›).1 hx
        · rfl

/-- What is behind a piece at the front counts for the piece. -/
theorem length_append_sub (s after more : List Char) :
    (s ++ more).length - (after ++ more).length = s.length - after.length := by
  rw [List.length_append, List.length_append, Nat.add_sub_add_right]

/-- No assignment reaches over a character that ends what is assigned. -/
theorem assignmentAt?_stopsAt (hc : EndsAssignment c) : assignmentAt?.StopsAt c := by
  intro prev s rest
  unfold assignmentAt?
  split_ifs
  · rfl
  · refine findSome?_congr fun name hname => ?_
    rw [afterWord?_append_cons (hc.word name hname)]
    cases afterWord? name s with
    | none => rfl
    | some more =>
      rw [Option.map_some, Option.bind_some, Option.bind_some, assigned?_append_cons hc,
        Option.map_map]
      refine congrArg (Option.map · _) (funext fun x => ?_)
      exact congrArg (Prod.mk (name, x.1)) (length_append_sub s x.2 (c :: rest))

/-- An assignment has no more characters than the text that it is found in. -/
theorem assignmentAt?_fits : assignmentAt?.Fits := by
  intro prev s x n h
  unfold assignmentAt? at h
  split_ifs at h
  obtain ⟨name, -, hfound⟩ := List.exists_of_findSome?_eq_some h
  obtain ⟨rest, -, hassigned⟩ := Option.bind_eq_some_iff.mp hfound
  obtain ⟨found, -, heq⟩ := Option.map_eq_some_iff.mp hassigned
  rw [← (Prod.mk.inj heq).2]
  exact Nat.sub_le _ _

/-- The digits at the front of a text and what follows behind a word, if the word stands behind
them. -/
def digitsBefore? (word : String) (s : List Char) : Option (List Char × List Char) :=
  (digits? s).bind fun x => (afterWord? word x.2).map (Prod.mk x.1)

/-- Digits before a character are found if the character stands behind them. -/
theorem digitsBefore?_eq_some_iff {word : String} (hword : word.toList = [c]) {s : List Char}
    {x : List Char × List Char} :
    digitsBefore? word s = some x ↔ digits? s = some (x.1, c :: x.2) := by
  constructor
  · intro h
    obtain ⟨y, hy, h⟩ := Option.bind_eq_some_iff.mp h
    obtain ⟨rest, hrest, rfl⟩ := Option.map_eq_some_iff.mp h
    have hbehind := eq_of_afterWord? hrest
    rw [hword, List.singleton_append] at hbehind
    rw [hy, ← hbehind]
  · intro h
    have hbehind : afterWord? word (c :: x.2) = some x.2 := by
      have hfound := afterWord?_append word x.2
      rwa [hword, List.singleton_append] at hfound
    unfold digitsBefore?
    rw [h, Option.bind_some, hbehind]
    rfl

/-- A pair is recognised by a quote, digits before a colon and digits before a quote. -/
theorem pairAt?_eq (prev : Option Char) (s : List Char) : pairAt? prev s =
    (afterWord? "\"" s).bind fun rest => (digitsBefore? ":" rest).bind fun host =>
      (digitsBefore? "\"" host.2).map fun container =>
        ((host.1, container.1), s.length - container.2.length) := by
  refine Option.ext fun x => ⟨fun h => ?_, fun h => ?_⟩
  · unfold pairAt? at h
    split at h
    · split at h
      · rename_i rest _ host more hhost
        split at h
        · rename_i container after hcontainer
          have hquote : afterWord? "\"" ('"' :: rest) = some rest := afterWord?_append "\"" rest
          have hfirst : digitsBefore? ":" rest = some (host, more) :=
            (digitsBefore?_eq_some_iff rfl).mpr hhost
          have hsecond : digitsBefore? "\"" more = some (container, after) :=
            (digitsBefore?_eq_some_iff rfl).mpr hcontainer
          rw [hquote, Option.bind_some, hfirst, Option.bind_some, hsecond]
          exact h
        · cases h
      · cases h
    · cases h
  · obtain ⟨rest, hrest, h⟩ := Option.bind_eq_some_iff.mp h
    obtain ⟨host, hhost, h⟩ := Option.bind_eq_some_iff.mp h
    obtain ⟨container, hcontainer, rfl⟩ := Option.map_eq_some_iff.mp h
    have hs : s = '"' :: rest := eq_of_afterWord? hrest
    have hfirst : digits? rest = some (host.1, ':' :: host.2) :=
      (digitsBefore?_eq_some_iff rfl).mp hhost
    have hsecond : digits? host.2 = some (container.1, '"' :: container.2) :=
      (digitsBefore?_eq_some_iff rfl).mp hcontainer
    unfold pairAt?
    rw [hs]
    simp only [hfirst, hsecond]

/-- Digits before a word are found in a text that goes on with another character as they are found in
the text alone. -/
theorem digitsBefore?_append_cons {word : String} (hdecimal : isDecimal c = false)
    (hword : c ∉ word.toList) (s rest : List Char) :
    digitsBefore? word (s ++ c :: rest) =
      (digitsBefore? word s).map fun x => (x.1, x.2 ++ c :: rest) := by
  unfold digitsBefore?
  rw [digits?_append_cons hdecimal]
  cases digits? s with
  | none => rfl
  | some x =>
    rw [Option.map_some, Option.bind_some, Option.bind_some, afterWord?_append_cons hword,
      Option.map_map, Option.map_map]
    rfl

/-- No pair reaches over a character that is none of a pair. -/
theorem pairAt?_stopsAt (hdecimal : isDecimal c = false) (hquote : c ≠ '"') (hcolon : c ≠ ':') :
    pairAt?.StopsAt c := by
  intro prev s rest
  have hquote' : c ∉ "\"".toList := by simpa using hquote
  have hcolon' : c ∉ ":".toList := by simpa using hcolon
  rw [pairAt?_eq, pairAt?_eq, afterWord?_append_cons hquote']
  cases afterWord? "\"" s with
  | none => rfl
  | some front =>
    rw [Option.map_some, Option.bind_some, Option.bind_some,
      digitsBefore?_append_cons hdecimal hcolon']
    cases digitsBefore? ":" front with
    | none => rfl
    | some host =>
      rw [Option.map_some, Option.bind_some, Option.bind_some,
        digitsBefore?_append_cons hdecimal hquote', Option.map_map]
      refine congrArg (Option.map · _) (funext fun container => ?_)
      exact congrArg (Prod.mk (host.1, container.1))
        (length_append_sub s container.2 (c :: rest))

/-- A pair has no more characters than the text that it is found in. -/
theorem pairAt?_fits : pairAt?.Fits := by
  intro prev s x n h
  rw [pairAt?_eq] at h
  obtain ⟨rest, -, h⟩ := Option.bind_eq_some_iff.mp h
  obtain ⟨host, -, h⟩ := Option.bind_eq_some_iff.mp h
  obtain ⟨container, -, heq⟩ := Option.map_eq_some_iff.mp h
  rw [← (Prod.mk.inj heq).2]
  exact Nat.sub_le _ _

/-! ## Headers -/

/-- A text between quotes is found if it is not empty. -/
theorem quotedText?_quoted {name : List Char} (hname : '"' ∉ name) (after : List Char) :
    quotedText? ('"' :: (name ++ '"' :: after)) =
      if name.isEmpty then none else some (name, after) := by
  have hall : ∀ x ∈ name, (x != '"') = true :=
    fun x hx => bne_iff_ne.mpr fun hquote => hname (hquote ▸ hx)
  have htext : (name ++ '"' :: after).takeWhile (· != '"') = name := by
    rw [List.takeWhile_append_of_pos hall, List.takeWhile_cons_of_neg (by decide), List.append_nil]
  unfold quotedText?
  simp only [htext, List.drop_left]

/-- No text between quotes is found where the quote is not closed. -/
theorem quotedText?_of_notMem {s : List Char} (hs : '"' ∉ s) : quotedText? ('"' :: s) = none := by
  have hall : s.takeWhile (· != '"') = s :=
    List.takeWhile_eq_self_iff.mpr fun x hx => bne_iff_ne.mpr fun hquote => hs (hquote ▸ hx)
  unfold quotedText?
  simp only [hall, List.drop_length]

/-- What is found between quotes stands between quotes. -/
theorem eq_of_quotedText? {s : List Char} {x : List Char × List Char}
    (h : quotedText? s = some x) : s = '"' :: (x.1 ++ '"' :: x.2) ∧ '"' ∉ x.1 := by
  cases s with
  | nil => cases h
  | cons y s =>
    have hy : y = '"' := by
      by_contra hne
      rw [quotedText?_eq_none rfl hne] at h
      cases h
    subst hy
    by_cases hquote : '"' ∈ s
    · obtain ⟨name, after, rfl, hname⟩ := List.eq_append_cons_of_mem hquote
      rw [quotedText?_quoted hname] at h
      split_ifs at h
      rw [← Option.some.inj h]
      exact ⟨rfl, hname⟩
    · rw [quotedText?_of_notMem hquote] at h
      cases h

/-- The label at the front of a text behind blanks, and what follows. -/
def label? (s : List Char) : Option (List Char × List Char) :=
  (afterBlanks? s).bind quotedText?

/-- A label that is found stands between quotes behind blanks. -/
theorem eq_of_label? {s : List Char} {x : List Char × List Char} (h : label? s = some x) :
    s = s.takeWhile isBlank ++ '"' :: (x.1 ++ '"' :: x.2) ∧ '"' ∉ x.1 := by
  obtain ⟨rest, hrest, h⟩ := Option.bind_eq_some_iff.mp h
  obtain ⟨hquoted, hquote⟩ := eq_of_quotedText? h
  refine ⟨?_, hquote⟩
  rw [← hquoted, eq_of_afterBlanks? hrest]
  exact List.takeWhile_append_dropWhile.symm

/-- Neither quotes nor comment marks are blank. -/
theorem notMem_takeWhile_isBlank (s : List Char) :
    ∀ c ∈ s.takeWhile isBlank, c ∉ ['"', '#', '/'] := by
  intro c hc hmem
  have hblank := List.mem_takeWhile_imp hc
  have hnone : ∀ c ∈ ['"', '#', '/'], isBlank c = false := by decide
  exact Bool.false_ne_true ((hnone c hmem).symm.trans hblank)

/-- Behind a label without a backslash a text ends outside strings and comments if it does with the
label. -/
theorem EndsOutside.of_label? {s : List Char} {x : List Char × List Char} (h : EndsOutside s)
    (hx : label? s = some x) (hslash : '\\' ∉ x.1) : EndsOutside x.2 := by
  obtain ⟨hs, hquote⟩ := eq_of_label? hx
  rw [hs] at h
  exact (h.of_plain (notMem_takeWhile_isBlank s)).of_string hquote hslash

/-- A character that begins a comment mark. -/
def BeginsMark (c : Char) : Prop :=
  c ∈ ['#', '/']

/-- A character that begins a comment mark is neither a blank nor a quote. -/
theorem BeginsMark.plain (hc : BeginsMark c) : isBlank c = false ∧ c ≠ '"' := by
  revert c
  unfold BeginsMark
  decide

/-- A text ends outside strings and comments without the blanks at its front if it does with
them. -/
theorem EndsOutside.trimStartChars {s : List Char} (h : EndsOutside s) :
    EndsOutside (trimStartChars s) := by
  have hsplit : s.takeWhile isBlank ++ Text.trimStartChars s = s := List.takeWhile_append_dropWhile
  rw [← hsplit] at h
  exact h.of_plain (notMem_takeWhile_isBlank s)

/-- A label is found in a text that goes on with a comment as it is found in the text alone, if the
text ends outside strings and comments. -/
theorem label?_append_cons (hc : BeginsMark c) {s : List Char} (h : EndsOutside s)
    (rest : List Char) :
    label? (s ++ c :: rest) = (label? s).map fun x => (x.1, x.2 ++ c :: rest) := by
  have hfront := h.trimStartChars
  unfold label?
  rw [afterBlanks?_append_cons hc.plain.1]
  cases hblanks : afterBlanks? s with
  | none => rfl
  | some front =>
    rw [Option.map_some, Option.bind_some, Option.bind_some, eq_of_afterBlanks? hblanks]
    cases hquoted : trimStartChars s with
    | nil => exact quotedText?_eq_none rfl hc.plain.2
    | cons x more =>
      by_cases hx : x = '"'
      · -- The string closes before the comment.
        rw [hquoted, hx] at hfront
        obtain ⟨name, after, rfl, hname⟩ := List.eq_append_cons_of_mem hfront.mem_quote
        have hjoin : '"' :: (name ++ '"' :: after) ++ c :: rest =
            '"' :: (name ++ '"' :: (after ++ c :: rest)) := by simp
        rw [hx, hjoin, quotedText?_quoted hname, quotedText?_quoted hname]
        split_ifs <;> rfl
      · rw [quotedText?_eq_none (s := x :: more) rfl hx]
        exact quotedText?_eq_none rfl hx

/-- What is found of a header behind the name of its block, in a text of which `rest` is left there. -/
def behindName (name : String) (s rest : List Char) : Option ((String × String) × Nat) :=
  (label? rest).map fun first =>
    match label? first.2 with
    | some second => ((String.ofList first.1, String.ofList second.1), s.length - second.2.length)
    | none => ((name, String.ofList first.1), s.length - first.2.length)

/-- Where a line begins, a header is found by the name of its block at the front, behind blanks. -/
theorem headerAt?_eq {prev : Option Char} (hprev : BeginsLine prev) (s : List Char) :
    headerAt? prev s = headerNames.findSome? fun name =>
      (afterWord? name (trimStartChars s)).bind (behindName name s) := by
  have hfront : (prev == none || prev == some '\n') = true := by
    rcases hprev with rfl | rfl <;> rfl
  unfold headerAt? behindName label?
  rw [if_pos hfront]
  dsimp only
  refine findSome?_congr fun name _ => congrArg _ (funext fun rest => ?_)
  cases afterBlanks? rest with
  | none => rfl
  | some front =>
    refine congrArg (Option.map · (quotedText? front)) (funext fun first => ?_)
    cases (afterBlanks? first.2).bind quotedText? <;> rfl

/-- A header has no more characters than the text that it is found in. -/
theorem headerAt?_fits : headerAt?.Fits := by
  intro prev s x n h
  by_cases hprev : BeginsLine prev
  · rw [headerAt?_eq hprev] at h
    obtain ⟨name, -, hfound⟩ := List.exists_of_findSome?_eq_some h
    obtain ⟨rest, -, hbehind⟩ := Option.bind_eq_some_iff.mp hfound
    obtain ⟨first, -, heq⟩ := Option.map_eq_some_iff.mp hbehind
    split at heq <;> rw [← (Prod.mk.inj heq).2] <;> exact Nat.sub_le _ _
  · rw [headerAt?_of_not_beginsLine hprev] at h
    cases h

/-- What is found behind the name of a block does not depend on a comment that follows, if the first
label has no backslash. -/
theorem behindName_append_cons (hc : BeginsMark c) {rest : List Char} (h : EndsOutside rest)
    (hslash : ∀ x ∈ label? rest, '\\' ∉ x.1) (name : String) (s more : List Char) :
    behindName name (s ++ c :: more) (rest ++ c :: more) = behindName name s rest := by
  unfold behindName
  rw [label?_append_cons hc h]
  cases hfirst : label? rest with
  | none => rfl
  | some first =>
    have hbehind := h.of_label? hfirst (hslash first hfirst)
    rw [Option.map_some, Option.map_some, Option.map_some, label?_append_cons hc hbehind]
    cases label? first.2 with
    | none => exact congrArg some (congrArg (Prod.mk _) (length_append_sub s first.2 (c :: more)))
    | some second =>
      exact congrArg some (congrArg (Prod.mk _) (length_append_sub s second.2 (c :: more)))

/-- A backslash in the first label is one in the header. -/
theorem mem_take_of_behindName {name : String} {s front rest : List Char}
    {x : (String × String) × Nat} (hs : s = front ++ rest) (h : behindName name s rest = some x)
    (hslash : ∀ y ∈ label? rest, '\\' ∈ y.1) : '\\' ∈ s.take x.2 := by
  obtain ⟨first, hfirst, heq⟩ := Option.map_eq_some_iff.mp h
  obtain ⟨hrest, -⟩ := eq_of_label? hfirst
  have hsplit : s = (front ++ rest.takeWhile isBlank ++ '"' :: first.1) ++ '"' :: first.2 := by
    rw [hs]
    conv_lhs => rw [hrest]
    simp only [List.append_assoc, List.cons_append]
  have hafter : s.length - first.2.length ≤ x.2 := by
    split at heq
    · rename_i second hsecond
      have hlength := congrArg List.length (eq_of_label? hsecond).1
      simp only [List.length_append, List.length_cons] at hlength
      rw [← (Prod.mk.inj heq).2]
      omega
    · rw [← (Prod.mk.inj heq).2]
  have hfront : (front ++ rest.takeWhile isBlank ++ '"' :: first.1) <+: s.take x.2 := by
    rw [List.prefix_take_iff]
    refine ⟨⟨_, hsplit.symm⟩, ?_⟩
    have hlength := congrArg List.length hsplit
    rw [List.length_append, List.length_cons] at hlength
    omega
  refine hfront.subset (List.mem_append_right _ (List.mem_cons_of_mem _ ?_))
  exact hslash first hfirst

/-- The names of blocks have neither quotes nor comment marks. -/
theorem notMem_of_mem_headerNames :
    ∀ name ∈ headerNames, ∀ c ∈ name.toList, c ∉ ['"', '#', '/'] := by
  decide

/-- A character that begins a comment mark is not part of the name of a block. -/
theorem BeginsMark.notMem_name (hc : BeginsMark c) {name : String} (hname : name ∈ headerNames) :
    c ∉ name.toList :=
  fun hmem => notMem_of_mem_headerNames name hname c hmem (List.mem_cons_of_mem _ hc)

/-- Behind the name of a block, what is found is found behind that name. -/
theorem headerAt?_eq_behindName {prev : Option Char} (hprev : BeginsLine prev) {name : String}
    (hname : name ∈ headerNames) {s rest : List Char}
    (hs : trimStartChars s = name.toList ++ rest) : headerAt? prev s = behindName name s rest := by
  rw [headerAt?_eq hprev, hs]
  exact findSome?_afterWord? headerNames_prefixFree hname rest fun name => behindName name s

/-- If the first label before a comment has a backslash, there is a header, and it has the backslash. -/
theorem exists_headerAt?_of_slash (hc : BeginsMark c) {prev : Option Char} (hprev : BeginsLine prev)
    {name : String} (hname : name ∈ headerNames) {s more : List Char}
    (hs : trimStartChars s = name.toList ++ more) (hmore : EndsOutside more)
    (hslash : ∃ x ∈ label? more, '\\' ∈ x.1) (rest : List Char) :
    ∃ x, headerAt? prev (s ++ c :: rest) = some x ∧ '\\' ∈ (s ++ c :: rest).take x.2 := by
  obtain ⟨first, hfirst, hmem⟩ := hslash
  have hjoined : trimStartChars (s ++ c :: rest) = name.toList ++ (more ++ c :: rest) := by
    rw [trimStartChars_append_of_not_blank s hc.plain.1, hs, List.append_assoc]
  have hlabel := label?_append_cons hc hmore rest
  rw [Option.mem_def.mp hfirst, Option.map_some] at hlabel
  have hsplit : s ++ c :: rest = (s.takeWhile isBlank ++ name.toList) ++ (more ++ c :: rest) := by
    rw [List.append_assoc, ← hjoined, trimStartChars_append_of_not_blank s hc.plain.1,
      ← List.append_assoc]
    unfold trimStartChars
    rw [List.takeWhile_append_dropWhile]
  obtain ⟨x, hx⟩ : ∃ x, behindName name (s ++ c :: rest) (more ++ c :: rest) = some x := by
    unfold behindName
    rw [hlabel]
    exact ⟨_, rfl⟩
  refine ⟨x, (headerAt?_eq_behindName hprev hname hjoined).trans hx, ?_⟩
  refine mem_take_of_behindName hsplit hx fun y hy => ?_
  rw [hlabel] at hy
  rwa [← Option.some.inj hy]

/-- A comment does not make a header of a text that does not begin with the name of a block. -/
theorem headerAt?_append_of_no_name (hc : BeginsMark c) {s : List Char}
    (hs : ∀ name ∈ headerNames, afterWord? name (trimStartChars s) = none) (prev : Option Char)
    (rest : List Char) : headerAt? prev (s ++ c :: rest) = headerAt? prev s := by
  rw [headerAt?_of_plain (other_of_afterWord?_eq_none hs).plain]
  refine headerAt?_of_plain (other_of_afterWord?_eq_none fun name hname => ?_).plain prev
  rw [trimStartChars_append_of_not_blank s hc.plain.1,
    afterWord?_append_cons (hc.notMem_name hname), hs name hname, Option.map_none]

/-- What is found of a header at the begin of a line does not depend on a comment that follows, or else
the header has a backslash. -/
theorem headerAt?_stops (hc : BeginsMark c) {s : List Char} (h : EndsOutside s)
    {prev : Option Char} (hprev : BeginsLine prev) :
    (∀ rest, headerAt? prev (s ++ c :: rest) = headerAt? prev s) ∨
      ∀ rest, ∃ x, headerAt? prev (s ++ c :: rest) = some x ∧
        '\\' ∈ (s ++ c :: rest).take x.2 := by
  by_cases hnames : ∃ name ∈ headerNames, ∃ more, afterWord? name (trimStartChars s) = some more
  · obtain ⟨name, hname, more, hafter⟩ := hnames
    have hs : trimStartChars s = name.toList ++ more := eq_of_afterWord? hafter
    have hmore : EndsOutside more := by
      have hfront := h.trimStartChars
      rw [hs] at hfront
      exact hfront.of_plain (notMem_of_mem_headerNames name hname)
    by_cases hslash : ∃ x ∈ label? more, '\\' ∈ x.1
    · exact .inr (exists_headerAt?_of_slash hc hprev hname hs hmore hslash)
    · refine .inl fun rest => ?_
      have hjoined : trimStartChars (s ++ c :: rest) = name.toList ++ (more ++ c :: rest) := by
        rw [trimStartChars_append_of_not_blank s hc.plain.1, hs, List.append_assoc]
      rw [headerAt?_eq_behindName hprev hname hjoined, headerAt?_eq_behindName hprev hname hs]
      exact behindName_append_cons hc hmore (fun x hx hmem => hslash ⟨x, hx, hmem⟩) name s rest
  · refine .inl (headerAt?_append_of_no_name hc (fun name hname => ?_) prev)
    rw [Option.eq_none_iff_forall_ne_some]
    exact fun more hmore => hnames ⟨name, hname, more, hmore⟩

end PortSurvey.Artifact.Provisioning
