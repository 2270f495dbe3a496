import PortSurvey.Proofs.Artifact.Provisioning.Basic
import PortSurvey.Proofs.Text.Search
import PortSurvey.Proofs.Text.Trim

/-!
# Headers in the lines of a text

A row is a line with the blank lines before it (`Row`). Headers are looked for row by row: a row
that is the header of a block that names its services is found, with its blank lines
(`Row.occurrencesFrom_of_header`), and one that does not begin like such a header is passed over
(`Row.occurrencesFrom_of_plain`). Further inside a row nothing is found, since no line begins there.
-/

namespace PortSurvey.Artifact.Provisioning

open Text

/-! ## Where no header is -/

/-- No header begins behind a character that is no line feed. -/
theorem headerAt?_of_prev {c : Char} (hc : c ≠ '\n') (s : List Char) :
    headerAt? (some c) s = none := by
  unfold headerAt?
  refine if_neg ?_
  simpa using hc

/-- What stands behind blanks is found, if there are blanks at all. -/
theorem eq_of_afterBlanks? {s rest : List Char} (h : afterBlanks? s = some rest) :
    rest = trimStartChars s := by
  unfold afterBlanks? at h
  split at h
  · split_ifs at h with hblank
    rw [← Option.some.inj h]
    exact (List.dropWhile_cons_of_pos hblank).symm
  · cases h

/-- There is no text between quotes where no quote opens it. -/
theorem quotedText?_eq_none {c : Char} {s : List Char} (hhead : c ∈ s.head?) (hc : c ≠ '"') :
    quotedText? s = none := by
  unfold quotedText?
  split
  · exact absurd (Option.some.inj hhead).symm hc
  · rfl

/-- A text does not begin like a header: the name of a block is not followed by a quote. -/
def Plain (s : List Char) : Prop :=
  ∀ name ∈ headerNames, ∀ rest ∈ afterWord? name s,
    ∃ c ∈ (trimStartChars rest).head?, c ≠ '"'

/-- The first word of a text is not the name of a block whose header is looked for, though it may
begin with one. -/
def Other (s : List Char) : Prop :=
  ∀ name ∈ headerNames, ∀ rest ∈ afterWord? name s,
    ∃ c ∈ rest.head?, isBlank c = false ∧ c ≠ '"'

/-- Where no name of a block is found, the first word is none. -/
theorem other_of_afterWord?_eq_none {s : List Char}
    (h : ∀ name ∈ headerNames, afterWord? name s = none) : Other s := by
  intro name hname rest hrest
  rw [h name hname] at hrest
  cases hrest

/-- Where the first word is not the name of a block, the text does not begin like a header. -/
theorem Other.plain {s : List Char} (h : Other s) : Plain s := by
  intro name hname rest hrest
  obtain ⟨c, hhead, hblank, hc⟩ := h name hname rest hrest
  have hkept : trimStartChars rest = rest :=
    trimStartChars_eq_self fun x hx => Option.some.inj (hhead.symm.trans hx) ▸ hblank
  exact ⟨c, hkept.symm ▸ hhead, hc⟩

/-- Where a text does not begin like a header, there is none. -/
theorem headerAt?_of_plain {s : List Char} (h : Plain (trimStartChars s)) (prev : Option Char) :
    headerAt? prev s = none := by
  unfold headerAt?
  split_ifs
  · refine List.findSome?_eq_none_iff.mpr fun name hname => ?_
    cases hrest : afterWord? name (trimStartChars s) with
    | none => rfl
    | some rest =>
      obtain ⟨c, hhead, hc⟩ := h name hname rest hrest
      rw [Option.bind_some]
      cases hblanks : afterBlanks? rest with
      | none => rfl
      | some behind =>
        rw [← eq_of_afterBlanks? hblanks] at hhead
        rw [Option.bind_some, quotedText?_eq_none hhead hc]
        rfl
  · rfl

/-- The names of blocks have no line feed. -/
theorem lineFeed_notMem_of_mem_headerNames : ∀ name ∈ headerNames, '\n' ∉ name.toList := by
  decide

/-- What follows on further lines does not make a line begin like a header. -/
theorem Plain.append {line : List Char} (h : Plain line) (hline : '\n' ∉ line)
    (more : List Char) : Plain (line ++ '\n' :: more) := by
  intro name hname rest hrest
  have hfeed := lineFeed_notMem_of_mem_headerNames name hname
  rcases List.append_eq_append_iff.mp (eq_of_afterWord? hrest) with
    ⟨tail, hname', htail⟩ | ⟨tail, rfl, rfl⟩
  · -- The name reaches as far as the end of the line, so that it is all of the line.
    cases tail with
    | nil =>
      rw [List.append_nil] at hname'
      have hnone : afterWord? name line = some [] := by
        rw [← hname']
        simpa using afterWord?_append name []
      obtain ⟨c, hc, -⟩ := h name hname [] hnone
      cases hc
    | cons c tail =>
      have hc : '\n' = c := (List.cons.inj htail).1
      exact absurd (by rw [hname', ← hc]; simp) hfeed
  · obtain ⟨c, hhead, hc⟩ := h name hname tail (afterWord?_append name tail)
    refine ⟨c, ?_, hc⟩
    have hne : trimStartChars tail ≠ [] := by
      rintro hnil
      rw [hnil] at hhead
      cases hhead
    unfold trimStartChars at hhead hne ⊢
    rw [List.dropWhile_append, if_neg (by rwa [List.isEmpty_iff]), List.head?_append, hhead,
      Option.some_or]
    rfl

/-! ## Where a header is -/

/-- Where a line may begin: at the front of a text, or behind a line feed. -/
def BeginsLine (prev : Option Char) : Prop :=
  prev = none ∨ prev = some '\n'

/-- No header begins where no line may begin. -/
theorem headerAt?_of_not_beginsLine {prev : Option Char} (h : ¬ BeginsLine prev) (s : List Char) :
    headerAt? prev s = none := by
  cases prev with
  | none => exact absurd (.inl rfl) h
  | some c => exact headerAt?_of_prev (fun hc => h (.inr (congrArg some hc))) s

/-- A name between quotes, with the blanks before it. -/
structure Label where
  /-- The blanks. -/
  gap : List Char
  /-- The name. -/
  name : List Char
  /-- There is a blank at least. -/
  gap_ne : gap ≠ []
  /-- There is nothing but blanks before the quote. -/
  gap_blank : ∀ c ∈ gap, isBlank c = true
  /-- The name has a character at least. -/
  name_ne : name ≠ []
  /-- The name has no quote. -/
  name_quote : '"' ∉ name

/-- A label as it is written. -/
def Label.text (l : Label) : List Char :=
  l.gap ++ '"' :: (l.name ++ ['"'])

/-- A label is found behind the blanks before it. -/
theorem Label.afterBlanks?_text (l : Label) (s : List Char) :
    (afterBlanks? (l.text ++ s)).bind quotedText? = some (l.name, s) := by
  have hopening : isBlank '"' = false := by decide
  obtain ⟨c, gap, hgap⟩ := List.exists_cons_of_ne_nil l.gap_ne
  have hc : isBlank c = true := l.gap_blank c (by rw [hgap]; exact List.mem_cons_self)
  have hrest : ∀ x ∈ gap, isBlank x = true :=
    fun x hx => l.gap_blank x (by rw [hgap]; exact List.mem_cons_of_mem c hx)
  have hafter : afterBlanks? (l.text ++ s) = some ('"' :: (l.name ++ '"' :: s)) := by
    unfold text afterBlanks?
    rw [hgap]
    simp only [List.cons_append, List.append_assoc, List.nil_append]
    rw [if_pos hc, trimStartChars_append_cons hrest hopening]
  have htext : (l.name ++ '"' :: s).takeWhile (· != '"') = l.name := by
    have hnone : ∀ x ∈ l.name, (x != '"') = true :=
      fun x hx => bne_iff_ne.mpr fun hquote => l.name_quote (hquote ▸ hx)
    rw [List.takeWhile_append_of_pos hnone, List.takeWhile_cons_of_neg (by decide),
      List.append_nil]
  rw [hafter, Option.bind_some]
  unfold quotedText?
  simp only [htext, List.drop_left, List.isEmpty_iff, l.name_ne, if_false]

/-- The header of a block that names its services: the name of the block and one or two labels,
before a brace. -/
structure Header where
  /-- The name of the block. -/
  kind : String
  /-- The first label. -/
  first : Label
  /-- The second label, if there is one. -/
  second : Option Label
  /-- The blanks before the brace. -/
  close : List Char
  /-- The block is one of those whose headers are looked for. -/
  kind_mem : kind ∈ headerNames
  /-- There is nothing but blanks before the brace. -/
  close_blank : ∀ c ∈ close, isBlank c = true

namespace Header

/-- What stands behind the first label. -/
def more (h : Header) : List Char :=
  match h.second with
  | some l => l.text
  | none => []

/-- A header as it is written. -/
def line (h : Header) : List Char :=
  h.kind.toList ++ (h.first.text ++ (h.more ++ (h.close ++ ['\x7b'])))

/-- The label that the block gives its services: the last that it has. -/
def label (h : Header) : String :=
  match h.second with
  | some l => String.ofList l.name
  | none => String.ofList h.first.name

/-- The type of the block: what stands before its last label. -/
def type (h : Header) : String :=
  match h.second with
  | some _ => String.ofList h.first.name
  | none => h.kind

/-- The brace behind the blanks is no label. -/
theorem afterBlanks?_close (h : Header) (s : List Char) :
    (afterBlanks? (h.close ++ ['\x7b'] ++ s)).bind quotedText? = none := by
  have hbrace : trimStartChars (h.close ++ ['\x7b'] ++ s) = '\x7b' :: s := by
    rw [List.append_assoc, List.singleton_append]
    exact trimStartChars_append_cons h.close_blank (by decide) s
  cases hblanks : afterBlanks? (h.close ++ ['\x7b'] ++ s) with
  | none => rfl
  | some rest =>
    rw [eq_of_afterBlanks? hblanks, hbrace]
    rfl

/-- A header is found at the front of a line, with the blanks before it. -/
theorem headerAt?_line (h : Header) {prev : Option Char} (hprev : BeginsLine prev)
    {s rest : List Char} (hs : trimStartChars s = h.line ++ rest) :
    headerAt? prev s =
      some ((h.type, h.label), s.length - (h.close ++ ['\x7b'] ++ rest).length) := by
  have hline : h.line ++ rest =
      h.kind.toList ++ (h.first.text ++ (h.more ++ (h.close ++ ['\x7b'] ++ rest))) := by
    unfold line
    simp only [List.append_assoc]
  have hfront : (prev == none || prev == some '\n') = true := by
    rcases hprev with rfl | rfl <;> rfl
  unfold headerAt?
  rw [if_pos hfront, hs, hline]
  dsimp only
  rw [findSome?_afterWord? headerNames_prefixFree h.kind_mem]
  obtain ⟨behind, hbehind, hfirst⟩ := Option.bind_eq_some_iff.mp (h.first.afterBlanks?_text
    (h.more ++ (h.close ++ ['\x7b'] ++ rest)))
  rw [hbehind, Option.bind_some, hfirst, Option.map_some]
  unfold more label type
  cases h.second with
  | none =>
    dsimp only
    rw [List.nil_append, h.afterBlanks?_close rest]
  | some l =>
    dsimp only
    rw [l.afterBlanks?_text]

end Header

/-! ## Rows -/

/-- A line that is not blank, with the blank lines and the blanks before it. -/
structure Row where
  /-- What stands before the first character of the line that is not blank. -/
  lead : List Char
  /-- The line from there on. -/
  line : List Char
  /-- There is nothing but blanks before the line. -/
  lead_blank : ∀ c ∈ lead, isBlank c = true
  /-- The line does not begin with a blank. -/
  line_head : ∃ c ∈ line.head?, isBlank c = false
  /-- The line has no line feed. -/
  line_feed : '\n' ∉ line

namespace Row

/-- A row as it is written. -/
def text (r : Row) : List Char :=
  r.lead ++ (r.line ++ ['\n'])

/-- A row ends with a line feed. -/
theorem getLast?_text (r : Row) : r.text.getLast? = some '\n' := by
  unfold text
  rw [← List.append_assoc, List.getLast?_concat]

/-- From a place before the line on, the line comes first, blanks apart. -/
theorem trimStartChars_drop (r : Row) {k : Nat} (hk : k ≤ r.lead.length) (rest : List Char) :
    trimStartChars (r.text.drop k ++ rest) = r.line ++ '\n' :: rest := by
  have hdrop : r.text.drop k ++ rest = r.lead.drop k ++ (r.line ++ '\n' :: rest) := by
    unfold text
    rw [List.drop_append_of_le_length hk]
    simp only [List.append_assoc, List.singleton_append]
  have hblank : ∀ c ∈ r.lead.drop k, isBlank c = true :=
    fun c hc => r.lead_blank c (List.mem_of_mem_drop hc)
  rw [hdrop, trimStartChars_append hblank]
  obtain ⟨c, hhead, hc⟩ := r.line_head
  refine trimStartChars_eq_self fun x hx => ?_
  rw [List.head?_append, hhead, Option.some_or] at hx
  rwa [← Option.some.inj hx]

/-- Inside a line, what stands before a place is no line feed. -/
theorem getLast?_take (r : Row) {k : Nat} (hlow : r.lead.length < k) (hlt : k < r.text.length) :
    ∃ c, (r.text.take k).getLast? = some c ∧ c ≠ '\n' := by
  have hlength : r.text.length = r.lead.length + (r.line.length + 1) := by
    unfold text
    simp only [List.length_append, List.length_singleton]
  have htake : r.text.take k = r.lead ++ r.line.take (k - r.lead.length) := by
    unfold text
    rw [List.take_append, List.take_of_length_le hlow.le, List.take_append_of_le_length (by omega)]
  have hne : r.line.take (k - r.lead.length) ≠ [] := by
    have hpos : 0 < (r.line.take (k - r.lead.length)).length := by
      rw [List.length_take]
      omega
    exact List.ne_nil_of_length_pos hpos
  refine ⟨(r.line.take (k - r.lead.length)).getLast hne, ?_, fun hfeed => r.line_feed ?_⟩
  · rw [htake, List.getLast?_append_of_ne_nil _ hne, List.getLast?_eq_some_getLast hne]
  · rw [← hfeed]
    exact List.mem_of_mem_take (List.getLast_mem hne)

/-- No header begins inside the line of a row. -/
theorem headerAt?_inside (r : Row) {k : Nat} (hlow : r.lead.length < k) (hlt : k < r.text.length)
    (prev : Option Char) (s : List Char) :
    headerAt? ((r.text.take k).getLast?.or prev) s = none := by
  obtain ⟨c, hlast, hc⟩ := r.getLast?_take hlow hlt
  rw [hlast, Option.some_or]
  exact headerAt?_of_prev hc s

/-- The search for headers passes over a row that does not begin like one. -/
theorem occurrencesFrom_of_plain (r : Row) (hplain : Plain r.line) (offset : Nat)
    (prev : Option Char) (rest : List Char) :
    occurrencesFrom headerAt? offset 0 prev (r.text ++ rest) =
      occurrencesFrom headerAt? (offset + r.text.length) 0 (some '\n') rest := by
  have hquiet : ∀ k, 0 ≤ k → k < r.text.length →
      headerAt? ((r.text.take k).getLast?.or prev) (r.text.drop k ++ rest) = none := by
    intro k _ hlt
    rcases Nat.lt_or_ge r.lead.length k with hlow | hle
    · exact r.headerAt?_inside hlow hlt prev _
    · refine headerAt?_of_plain ?_ _
      rw [r.trimStartChars_drop hle]
      exact hplain.append r.line_feed rest
  rw [occurrencesFrom_of_quiet rest (Nat.zero_le _) hquiet, r.getLast?_text, Option.some_or]

/-- The search for headers finds a header in its row, with the blank lines before it. -/
theorem occurrencesFrom_of_header (r : Row) (h : Header) (hline : r.line = h.line) (offset : Nat)
    {prev : Option Char} (hprev : BeginsLine prev) (rest : List Char) :
    occurrencesFrom headerAt? offset 0 prev (r.text ++ rest) =
      (offset, h.type, h.label) ::
        occurrencesFrom headerAt? (offset + r.text.length) 0 (some '\n') rest := by
  have hfront : trimStartChars (r.text ++ rest) = h.line ++ '\n' :: rest := by
    rw [← hline]
    exact r.trimStartChars_drop (Nat.zero_le _) rest
  have hfound := h.headerAt?_line hprev hfront
  -- What is used reaches into the line, but not behind it.
  have hlabel : 0 < h.first.text.length := by
    unfold Label.text
    rw [List.length_append, List.length_cons]
    omega
  have hlength : r.text.length = r.lead.length + (h.kind.toList.length +
      (h.first.text.length + (h.more.length + (h.close.length + 1))) + 1) := by
    unfold text
    rw [hline]
    unfold Header.line
    simp only [List.length_append, List.length_singleton]
  have hused : (r.text ++ rest).length - (h.close ++ ['\x7b'] ++ '\n' :: rest).length =
      r.lead.length + (h.kind.toList.length + (h.first.text.length + h.more.length)) := by
    simp only [List.length_append, List.length_cons, List.length_nil, hlength]
    omega
  rw [hused] at hfound
  rw [occurrencesFrom_of_accepts rest hfound (by omega) (by omega), r.getLast?_text,
    Option.some_or]
  exact fun k hlow hlt => r.headerAt?_inside (by omega) hlt prev _

end Row

end PortSurvey.Artifact.Provisioning
