import Mathlib.Tactic.ByContra
import PortSurvey.Proofs.Artifact.Provisioning.Declared
import PortSurvey.Proofs.Artifact.Provisioning.Header
import PortSurvey.Proofs.Text.Lines

/-!
# Blocks and the services that they name

A description is a sequence of blocks (`TopBlock`), some of which have a label that names their
services. The search for headers finds those of the labelled blocks, in order
(`TopBlock.occurrencesFrom_flatMap`). What it does not find is where a block ends. So what a block
declares goes under the label of the last labelled block that begins before it, if there is one, and
under the name of the file otherwise. A labelled block is right by that, and a block without a label
only if no labelled block stands before it or the last of them is called like the file
(`TopBlock.attributed_iff`).
-/

namespace PortSurvey.Artifact.Provisioning

open Text

/-- A block of a description: a header line that ends with a brace, rows without braces, and a
closing line. -/
structure TopBlock where
  /-- The header line. -/
  opening : Row
  /-- The header, if it gives the block a label that names its services. -/
  header? : Option Header
  /-- The rows between the header line and the closing line. -/
  body : List Row
  /-- The closing line. -/
  closing : Row
  /-- The header stands on the header line. -/
  opening_header : ∀ h ∈ header?, opening.line = h.line
  /-- A block without such a header is of another kind. -/
  opening_other : header? = none → Other opening.line
  /-- The header line ends with a brace. -/
  opening_brace : opening.line.getLast? = some '\x7b'
  /-- No row between begins like a header. -/
  body_plain : ∀ r ∈ body, Plain r.line
  /-- No row between has a brace. -/
  body_braces : ∀ r ∈ body, '\x7b' ∉ r.line ∧ '\x7d' ∉ r.line
  /-- The closing line begins with a brace. -/
  closing_brace : closing.line.head? = some '\x7d'

namespace TopBlock

/-- A block up to its closing line. -/
def inner (b : TopBlock) : List Char :=
  b.opening.text ++ b.body.flatMap Row.text

/-- A block as it is written. -/
def text (b : TopBlock) : List Char :=
  b.inner ++ b.closing.text

/-- The label of a block, if it names the services of the block. -/
def label? (b : TopBlock) : Option String :=
  b.header?.map Header.label

/-- The service that a block should name: its label, or the file if it has none. -/
def owner (file : File) (b : TopBlock) : String :=
  b.label?.getD (serviceOf file none)

/-! ## The headers of a sequence of blocks -/

/-- No name of a block is empty or begins with a brace. -/
theorem head?_of_mem_headerNames :
    ∀ name ∈ headerNames, name.toList ≠ [] ∧ name.toList.head? ≠ some '\x7d' := by
  decide

/-- A line that begins with a closing brace does not begin like a header. -/
theorem closing_plain (b : TopBlock) : Plain b.closing.line := by
  intro name hname rest hrest
  obtain ⟨hne, hhead⟩ := head?_of_mem_headerNames name hname
  have hbrace := b.closing_brace
  rw [eq_of_afterWord? hrest, List.head?_append_of_ne_nil _ hne] at hbrace
  exact absurd hbrace hhead

/-- The search for headers passes over rows that do not begin like one. -/
theorem occurrencesFrom_of_plain_rows {rows : List Row} (hplain : ∀ r ∈ rows, Plain r.line)
    (offset : Nat) (rest : List Char) :
    occurrencesFrom headerAt? offset 0 (some '\n') (rows.flatMap Row.text ++ rest) =
      occurrencesFrom headerAt? (offset + (rows.flatMap Row.text).length) 0 (some '\n') rest := by
  induction rows generalizing offset with
  | nil => rfl
  | cons r rows ih =>
    have hrest : ∀ x ∈ rows, Plain x.line := fun x hx => hplain x (List.mem_cons_of_mem r hx)
    rw [List.flatMap_cons, List.append_assoc,
      r.occurrencesFrom_of_plain (hplain r List.mem_cons_self), ih hrest, List.length_append,
      Nat.add_assoc]

/-- The search for headers finds that of a block, if it has one, up to its closing line. -/
theorem occurrencesFrom_inner (b : TopBlock) (offset : Nat) {prev : Option Char}
    (hprev : BeginsLine prev) (rest : List Char) :
    occurrencesFrom headerAt? offset 0 prev (b.inner ++ rest) =
      (b.header?.map fun h => (offset, h.type, h.label)).toList ++
        occurrencesFrom headerAt? (offset + b.inner.length) 0 (some '\n') rest := by
  have hlength : offset + b.inner.length =
      offset + b.opening.text.length + (b.body.flatMap Row.text).length := by
    unfold inner
    rw [List.length_append, Nat.add_assoc]
  rw [hlength, ← occurrencesFrom_of_plain_rows b.body_plain]
  unfold inner
  rw [List.append_assoc]
  cases hheader : b.header? with
  | none =>
    exact b.opening.occurrencesFrom_of_plain (b.opening_other hheader).plain offset prev _
  | some h =>
    exact b.opening.occurrencesFrom_of_header h (b.opening_header h hheader) offset hprev _

/-- The search for headers finds that of a block, if it has one, and goes on behind the block. -/
theorem occurrencesFrom_text (b : TopBlock) (offset : Nat) {prev : Option Char}
    (hprev : BeginsLine prev) (rest : List Char) :
    occurrencesFrom headerAt? offset 0 prev (b.text ++ rest) =
      (b.header?.map fun h => (offset, h.type, h.label)).toList ++
        occurrencesFrom headerAt? (offset + b.text.length) 0 (some '\n') rest := by
  unfold text
  rw [List.append_assoc, b.occurrencesFrom_inner offset hprev,
    b.closing.occurrencesFrom_of_plain b.closing_plain, List.length_append, Nat.add_assoc]

/-- The search for headers finds those of the labelled blocks in a sequence of blocks, in order. -/
theorem occurrencesFrom_flatMap (bs : List TopBlock) (offset : Nat) {prev : Option Char}
    (hprev : BeginsLine prev) (rest : List Char) : ∃ found prev',
      occurrencesFrom headerAt? offset 0 prev (bs.flatMap text ++ rest) =
        found ++ occurrencesFrom headerAt? (offset + (bs.flatMap text).length) 0 prev' rest ∧
      BeginsLine prev' ∧ found.map (·.2.2) = bs.filterMap label? ∧
      ∀ x ∈ found, x.1 ≤ offset + (bs.flatMap text).length := by
  -- The search is at the front of a line before each block.
  induction bs generalizing offset prev with
  | nil => exact ⟨[], prev, rfl, hprev, rfl, fun x hx => absurd hx List.not_mem_nil⟩
  | cons b bs ih =>
    obtain ⟨found, prev', heq, hprev', hlabels, hbound⟩ := ih (offset + b.text.length) (.inr rfl)
    refine ⟨(b.header?.map fun h => (offset, h.type, h.label)).toList ++ found, prev', ?_, hprev',
      ?_, fun x hx => ?_⟩
    · rw [List.flatMap_cons, List.append_assoc, b.occurrencesFrom_text offset hprev, heq,
        List.append_assoc, List.length_append, Nat.add_assoc]
    · rw [List.map_append, hlabels, List.filterMap_cons]
      unfold label?
      cases b.header? <;> rfl
    · rw [List.flatMap_cons, List.length_append]
      rcases List.mem_append.mp hx with hown | hlater
      · obtain ⟨h, -, rfl⟩ := Option.map_eq_some_iff.mp (Option.mem_toList.mp hown)
        exact Nat.le_add_right _ _
      · have hle := hbound x hlater
        omega

/-- The headers of a text that begins with a sequence of blocks are those of the labelled blocks up
to the last block of the sequence, and others that begin behind the rows of that one. -/
theorem blocksOf_eq {earlier : List TopBlock} {b : TopBlock} {after s : List Char}
    (hs : s = earlier.flatMap text ++ (b.inner ++ after)) : ∃ own later,
      blocksOf s = own ++ later ∧ own.map (·.label) = (earlier ++ [b]).filterMap label? ∧
      (∀ x ∈ own, x.start ≤ (earlier.flatMap text).length) ∧
      ∀ x ∈ later, (earlier.flatMap text).length + b.inner.length ≤ x.start := by
  obtain ⟨found, prev, heq, hprev, hlabels, hbound⟩ :=
    occurrencesFrom_flatMap earlier 0 (.inl rfl) (b.inner ++ after)
  rw [Nat.zero_add] at heq hbound
  rw [b.occurrencesFrom_inner _ hprev] at heq
  generalize hlast : (b.header?.map fun h =>
    ((earlier.flatMap text).length, h.type, h.label)).toList = last at heq
  generalize hlater : occurrencesFrom headerAt? ((earlier.flatMap text).length + b.inner.length) 0
    (some '\n') after = later at heq
  refine ⟨(found ++ last).map fun x => ⟨x.1, x.2.1, x.2.2⟩,
    later.map fun x => ⟨x.1, x.2.1, x.2.2⟩, ?_, ?_, fun x hx => ?_, fun x hx => ?_⟩
  · unfold blocksOf occurrences
    rw [hs, heq, ← List.append_assoc, List.map_append]
  · have hlastLabels : last.map (·.2.2) = [b].filterMap label? := by
      rw [← hlast, List.filterMap_cons]
      unfold label?
      cases b.header? <;> rfl
    rw [List.map_map, List.filterMap_append, ← hlabels, ← hlastLabels, ← List.map_append]
    rfl
  · obtain ⟨y, hy, rfl⟩ := List.mem_map.mp hx
    rcases List.mem_append.mp hy with hfound | hown
    · exact hbound y hfound
    · rw [← hlast] at hown
      obtain ⟨h, -, rfl⟩ := Option.map_eq_some_iff.mp (Option.mem_toList.mp hown)
      exact Nat.le_refl _
  · obtain ⟨y, hy, rfl⟩ := List.mem_map.mp hx
    rw [← hlater] at hy
    exact (bounds_of_mem_occurrencesFrom hy).1

/-! ## The services that are named -/

/-- The label of the last labelled block among some names a service, or else the file does. -/
def lastOwner (file : File) (bs : List TopBlock) : String :=
  (bs.filterMap label?).getLast?.getD (serviceOf file none)

/-- A place in a block, from the blank lines before it up to its closing line, belongs to the last
labelled block that begins before it. -/
theorem serviceOf_blockAt? (file : File) {earlier : List TopBlock} {b : TopBlock}
    {after s : List Char} (hs : s = earlier.flatMap text ++ (b.inner ++ after)) {offset : Nat}
    (hlow : (earlier.flatMap text).length ≤ offset)
    (hhigh : offset < (earlier.flatMap text).length + b.inner.length) :
    serviceOf file (blockWith? (blocksOf s) (blockAt? (blocksOf s) offset)) =
      lastOwner file (earlier ++ [b]) := by
  obtain ⟨own, later, heq, hlabels, hown, hlater⟩ := blocksOf_eq hs
  have hkept : own.filter (fun x => decide (x.start ≤ offset)) = own :=
    List.filter_eq_self.mpr fun x hx => decide_eq_true (Nat.le_trans (hown x hx) hlow)
  have hlost : later.filter (fun x => decide (x.start ≤ offset)) = [] := by
    refine List.filter_eq_nil_iff.mpr fun x hx => ?_
    have hbehind := hlater x hx
    rw [decide_eq_true_iff]
    omega
  rw [blockWith?_blockAt?, heq, List.filter_append, hkept, hlost, List.append_nil]
  unfold lastOwner
  rw [← hlabels, List.getLast?_map]
  cases own.getLast? <;> rfl

/-- A line of a text that begins with some blocks belongs to the last of them, up to its closing
line: it stands behind the others, and not behind the rows of that one. -/
def HasLine (earlier : List TopBlock) (b : TopBlock) (line : Nat) : Prop :=
  (earlier.flatMap text).count '\n' < line ∧
    line ≤ (earlier.flatMap text ++ b.inner).count '\n'

/-- Blocks end with a line feed, if there are blocks at all. -/
theorem getLast?_flatMap_text (bs : List TopBlock) :
    bs.flatMap text = [] ∨ (bs.flatMap text).getLast? = some '\n' := by
  rcases List.eq_nil_or_concat' bs with rfl | ⟨bs, b, rfl⟩
  · exact .inl rfl
  · refine .inr ?_
    have hlast : b.text.getLast? = some '\n' := by
      unfold text
      rw [List.getLast?_append, b.closing.getLast?_text, Option.some_or]
    rw [List.flatMap_append, List.flatMap_singleton, List.getLast?_append, hlast, Option.some_or]

/-- A place whose line belongs to a block stands in it. -/
theorem bounds_of_hasLine {earlier : List TopBlock} {b : TopBlock} {after s : List Char}
    (hs : s = earlier.flatMap text ++ (b.inner ++ after)) {offset : Nat}
    (h : HasLine earlier b (lineAt s offset)) :
    (earlier.flatMap text).length ≤ offset ∧
      offset < (earlier.flatMap text).length + b.inner.length := by
  obtain ⟨hlow, hhigh⟩ := h
  constructor
  · by_contra hlt
    rw [Nat.not_le] at hlt
    rcases getLast?_flatMap_text earlier with hnil | hend
    · rw [hnil] at hlt
      exact Nat.not_lt_zero _ hlt
    · have hle := lineAt_le_count hend (b.inner ++ after) hlt
      rw [← hs] at hle
      omega
  · by_contra hge
    rw [Nat.not_lt, ← List.length_append] at hge
    have hlt := count_lt_lineAt (earlier.flatMap text ++ b.inner) after hge
    rw [List.append_assoc, ← hs] at hlt
    omega

/-- With one more block its label is the last, if it has one. -/
theorem lastOwner_concat (file : File) (bs : List TopBlock) (b : TopBlock) :
    lastOwner file (bs ++ [b]) = b.label?.getD (lastOwner file bs) := by
  unfold lastOwner
  rw [List.filterMap_append, List.filterMap_cons]
  cases b.label? with
  | none => rw [List.filterMap_nil, List.append_nil, Option.getD_none]
  | some l => rw [List.filterMap_nil, List.getLast?_concat, Option.getD_some, Option.getD_some]

/-- What a block declares, on a line up to its closing line, goes under the label of the last
labelled block that begins before the line, or else under the name of the file. That is the service
which the block should name exactly if the block has a label, or no labelled block stands before it
except one that is called like the file. -/
theorem attributed_iff (file : File) {earlier : List TopBlock} {b : TopBlock} {after : List Char}
    {content : String} (hcontent : content.toList = earlier.flatMap text ++ (b.inner ++ after)) :
    (∀ line port, Names content.toList line port ↔
        ∃ d ∈ read file content, d.line = some line ∧ d.containerPort = port) ∧
      ∀ d ∈ read file content, ∀ line ∈ d.line, HasLine earlier b line →
        d.service = lastOwner file (earlier ++ [b]) ∧
        (d.service = b.owner file ↔
          b.label?.isSome = true ∨ lastOwner file earlier = serviceOf file none) := by
  refine ⟨fun line port => names_iff, fun d hd line hline hin => ?_⟩
  obtain ⟨offset, hplace, hservice⟩ := exists_place_of_mem_read hd
  have hsame : line = lineAt content.toList offset := Option.some.inj (hline.symm.trans hplace)
  obtain ⟨hlow, hhigh⟩ := bounds_of_hasLine hcontent (hsame ▸ hin)
  rw [serviceOf_blockAt? file hcontent hlow hhigh] at hservice
  refine ⟨hservice, ?_⟩
  rw [hservice, lastOwner_concat]
  unfold owner
  cases b.label? with
  | none => simp
  | some l => simp

/-- A row with an indentation of two blanks, which assigns 9000 to `port`. -/
def portRow : Row where
  lead := [' ', ' ']
  line := "port = 9000".toList
  lead_blank := List.all_eq_true.mp rfl
  line_head := ⟨'p', rfl, rfl⟩
  line_feed := by decide

/-- A row that closes a block. -/
def closingRow : Row where
  lead := []
  line := ['\x7d']
  lead_blank := List.all_eq_true.mp rfl
  line_head := ⟨'\x7d', rfl, rfl⟩
  line_feed := by decide

/-- A row that assigns to `port` does not begin like a header. -/
theorem portRow_plain : ∀ r ∈ [portRow], Plain r.line :=
  List.forall_mem_singleton.mpr (other_of_afterWord?_eq_none (by decide)).plain

/-- A block of settings without a label. -/
def settings : TopBlock where
  opening :=
    { lead := []
      line := "locals \x7b".toList
      lead_blank := List.all_eq_true.mp rfl
      line_head := ⟨'l', rfl, rfl⟩
      line_feed := by decide }
  header? := none
  body := [portRow]
  closing := closingRow
  opening_header := fun h hheader => by cases hheader
  opening_other := fun _ => other_of_afterWord?_eq_none (by decide)
  opening_brace := by decide
  body_plain := portRow_plain
  body_braces := by decide
  closing_brace := rfl

/-- The header of a resource with the label `api`. -/
def apiHeader : Header where
  kind := "resource"
  first := ⟨[' '], ['x'], by decide, isBlank_of_mem_space, by decide, by decide⟩
  second := some ⟨[' '], "api".toList, by decide, isBlank_of_mem_space, by decide, by decide⟩
  close := [' ']
  kind_mem := by decide
  close_blank := isBlank_of_mem_space

/-- A block with the label `api`. -/
def api : TopBlock where
  opening :=
    { lead := []
      line := apiHeader.line
      lead_blank := List.all_eq_true.mp rfl
      line_head := ⟨'r', rfl, rfl⟩
      line_feed := by decide }
  header? := some apiHeader
  body := [portRow]
  closing := closingRow
  opening_header := fun h hheader => congrArg Header.line (Option.some.inj hheader)
  opening_other := fun hnone => by cases hnone
  opening_brace := by decide
  body_plain := portRow_plain
  body_braces := by decide
  closing_brace := rfl

/-- A labelled block behind another block declares under its label. -/
theorem attributed_iff_api :
    let file : File := ⟨⟨"infra/main.tf"⟩, "infra/main.tf", "infra"⟩
    let content := String.ofList ([settings].flatMap text ++ (api.inner ++ api.closing.text))
    HasLine [settings] api 5 ∧
      ∃ d ∈ read file content, d.line = some 5 ∧ d.containerPort = 9000 ∧ d.service = "api" := by
  intro file content
  have hin : HasLine [settings] api 5 := by
    unfold HasLine
    decide
  have hcontent : content.toList = [settings].flatMap text ++ (api.inner ++ api.closing.text) :=
    String.toList_ofList
  obtain ⟨-, hservice⟩ := attributed_iff file hcontent
  obtain ⟨d, hd, hline, hport⟩ : ∃ d ∈ ofSites file (blocksOf content.toList)
      (sitesOf (blocksOf content.toList) content.toList),
      d.line = some 5 ∧ d.containerPort = 9000 := by
    decide +kernel
  have hread : d ∈ read file content := mem_read_iff.mpr (.inl hd)
  exact ⟨hin, d, hread, hline, hport, (hservice d hread 5 hline hin).2.mpr (.inl rfl)⟩

/-- Behind a labelled block, a block without a label declares under the label of that one. -/
theorem not_attributed :
    let file : File := ⟨⟨"infra/main.tf"⟩, "infra/main.tf", "infra"⟩
    let content := String.ofList ([api].flatMap text ++ (settings.inner ++ settings.closing.text))
    HasLine [api] settings 5 ∧ settings.owner file = "main" ∧
      ∃ d ∈ read file content,
        d.line = some 5 ∧ d.containerPort = 9000 ∧ d.service = "api" := by
  intro file content
  obtain ⟨d, hd, hline, hport, hservice⟩ : ∃ d ∈ ofSites file (blocksOf content.toList)
      (sitesOf (blocksOf content.toList) content.toList),
      d.line = some 5 ∧ d.containerPort = 9000 ∧ d.service = "api" := by
    decide +kernel
  refine ⟨?_, by decide +kernel, d, mem_read_iff.mpr (.inl hd), hline, hport, hservice⟩
  unfold HasLine
  decide

end TopBlock

end PortSurvey.Artifact.Provisioning
