import PortSurvey.Proofs.Artifact.Provisioning.Assignment
import PortSurvey.Proofs.Artifact.Provisioning.Reach
import PortSurvey.Proofs.Artifact.Provisioning.Shift

/-!
# Comments do not matter

The searches run over comments too, and only assignments and pairs that begin in a comment are left
out. Still nothing of a comment shows in what is declared (`read_of_comment`). Headers do not begin in a
comment, since no line begins there, and do not reach into one, since their strings close before it
(`headers_splits`). An assignment that begins in a comment may reach over the end of the line, but hides
none there, because no assignment begins inside another; a pair does not reach over the end
(`SeesLines.splits`). So a comment does no more than move what stands behind it (`moves_comment`).
-/

namespace PortSurvey.Artifact.Provisioning

open Text

variable {α : Type} {p : Recogniser α} {front mark comment back : List Char}

/-! ## Finding before and behind a comment -/

/-- What a place becomes when a number of characters is put in where `start` is. -/
def shifted (start length offset : Nat) : Nat :=
  if offset < start then offset else offset + length

/-- Places keep their order when characters are put in. -/
theorem shifted_strictMono (start length : Nat) : StrictMono (shifted start length) := by
  intro m n h
  unfold shifted
  split_ifs <;> omega

/-- What is found in a text with a comment is what is found before the comment and what is found on the
lines behind it. -/
structure Splits (find : List Char → List (Nat × α)) (front mark back : List Char) : Prop where
  /-- What is found before the comment is found at places before the comment. -/
  before : ∀ x ∈ find front, x.1 < front.length
  /-- Nothing is found in the comment or over its ends. -/
  eq : ∀ comment, '\n' ∉ comment → find (front ++ (mark ++ (comment ++ back))) =
    find front ++ (find back.tail).map
      (Prod.map (· + ((front ++ (mark ++ comment)).length + 1)) id)

/-- What is found with a comment is what is found without it, at other places. -/
theorem Splits.eq_map_shifted {find : List Char → List (Nat × α)} (h : Splits find front mark back)
    (hcomment : '\n' ∉ comment) : find (front ++ (mark ++ (comment ++ back))) =
      (find (front ++ (mark ++ back))).map
        (Prod.map (shifted (front ++ mark).length comment.length) id) := by
  have hempty := h.eq [] List.not_mem_nil
  rw [List.nil_append, List.append_nil] at hempty
  have hbefore : (find front).map (Prod.map (shifted (front ++ mark).length comment.length) id) =
      find front := by
    refine (List.map_congr_left fun x hx => ?_).trans (List.map_id _)
    have hlt : x.1 < (front ++ mark).length := by
      rw [List.length_append]
      exact Nat.lt_add_right _ (h.before x hx)
    exact Prod.ext (if_pos hlt) rfl
  rw [h.eq comment hcomment, hempty, List.map_append, hbefore, List.map_map]
  refine congrArg _ (List.map_congr_left fun x _ => Prod.ext ?_ rfl)
  simp only [Function.comp_apply, Prod.map_fst, shifted, List.length_append]
  split_ifs <;> omega

/-- A place is on the same line when characters are put in that do not end a line. -/
theorem lineAt_shifted (hcomment : '\n' ∉ comment) (before back : List Char) (offset : Nat) :
    lineAt (before ++ (comment ++ back)) (shifted before.length comment.length offset) =
      lineAt (before ++ back) offset := by
  unfold lineAt shifted
  split_ifs with hlt
  · rw [List.take_append_of_le_length hlt.le, List.take_append_of_le_length hlt.le]
  · obtain ⟨k, rfl⟩ := Nat.exists_eq_add_of_le (Nat.not_lt.mp hlt)
    have hplace : before.length + k + comment.length = before.length + (comment.length + k) := by
      omega
    rw [hplace, List.take_length_add_append, List.take_length_add_append,
      List.take_length_add_append, List.count_append, List.count_append, List.count_append,
      List.count_eq_zero_of_not_mem hcomment, Nat.zero_add]

/-! ## Searches around a comment -/

/-- A text goes on with nothing or with the end of a line. -/
def EndsLine (back : List Char) : Prop :=
  ∀ c ∈ back.head?, c = '\n'

/-- A search does not tell the begin of a text from the begin of a line. -/
theorem occurrences_eq_of_begin (hbegin : ∀ s, p (some '\n') s = p none s) (offset : Nat)
    (s : List Char) : occurrencesFrom p offset 0 (some '\n') s =
      (occurrences p s).map (Prod.map (· + offset) id) := by
  have hprev : occurrencesFrom p offset 0 (some '\n') s = occurrencesFrom p offset 0 none s := by
    cases s with
    | nil => rfl
    | cons c s => rw [occurrencesFrom, occurrencesFrom, hbegin]
  rw [hprev]
  unfold occurrences
  rw [← occurrencesFrom_add, Nat.zero_add]

/-- No comment mark is empty. -/
theorem ne_nil_of_mem_commentMarks : ∀ mark ∈ commentMarks, mark ≠ [] := by
  unfold commentMarks
  decide

/-- All of a comment mark begins one. -/
theorem beginsMark_of_mem : ∀ mark ∈ commentMarks, ∀ c ∈ mark, BeginsMark c := by
  unfold commentMarks BeginsMark
  decide

/-- A search finds nothing in a comment mark if it finds nothing where one begins. -/
theorem occurrencesFrom_mark (hnone : ∀ {c : Char}, BeginsMark c → ∀ prev rest,
      p prev (c :: rest) = none) (hmark : mark ∈ commentMarks) (before rest : List Char) :
    occurrencesFrom p before.length 0 before.getLast? (mark ++ rest) =
      occurrencesFrom p (before ++ mark).length 0 (before ++ mark).getLast? rest := by
  rw [List.length_append, List.getLast?_append]
  refine occurrencesFrom_of_quiet rest (Nat.zero_le _) fun k _ hk => ?_
  rw [List.drop_eq_getElem_cons hk]
  exact hnone (beginsMark_of_mem mark hmark _ (List.getElem_mem hk)) _ _

/-! ## Headers -/

/-- No header begins with a comment mark. -/
theorem headerAt?_of_mark {c : Char} (hc : BeginsMark c) (prev : Option Char) (rest : List Char) :
    headerAt? prev (c :: rest) = none := by
  have hempty : ∀ name ∈ headerNames, afterWord? name (trimStartChars []) = none := by decide
  have hjoined := headerAt?_append_of_no_name hc hempty prev rest
  rw [List.nil_append] at hjoined
  exact hjoined.trans (headerAt?_of_plain (other_of_afterWord?_eq_none hempty).plain prev)

/-- A header is not told from the begin of a text if it stands at the begin of a line. -/
theorem headerAt?_begin (s : List Char) : headerAt? (some '\n') s = headerAt? none s := by
  rw [headerAt?_eq (.inr rfl), headerAt?_eq (.inl rfl)]

/-- No header that is found in a text has a backslash. -/
def PlainHeaders (s : List Char) : Prop :=
  ∀ x ∈ occurrences headerAt? s, ∀ y ∈ Recogniser.at? headerAt? s x.1,
    '\\' ∉ (s.drop x.1).take y.2

/-- From the begin of one of its lines on, a text ends outside strings and comments if it does. -/
theorem EndsOutside.drop {s : List Char} (h : EndsOutside s) {k : Nat}
    (hk : BeginsLine (s.take k).getLast?) : EndsOutside (s.drop k) := by
  rw [← List.take_append_drop k s] at h
  rcases hk with hnone | hfeed
  · rwa [List.getLast?_eq_none_iff.mp hnone, List.nil_append] at h
  · obtain ⟨line, hline⟩ := List.getLast?_eq_some_iff.mp hfeed
    rw [hline, List.append_assoc, List.singleton_append] at h
    exact h.of_lineFeed

/-- The headers before a comment do not depend on the comment, nor on what follows, if none has a
backslash. -/
theorem occurrences_headers (hfront : EndsOutside front) {c : Char} (hc : BeginsMark c)
    {rest : List Char} (hplain : PlainHeaders (front ++ c :: rest)) (t : List Char) :
    occurrences headerAt? (front ++ c :: t) = occurrences headerAt? front ++
      occurrencesFrom headerAt? front.length 0 front.getLast? (c :: t) := by
  have hsteady : headerAt?.Steady (fun t => ∃ more, t = c :: more)
      (fun offset => ∀ y ∈ Recogniser.at? headerAt? (front ++ c :: rest) offset,
        '\\' ∉ ((front ++ c :: rest).drop offset).take y.2) (c :: rest) 0 none front := by
    intro k hk
    rw [Option.or_none, Nat.zero_add]
    by_cases hline : BeginsLine (front.take k).getLast?
    · refine (headerAt?_stops hc (hfront.drop hline) hline).imp ?_ fun hslash => ?_
      · rintro hstops t ⟨more, rfl⟩
        exact hstops more
      · obtain ⟨x, hx, hmem⟩ := hslash rest
        refine ⟨by rw [hx]; simp, fun hgood => hgood x ?_ ?_⟩
        · unfold Recogniser.at?
          rwa [List.take_append_of_le_length hk.le, List.drop_append_of_le_length hk.le]
        · rwa [List.drop_append_of_le_length hk.le]
    · refine .inl fun t _ => ?_
      rw [headerAt?_of_not_beginsLine hline, headerAt?_of_not_beginsLine hline]
  have hall := hsteady.occurrencesFrom_append headerAt?_fits (Nat.zero_le _) ⟨rest, rfl⟩ hplain
    ⟨t, rfl⟩
  rwa [Nat.zero_add, Option.or_none] at hall

/-- There are no headers on a line from a comment on, and none over its end. -/
theorem occurrencesFrom_line {c : Char} (hc : BeginsMark c) {line : List Char}
    (hline : '\n' ∉ c :: line) (hback : EndsLine back) (offset : Nat) (prev : Option Char) :
    occurrencesFrom headerAt? offset 0 prev (c :: line ++ back) =
      occurrencesFrom headerAt? (offset + (c :: line).length + 1) 0 (some '\n') back.tail := by
  have hquiet : ∀ k, 0 ≤ k → k < (c :: line).length →
      headerAt? (((c :: line).take k).getLast?.or prev) ((c :: line).drop k ++ back) = none := by
    intro k _ _
    cases hlast : ((c :: line).take k).getLast? with
    | none =>
      have hk : (c :: line).take k = [] := List.getLast?_eq_none_iff.mp hlast
      rw [List.take_eq_nil_iff.mp hk |>.resolve_right (List.cons_ne_nil c line)]
      exact headerAt?_of_mark hc _ _
    | some x =>
      rw [Option.some_or]
      exact headerAt?_of_prev (fun hfeed => hline (hfeed ▸
        List.mem_of_mem_take (List.mem_of_getLast? hlast))) _
  rw [occurrencesFrom_of_quiet back (Nat.zero_le _) hquiet]
  cases back with
  | nil => rfl
  | cons x rest =>
    obtain rfl : x = '\n' := hback x rfl
    obtain ⟨last, hlast⟩ : ∃ last, (c :: line).getLast? = some last :=
      ⟨_, List.getLast?_eq_some_getLast (List.cons_ne_nil c line)⟩
    have hnone : headerAt? (((c :: line).getLast?).or prev) ('\n' :: rest) = none := by
      rw [hlast, Option.some_or]
      exact headerAt?_of_prev (fun hfeed => hline (hfeed ▸ List.mem_of_getLast? hlast)) _
    rw [occurrencesFrom, hnone]
    rfl

/-- The headers of a text with a comment are those before the comment and those on the lines behind
it, if no header has a backslash. -/
theorem headers_splits (hfront : EndsOutside front) (hmark : mark ∈ commentMarks)
    (hback : EndsLine back) (hplain : PlainHeaders (front ++ (mark ++ (comment ++ back)))) :
    Splits (occurrences headerAt?) front mark back := by
  refine ⟨fun x hx => lt_length_of_mem_occurrences hx, fun comment' hcomment' => ?_⟩
  obtain ⟨c, more, rfl⟩ := List.exists_cons_of_ne_nil (ne_nil_of_mem_commentMarks mark hmark)
  have hc : BeginsMark c := beginsMark_of_mem _ hmark c List.mem_cons_self
  have hline : '\n' ∉ c :: (more ++ comment') := by
    have hfeed := lineFeed_notMem_of_mem_commentMarks _ hmark
    rw [← List.cons_append, List.mem_append, not_or]
    exact ⟨hfeed, hcomment'⟩
  have hjoin : c :: more ++ (comment' ++ back) = c :: (more ++ comment') ++ back := by simp
  rw [List.cons_append] at hplain ⊢
  rw [occurrences_headers hfront hc hplain, ← List.cons_append, hjoin,
    occurrencesFrom_line hc hline hback, occurrences_eq_of_begin headerAt?_begin]
  simp only [List.length_append, List.length_cons, List.cons_append]

/-! ## Assignments and pairs -/

/-- A search looks at each line behind a comment as at a text of its own. -/
structure SeesLines (p : Recogniser α) : Prop where
  /-- What is accepted uses no more characters than there are. -/
  fits : p.Fits
  /-- Nothing is accepted in an empty text. -/
  empty : ∀ prev, p prev [] = none
  /-- Nothing that is accepted reaches into a comment. -/
  stops : ∀ {c : Char}, BeginsMark c → p.StopsAt c
  /-- The begin of a line is not told from the begin of a text. -/
  begin : ∀ s, p (some '\n') s = p none s
  /-- What is found in a comment, or over its end, does not matter for what is found on the lines
  behind it. -/
  passes : ∀ {before comment back : List Char}, '\n' ∉ comment → EndsLine back → ∃ found,
    occurrencesFrom p before.length 0 before.getLast? (comment ++ back) =
      found ++ occurrencesFrom p ((before ++ comment).length + 1) 0 (some '\n') back.tail ∧
    ∀ x ∈ found, before.length ≤ x.1 ∧ x.1 ≤ (before ++ comment).length

/-- What is found in a text with a comment is what is found before it, what is found in it and what is
found on the lines behind it. -/
theorem SeesLines.exists_occurrences_eq (hp : SeesLines p) (front : List Char)
    (hmark : mark ∈ commentMarks) (hcomment : '\n' ∉ comment) (hback : EndsLine back) : ∃ found,
    occurrences p (front ++ (mark ++ (comment ++ back))) = occurrences p front ++
      (found ++ (occurrences p back.tail).map
        (Prod.map (· + ((front ++ (mark ++ comment)).length + 1)) id)) ∧
    ∀ x ∈ found, (front ++ mark).length ≤ x.1 ∧ x.1 ≤ (front ++ (mark ++ comment)).length := by
  obtain ⟨c, more, hcons⟩ := List.exists_cons_of_ne_nil (ne_nil_of_mem_commentMarks mark hmark)
  have hc : BeginsMark c := beginsMark_of_mem mark hmark c (by rw [hcons]; exact List.mem_cons_self)
  have hnone : ∀ {c : Char}, BeginsMark c → ∀ prev rest, p prev (c :: rest) = none :=
    fun hc prev rest => (hp.stops hc prev [] rest).trans (hp.empty prev)
  obtain ⟨found, hfound, hbounds⟩ := @SeesLines.passes _ _ hp (front ++ mark) comment back hcomment
    hback
  rw [List.append_assoc] at hfound hbounds
  refine ⟨found, ?_, hbounds⟩
  have hsplit := (hp.stops hc).occurrencesFrom_append hp.fits 0 none front
    (more ++ (comment ++ back))
  rw [← List.cons_append, ← hcons, Nat.zero_add, Option.or_none, occurrencesFrom_mark hnone hmark,
    hfound, occurrences_eq_of_begin hp.begin] at hsplit
  exact hsplit

/-- A place on the lines behind a line is in a comment if it is so in these lines alone. -/
theorem isCommented_behind (line : List Char) (hback : EndsLine back) (hne : back ≠ []) (k : Nat) :
    isCommented (line ++ back) (k + (line.length + 1)) = isCommented back.tail k := by
  obtain ⟨x, rest, rfl⟩ := List.exists_cons_of_ne_nil hne
  obtain rfl : x = '\n' := hback x rfl
  have hplace := isCommented_append_lineFeed line rest k
  rwa [Nat.add_comm] at hplace

/-- What is found outside comments in a text with a comment is what is found before the comment and
what is found on the lines behind it. -/
theorem SeesLines.splits (hp : SeesLines p) (hfront : EndsOutside front)
    (hmark : mark ∈ commentMarks) (hback : EndsLine back) : Splits (outside p) front mark back := by
  refine ⟨fun x hx => lt_length_of_mem_occurrences (List.mem_filter.mp hx).1,
    fun comment hcomment => ?_⟩
  obtain ⟨found, hall, hbounds⟩ := hp.exists_occurrences_eq front hmark hcomment hback
  have hfirst : ∀ x ∈ occurrences p front,
      (!isCommented (front ++ (mark ++ (comment ++ back))) x.1) = !isCommented front x.1 :=
    fun x hx => congrArg _ (isCommented_append _ (lt_length_of_mem_occurrences hx).le)
  have hinside : found.filter (fun x =>
      !isCommented (front ++ (mark ++ (comment ++ back))) x.1) = [] := by
    refine List.filter_eq_nil_iff.mpr fun x hx => ?_
    obtain ⟨hlow, hhigh⟩ := hbounds x hx
    rw [isCommented_of_mark hfront hmark hcomment back hlow hhigh]
    exact Bool.false_ne_true
  unfold outside
  rw [hall, List.filter_append, List.filter_append, List.filter_congr hfirst, hinside,
    List.nil_append, List.filter_map]
  by_cases hne : back = []
  · rw [hne]
    rfl
  · refine congrArg (_ ++ List.map _ ·) (List.filter_congr fun y _ => ?_)
    have hbehind := isCommented_behind (front ++ (mark ++ comment)) hback hne y.1
    rw [List.append_assoc, List.append_assoc] at hbehind
    exact congrArg _ hbehind

/-- Assignments are searched for line by line behind comments. -/
theorem assignmentAt?_seesLines : SeesLines assignmentAt? := by
  have hends : ∀ {c : Char}, BeginsMark c → EndsAssignment c := by
    intro c hc
    refine ⟨?_, ?_, ?_, ?_⟩ <;> revert c <;> unfold BeginsMark <;> decide
  refine ⟨assignmentAt?_fits, fun prev => ?_, fun hc => assignmentAt?_stopsAt (hends hc),
    fun s => ?_, fun {before comment back} hcomment hback => ?_⟩
  · unfold assignmentAt?
    split_ifs
    · rfl
    · decide
  · have hword : (some '\n').any isWordChar = false := by decide
    unfold assignmentAt?
    rw [hword]
    rfl
  · cases back with
    | nil =>
      obtain ⟨found, hfound, hbounds⟩ :=
        assignmentAt?_apart.exists_occurrencesFrom_append before comment []
      exact ⟨found, hfound, fun x hx => ⟨(hbounds x hx).1, (hbounds x hx).2.le⟩⟩
    | cons c rest =>
      obtain rfl : c = '\n' := hback c rfl
      obtain ⟨found, hfound, hbounds⟩ :=
        assignmentAt?_apart.exists_occurrencesFrom_append before (comment ++ ['\n']) rest
      rw [← List.append_assoc before, List.length_append, List.getLast?_concat, List.append_assoc,
        List.singleton_append] at hfound
      refine ⟨found, hfound, fun x hx => ⟨(hbounds x hx).1, ?_⟩⟩
      have hlt := (hbounds x hx).2
      rw [← List.append_assoc, List.length_append, List.length_singleton] at hlt
      exact Nat.le_of_lt_succ hlt

/-- Pairs are searched for line by line. -/
theorem pairAt?_seesLines : SeesLines pairAt? := by
  have hstops : ∀ {c : Char}, c ∈ ['#', '/', '\n'] → pairAt?.StopsAt c := by
    intro c hc
    refine pairAt?_stopsAt ?_ ?_ ?_ <;> revert c <;> decide
  have hempty : ∀ prev, pairAt? prev [] = none := fun _ => rfl
  refine ⟨pairAt?_fits, hempty, fun hc => hstops (List.mem_append_left ['\n'] hc), fun s => rfl,
    fun {before comment back} hcomment hback => ?_⟩
  have hbounds : ∀ x ∈ occurrencesFrom pairAt? before.length 0 before.getLast? comment,
      before.length ≤ x.1 ∧ x.1 ≤ (before ++ comment).length := by
    intro x hx
    obtain ⟨hlow, hhigh⟩ := bounds_of_mem_occurrencesFrom hx
    rw [List.length_append]
    exact ⟨hlow, hhigh.le⟩
  refine ⟨_, ?_, hbounds⟩
  cases back with
  | nil => rw [List.append_nil, List.tail_nil, occurrencesFrom, List.append_nil]
  | cons c rest =>
    obtain rfl : c = '\n' := hback c rfl
    have hfeed : pairAt? ((comment.getLast?).or before.getLast?) ('\n' :: rest) = none :=
      (hstops (by decide) _ [] rest).trans (hempty _)
    rw [(hstops (by decide)).occurrencesFrom_append pairAt?_fits, List.length_append]
    refine congrArg (_ ++ ·) ?_
    rw [occurrencesFrom, hfeed]
    rfl

/-! ## Texts with other comments -/

/-- A comment moves what is found behind it, and nothing else changes. -/
theorem moves_comment (hfront : EndsOutside front) (hmark : mark ∈ commentMarks)
    (hcomment : '\n' ∉ comment) (hback : EndsLine back)
    (hheaders : Splits (occurrences headerAt?) front mark back) :
    Moves (shifted (front ++ mark).length comment.length) (front ++ (mark ++ back))
      (front ++ (mark ++ (comment ++ back))) where
  mono := shifted_strictMono _ _
  headers := hheaders.eq_map_shifted hcomment
  settings := (assignmentAt?_seesLines.splits hfront hmark hback).eq_map_shifted hcomment
  pairs := (pairAt?_seesLines.splits hfront hmark hback).eq_map_shifted hcomment
  line offset := by
    have hline := lineAt_shifted hcomment (front ++ mark) back offset
    rwa [List.append_assoc, List.append_assoc] at hline

/-- What stands behind a comment mark on its line does not matter, if each string before the mark closes
on its own line, the mark stands outside of them, and no header has a backslash. -/
theorem read_of_comment (file : File) {other : List Char} (hfront : EndsOutside front)
    (hmark : mark ∈ commentMarks) (hcomment : '\n' ∉ comment) (hother : '\n' ∉ other)
    (hback : EndsLine back) {content content' : String}
    (hcontent : content.toList = front ++ (mark ++ (comment ++ back)))
    (hcontent' : content'.toList = front ++ (mark ++ (other ++ back)))
    (hplain : PlainHeaders content.toList) : read file content' = read file content := by
  rw [hcontent] at hplain
  have hheaders := headers_splits hfront hmark hback hplain
  have hstripped : (String.ofList (front ++ (mark ++ back))).toList = front ++ (mark ++ back) :=
    String.toList_ofList
  have hread : ∀ {comment : List Char} {content : String}, '\n' ∉ comment →
      content.toList = front ++ (mark ++ (comment ++ back)) →
      read file content = read file (String.ofList (front ++ (mark ++ back))) := by
    intro comment content hcomment hcontent
    have hmoves := moves_comment hfront hmark hcomment hback hheaders
    rw [← hcontent, ← hstripped] at hmoves
    exact hmoves.read_eq file
  rw [hread hother hcontent', hread hcomment hcontent]

/-- A comment that looks like settings and headers declares nothing. -/
theorem read_of_comment_api :
    let file : File := ⟨⟨"infra/main.tf"⟩, "infra/main.tf", "infra"⟩
    let front := "resource \"x\" \"api\" \x7b\n  port = 80 ".toList
    let other := " host_port = 1 \"2:3\" module \"y\" \x7b \"".toList
    let back := "\n\x7d\n".toList
    EndsOutside front ∧ ['#'] ∈ commentMarks ∧ '\n' ∉ " public".toList ∧ '\n' ∉ other ∧
      EndsLine back ∧ PlainHeaders (front ++ (['#'] ++ (" public".toList ++ back))) ∧
      (read file (String.ofList (front ++ (['#'] ++ (other ++ back))))).map
        (fun d => (d.service, d.containerPort, d.hostPort)) = [("api", 80, none)] := by
  intro file front other back
  have hfront : EndsOutside front := by decide +kernel
  have hmark : ['#'] ∈ commentMarks := List.mem_cons_self
  have hcomment : '\n' ∉ " public".toList := by decide
  have hother : '\n' ∉ other := by decide
  have hback : EndsLine back := fun c hc => (Option.some.inj hc).symm
  have hplain : PlainHeaders (front ++ (['#'] ++ (" public".toList ++ back))) := by
    unfold PlainHeaders
    decide +kernel
  refine ⟨hfront, hmark, hcomment, hother, hback, hplain, ?_⟩
  have hcontent : ∀ s : List Char, (String.ofList s).toList = s := fun _ => String.toList_ofList
  rw [read_of_comment file hfront hmark hcomment hother hback (hcontent _) (hcontent _)
    (by rwa [hcontent])]
  decide +kernel

end PortSurvey.Artifact.Provisioning
