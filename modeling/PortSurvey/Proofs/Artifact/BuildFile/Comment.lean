import PortSurvey.Proofs.Artifact.BuildFile.Statements
import PortSurvey.Proofs.Dict
import PortSurvey.Proofs.Text.Lines

/-!
# Comment lines in build files

A comment line is read like any other. What it says is left out only because its first word is no
keyword, and because the ports of an instruction end at a word that begins with the comment mark. So it is
inert where no words are left open before it, but behind a line that goes on it becomes part of the
instruction. Then it cuts off what follows if it does not go on itself (`exists_after_of_ends`). If it
does, it hides what follows (`exists_after_of_goesOn`), unless the words before it are settled, so that
words behind them change nothing (`append_of_isSettled`). These are all the cases (`comment_inert_iff`).
-/

namespace PortSurvey.Artifact.BuildFile

open Text

variable {file : File} {image : Option String} {line : List Char} {words : List (List Char)}

/-! ## Settled words -/

/-- Whether words do the same whatever words follow them in their instruction. -/
def isSettled : List (List Char) → Bool
  | [] => false
  | word :: arguments =>
    if isForm "FROM" word then arguments.any (!isOption ·)
    else if isForm "EXPOSE" word then arguments.any (·.head? == some '#')
    else true

/-- The image is the first word that is no option, or else the last word. -/
theorem image?_eq (words : List (List Char)) :
    image? words = (words.find? (!isOption ·)).or words.getLast? := by
  induction words with
  | nil => rfl
  | cons word rest ih =>
    cases rest with
    | nil => cases hword : isOption word <;> simp [image?, hword]
    | cons next rest => cases hword : isOption word <;> simp [image?, hword, ih]

/-- Words behind the image are not looked at. -/
theorem image?_append (h : ∃ word ∈ words, isOption word = false) (more : List (List Char)) :
    image? (words ++ more) = image? words := by
  have hsome : (words.find? (!isOption ·)).isSome = true := by
    simpa using h
  obtain ⟨named, hnamed⟩ := Option.isSome_iff_exists.mp hsome
  rw [image?_eq, image?_eq, List.find?_append, hnamed]
  rfl

/-- The first word behind options is the image. -/
theorem image?_append_cons (h : ∀ word ∈ words, isOption word = true) {word : List Char}
    (hword : isOption word = false) (more : List (List Char)) :
    image? (words ++ word :: more) = some word := by
  have hnone : words.find? (!isOption ·) = none := by
    simpa using h
  rw [image?_eq, List.find?_append, hnone, List.find?_cons_of_pos (by rw [hword]; rfl)]
  rfl

/-- Words behind a comment mark are not exposed. -/
theorem exposed_append_of_mark (h : ∃ word ∈ words, word.head? = some '#')
    (more : List (List Char)) : exposed (words ++ more) = exposed words := by
  obtain ⟨word, hword, hmark⟩ := h
  unfold exposed
  rw [List.takeWhile_append, if_neg]
  intro hlength
  have hall := List.takeWhile_eq_self_iff.mp
    ((List.takeWhile_prefix _).eq_of_length hlength) word hword
  simp [hmark] at hall

/-- Words behind words without a comment mark are exposed with these. -/
theorem exposed_append (h : ∀ word ∈ words, word.head? ≠ some '#') (more : List (List Char)) :
    exposed (words ++ more) = words.flatMap readExposed ++ exposed more := by
  unfold exposed
  rw [List.takeWhile_append_of_pos (fun word hword => by simpa using h word hword),
    List.flatMap_append]

/-- Words behind settled words change nothing. -/
theorem append_of_isSettled (h : isSettled words = true) (more : List (List Char)) :
    namedBy (words ++ more) = namedBy words ∧ exposedBy (words ++ more) = exposedBy words := by
  cases words with
  | nil => cases h
  | cons word arguments =>
    rw [isSettled] at h
    unfold namedBy exposedBy
    rw [List.cons_append]
    by_cases hfrom : isForm "FROM" word = true
    · rw [if_pos hfrom] at h
      have himage : ∃ a ∈ arguments, isOption a = false := by
        simpa using h
      have hexpose := not_isForm_expose hfrom
      rw [argumentsOf_of_isForm hfrom, argumentsOf_of_isForm hfrom, image?_append himage,
        argumentsOf_of_not_isForm hexpose, argumentsOf_of_not_isForm hexpose]
      exact ⟨rfl, rfl⟩
    · rw [argumentsOf_of_not_isForm hfrom, argumentsOf_of_not_isForm hfrom]
      refine ⟨rfl, ?_⟩
      by_cases hexpose : isForm "EXPOSE" word = true
      · rw [if_neg hfrom, if_pos hexpose] at h
        have hmark : ∃ a ∈ arguments, a.head? = some '#' := by
          simpa using h
        rw [argumentsOf_of_isForm hexpose, argumentsOf_of_isForm hexpose,
          exposed_append_of_mark hmark]
      · rw [argumentsOf_of_not_isForm hexpose, argumentsOf_of_not_isForm hexpose]

/-- Words that are not settled wait for an instruction, for an image or for ports. -/
theorem unsettled_cases (h : ¬isSettled words = true) : words = [] ∨ ∃ word arguments,
    words = word :: arguments ∧
      (isForm "FROM" word = true ∧ (∀ a ∈ arguments, isOption a = true) ∨
        isForm "EXPOSE" word = true ∧ ∀ a ∈ arguments, a.head? ≠ some '#') := by
  cases words with
  | nil => exact Or.inl rfl
  | cons word arguments =>
    rw [isSettled] at h
    split_ifs at h with hfrom hexpose
    · exact Or.inr ⟨word, arguments, rfl, Or.inl ⟨hfrom, by simpa using h⟩⟩
    · exact Or.inr ⟨word, arguments, rfl, Or.inr ⟨hexpose, by simpa using h⟩⟩
    · exact absurd rfl h

/-- Words behind `FROM` name the first of them that is no option, and expose nothing. -/
theorem append_of_options {word : List Char} (hfrom : isForm "FROM" word = true)
    {arguments : List (List Char)} (hoptions : ∀ a ∈ arguments, isOption a = true)
    {named : List Char} (hnamed : isOption named = false) (more : List (List Char)) :
    namedBy (word :: arguments ++ named :: more) = some (String.ofList named) ∧
      exposedBy (word :: arguments ++ named :: more) = [] := by
  have hnames : namedBy (word :: arguments ++ named :: more) = some (String.ofList named) := by
    unfold namedBy
    rw [List.cons_append, argumentsOf_of_isForm hfrom, image?_append_cons hoptions hnamed]
    rfl
  exact ⟨hnames, exposedBy_of_namedBy hnames⟩

/-- Words behind `EXPOSE` expose their ports with those before them. -/
theorem append_of_ports {word : List Char} (hexpose : isForm "EXPOSE" word = true)
    {arguments : List (List Char)} (hports : ∀ a ∈ arguments, a.head? ≠ some '#')
    (more : List (List Char)) :
    exposedBy (word :: arguments ++ more) = arguments.flatMap readExposed ++ exposed more := by
  unfold exposedBy
  rw [List.cons_append, argumentsOf_of_isForm hexpose, exposed_append hports]

/-! ## Comment lines -/

/-- A comment mark begins no keyword. -/
theorem not_isForm_of_mark (tail : List Char) :
    ¬isForm "FROM" ('#' :: tail) = true ∧ ¬isForm "EXPOSE" ('#' :: tail) = true := by
  constructor <;> simp [isForm, isFormOf]

/-- Words behind a comment mark name no image. -/
theorem namedBy_of_mark (tail : List Char) (more : List (List Char)) :
    namedBy (('#' :: tail) :: more) = none := by
  unfold namedBy
  rw [argumentsOf_of_not_isForm (not_isForm_of_mark tail).1]
  rfl

/-- Words behind a comment mark expose no ports. -/
theorem exposedBy_of_mark (tail : List Char) (more : List (List Char)) :
    exposedBy (('#' :: tail) :: more) = [] := by
  unfold exposedBy
  rw [argumentsOf_of_not_isForm (not_isForm_of_mark tail).2]
  rfl

/-- Words behind a comment mark are no ports. -/
theorem exposed_of_mark (tail : List Char) (more : List (List Char)) :
    exposed (('#' :: tail) :: more) = [] :=
  rfl

/-- The first word of a comment begins with the comment mark. -/
theorem exists_lineWords_eq (hmark : (trimStartChars line).head? = some '#') :
    ∃ tail more, lineWords line = ('#' :: tail) :: more := by
  obtain ⟨rest, hrest⟩ : ∃ rest, trimStartChars line = '#' :: rest := by
    cases hstart : trimStartChars line with
    | nil => simp [hstart] at hmark
    | cons c rest => exact ⟨rest, by simpa [hstart] using hmark⟩
  have hblanks : ∀ c ∈ line.takeWhile isBlank, isBlank c = true := fun c hc =>
    List.mem_takeWhile_imp hc
  have htrim : trimEndChars line = line.takeWhile isBlank ++ '#' :: trimEndChars rest := by
    have hline : line.takeWhile isBlank ++ '#' :: rest = line :=
      hrest ▸ List.takeWhile_append_dropWhile
    conv_lhs => rw [← hline]
    exact trimEndChars_append_cons _ rfl rest
  -- What the line loses at its end is not the mark.
  obtain ⟨text, htext⟩ : ∃ text,
      (splitContinuation line).1 = line.takeWhile isBlank ++ '#' :: text := by
    unfold splitContinuation
    dsimp only
    rw [htrim]
    split_ifs with hend
    · have hne : trimEndChars rest ≠ [] := by
        intro hnil
        simp [hnil] at hend
      refine ⟨(trimEndChars rest).dropLast, ?_⟩
      rw [List.dropLast_append_of_ne_nil (List.cons_ne_nil _ _), List.dropLast_cons_of_ne_nil hne]
    · exact ⟨trimEndChars rest, rfl⟩
  have hstart : trimStartChars (splitContinuation line).1 = '#' :: text := by
    rw [htext, trimStartChars_append_cons hblanks rfl]
  obtain ⟨word, behind, hword, hne, -, hwords⟩ := exists_word (hstart ▸ List.cons_ne_nil _ _)
  obtain ⟨c, tail, rfl⟩ := List.exists_cons_of_ne_nil hne
  rw [hstart, List.cons_append, List.cons.injEq] at hword
  exact ⟨tail, wordsChars behind, hword.1 ▸ hwords⟩

/-! ## Inserted lines -/

/-- A line that goes on adds nothing to settled words. -/
theorem records_insert_of_isSettled (hgo : goesOn line = true) (h : isSettled words = true)
    (after : List (List Char)) : records file image (statements words (line :: after)) =
      records file image (statements words after) := by
  -- Both statements begin with the settled words.
  obtain ⟨more, rest, hstatements⟩ := statements_eq_cons after
  rw [statements, if_pos hgo, hstatements, hstatements, records, records, List.append_assoc]
  obtain ⟨hnamed, hexposed⟩ := append_of_isSettled h (lineWords line ++ more)
  obtain ⟨hnamed', hexposed'⟩ := append_of_isSettled h more
  rw [hnamed, hexposed, hnamed', hexposed']

/-- A line that ends its statement declares what the statement says, before the lines behind it. -/
theorem records_statements_cons (hends : ¬goesOn line = true) (after : List (List Char)) :
    records file image (statements words (line :: after)) =
      (exposedBy (words ++ lineWords line)).map (record file image) ++
        records file ((namedBy (words ++ lineWords line)).or image) (statements [] after) := by
  rw [statements, if_neg hends, records]

/-- The last line declares what its statement says. -/
theorem records_statements_singleton (hends : ¬goesOn line = true) :
    records file image (statements words [line]) =
      (exposedBy (words ++ lineWords line)).map (record file image) := by
  rw [records_statements_cons hends]
  exact List.append_nil _

/-- A comment of its own declares nothing. -/
theorem records_insert_of_nil (hmark : (trimStartChars line).head? = some '#')
    (hends : ¬goesOn line = true) (after : List (List Char)) :
    records file image (statements [] (line :: after)) =
      records file image (statements [] after) := by
  obtain ⟨tail, more, hwords⟩ := exists_lineWords_eq hmark
  rw [records_statements_cons hends, List.nil_append, hwords, namedBy_of_mark, exposedBy_of_mark]
  rfl

/-- A line that exposes a port. -/
def exposing : List Char :=
  "EXPOSE 80".toList

/-- A line of its own that exposes a port declares it. -/
theorem records_exposing (file : File) (image : Option String) :
    records file image (statements [] [exposing]) = [record file image (80, "tcp")] := by
  have hexposed : exposedBy ([] ++ lineWords exposing) = [(80, "tcp")] := by decide
  rw [records_statements_singleton (by decide), hexposed]
  rfl

/-- Records beside different images differ. -/
theorem record_injective (file : File) (port : Nat × String) {a b : String}
    (h : record file (some a) port = record file (some b) port) : a = b := by
  have hfind := congrArg (fun d => d.context.find? "base_image") h
  simpa [record, Declaration.withContext?, Declaration.withContext, Dict.find?_insert] using hfind

/-- Behind words that are not settled, a comment that goes on hides what follows. -/
theorem exists_after_of_goesOn (hmark : (trimStartChars line).head? = some '#')
    (hgo : goesOn line = true) (hopen : ¬isSettled words = true) :
    ∃ after : List (List Char), (∀ l ∈ after, '\n' ∉ l) ∧
      records file image (statements words (line :: after)) ≠
        records file image (statements words after) := by
  obtain ⟨tail, more, hwords⟩ := exists_lineWords_eq hmark
  have hjoined : ∀ last : List (List Char), words ++ lineWords line ++ last =
      words ++ ('#' :: tail) :: (more ++ last) := fun last => by
    rw [hwords, List.append_assoc, List.cons_append]
  rcases unsettled_cases hopen with rfl | ⟨word, arguments, rfl, ⟨hfrom, hoptions⟩ | ⟨hexpose, hports⟩⟩
  · -- The comment swallows an instruction.
    refine ⟨[exposing], by decide, ?_⟩
    rw [statements, if_pos hgo, records_statements_singleton (by decide), hjoined, List.nil_append,
      exposedBy_of_mark, records_exposing]
    exact (List.cons_ne_nil _ _).symm
  · -- The comment is taken for the image.
    refine ⟨["a".toList, exposing], by decide, ?_⟩
    have himage : lineWords "a".toList = ["a".toList] := by decide
    obtain ⟨hnamed, hexposed⟩ := append_of_options hfrom hoptions (rfl : isOption ('#' :: tail) = false)
      (more ++ lineWords "a".toList)
    obtain ⟨hnamed', hexposed'⟩ := append_of_options hfrom hoptions (rfl : isOption "a".toList = false) []
    rw [statements, if_pos hgo, records_statements_cons (by decide), hjoined, hnamed, hexposed,
      records_exposing, records_statements_cons (by decide), himage, hnamed', hexposed',
      records_exposing]
    intro h
    have himages := record_injective file _ (List.head_eq_of_cons_eq h)
    have hchars := congrArg String.toList himages
    rw [String.toList_ofList, String.toList_ofList] at hchars
    exact absurd (List.head_eq_of_cons_eq hchars) (by decide)
  · -- The comment hides a port.
    refine ⟨["80".toList], by decide, ?_⟩
    have hport : exposed (lineWords "80".toList) = [(80, "tcp")] := by decide
    rw [statements, if_pos hgo, records_statements_singleton (by decide), hjoined,
      records_statements_singleton (by decide), append_of_ports hexpose hports,
      append_of_ports hexpose hports, exposed_of_mark, hport]
    exact fun h => absurd (congrArg List.length h) (by simp)

/-- Behind words, a comment that does not go on cuts off what follows. -/
theorem exists_after_of_ends (hmark : (trimStartChars line).head? = some '#')
    (hends : ¬goesOn line = true) (hopen : words ≠ []) :
    ∃ after : List (List Char), (∀ l ∈ after, '\n' ∉ l) ∧
      records file image (statements words (line :: after)) ≠
        records file image (statements words after) := by
  obtain ⟨tail, more, hwords⟩ := exists_lineWords_eq hmark
  have hinstruction : lineWords exposing = "EXPOSE".toList :: ["80".toList] := by decide
  by_cases hsettled : isSettled words = true
  · -- An instruction behind the comment is not part of the statement any more.
    refine ⟨[exposing], by decide, ?_⟩
    rw [records_statements_cons hends, records_exposing, records_statements_singleton (by decide),
      (append_of_isSettled hsettled _).2, (append_of_isSettled hsettled _).2]
    exact fun h => absurd (congrArg List.length h) (by simp)
  · rcases unsettled_cases hsettled with
      hnil | ⟨word, arguments, rfl, ⟨hfrom, hoptions⟩ | ⟨hexpose, hports⟩⟩
    · exact absurd hnil hopen
    · -- The instruction behind the comment is not taken for the image any more.
      refine ⟨[exposing], by decide, ?_⟩
      obtain ⟨-, hexposed⟩ := append_of_options hfrom hoptions (rfl : isOption ('#' :: tail) = false) more
      obtain ⟨-, hexposed'⟩ := append_of_options hfrom hoptions (rfl : isOption "EXPOSE".toList = false)
        ["80".toList]
      rw [records_statements_cons hends, records_exposing, records_statements_singleton (by decide),
        hwords, hexposed, hinstruction, hexposed']
      exact List.cons_ne_nil _ _
    · -- A port behind the comment is not part of the statement any more.
      refine ⟨["80".toList], by decide, ?_⟩
      have hport : exposed (lineWords "80".toList) = [(80, "tcp")] := by decide
      have hnone : exposedBy ([] ++ lineWords "80".toList) = [] := by decide
      rw [records_statements_cons hends, records_statements_singleton (by decide),
        records_statements_singleton (by decide), hwords, append_of_ports hexpose hports,
        append_of_ports hexpose hports, exposed_of_mark, hport, hnone]
      exact fun h => absurd (congrArg List.length h) (by simp)

/-! ## Comments that are inert -/

/-- A line changes nothing but the numbers of lines where it is inserted behind the lines `before`,
whatever lines stand behind it. -/
def Inert (file : File) (before : List (List Char)) (line : List Char) : Prop :=
  ∀ (after : List (List Char)) (content content' : String),
    linesChars content.toList = before ++ after →
      linesChars content'.toList = before ++ line :: after →
        (read file content').map Declaration.unplaced = (read file content).map Declaration.unplaced

/-- Lines tell what is declared behind them by the words that they leave open and by an image. -/
theorem exists_records_append (file : File) (before : List (List Char)) : ∃ front image, ∀ after,
    records file none (statements [] (before ++ after)) =
      front ++ records file image (statements (openAfter [] before) after) := by
  obtain ⟨closed, hclosed⟩ := statements_append [] before
  refine ⟨records file none closed, imageAfter none closed, fun after => ?_⟩
  rw [hclosed, records_append]

/-- A line is inert if it adds nothing to the statements that are open where it is inserted. -/
theorem inert_of_records {before : List (List Char)} (h : ∀ image after,
    records file image (statements (openAfter [] before) (line :: after)) =
      records file image (statements (openAfter [] before) after)) : Inert file before line := by
  obtain ⟨front, image, hsplit⟩ := exists_records_append file before
  intro after content content' hcontent hcontent'
  rw [read_eq_records, read_eq_records, hcontent, hcontent', hsplit, hsplit, h image after]

/-- An inert line adds nothing to the statements that are open where it is inserted. -/
theorem Inert.exists_records {before : List (List Char)} (h : Inert file before line)
    (hbefore : ∀ l ∈ before, '\n' ∉ l) (hline : '\n' ∉ line) : ∃ image,
      ∀ after : List (List Char), (∀ l ∈ after, '\n' ∉ l) →
        records file image (statements (openAfter [] before) (line :: after)) =
          records file image (statements (openAfter [] before) after) := by
  obtain ⟨front, image, hsplit⟩ := exists_records_append file before
  refine ⟨image, fun after hafter => ?_⟩
  obtain ⟨content, hcontent⟩ := exists_linesChars_eq
    (List.forall_mem_append.mpr ⟨hbefore, hafter⟩)
  obtain ⟨content', hcontent'⟩ := exists_linesChars_eq
    (List.forall_mem_append.mpr ⟨hbefore, List.forall_mem_cons.mpr ⟨hline, hafter⟩⟩)
  have hread := h after content content' hcontent hcontent'
  rw [read_eq_records, read_eq_records, hcontent, hcontent', hsplit, hsplit] at hread
  exact List.append_cancel_left hread

/-- A comment line is inert exactly where no words are left open if it does not go on, and exactly where
the words that are left open are settled if it does. -/
theorem comment_inert_iff (file : File) {before : List (List Char)} {comment : List Char}
    (hbefore : ∀ l ∈ before, '\n' ∉ l) (hcomment : '\n' ∉ comment)
    (hmark : (trimStartChars comment).head? = some '#') :
    Inert file before comment ↔
      if goesOn comment then isSettled (openAfter [] before) = true
      else openAfter [] before = [] := by
  constructor
  · intro h
    obtain ⟨image, hrecords⟩ := h.exists_records hbefore hcomment
    split_ifs with hgo
    · by_contra hopen
      obtain ⟨after, hafter, hne⟩ := exists_after_of_goesOn hmark hgo hopen
      exact hne (hrecords after hafter)
    · by_contra hopen
      obtain ⟨after, hafter, hne⟩ := exists_after_of_ends hmark hgo hopen
      exact hne (hrecords after hafter)
  · intro h
    refine inert_of_records fun image after => ?_
    split_ifs at h with hgo
    · exact records_insert_of_isSettled hgo h after
    · rw [h]
      exact records_insert_of_nil hmark hgo after

/-- Behind an image that goes on, a comment that goes on is inert. -/
theorem comment_inert_iff_alpine :
    let file : File := ⟨⟨"api/Dockerfile"⟩, "api/Dockerfile", "svc"⟩
    let before := ["FROM alpine \\".toList]
    let comment := "# the base \\".toList
    (∀ l ∈ before, '\n' ∉ l) ∧ '\n' ∉ comment ∧ (trimStartChars comment).head? = some '#' ∧
      Inert file before comment := by
  intro file before comment
  have hbefore : ∀ l ∈ before, '\n' ∉ l := by decide
  have hcomment : '\n' ∉ comment := by decide
  have hmark : (trimStartChars comment).head? = some '#' := by decide
  refine ⟨hbefore, hcomment, hmark, (comment_inert_iff file hbefore hcomment hmark).mpr ?_⟩
  decide

/-- A comment between the lines of an instruction cuts off the ports behind it. -/
theorem not_inert :
    let file : File := ⟨⟨"api/Dockerfile"⟩, "api/Dockerfile", "svc"⟩
    let content := "FROM alpine\nEXPOSE 80 \\\n    443\n"
    let content' := "FROM alpine\nEXPOSE 80 \\\n# admin\n    443\n"
    (read file content).map (·.containerPort) = [80, 443] ∧
      (read file content').map (·.containerPort) = [80] ∧
      ¬Inert file ["FROM alpine".toList, "EXPOSE 80 \\".toList] "# admin".toList := by
  intro file content content'
  have hports : (read file content).map (·.containerPort) = [80, 443] := by decide +kernel
  have hports' : (read file content').map (·.containerPort) = [80] := by decide +kernel
  refine ⟨hports, hports', fun h => ?_⟩
  have hread := h ["    443".toList] content content' (by decide) (by decide)
  have hunplaced := congrArg (List.map (·.containerPort)) hread
  rw [List.map_map, List.map_map] at hunplaced
  exact absurd (hports'.symm.trans (hunplaced.trans hports)) (by decide)

end PortSurvey.Artifact.BuildFile
