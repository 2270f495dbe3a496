import PortSurvey.Artifact.BuildFile
import PortSurvey.Proofs.Declaration
import PortSurvey.Proofs.Text.Words

/-!
# Statements of a build file

What a build file declares is told by the words of its lines. An instruction names an image and exposes
ports by its words alone (`ofLines_cons`), and where lines go on in the next, the words of the
instruction are those of its lines one after the other (`wordsChars_appendPiece`). So, but for the
numbers of lines, the declarations are those of the statements, which are the lists of words that the
lines make up (`read_eq_records`). What lines do to the statements behind them is told by the words that
they leave open (`statements_append`) and by the image that they name (`records_append`).
-/

namespace PortSurvey.Artifact.BuildFile

open Text

variable {keyword : String} {line : List Char} {words : List (List Char)}

/-! ## Keywords -/

/-- Whether a word is a keyword, in any case. -/
def isForm (keyword : String) (word : List Char) : Bool :=
  word.length == keyword.length && (keyword.toList.zip word).all fun (k, c) => isFormOf k c

/-- The words after a keyword, if it is the first word. -/
def argumentsOf (keyword : String) : List (List Char) → List (List Char)
  | [] => []
  | word :: rest => if isForm keyword word then rest else []

/-- Behind a form of the keyword, all words are arguments. -/
theorem argumentsOf_of_isForm {word : List Char} (h : isForm keyword word = true)
    (rest : List (List Char)) : argumentsOf keyword (word :: rest) = rest :=
  if_pos h

/-- Behind another word, no word is an argument. -/
theorem argumentsOf_of_not_isForm {word : List Char} (h : ¬isForm keyword word = true)
    (rest : List (List Char)) : argumentsOf keyword (word :: rest) = [] :=
  if_neg h

/-- The forms of a letter are not blank. -/
theorem isBlank_of_isFormOf {letter c : Char} (hletter : isBlank letter = false)
    (h : isFormOf letter c = true) : isBlank c = false := by
  unfold isFormOf at h
  rcases Bool.or_eq_true_iff.mp h with hupper | hlong
  · rw [beq_iff_eq] at hupper
    unfold Char.toUpper at hupper
    split_ifs at hupper with hsmall
    · unfold isBlank
      have hlow : 97 ≤ c.toNat := hsmall.1
      have hhigh : c.toNat ≤ 122 := hsmall.2
      simp
      omega
    · rwa [hupper]
  · rw [Bool.and_eq_true, beq_iff_eq, beq_iff_eq] at hlong
    rw [hlong.2]
    decide

/-- A form of a keyword is as long as it. -/
theorem length_of_isForm {word : List Char} (h : isForm keyword word = true) :
    word.length = keyword.length := by
  unfold isForm at h
  rw [Bool.and_eq_true, beq_iff_eq] at h
  exact h.1

/-- A form of a keyword is a single word. -/
theorem wordsChars_of_isForm (hkeyword : ∀ k ∈ keyword.toList, isBlank k = false)
    (hne : keyword.toList ≠ []) {word : List Char} (h : isForm keyword word = true) :
    wordsChars word = [word] := by
  have hlength := length_of_isForm h
  rw [← String.length_toList] at hlength
  unfold isForm at h
  rw [Bool.and_eq_true, List.all_eq_true] at h
  have hword : word ≠ [] := by
    rintro rfl
    exact hne (List.eq_nil_of_length_eq_zero hlength.symm)
  refine wordsChars_of_not_blank hword fun c hc => ?_
  obtain ⟨i, hi, rfl⟩ := List.getElem_of_mem hc
  have hk : i < keyword.toList.length := by rwa [← hlength]
  have hpair : (keyword.toList[i], word[i]) ∈ keyword.toList.zip word := by
    rw [← List.getElem_zip (h := by rw [List.length_zip]; omega)]
    exact List.getElem_mem _
  exact isBlank_of_isFormOf (hkeyword _ (List.getElem_mem hk)) (h.2 _ hpair)

/-- What stands after a keyword stands behind a form of it and a blank. -/
theorem afterKeyword?_eq_some {arguments : List Char} :
    afterKeyword? keyword line = some arguments ↔ ∃ word c,
      trimStartChars line = word ++ c :: arguments ∧ isForm keyword word = true ∧
        isBlank c = true := by
  unfold afterKeyword?
  generalize trimStartChars line = text
  -- The reader compares as many characters as the keyword has.
  change (if isForm keyword (text.take keyword.length) = true then _ else none) = _ ↔ _
  constructor
  · intro h
    split_ifs at h with hform
    have hsplit := List.take_append_drop keyword.length text
    cases hrest : text.drop keyword.length with
    | nil => simp [hrest] at h
    | cons c rest =>
      simp only [hrest, Option.ite_none_right_eq_some, Option.some.injEq] at h
      obtain ⟨hc, rfl⟩ := h
      exact ⟨_, c, by rw [← hrest, hsplit], hform, hc⟩
  · rintro ⟨word, c, rfl, hform, hc⟩
    rw [← length_of_isForm hform, List.take_left, List.drop_left, if_pos hform]
    exact if_pos hc

/-- The words after a keyword are those of the text after it. -/
theorem argumentsOf_wordsChars (hkeyword : ∀ k ∈ keyword.toList, isBlank k = false)
    (hne : keyword.toList ≠ []) (line : List Char) :
    argumentsOf keyword (wordsChars line) =
      ((afterKeyword? keyword line).map wordsChars).getD [] := by
  rw [← wordsChars_trimStartChars line]
  cases hafter : afterKeyword? keyword line with
  | some arguments =>
    obtain ⟨word, c, hline, hform, hc⟩ := afterKeyword?_eq_some.mp hafter
    rw [hline, wordsChars_append_cons word hc, wordsChars_of_isForm hkeyword hne hform]
    exact argumentsOf_of_isForm hform _
  | none =>
    by_cases hblank : trimStartChars line = []
    · rw [hblank, wordsChars_nil]
      rfl
    · obtain ⟨word, rest, hline, -, hrest, hwords⟩ := exists_word hblank
      rw [wordsChars_trimStartChars, hwords]
      -- A keyword without anything behind it is no keyword to the reader, but has no words either.
      cases rest with
      | nil =>
        rw [wordsChars_nil]
        exact ite_self []
      | cons c rest =>
        have hform : ¬isForm keyword word = true := fun hform => by
          rw [afterKeyword?_eq_some.mpr ⟨word, c, hline, hform, hrest c rfl⟩] at hafter
          cases hafter
        exact argumentsOf_of_not_isForm hform _

/-! ## What an instruction does -/

/-- The image that the words of an instruction name. -/
def namedBy (words : List (List Char)) : Option String :=
  (image? (argumentsOf "FROM" words)).map String.ofList

/-- The ports that words name up to a comment, with their transports. -/
def exposed (arguments : List (List Char)) : List (Nat × String) :=
  (arguments.takeWhile fun word => word.head? != some '#').flatMap readExposed

/-- The ports that the words of an instruction expose, with their transports. -/
def exposedBy (words : List (List Char)) : List (Nat × String) :=
  exposed (argumentsOf "EXPOSE" words)

/-- No word is a form of both keywords. -/
theorem not_isForm_expose {word : List Char} (h : isForm "FROM" word = true) :
    ¬isForm "EXPOSE" word = true := by
  intro hexpose
  have hlengths := (length_of_isForm h).symm.trans (length_of_isForm hexpose)
  exact absurd hlengths (by decide)

/-- What names an image exposes no ports. -/
theorem exposedBy_of_namedBy {image : String} (h : namedBy words = some image) :
    exposedBy words = [] := by
  unfold namedBy at h
  cases words with
  | nil => rfl
  | cons word rest =>
    by_cases hfrom : isForm "FROM" word = true
    · exact congrArg exposed (argumentsOf_of_not_isForm (not_isForm_expose hfrom) rest)
    · rw [argumentsOf_of_not_isForm hfrom] at h
      cases h

/-- An instruction exposes ports and names an image by its words. -/
theorem ofLines_cons (file : File) (image : Option String) (number : Nat) (line : List Char)
    (rest : List (Nat × List Char)) : ofLines file image ((number, line) :: rest) =
      (exposedBy (wordsChars line)).map (declare file number image) ++
        ofLines file ((namedBy (wordsChars line)).or image) rest := by
  have hfrom : argumentsOf "FROM" (wordsChars line) =
      ((afterKeyword? "FROM" line).map wordsChars).getD [] :=
    argumentsOf_wordsChars (by decide) (by decide) line
  have hexpose : argumentsOf "EXPOSE" (wordsChars line) =
      ((afterKeyword? "EXPOSE" line).map wordsChars).getD [] :=
    argumentsOf_wordsChars (by decide) (by decide) line
  have hnamed : ((afterKeyword? "FROM" line).bind fun words => image? (wordsChars words)) =
      image? (argumentsOf "FROM" (wordsChars line)) := by
    rw [hfrom]
    cases afterKeyword? "FROM" line <;> rfl
  rw [ofLines, hnamed]
  cases himage : image? (argumentsOf "FROM" (wordsChars line)) with
  | some named =>
    have hnames : namedBy (wordsChars line) = some (String.ofList named) := by
      unfold namedBy
      rw [himage]
      rfl
    rw [exposedBy_of_namedBy hnames, hnames]
    rfl
  | none =>
    unfold namedBy exposedBy
    rw [himage, hexpose]
    cases afterKeyword? "EXPOSE" line <;> rfl

/-! ## The statements of lines -/

/-- Whether a line goes on in the next. -/
def goesOn (line : List Char) : Bool :=
  (splitContinuation line).2

/-- The words of a line, without the backslash at its end. -/
def lineWords (line : List Char) : List (List Char) :=
  wordsChars (splitContinuation line).1

/-- The statements of lines, each as its words, where `words` are left open before the lines. -/
def statements (words : List (List Char)) : List (List Char) → List (List (List Char))
  | [] => [words]
  | line :: rest =>
    if goesOn line then statements (words ++ lineWords line) rest
    else (words ++ lineWords line) :: statements [] rest

/-- The words that lines leave open, where `words` are left open before them. -/
def openAfter (words : List (List Char)) : List (List Char) → List (List Char)
  | [] => words
  | line :: rest => openAfter (if goesOn line then words ++ lineWords line else []) rest

/-- Lines leave closed statements behind, and an open one. -/
theorem statements_append (words before : List (List Char)) : ∃ closed, ∀ after,
    statements words (before ++ after) = closed ++ statements (openAfter words before) after := by
  induction before generalizing words with
  | nil => exact ⟨[], fun after => rfl⟩
  | cons line rest ih =>
    by_cases hline : goesOn line = true
    · obtain ⟨closed, hclosed⟩ := ih (words ++ lineWords line)
      refine ⟨closed, fun after => ?_⟩
      rw [List.cons_append, statements, openAfter, if_pos hline, if_pos hline, hclosed]
    · obtain ⟨closed, hclosed⟩ := ih []
      refine ⟨(words ++ lineWords line) :: closed, fun after => ?_⟩
      rw [List.cons_append, statements, openAfter, if_neg hline, if_neg hline, hclosed,
        List.cons_append]

/-- The words that are left open begin the first statement of the lines. -/
theorem statements_eq_cons (lines : List (List Char)) : ∃ more rest, ∀ words,
    statements words lines = (words ++ more) :: rest := by
  induction lines with
  | nil => exact ⟨[], [], fun words => by rw [statements, List.append_nil]⟩
  | cons line lines ih =>
    by_cases hline : goesOn line = true
    · obtain ⟨more, rest, h⟩ := ih
      refine ⟨lineWords line ++ more, rest, fun words => ?_⟩
      rw [statements, if_pos hline, h, List.append_assoc]
    · exact ⟨lineWords line, statements [] lines, fun words => if_neg hline⟩

/-- The words of joined pieces are those of the pieces. -/
theorem wordsChars_appendPiece (text piece : List Char) :
    wordsChars (appendPiece text piece) = wordsChars text ++ wordsChars piece := by
  unfold appendPiece
  split_ifs with htext
  · rw [List.isEmpty_iff.mp htext, wordsChars_nil, List.nil_append]
  · exact wordsChars_append_cons text rfl piece

/-- The instruction that a line begins or goes on with, as far as the line. -/
def joined (pending : Option (Nat × List Char)) (number : Nat) (line : List Char) :
    Nat × List Char :=
  let (first, before) := pending.getD (number, [])
  (first, appendPiece before (trimChars (splitContinuation line).1))

/-- A line leaves its instruction pending if it goes on, and else ends it. -/
theorem joinLines_cons (pending : Option (Nat × List Char)) (number : Nat) (line : List Char)
    (rest : List (List Char)) : joinLines pending number (line :: rest) =
      if goesOn line then joinLines (some (joined pending number line)) (number + 1) rest
      else joined pending number line :: joinLines none (number + 1) rest :=
  rfl

/-- The words of an instruction that are pending. -/
def pendingWords (pending : Option (Nat × List Char)) : List (List Char) :=
  pending.elim [] fun p => wordsChars p.2

/-- A line adds its words to those that are pending. -/
theorem wordsChars_joined (pending : Option (Nat × List Char)) (number : Nat) (line : List Char) :
    wordsChars (joined pending number line).2 = pendingWords pending ++ lineWords line := by
  unfold joined
  rw [wordsChars_appendPiece, wordsChars_trimChars]
  cases pending with
  | none => exact congrArg (· ++ _) wordsChars_nil
  | some p => rfl

/-! ## What statements declare -/

/-- What a build file declares where a port is exposed, but for the line. -/
def record (file : File) (image : Option String) (port : Nat × String) : Declaration :=
  ((Declaration.basic file.service port.1 .buildFile file.display).withProtocol
    port.2).withContext? "base_image" image

/-- What statements declare, where `image` was named before them. -/
def records (file : File) (image : Option String) : List (List (List Char)) → List Declaration
  | [] => []
  | words :: rest =>
    (exposedBy words).map (record file image) ++ records file ((namedBy words).or image) rest

/-- The line is all that a declaration has beside the record. -/
theorem unplaced_declare (file : File) (number : Nat) (image : Option String)
    (port : Nat × String) : (declare file number image port).unplaced = record file image port := by
  unfold declare record
  have hline : ((Declaration.basic file.service port.1 .buildFile file.display).withProtocol
      port.2).line = none := Declaration.withProtocol_line _ _
  generalize (Declaration.basic file.service port.1 .buildFile file.display).withProtocol port.2 = d
    at hline
  obtain ⟨⟩ := d
  subst hline
  cases image <;> rfl

/-- But for its number, an instruction declares what its words do. -/
theorem map_unplaced_ofLines_cons (file : File) (image : Option String) (x : Nat × List Char)
    (rest : List (Nat × List Char)) :
    (ofLines file image (x :: rest)).map Declaration.unplaced =
      (exposedBy (wordsChars x.2)).map (record file image) ++
        (ofLines file ((namedBy (wordsChars x.2)).or image) rest).map Declaration.unplaced := by
  rw [ofLines_cons, List.map_append, List.map_map]
  exact congrArg (· ++ _) (List.map_congr_left fun port _ => unplaced_declare file x.1 image port)

/-- What lines declare is what their statements declare. -/
theorem ofLines_joinLines (file : File) (image : Option String) (pending : Option (Nat × List Char))
    (number : Nat) (lines : List (List Char)) :
    (ofLines file image (joinLines pending number lines)).map Declaration.unplaced =
      records file image (statements (pendingWords pending) lines) := by
  induction lines generalizing image pending number with
  | nil =>
    cases pending with
    | none => rfl
    | some p => exact map_unplaced_ofLines_cons file image p []
  | cons line rest ih =>
    -- The words that are open are those of what is pending, before the line and behind it.
    rw [joinLines_cons, statements, ← wordsChars_joined pending number line]
    split_ifs with hline
    · exact ih image (some (joined pending number line)) (number + 1)
    · rw [map_unplaced_ofLines_cons, ih, records]
      rfl

/-- But for the numbers of lines, a build file declares what its statements do. -/
theorem read_eq_records (file : File) (content : String) :
    (read file content).map Declaration.unplaced =
      records file none (statements [] (linesChars content.toList)) :=
  ofLines_joinLines file none none 1 (linesChars content.toList)

/-- The image that is named after statements. -/
def imageAfter (image : Option String) (statements : List (List (List Char))) : Option String :=
  statements.foldl (fun image words => (namedBy words).or image) image

/-- Statements matter to those after them by the image that they name. -/
theorem records_append (file : File) (image : Option String) (before after : List (List (List Char))) :
    records file image (before ++ after) =
      records file image before ++ records file (imageAfter image before) after := by
  induction before generalizing image with
  | nil => rfl
  | cons words rest ih =>
    rw [List.cons_append, records, records, ih, List.append_assoc]
    rfl

end PortSurvey.Artifact.BuildFile
