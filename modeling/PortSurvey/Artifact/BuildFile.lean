import PortSurvey.Artifact.Basic
import PortSurvey.Port.Range

/-!
# Build files

A build file is a list of instructions, one on each line. A line that ends with a backslash goes on
in the next one. `EXPOSE` names ports, and `FROM` the image that the instructions after it build on.
-/

namespace PortSurvey.Artifact.BuildFile

open Text

/-- A line without the blanks at its end and the backslash there, and whether there was one. -/
def splitContinuation (line : List Char) : List Char × Bool :=
  let line := trimEndChars line
  if line.getLast? == some '\\' then (line.dropLast, true) else (line, false)

/-- A text with one more piece after it. -/
def appendPiece (text piece : List Char) : List Char :=
  if text.isEmpty then piece else text ++ ' ' :: piece

/-- Joins lines with those that go on in the next: each with the number of its first line. `number`
is that of the next line, and `pending` is what the lines before it left unfinished. -/
def joinLines (pending : Option (Nat × List Char)) (number : Nat) :
    List (List Char) → List (Nat × List Char)
  | [] => pending.toList
  | line :: rest =>
    let (text, goesOn) := splitContinuation line
    let (first, before) := pending.getD (number, [])
    let joined := (first, appendPiece before (trimChars text))
    if goesOn then joinLines (some joined) (number + 1) rest
    else joined :: joinLines none (number + 1) rest

/-- The instructions of a build file, each with the number of its first line. -/
def logicalLines (content : List Char) : List (Nat × List Char) :=
  joinLines none 1 (linesChars content)

/-- Whether a character is a capital letter or a small form of it; the long s is one of S. -/
def isFormOf (letter c : Char) : Bool :=
  c.toUpper == letter || (letter == 'S' && c == 'ſ')

/-- The text after a keyword, in any case, and at least one blank. -/
def afterKeyword? (keyword : String) (line : List Char) : Option (List Char) :=
  let line := trimStartChars line
  let head := line.take keyword.length
  if head.length == keyword.length && (keyword.toList.zip head).all (fun (k, c) => isFormOf k c)
  then
    match line.drop keyword.length with
    | c :: rest => if isBlank c then some rest else none
    | [] => none
  else none

/-- Whether a word is an option with a name. -/
def isOption : List Char → Bool
  | '-' :: '-' :: _ :: _ => true
  | _ => false

/-- The image among the words after `FROM`: the first that is no option, or else the last. -/
def image? : List (List Char) → Option (List Char)
  | [] => none
  | [word] => some word
  | word :: rest => if isOption word then image? rest else some word

/-- The ports that a word after `EXPOSE` names, and their transport. -/
def readExposed (word : List Char) : List (Nat × String) :=
  let (ports, protocol) := match splitOnce '/' word with
    | some (ports, protocol) => (ports, String.ofList protocol)
    | none => (word, "tcp")
  ((Port.readRange? ports).getD []).map (·, protocol)

/-- The ports that the words after `EXPOSE` name, up to a comment. -/
def exposedPorts (arguments : List Char) : List (Nat × String) :=
  ((wordsChars arguments).takeWhile (fun w => w.head? != some '#')).flatMap readExposed

/-- The declaration of a port that is exposed on a line. -/
def declare (file : File) (line : Nat) (image : Option String) (port : Nat × String) :
    Declaration :=
  let declared :=
    (Declaration.basic file.service port.1 .buildFile file.display).withProtocol port.2
  { declared with line := some line }.withContext? "base_image" image

/-- The declarations of instructions that come after `FROM` named an image. -/
def ofLines (file : File) (image : Option String) : List (Nat × List Char) → List Declaration
  | [] => []
  | (number, line) :: rest =>
    match (afterKeyword? "FROM" line).bind (fun words => image? (wordsChars words)) with
    | some named => ofLines file (some (String.ofList named)) rest
    | none =>
      match afterKeyword? "EXPOSE" line with
      | some arguments =>
        (exposedPorts arguments).map (declare file number image) ++ ofLines file image rest
      | none => ofLines file image rest

/-- The declarations of a build file. -/
def read (file : File) (content : String) : List Declaration :=
  ofLines file none (logicalLines content.toList)

end PortSurvey.Artifact.BuildFile
