import PortSurvey.Artifact.Basic
import PortSurvey.Port.Range
import PortSurvey.Text.Search
import PortSurvey.Text.WordTable

/-!
# Descriptions of infrastructure

The text is not read as a whole. Assignments of numbers to attributes that speak of ports are
looked for, and quoted pairs of numbers with a colon between them. Each belongs to the block whose
header was the last before it. The ports outside a container are given in order to the ports inside
containers of the same block. What follows a comment mark on its line does not count.
-/

namespace PortSurvey.Artifact.Provisioning

open Text

/-- The header of a block. -/
structure Block where
  /-- The offset at which the header begins, with the blank lines before it. -/
  start : Nat
  /-- The type of the block. -/
  kind : String
  /-- The name that the block gives its services. -/
  label : String
  deriving DecidableEq

/-- A text without a word at its front. -/
def afterWord? (word : String) (s : List Char) : Option (List Char) :=
  if word.toList.isPrefixOf s then some (s.drop word.length) else none

/-- A text without blanks at its front, of which there is one at least. -/
def afterBlanks? : List Char → Option (List Char)
  | c :: rest => if isBlank c then some (trimStartChars rest) else none
  | [] => none

/-- The text between quotes at the front of `s`, of one character at least, and what follows. -/
def quotedText? : List Char → Option (List Char × List Char)
  | '"' :: rest =>
    let text := rest.takeWhile (· != '"')
    match rest.drop text.length with
    | _ :: after => if text.isEmpty then none else some (text, after)
    | [] => none
  | _ => none

/-- The names of the blocks whose headers are looked for. -/
def headerNames : List String := ["resource", "module"]

/-- Recognises a header at the front of a line, with blank lines before it: its type and label. A
header with one text is labelled by it, and one with two by the second. -/
def headerAt? : Recogniser (String × String) := fun prev s =>
  if prev == none || prev == some '\n' then
    let front := trimStartChars s
    headerNames.findSome? fun name =>
      (afterWord? name front).bind fun rest =>
        (afterBlanks? rest).bind fun rest =>
          (quotedText? rest).map fun (first, rest) =>
            match (afterBlanks? rest).bind quotedText? with
            | some (second, after) =>
              ((String.ofList first, String.ofList second), s.length - after.length)
            | none => ((name, String.ofList first), s.length - rest.length)
  else none

/-- The headers of a text. -/
def blocksOf (s : List Char) : List Block :=
  (occurrences headerAt? s).map fun (offset, kind, label) => ⟨offset, kind, label⟩

/-- The attributes that speak of ports, in the order in which they are tried. -/
def settingNames : List String :=
  ["container_port", "host_port", "port", "internal", "external"]

/-- Whether an attribute speaks of the port outside a container. -/
def isHostSetting (setting : String) : Bool :=
  setting == "host_port" || setting == "external"

/-- At most five decimal digits at the front of `s`, of which there is one at least, and what
follows. -/
def digits? (s : List Char) : Option (List Char × List Char) :=
  let digits := (s.takeWhile isDecimal).take 5
  if digits.isEmpty then none else some (digits, s.drop digits.length)

/-- A text without a quote at its front. -/
def afterQuote : List Char → List Char
  | '"' :: rest => rest
  | s => s

/-- The digits that are assigned at the front of `s`, with or without quotes, and what follows. -/
def assigned? (s : List Char) : Option (List Char × List Char) :=
  match trimStartChars s with
  | '=' :: rest =>
    (digits? (afterQuote (trimStartChars rest))).map fun (digits, after) =>
      (digits, afterQuote after)
  | _ => none

/-- Recognises an assignment to an attribute that speaks of ports: the attribute and the digits. No
character of a word stands before it. -/
def assignmentAt? : Recogniser (String × List Char) := fun prev s =>
  if prev.any isWordChar then none
  else
    settingNames.findSome? fun name =>
      (afterWord? name s).bind fun rest =>
        (assigned? rest).map fun (digits, after) => ((name, digits), s.length - after.length)

/-- Recognises a pair of numbers between quotes, with a colon between them: the digits of both. -/
def pairAt? : Recogniser (List Char × List Char) := fun _ s =>
  match s with
  | '"' :: rest =>
    match digits? rest with
    | some (host, ':' :: rest) =>
      match digits? rest with
      | some (container, '"' :: after) => some ((host, container), s.length - after.length)
      | _ => none
    | _ => none
  | _ => none

/-- Whether a comment begins in the characters of a line, given whether they begin inside quotes. -/
def holdsComment : Bool → List Char → Bool
  | _, [] => false
  | true, '\\' :: _ :: rest => holdsComment true rest
  | true, c :: rest => holdsComment (c != '"') rest
  | false, '#' :: _ => true
  | false, '/' :: '/' :: _ => true
  | false, c :: rest => holdsComment (c == '"') rest

/-- Whether the character with an offset stands in a comment. -/
def isCommented (s : List Char) (offset : Nat) : Bool :=
  holdsComment false (lineBefore s offset)

/-- The number of the last block that begins at an offset or before it. -/
def blockAt? (blocks : List Block) (offset : Nat) : Option Nat :=
  (blocks.zipIdx.filter (fun (b, _) => b.start ≤ offset)).getLast?.map (·.2)

/-- A port that an assignment names. -/
structure Site where
  /-- The number of the block, if there is one. -/
  block : Option Nat
  /-- The attribute. -/
  setting : String
  /-- The port. -/
  port : Nat
  /-- The line. -/
  line : Nat
  deriving DecidableEq

/-- The ports that assignments outside comments name. -/
def sitesOf (blocks : List Block) (s : List Char) : List Site :=
  (occurrences assignmentAt? s).filterMap fun (offset, setting, digits) =>
    if isCommented s offset then none
    else (Port.read? digits).map fun port =>
      ⟨blockAt? blocks offset, setting, port, lineAt s offset⟩

/-- The service that a block names, or the file where there is no block. -/
def serviceOf (file : File) (block : Option Block) : String :=
  match block with
  | some b => b.label
  | none => file.path.stem?.getD file.service

/-- The block with a number. -/
def blockWith? (blocks : List Block) (number : Option Nat) : Option Block :=
  number.bind (blocks[·]?)

/-- A declaration of a port of a block on a line, by an attribute. -/
def declare (file : File) (block : Option Block) (port : Nat) (host : Option Nat) (line : Nat)
    (setting : String) : Declaration :=
  let declared := Declaration.basic (serviceOf file block) port .provisioning file.display
  { declared with hostPort := host, line := some line }.withContext "attribute" setting

/-- The declarations of the assignments of one block. -/
def ofBlock (file : File) (blocks : List Block) (sites : List Site) (number : Option Nat) :
    List Declaration :=
  let block := blockWith? blocks number
  let own := sites.filter (·.block == number)
  let hosts := own.filter (fun s => isHostSetting s.setting)
  let containers := own.filter (fun s => !isHostSetting s.setting)
  containers.zipIdx.map fun (site, i) =>
    (declare file block site.port (hosts[i]?.map (·.port)) site.line site.setting).withContext?
      "resource_type" (block.map (·.kind))

/-- The declarations of the assignments, block by block in the order in which they begin to name
ports. -/
def ofSites (file : File) (blocks : List Block) (sites : List Site) : List Declaration :=
  (sites.map (·.block)).eraseDups.flatMap (ofBlock file blocks sites)

/-- The declarations of the pairs outside comments. -/
def ofPairs (file : File) (blocks : List Block) (s : List Char) : List Declaration :=
  (occurrences pairAt? s).filterMap fun (offset, host, container) =>
    if isCommented s offset then none
    else
      match Port.read? host, Port.read? container with
      | some host, some container =>
        let block := blockWith? blocks (blockAt? blocks offset)
        some (declare file block container (some host) (lineAt s offset) "port_pair")
      | _, _ => none

/-- The declarations of a description of infrastructure, in the order of their lines. -/
def read (file : File) (content : String) : List Declaration :=
  let s := content.toList
  let blocks := blocksOf s
  (ofSites file blocks (sitesOf blocks s) ++ ofPairs file blocks s).mergeSort
    (fun d e => d.line.getD 0 ≤ e.line.getD 0)

end PortSurvey.Artifact.Provisioning
