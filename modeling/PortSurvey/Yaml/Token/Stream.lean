import PortSurvey.Yaml.Token.Property
import PortSurvey.Yaml.Token.Scalar

/-!
# Tokens of a text

`Token.ofText?` reads the tokens of a whole stream. Indentation opens and closes block collections,
and a colon may turn what stands before it on its line into a key: `Scanner` keeps, for each open
flow collection and the block level around them, the place where such a key may have begun.
-/

namespace PortSurvey.Yaml

/-- A place where a key may have begun. -/
structure PossibleKey where
  /-- Whether nothing but a key may stand there. -/
  required : Bool
  /-- The number of tokens before it. -/
  tokenCount : Nat
  /-- The place in the text. -/
  place : Cursor

/-- The tokens read so far, and what decides how the next one is read. -/
structure Scanner where
  /-- The place in the text. -/
  cursor : Cursor
  /-- The tokens read, the newest first. -/
  tokens : List Token
  /-- The number of tokens read. -/
  count : Nat
  /-- The number of flow collections that are open. -/
  flowLevel : Nat
  /-- Whether a key may begin here. -/
  keyAllowed : Bool
  /-- Where keys may have begun, the innermost level first. -/
  keys : List (Option PossibleKey)
  /-- The columns of the open block collections, the innermost first. -/
  indents : List Nat

namespace Scanner

/-- The state before the first token of a text. -/
def start (text : List Char) : Scanner :=
  ⟨Cursor.start text, [], 0, 0, true, [none], []⟩

/-- Adds a token. -/
def push (s : Scanner) (t : Token) : Scanner :=
  { s with tokens := t :: s.tokens, count := s.count + 1 }

/-- Adds a token before those that came after the first `at'` ones. -/
def insertAt (s : Scanner) (position : Nat) (t : Token) : Scanner :=
  { s with tokens := s.tokens.insertIdx (s.count - position) t, count := s.count + 1 }

/-- Whether a flow collection is open. -/
def inFlow (s : Scanner) : Bool :=
  0 < s.flowLevel

/-- The least column of a line that goes on the innermost block collection's entry. -/
def nextIndent (s : Scanner) : Nat :=
  match s.indents with
  | column :: _ => column + 1
  | [] => 0

/-- Closes the block collections whose column is at least `least`. -/
def closeBlocks (s : Scanner) (least : Nat) : Scanner :=
  if s.inFlow then s
  else
    let closed := s.indents.takeWhile (least ≤ ·)
    closed.foldl (fun s _ => s.push .blockEnd) { s with indents := s.indents.drop closed.length }

/-- Opens a block collection at a column, unless one of that column or a greater one is open. Its
token stands after the first `position` tokens. -/
def openBlock (s : Scanner) (column position : Nat) (t : Token) : Scanner :=
  if s.inFlow || column < s.nextIndent then s
  else { s.insertAt position t with indents := column :: s.indents }

/-- Gives up the key that may have begun on this level. -/
def dropKey (s : Scanner) : Except Fault Scanner :=
  match s.keys with
  | some k :: rest => if k.required then .error .key else .ok { s with keys := none :: rest }
  | _ => .ok s

/-- Remembers that a key may begin here. -/
def saveKey (s : Scanner) : Except Fault Scanner :=
  if s.keyAllowed then
    let required := !s.inFlow && s.indents.head? == some s.cursor.column
    (s.dropKey).map fun s =>
      { s with keys := some ⟨required, s.count, s.cursor⟩ :: s.keys.drop 1 }
  else .ok s

/-- Whether a key that began at `k` can no longer end at `c`: it stands on one line and has at most
1024 characters. -/
def isStale (c : Cursor) (k : PossibleKey) : Bool :=
  k.place.line < c.line || k.place.index + 1024 < c.index

/-- Gives up the keys that can no longer end here. -/
def dropStaleKeys (s : Scanner) : Except Fault Scanner :=
  let stale (k : Option PossibleKey) : Bool := k.any (isStale s.cursor)
  if s.keys.any (fun k => stale k && k.any (·.required)) then .error .key
  else .ok { s with keys := s.keys.map (fun k => if stale k then none else k) }

/-- Passes blanks, comments and line breaks. A tab is a blank where no key may begin. -/
def skipGap (inFlow : Bool) : Nat → Bool → Cursor → Bool × Cursor
  | 0, keyAllowed, c => (keyAllowed, c)
  | fuel + 1, keyAllowed, c =>
    let c := if c.column == 0 && c.peek.any (·.toNat == 0xFEFF) then c.skip 1 else c
    let c := c.skipWhile (fun x => x == ' ' || ((inFlow || !keyAllowed) && x == '\t'))
    let c := if c.sees '#' then c.skipWhile (fun x => !isBreak x) else c
    if c.peek.any isBreak then skipGap inFlow fuel (keyAllowed || !inFlow) c.skipBreak
    else (keyAllowed, c)

/-- Passes `n` characters and adds the token they make up. -/
def pass (s : Scanner) (n : Nat) (t : Token) : Scanner :=
  { s with cursor := s.cursor.skip n }.push t

/-- Reads a bracket or brace that opens a flow collection. -/
def openFlow (s : Scanner) (t : Token) : Except Fault Scanner :=
  (s.saveKey).map fun s =>
    { s with flowLevel := s.flowLevel + 1, keys := none :: s.keys, keyAllowed := true }.pass 1 t

/-- Reads a bracket or brace that closes a flow collection. -/
def closeFlow (s : Scanner) (t : Token) : Except Fault Scanner :=
  (s.dropKey).map fun s =>
    let keys := if s.inFlow then s.keys.drop 1 else s.keys
    { s with flowLevel := s.flowLevel - 1, keys := keys, keyAllowed := false }.pass 1 t

/-- Reads the hyphen of an item. -/
def readItem (s : Scanner) : Except Fault Scanner :=
  if !s.inFlow && !s.keyAllowed then .error .indicator
  else
    ((s.openBlock s.cursor.column s.count .blockSequence).dropKey).map fun s =>
      { s with keyAllowed := true }.pass 1 .item

/-- Reads the question mark of a key. -/
def readKey (s : Scanner) : Except Fault Scanner :=
  if !s.inFlow && !s.keyAllowed then .error .indicator
  else
    ((s.openBlock s.cursor.column s.count .blockMapping).dropKey).map fun s =>
      { s with keyAllowed := !s.inFlow }.pass 1 .key

/-- Reads the colon of a value. -/
def readValue (s : Scanner) : Except Fault Scanner :=
  match s.keys with
  | some k :: rest =>
    let s := (s.insertAt k.tokenCount .key).openBlock k.place.column k.tokenCount .blockMapping
    .ok ({ s with keys := none :: rest, keyAllowed := false }.pass 1 .value)
  | _ =>
    if !s.inFlow && !s.keyAllowed then .error .indicator
    else
      let s := s.openBlock s.cursor.column s.count .blockMapping
      .ok ({ s with keyAllowed := !s.inFlow }.pass 1 .value)

/-- Adds a token that was read up to `c` and after which no key may begin. -/
def addNode (s : Scanner) (t : Token) (c : Cursor) : Scanner :=
  { s with cursor := c, keyAllowed := false }.push t

/-- Reads the token that begins with `x`, the next character. -/
def readToken (s : Scanner) (x : Char) : Except Fault Scanner := do
  let c := s.cursor
  let next := c.peekAt 1
  if c.column == 0 && x == '%' then
    let s ← (s.closeBlocks 0).dropKey
    let (token, c) ← readDirective c
    return s.addNode token c
  else if c.seesDocumentMark then
    let s ← (s.closeBlocks 0).dropKey
    let token := if x == '-' then Token.documentStart else Token.documentEnd
    return s.addNode token (c.skip 3)
  else if x == '[' then s.openFlow .flowSequence
  else if x == '\x7b' then s.openFlow .flowMapping
  else if x == ']' then s.closeFlow .flowSequenceEnd
  else if x == '\x7d' then s.closeFlow .flowMappingEnd
  else if x == ',' then
    let s ← s.dropKey
    return { s with keyAllowed := true }.pass 1 .comma
  else if x == '-' && isGap next then s.readItem
  else if x == '?' && (s.inFlow || isGap next) then s.readKey
  else if x == ':' && (s.inFlow || isGap next) then s.readValue
  else if x == '*' then
    let s ← s.saveKey
    let (name, c) ← readAnchorName c
    return s.addNode (.reference name) c
  else if x == '&' then
    let s ← s.saveKey
    let (name, c) ← readAnchorName c
    return s.addNode (.anchor name) c
  else if x == '!' then
    let s ← s.saveKey
    let (token, c) ← readTag s.inFlow c
    return s.addNode token c
  else if (x == '|' || x == '>') && !s.inFlow then
    let s ← s.dropKey
    let (text, c) ← readBlock (x == '|') s.indents.head? c
    return { s.addNode (.scalar false (String.ofList text)) c with keyAllowed := true }
  else if x == '\'' || x == '"' then
    let s ← s.saveKey
    let (text, c) ← readQuoted x c
    return s.addNode (.scalar false (String.ofList text)) c
  else if (!isIndicator x && !isGap (some x)) || (x == '-' && !next.any isSpaceOrTab) ||
      (!s.inFlow && (x == '?' || x == ':') && !isGap next) then
    let s ← s.saveKey
    let (text, endedAfterBreak, c) ← readPlain s.inFlow s.nextIndent c
    return { s.addNode (.scalar true (String.ofList text)) c with keyAllowed := endedAfterBreak }
  else throw .indicator

/-- Reads tokens up to the end of the text. -/
def run : Nat → Scanner → Except Fault Scanner
  | 0, s => .ok s
  | fuel + 1, s => do
    let (keyAllowed, cursor) := skipGap s.inFlow (s.cursor.rest.length + 1) s.keyAllowed s.cursor
    let s ← { s with keyAllowed := keyAllowed, cursor := cursor }.dropStaleKeys
    let s := s.closeBlocks (cursor.column + 1)
    match cursor.peek with
    | none => (s.closeBlocks 0).dropKey
    | some x => run fuel (← s.readToken x)

end Scanner

/-- The tokens of a text. -/
def Token.ofText? (text : List Char) : Except Fault (List Token) :=
  if text.all isAllowed then
    (Scanner.run (text.length + 1) (Scanner.start text)).map (·.tokens.reverse)
  else .error .character

end PortSurvey.Yaml
