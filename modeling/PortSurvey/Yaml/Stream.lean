import PortSurvey.Yaml.Node
import PortSurvey.Yaml.Token.Stream

/-!
# Documents of a token stream

`Document.ofTokens` builds the documents of a stream one after the other. A node may leave out its
content, which is then an empty scalar. The rules for each kind of collection are one function.
-/

namespace PortSurvey.Yaml

/-- What is known while a document is built. -/
structure Building where
  /-- The tokens still to be used. -/
  tokens : List Token
  /-- What the declared handles stand for. -/
  handles : List (String × String)
  /-- The number of each anchor name. -/
  names : List (String × Nat)
  /-- The anchored nodes that are complete. -/
  anchors : List Anchored
  /-- How many anchored nodes have begun. -/
  begun : Nat
  /-- The number of scalars and references and of ends of collections so far. -/
  size : Nat

namespace Building

/-- The next token. -/
def peek (b : Building) : Option Token :=
  b.tokens.head?

/-- Whether the next token is `t`. -/
def sees (b : Building) (t : Token) : Bool :=
  b.peek == some t

/-- Whether the next token is one of `ts`. -/
def seesAny (b : Building) (ts : List Token) : Bool :=
  match b.peek with
  | some t => t ∈ ts
  | none => false

/-- Uses the next token. -/
def drop (b : Building) : Building :=
  { b with tokens := b.tokens.drop 1 }

/-- Counts `n` more. -/
def grow (b : Building) (n : Nat) : Building :=
  { b with size := b.size + n }

end Building

/-- A node that was left out. -/
def Node.empty : Node :=
  .scalar none true ""

/-- The anchor and the tag before a node, each of which may stand once and in either order. -/
structure Properties where
  /-- The name of the anchor. -/
  anchor : Option String
  /-- The handle and the rest of the tag. -/
  tag : Option (String × String)

/-- Reads the properties of a node. -/
def Building.readProperties (b : Building) : Properties × Building :=
  match b.tokens with
  | .anchor name :: .tag h s :: rest => (⟨some name, some (h, s)⟩, { b with tokens := rest })
  | .tag h s :: .anchor name :: rest => (⟨some name, some (h, s)⟩, { b with tokens := rest })
  | .anchor name :: rest => (⟨some name, none⟩, { b with tokens := rest })
  | .tag h s :: rest => (⟨none, some (h, s)⟩, { b with tokens := rest })
  | _ => (⟨none, none⟩, b)

/-- The tag that a handle and the rest make up. -/
def Building.tagText (b : Building) : Option (String × String) → Except Fault (Option String)
  | none => .ok none
  | some (handle, suffix) =>
    if handle.isEmpty then .ok (some suffix)
    else
      match b.handles.find? (·.1 == handle) with
      | some (_, stem) => .ok (some (stem ++ suffix))
      | none => .error .tag

/-- Numbers an anchor and begins its node: the number and the order, if there is an anchor. -/
def Building.beginAnchor (b : Building) : Option String → Option (Nat × Nat) × Building
  | none => (none, b)
  | some name =>
    let number := b.names.length
    let known := b.names.any (·.1 == name)
    let names :=
      if known then b.names.map (fun e => if e.1 == name then (name, number) else e)
      else (name, number) :: b.names
    (some (number, b.begun), { b with names := names, begun := b.begun + 1 })

/-- Completes an anchored node. -/
def Building.endAnchor (b : Building) (mark : Option (Nat × Nat)) (node : Node) : Building :=
  match mark with
  | some (number, order) => { b with anchors := ⟨number, order, node⟩ :: b.anchors }
  | none => b

/-- The scalar that a scalar token makes with a tag: the tag `!` says nothing about it. -/
def Node.ofScalar (tag : Option String) (plain : Bool) (text : String) : Node :=
  if tag == some "!" then .scalar none plain text else .scalar tag plain text

/-- Builds a node that has properties but no content. -/
def buildLeftOut (properties : Properties) (tag : Option String) (b : Building) :
    Except Fault (Node × Building) :=
  if properties.anchor.isSome || properties.tag.isSome then
    .ok (.scalar tag true "", b.grow 1)
  else .error .misplaced

mutual

/-- Builds a node. `block` allows indented collections, and `bare` allows a sequence that is
indented no further than the mapping around it. -/
def buildNode : Nat → Bool → Bool → Building → Except Fault (Node × Building)
  | 0, _, _, _ => .error .misplaced
  | fuel + 1, block, bare, b =>
    match b.peek with
    | some (.reference name) =>
      match b.names.find? (·.1 == name) with
      | some (_, number) => .ok (.reference number, (b.drop).grow 1)
      | none => .error .unknownAlias
    | _ => do
      let (properties, b) := b.readProperties
      let tag ← b.tagText properties.tag
      let (mark, begun) := b.beginAnchor properties.anchor
      let (node, b) ←
        match b.peek with
        | some .item =>
          if bare then do
            let (items, b) ← buildBareItems fuel [] begun
            pure (Node.sequence tag items, b.grow 2)
          else buildLeftOut properties tag begun
        | some (.scalar plain text) => pure (Node.ofScalar tag plain text, (begun.drop).grow 1)
        | some .flowSequence => do
          let (items, b) ← buildFlowItems fuel true [] begun.drop
          pure (Node.sequence tag items, b.grow 2)
        | some .flowMapping => do
          let (entries, b) ← buildFlowEntries fuel true [] begun.drop
          pure (Node.mapping tag entries, b.grow 2)
        | some .blockSequence =>
          if block then do
            let (items, b) ← buildBlockItems fuel [] begun.drop
            pure (Node.sequence tag items, b.grow 2)
          else buildLeftOut properties tag begun
        | some .blockMapping =>
          if block then do
            let (entries, b) ← buildBlockEntries fuel [] begun.drop
            pure (Node.mapping tag entries, b.grow 2)
          else buildLeftOut properties tag begun
        | _ => buildLeftOut properties tag begun
      return (node, b.endAnchor mark node)

/-- Builds the items of an indented sequence. -/
def buildBlockItems : Nat → List Node → Building → Except Fault (List Node × Building)
  | 0, _, _ => .error .misplaced
  | fuel + 1, items, b =>
    if b.sees .item then
      let b := b.drop
      if b.seesAny [.item, .blockEnd] then buildBlockItems fuel (.empty :: items) (b.grow 1)
      else do
        let (node, b) ← buildNode fuel true false b
        buildBlockItems fuel (node :: items) b
    else if b.sees .blockEnd then .ok (items.reverse, b.drop)
    else .error .misplaced

/-- Builds the items of a sequence that is indented no further than the mapping around it. -/
def buildBareItems : Nat → List Node → Building → Except Fault (List Node × Building)
  | 0, _, _ => .error .misplaced
  | fuel + 1, items, b =>
    if b.sees .item then
      let b := b.drop
      if b.seesAny [.item, .key, .value, .blockEnd] then
        buildBareItems fuel (.empty :: items) (b.grow 1)
      else do
        let (node, b) ← buildNode fuel true false b
        buildBareItems fuel (node :: items) b
    else .ok (items.reverse, b)

/-- Builds the entries of an indented mapping. -/
def buildBlockEntries : Nat → List (Node × Node) → Building →
    Except Fault (List (Node × Node) × Building)
  | 0, _, _ => .error .misplaced
  | fuel + 1, entries, b =>
    if b.sees .key then do
      let b := b.drop
      let (key, b) ←
        if b.seesAny [.key, .value, .blockEnd] then .ok (Node.empty, b.grow 1)
        else buildNode fuel true true b
      let (value, b) ← buildBlockValue fuel b
      buildBlockEntries fuel ((key, value) :: entries) b
    else if b.sees .blockEnd then .ok (entries.reverse, b.drop)
    else .error .misplaced

/-- Builds the value of an entry of an indented mapping. -/
def buildBlockValue : Nat → Building → Except Fault (Node × Building)
  | 0, _ => .error .misplaced
  | fuel + 1, b =>
    if b.sees .value then
      let b := b.drop
      if b.seesAny [.key, .value, .blockEnd] then .ok (.empty, b.grow 1)
      else buildNode fuel true true b
    else .ok (.empty, b.grow 1)

/-- Builds the items of a sequence in brackets. -/
def buildFlowItems : Nat → Bool → List Node → Building → Except Fault (List Node × Building)
  | 0, _, _, _ => .error .misplaced
  | fuel + 1, first, items, b =>
    if b.sees .flowSequenceEnd then .ok (items.reverse, b.drop)
    else if !first && !b.sees .comma then .error .misplaced
    else
      let b := if first then b else b.drop
      if b.sees .key then do
        let (pair, b) ← buildFlowPair fuel b.drop
        buildFlowItems fuel false (.mapping none [pair] :: items) (b.grow 2)
      else if b.sees .flowSequenceEnd then .ok (items.reverse, b.drop)
      else do
        let (node, b) ← buildNode fuel false false b
        buildFlowItems fuel false (node :: items) b

/-- Builds the one entry of a mapping without braces inside brackets. Where its key is left out the
token after the question mark is passed over. -/
def buildFlowPair : Nat → Building → Except Fault ((Node × Node) × Building)
  | 0, _ => .error .misplaced
  | fuel + 1, b => do
    let (key, b) ←
      if b.seesAny [.value, .comma, .flowSequenceEnd] then .ok (Node.empty, (b.drop).grow 1)
      else buildNode fuel false false b
    let (value, b) ←
      if b.sees .value && !(b.drop).seesAny [.comma, .flowSequenceEnd] then
        buildNode fuel false false b.drop
      else
        let b := if b.sees .value then b.drop else b
        .ok (Node.empty, b.grow 1)
    return ((key, value), b)

/-- Builds the entries of a mapping in braces. -/
def buildFlowEntries : Nat → Bool → List (Node × Node) → Building →
    Except Fault (List (Node × Node) × Building)
  | 0, _, _, _ => .error .misplaced
  | fuel + 1, first, entries, b =>
    if b.sees .flowMappingEnd then .ok (entries.reverse, b.drop)
    else if !first && !b.sees .comma then .error .misplaced
    else
      let b := if first then b else b.drop
      if b.sees .key then do
        let b := b.drop
        let (key, b) ←
          if b.seesAny [.value, .comma, .flowMappingEnd] then .ok (Node.empty, b.grow 1)
          else buildNode fuel false false b
        let (value, b) ←
          if b.sees .value && !(b.drop).seesAny [.comma, .flowMappingEnd] then
            buildNode fuel false false b.drop
          else
            let b := if b.sees .value then b.drop else b
            .ok (Node.empty, b.grow 1)
        buildFlowEntries fuel false ((key, value) :: entries) b
      else if b.sees .flowMappingEnd then .ok (entries.reverse, b.drop)
      else do
        let (key, b) ← buildNode fuel false false b
        buildFlowEntries fuel false ((key, .empty) :: entries) (b.grow 1)

end

/-- The handles that need no declaration. -/
def defaultHandles : List (String × String) :=
  [("!", "!"), ("!!", "tag:yaml.org,2002:")]

/-- Reads the directives before a document: the handles that they declare, and the other tokens. -/
def readDirectives : Bool → List (String × String) → List Token →
    Except Fault (List (String × String) × List Token)
  | versioned, handles, .version major minor :: rest =>
    if versioned || major != 1 || (minor != 1 && minor != 2) then .error .directive
    else readDirectives true handles rest
  | versioned, handles, .handle name stem :: rest =>
    if handles.any (·.1 == name) then .error .directive
    else readDirectives versioned (handles ++ [(name, stem)]) rest
  | _, handles, tokens => .ok (handles, tokens)

/-- Builds the document whose content is next. `explicit` says that it was opened by its line, and
may then be without content. -/
def buildDocument (explicit : Bool) (handles : List (String × String)) (tokens : List Token) :
    Except Fault (Document × List Token) := do
  let b : Building := ⟨tokens, handles ++ defaultHandles, [], [], 0, 0⟩
  let leftOut := match b.peek with
    | none | some (.version ..) | some (.handle ..) | some .documentStart | some .documentEnd =>
      explicit
    | _ => false
  let (root, b) ←
    if leftOut then .ok (Node.empty, b.grow 1)
    else buildNode (3 * tokens.length + 3) true false b
  let rest := if b.sees .documentEnd then b.tokens.drop 1 else b.tokens
  return (⟨some root, b.anchors, b.size⟩, rest)

/-- Builds the documents after the first. The result ends with a fault if there is one. -/
def buildDocuments : Nat → List Token → List (Except Fault Document)
  | 0, _ => []
  | fuel + 1, tokens =>
    let tokens := tokens.dropWhile (· == .documentEnd)
    if tokens.isEmpty then []
    else
      match readDirectives false [] tokens with
      | .ok (handles, .documentStart :: rest) =>
        match buildDocument true handles rest with
        | .ok (d, rest) => .ok d :: buildDocuments fuel rest
        | .error e => [.error e]
      | .ok _ => [.error .misplaced]
      | .error e => [.error e]

/-- The documents of a stream. A stream without documents is one document without a node, and the
list ends with a fault if there is one. -/
def Document.ofTokens (tokens : List Token) : List (Except Fault Document) :=
  match tokens with
  | [] => [.ok ⟨none, [], 1⟩]
  | .version .. :: _ | .handle .. :: _ | .documentStart :: _ =>
    buildDocuments (tokens.length + 1) tokens
  | _ =>
    match buildDocument false [] tokens with
    | .ok (d, rest) => .ok d :: buildDocuments (tokens.length + 1) rest
    | .error e => [.error e]

/-- The documents of a text. -/
def Document.ofText (text : String) : List (Except Fault Document) :=
  match Token.ofText? text.toList with
  | .ok tokens => Document.ofTokens tokens
  | .error e => [.error e]

end PortSurvey.Yaml
