/-!
# What can be wrong with a document

The causes for which a text is no stream of documents, or a document is no value. They are kept
apart so that each rule can be read and tested alone; who reads a document reports its file only.
-/

namespace PortSurvey.Yaml

/-- Why a text cannot be read. -/
inductive Fault
  /-- A character stands in the text that no document may hold. -/
  | character
  /-- An indicator stands where it has no meaning. -/
  | indicator
  /-- A directive is unknown, malformed or repeated. -/
  | directive
  /-- An anchor or alias has no name, or goes on with a character that ends none. -/
  | anchorName
  /-- A tag is malformed, or its handle was never declared. -/
  | tag
  /-- A quoted text is not closed, or has an unknown escape. -/
  | quotedText
  /-- A tab stands where indentation is counted, or an indicator line holds more than it may. -/
  | indentation
  /-- A key is not followed by its colon. -/
  | key
  /-- A token is not one of those that may follow. -/
  | misplaced
  /-- An alias names an anchor that was not set before it. -/
  | unknownAlias
  /-- Collections are nested too deep. -/
  | depth
  /-- Aliases are followed too often. -/
  | repetition
  /-- A mapping has two equal keys. -/
  | duplicateKey
  /-- A scalar is no value of the type that its tag or its place asks for. -/
  | scalar
  /-- A node is of the wrong kind for its place, or a field is missing or unknown. -/
  | shape
  /-- There is a second document where one is read. -/
  | secondDocument
  deriving DecidableEq, Repr

end PortSurvey.Yaml
