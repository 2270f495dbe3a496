import PortSurvey.Pattern.CategoryTable
import PortSurvey.Pattern.CharSet
import PortSurvey.Pattern.LetterTable
import PortSurvey.Pattern.PropertyTable
import PortSurvey.Pattern.ScriptTable
import PortSurvey.Text.Blank
import PortSurvey.Text.Case
import PortSurvey.Text.QuotedTable
import PortSurvey.Text.Split

/-!
# Sets of characters by property

`property?` finds the set of characters with a property by one of its names: a general category or
a group of them, a script, or a property that a character has or has not. Case, spaces, hyphens,
underscores and characters other than ASCII in a name mean nothing.
-/

namespace PortSurvey.Pattern

open Text

/-- A name in lower case, without `is` at its front and then without spaces, hyphens, underscores
and what is not ASCII. The name `isc` stays, since it is that of a property of its own. -/
def foldPropertyName (name : List Char) : String :=
  let keep (name : List Char) : List Char :=
    name.filter (fun c => c.toNat < 0x80 && !(c == ' ' || c == '-' || c == '_'))
  String.ofList (match name.map Char.toLower with
    | 'i' :: 's' :: rest => if keep rest == ['c'] then ['i', 's', 'c'] else keep rest
    | name => keep name)

/-- The rows of a table of first characters and what holds from there on. -/
def tableRows (table : String) : List (Nat × String) :=
  (tableItems table).filterMap fun row =>
    match row.splitOnP (· == ':') with
    | [first, value] => some (hexNumber first, String.ofList value)
    | _ => none

/-- The ranges of a table whose value has a property. -/
def rangesWhere (p : String → Bool) : List (Nat × String) → Ranges
  | (first, value) :: (next, v) :: rest =>
    if p value then (first, next - 1) :: rangesWhere p ((next, v) :: rest)
    else rangesWhere p ((next, v) :: rest)
  | [(first, value)] => if p value && first ≤ maxCode then [(first, maxCode)] else []
  | [] => []

/-- The short name of a value that is asked for by one of its names. -/
def shortName? (names : String) (name : String) : Option String :=
  (tableItems names).findSome? fun row =>
    match row.splitOnP (· == ':') with
    | [short, all] =>
      if (all.splitOnP (· == ',')).any (fun n => String.ofList n == name) then
        some (String.ofList short)
      else none
    | _ => none

/-- The general categories in a group. -/
def inCategory (group category : String) : Bool :=
  if group == "LC" then category ∈ ["Lu", "Ll", "Lt"]
  else if group.length == 1 then startsWith category group
  else category == group

/-- The characters of a general category or a group of them. -/
def category? (name : String) : Option Ranges :=
  if name == "any" then some [(0, maxCode)]
  else if name == "ascii" then some [(0, 0x7F)]
  else if name == "assigned" then
    some (rangesWhere (fun c => c != "Cn") (tableRows categoryTable))
  else
    (shortName? categoryNames name).map fun group =>
      rangesWhere (inCategory group) (tableRows categoryTable)

/-- The characters of a script. -/
def script? (name : String) : Option Ranges :=
  (shortName? scriptNames name).map fun script =>
    rangesWhere (· == script) (tableRows scriptTable)

/-- The rows of the table of shared characters: a range and scripts with which it is used. -/
def sharedRows : List ((Nat × Nat) × List String) :=
  (tableItems sharedScriptTable).filterMap fun row =>
    match row.splitOnP (· == ':') with
    | [range, scripts] =>
      ((Ranges.ofTable (String.ofList range)).head?).map fun range =>
        (range, (scripts.splitOnP (· == ',')).map String.ofList)
    | _ => none

/-- The characters that are used with a script. -/
def usedScript? (name : String) : Option Ranges :=
  (shortName? scriptNames name).map fun script =>
    difference (rangesWhere (· == script) (tableRows scriptTable)) (sharedRows.map (·.1)) ++
      (sharedRows.filter (script ∈ ·.2)).map (·.1)

/-! ## Properties that a character has or has not -/

/-- The characters of general categories. -/
def categories (names : List String) : Ranges :=
  rangesWhere (· ∈ names) (tableRows categoryTable)

/-- The characters of a table of properties. -/
def tabled? (name : String) : Option Ranges :=
  (propertyTables.find? (name ∈ ·.1)).map fun row => Ranges.ofTable row.2

/-- The characters with a property of patterns, which no identifier holds. -/
def patternCharacters : Ranges :=
  ["patsyn", "patws"].flatMap fun name => (tabled? name).getD []

/-- The characters with which an identifier may begin. -/
def identifierStart : Ranges :=
  difference (categories ["Lu", "Ll", "Lt", "Lm", "Lo", "Nl"] ++
    Ranges.ofTable identifierStartTable) patternCharacters

/-- The characters with which an identifier may go on. -/
def identifier : Ranges :=
  difference (identifierStart ++ categories ["Mn", "Mc", "Nd", "Pc"] ++
    Ranges.ofTable identifierTable) patternCharacters

/-- The characters that others may extend. -/
def graphemeBase : Ranges :=
  complement (categories ["Cc", "Cf", "Cs", "Co", "Cn", "Zl", "Zp"] ++ extenderRanges)

/-- The code points that runs map to others. -/
def runSources (runs : List Run) : Ranges :=
  runs.flatMap fun run =>
    (List.range ((run.hi - run.lo) / run.step + 1)).map fun i =>
      (run.lo + i * run.step, run.lo + i * run.step)

/-- The characters that change in lower case. -/
def lowered : Ranges :=
  (0x130, 0x130) :: runSources lowerRuns

/-- The characters that change in upper case. -/
def uppered : Ranges :=
  (0x61, 0x7A) :: wideUppers.map (fun row => (row.1, row.1)) ++ runSources upperRuns

/-- The characters that change in a title. -/
def titled : Ranges :=
  difference uppered (Ranges.ofTable ownTitleTable) ++ Ranges.ofTable otherTitleTable

/-- The characters that change when case is folded. -/
def foldChanged : Ranges :=
  difference ((0x130, 0x130) :: wideUppers.map (fun row => (row.1, row.1)) ++
    folds.map fun f => (f.1, f.1)) (Ranges.ofTable ownFoldTable)

/-- The characters with a property that a character has or has not. -/
def binaryProperty? (name : String) : Option Ranges :=
  match name with
  | "alphabetic" | "alpha" => some (Ranges.ofTable alphabeticTable)
  | "uppercase" | "upper" => some (Ranges.ofTable uppercaseTable)
  | "lowercase" | "lower" => some (Ranges.ofTable lowercaseTable)
  | "whitespace" | "wspace" | "space" => some blank
  | "cased" => some casedRanges
  | "caseignorable" | "ci" => some caseIgnorableRanges
  | "graphemeextend" | "grext" => some extenderRanges
  | "graphemebase" | "grbase" => some graphemeBase
  | "math" => some (categories ["Sm"] ++ Ranges.ofTable mathTable)
  | "idstart" | "ids" => some identifierStart
  | "idcontinue" | "idc" => some identifier
  | "xidstart" | "xids" => some (difference identifierStart (Ranges.ofTable composedStartTable))
  | "xidcontinue" | "xidc" => some (difference identifier (Ranges.ofTable composedTable))
  | "changeswhenlowercased" | "cwl" => some lowered
  | "changeswhenuppercased" | "cwu" => some uppered
  | "changeswhentitlecased" | "cwt" => some titled
  | "changeswhencasefolded" | "cwcf" => some foldChanged
  | "changeswhencasemapped" | "cwcm" => some (lowered ++ uppered)
  | _ => tabled? name

/-- The characters with a property that is named between braces or by one letter. A name may ask
for a category or a script outright, and may ask for the others instead. The sign between the two
does not matter, not even that of inequality. -/
def property? (name : List Char) : Option Ranges :=
  let ask (kind value : List Char) : Option Ranges :=
    let value := foldPropertyName value
    match foldPropertyName kind with
    | "gc" | "generalcategory" => category? value
    | "sc" | "script" => script? value
    | "scx" | "scriptextensions" => usedScript? value
    | _ => none
  match splitAtNotEqual name with
  | some (kind, value) => ask kind value
  | none =>
    match (splitOnce ':' name).or (splitOnce '=' name) with
    | some (kind, value) => ask kind value
    | none =>
      let name := foldPropertyName name
      ((binaryProperty? name).or (category? name)).or (script? name)
where
  /-- The texts before and after the first `!=`. -/
  splitAtNotEqual : List Char → Option (List Char × List Char)
    | '!' :: '=' :: rest => some ([], rest)
    | c :: rest => (splitAtNotEqual rest).map fun (before, after) => (c :: before, after)
    | [] => none

end PortSurvey.Pattern
