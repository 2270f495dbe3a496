import PortSurvey.Path
import PortSurvey.Settings.TomlLayer
import PortSurvey.Settings.Validate
import PortSurvey.Settings.YamlLayer

/-!
# Files of settings

The ending of its name tells the format of a file. `Settings.ofFile` reads a file, lays what it
gives over the settings of its environment and refuses what is not sound. Of several faults it tells
the first: a file that cannot be read, a format that is not known, a malformed file, a fault of the
layer, a fault of the settings.
-/

namespace PortSurvey.Settings

/-- A format of files. -/
inductive Format
  /-- Documents in YAML. -/
  | yaml
  /-- Documents in TOML. -/
  | toml
  deriving DecidableEq, Repr

/-- The format with an ending, in any case. -/
def Format.ofEnding? (ending : String) : Option Format :=
  match Text.lower ending with
  | "yaml" | "yml" => some .yaml
  | "toml" => some .toml
  | _ => none

/-- The layer that a text gives. -/
def Format.layer? : Format → String → Option Layer
  | .yaml, text => (Layer.ofYaml text).toOption
  | .toml, text => Layer.ofToml? text

/-- The layer that a file gives. -/
def Layer.ofFile (path : Path) (content : String) : Except Fault Layer :=
  match path.ending?.bind Format.ofEnding? with
  | none => .error (.format path.text)
  | some format =>
    match format.layer? content with
    | some layer => .ok layer
    | none => .error (.malformed path.text)

/-- The settings that a file makes. There is no content if the file cannot be read. -/
def ofFile (path : Path) (content : Option String) : Except Fault Settings := do
  match content with
  | none => throw (.unreadable path.text)
  | some content => (← (← Layer.ofFile path content).settings).validated

end PortSurvey.Settings
