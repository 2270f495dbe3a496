import PortSurvey.Text.Numeral
import PortSurvey.Text.Quoted

/-!
# Faults of settings

`Settings.Fault` says why settings cannot be had, and `Settings.Fault.message` in which words.
-/

namespace PortSurvey.Settings

open Text

/-- Why settings are refused. -/
inductive Fault
  /-- A threshold has a name that is none. -/
  | unknownThreshold (name : String)
  /-- A key of the overrides is no port. -/
  | portKey (key : String) (reason : Numeral.Fault)
  /-- A file is malformed. -/
  | malformed (file : String)
  /-- A file cannot be read. -/
  | unreadable (file : String)
  /-- A file is of a format that is not known. -/
  | format (file : String)
  /-- The text of a pattern is no pattern. -/
  | pattern (text : String)
  /-- A pattern names no protocol. -/
  | noProtocols (text : String)
  /-- An override is of port zero. -/
  | portZero
  /-- An override names no protocol or no service. -/
  | incomplete (port : Nat)
  /-- The default authentication is blank. -/
  | blankAuth
  deriving DecidableEq, Repr

namespace Fault

/-- What the wording of a refusal begins with. -/
def refused (reason : String) : String :=
  "Configuration validation failed: " ++ reason

/-- The wording of a fault. -/
def message : Fault → String
  | .unknownThreshold name =>
    "Unknown confidence threshold: " ++ name ++ ". Valid options: high, medium, low"
  | .portKey key reason => "Failed to parse port_overrides." ++ key ++ ": " ++ reason.message
  | .malformed file => "Failed to parse " ++ file
  | .unreadable file => "Failed to read configuration file " ++ quoted file
  | .format file =>
    refused ("Unsupported configuration format: " ++ file ++ ". Valid options: yaml, yml, toml")
  | .pattern text => refused ("Invalid service pattern " ++ quoted text)
  | .noProtocols text => refused ("Service pattern " ++ quoted text ++ " lists no protocols")
  | .portZero => refused "Port override for port 0 is not allowed"
  | .incomplete port =>
    refused ("Port override for " ++ toString port ++ " needs a protocol and a service name")
  | .blankAuth => refused "Security policy default_auth cannot be empty"

end Fault

end PortSurvey.Settings
