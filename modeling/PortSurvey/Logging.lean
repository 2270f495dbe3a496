import PortSurvey.Text.Case

/-!
# What is logged

`Logging` says from which `Severity` on messages are logged, and with what beside them.
-/

namespace PortSurvey

/-- How severe a message is. -/
inductive Severity
  /-- Every step. -/
  | trace
  /-- Every decision. -/
  | debug
  /-- What is worth knowing. -/
  | info
  /-- What may be wrong. -/
  | warn
  /-- What is wrong. -/
  | error
  deriving DecidableEq, Repr

namespace Severity

/-- All severities, the least severe first. -/
def all : List Severity :=
  [.trace, .debug, .info, .warn, .error]

/-- The name of a severity. -/
def name : Severity → String
  | .trace => "TRACE"
  | .debug => "DEBUG"
  | .info => "INFO"
  | .warn => "WARN"
  | .error => "ERROR"

/-- The severity with a name in any case; any other text means `info`. -/
def ofText (s : String) : Severity :=
  (all.find? (fun v => Text.lower v.name == Text.lower s)).getD .info

end Severity

/-- What is logged. -/
structure Logging where
  /-- The least severity. -/
  severity : Severity
  /-- Whether messages are written for machines. -/
  json : Bool
  /-- Whether the module that speaks is named. -/
  target : Bool
  /-- Whether the place in the module is named. -/
  location : Bool
  /-- Whether the thread is named. -/
  threads : Bool
  deriving DecidableEq, Repr

namespace Logging

/-- What is logged for people from a severity on. -/
def ofSeverity (severity : Severity) : Logging :=
  ⟨severity, false, true, false, false⟩

/-- What is usually logged. -/
def standard : Logging :=
  ofSeverity .info

/-- What is logged where the log is collected. -/
def production : Logging :=
  ⟨.info, true, true, true, true⟩

/-- What is logged while services are worked on. -/
def development : Logging :=
  ofSeverity .debug

end Logging

end PortSurvey
