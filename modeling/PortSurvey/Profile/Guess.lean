import PortSurvey.Profile.Basic

/-!
# Guesses by number

Where nothing better is known, the number of a port alone suggests what it is for.
-/

namespace PortSurvey.Profile

/-- A profile that the number of a port suggests. -/
def suggested (port : Nat) (protocol service description : String) (encrypted : Bool)
    (sensitivity : Sensitivity) (grade : Grade) (direction : Direction) : Profile where
  protocol := protocol
  service := service
  description := description ++ " (inferred from port " ++ toString port ++ ")"
  encrypted := encrypted
  auth := unknownName
  sensitivity := sensitivity
  grade := grade
  direction := direction

/-- What the number of a port suggests. From 8000 to 8999 the last three digits tell encrypted
ports, which end with 443 or more. -/
def guess (port : Nat) : Profile :=
  if port = 80 then
    suggested port "HTTP" "http" "Plain HTTP" false .openToAll .insecure .inbound
  else if port = 443 then
    suggested port "HTTPS" "https" "HTTP over TLS" true .internal .secure .inbound
  else if 8000 ≤ port ∧ port ≤ 8999 then
    if 443 ≤ port % 1000 then
      suggested port "HTTPS" "https-alt" "Alternate HTTPS port" true .internal .basic .internal
    else
      suggested port "HTTP" "http-alt" "Alternate HTTP port" false .internal .insecure .internal
  else if 9000 ≤ port ∧ port ≤ 9999 then
    suggested port "HTTP" "administrative" "Administrative or metrics interface" false
      .confidential .basic .internal
  else if 3000 ≤ port ∧ port ≤ 3999 then
    suggested port "HTTP" "development" "Development server" false .internal .basic .internal
  else if 5000 ≤ port ∧ port ≤ 5999 then
    suggested port "TCP" "database-like" "Database or backing service range" false .confidential
      .basic .internal
  else if 10000 ≤ port then
    suggested port "TCP" "custom" "Custom application port" false .internal .unknown .internal
  else unknown port

end PortSurvey.Profile
