import Redelivery.Config.Variables

/-! Where an endpoint is deployed, and how much it logs there unless told otherwise. -/
namespace Redelivery

inductive Environment where
  | development
  | production
  deriving DecidableEq, Repr

namespace Environment

def ofVariables (vars : Variables) : Environment :=
  if Text.sameLetters (vars.orDefault "APP_ENV" "development") "production" then .production
  else .development

def name : Environment → String
  | .development => "Development"
  | .production => "Production"

def isProduction (e : Environment) : Bool := e == .production
def isDevelopment (e : Environment) : Bool := e == .development

/-- Production keeps retry and fault decisions; development shows every stage's decision. -/
def defaultFilter : Environment → String
  | .production => "warn,recoverability=info"
  | .development => "info,recoverability=debug"

end Environment
end Redelivery
