/-! What can be wrong with the settings of an endpoint. -/
namespace Redelivery

inductive ConfigError where
  | missing (name : String)
  | unreadable (name details : String)
  | invalid (setting details : String)
  deriving DecidableEq, Repr

namespace ConfigError

def message : ConfigError → String
  | .missing name => "Environment variable '" ++ name ++ "' is required but not set"
  | .unreadable name details =>
    "Failed to parse environment variable '" ++ name ++ "': " ++ details
  | .invalid setting details =>
    "Invalid configuration value '" ++ setting ++ "': " ++ details

def kind : ConfigError → String
  | .missing _ => "MissingEnvVar"
  | .unreadable .. => "ParseError"
  | .invalid .. => "Invalid"

end ConfigError
end Redelivery
