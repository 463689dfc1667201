import ElevatorBank.Log.Filter
import ElevatorBank.Variables

/-!
# Setting up the log

The log is set up from environment variables: a filter if one is given, else a
level that depends on the surroundings; and the format of the lines. The first
record tells what has been set up.
-/
namespace ElevatorBank.Log

structure Setup where
  environment : String
  filter : Filter
  /-- Whether each line is a JSON object. -/
  asJson : Bool
  deriving DecidableEq, Repr, Inhabited

/-- The level for the surroundings when no filter is given. -/
def usualLevel (environment : String) : Level :=
  if environment = "production" then .info
  else if environment = "test" then .warn
  else .debug

namespace Setup

/-- A filter that cannot be read counts as not given. -/
def ofVariables (vs : Variables) : Setup where
  environment := vs.environment
  filter := ((vs.value? "RUST_LOG").bind Filter.parse?).getD (.upTo (usualLevel vs.environment))
  asJson := (vs.value? "LIFT_LOG_FORMAT").any fun s => s.map Char.toLower == "json"

/-- Whose records tell about the log itself. -/
def target : String := "lift_dispatch::logging"

def greeting (s : Setup) : Record :=
  ⟨.info, "🔧 STRUCTURED LOGGING: Initialized",
    [("environment", .text s.environment), ("json", .flag s.asJson)]⟩

/-- The first record, if the filter lets it through. -/
def greeting? (s : Setup) : Option Record :=
  if s.filter.allows target s.greeting then some s.greeting else none

end Setup
end ElevatorBank.Log
