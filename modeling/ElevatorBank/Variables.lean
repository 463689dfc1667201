/-!
# Environment variables

Names and their texts. The kind of surroundings the program runs in, such as
production or test, is told by one of two variables.
-/
namespace ElevatorBank

abbrev Variables := List (String × String)

namespace Variables

def value? (vs : Variables) (name : String) : Option String := vs.lookup name

/-- The kind of surroundings; a variable that is set to nothing counts as set. -/
def environment (vs : Variables) : String :=
  ((vs.value? "LIFT_ENV").or (vs.value? "APP_ENV")).getD "development"

end Variables
end ElevatorBank
