import ElevatorBank.Json.Basic
import ElevatorBank.Time.Instant
import ElevatorBank.Uuid

/-!
# The wire library

Writing a value for the wire and reading it back is left to libraries: they turn
JSON trees into texts and back, read numbers, names and records from trees, and
know the texts of identifiers and instants. The program is written for any that
can do this (`Wire.Library`), and says itself only which fields, tags and names
there are.
-/
namespace ElevatorBank.Wire

class Library where
  print : Json → String
  parse? : String → Option Json
  /-- A number of 32 bits, one of them for the sign. -/
  floor? : Json → Option Int
  /-- A number of 32 bits without a sign. -/
  carId? : Json → Option Nat
  /-- A number of 64 bits without a sign. -/
  word? : Json → Option Nat
  text? : Json → Option String
  elements? : Json → Option (List Json)
  /-- A name by itself; it may have been buffered. -/
  variant? : (buffered : Bool) → Json → Option String
  /-- Whether this is nothing but a name's empty record. -/
  isUnit : Json → Bool
  /-- The fields of a record, all of which are required. -/
  fields? : (names : List String) → Json → Option (List Json)
  /-- The fields of a record that stands under a name of its own. -/
  named? : (names : List String) → Json → Option (List Json)
  /-- The fields of a record that may lack some. -/
  someFields? : (names : List String) → Json → Option (List (Option Json))
  /-- The tag of a record that says its own kind, and its other fields. -/
  tagged? : (tag : String) → Json → Option (String × Json)
  /-- The tag and the content that stand beside each other inside so many other
  values, and whether the content had to be buffered. -/
  adjacent? : (enclosing : Nat) → (tag content : String) → Json → Option (String × Bool × Json)
  uuidText : Uuid → String
  uuid? : String → Option Uuid
  instantText : Time.Instant → String
  instant? : String → Option Time.Instant

namespace Library
variable (lib : Library)

def list? {α : Type} (read : Json → Option α) (j : Json) : Option (List α) :=
  (lib.elements? j).bind (·.mapM read)

/-- A name out of a list, read by `ofName?`. -/
def name? {α : Type} (ofName? : String → Option α) (buffered : Bool) (j : Json) : Option α :=
  (lib.variant? buffered j).bind ofName?

end Library
end ElevatorBank.Wire
