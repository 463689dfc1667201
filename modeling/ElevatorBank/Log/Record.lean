/-!
# Log records

A record has a level, a message and named fields. The levels are ordered from
`error`, the gravest, to `trace`.
-/
namespace ElevatorBank.Log

inductive Level
  | error
  | warn
  | info
  | debug
  | trace
  deriving DecidableEq, Repr, Inhabited

namespace Level

/-- From the gravest down. -/
def all : List Level := [error, warn, info, debug, trace]

def rank : Level → Nat
  | error => 1
  | warn => 2
  | info => 3
  | debug => 4
  | trace => 5

def name : Level → String
  | error => "error"
  | warn => "warn"
  | info => "info"
  | debug => "debug"
  | trace => "trace"

/-- The name in capitals, as records show it. -/
def label (l : Level) : String := l.name.map Char.toUpper

def ofName? (s : String) : Option Level := all.find? (·.name == s)

/-- Whether records of this level are written where `least` is asked for. -/
def reaches (l least : Level) : Bool := l.rank ≤ least.rank

end Level

/-- The value of a field. -/
inductive Field
  | text (s : String)
  | int (i : Int)
  | nat (n : Nat)
  | flag (b : Bool)
  /-- A number with a fractional part, by its decimal text. -/
  | decimal (s : String)
  deriving DecidableEq, Repr, Inhabited

structure Record where
  level : Level
  message : String
  fields : List (String × Field)
  deriving DecidableEq, Repr, Inhabited

namespace Record

/-- The message is a field too. -/
def fieldNames (r : Record) : List String := "message" :: r.fields.map (·.1)

end Record

end ElevatorBank.Log
