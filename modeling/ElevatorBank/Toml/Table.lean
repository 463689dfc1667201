import ElevatorBank.Setting.Basic

/-!
# Tables in TOML

How the tables of a document are put together. A table comes about by its own
header, as part of a longer header, or as part of a dotted key, and this tells
what may still be done to it: only a table that is part of a longer header can
get a header of its own, and a dotted key leads only through tables that have no
header, the last of which came about by a dotted key.
-/
namespace ElevatorBank.Toml

inductive Origin
  /-- By a header of its own, or by braces. -/
  | header
  /-- As part of a longer header. -/
  | implied
  /-- As part of a dotted key. -/
  | dotted
  deriving DecidableEq, Repr, Inhabited

inductive Node
  | value (v : Setting)
  | table (origin : Origin) (entries : List (String × Node))
  /-- A list of tables with headers, the latest first. -/
  | tables (latestFirst : List (List (String × Node)))
  deriving Repr, Inhabited

namespace Node

mutual

/-- The setting that a node stands for. -/
def setting : Node → Setting
  | value v => v
  | table _ es => .table (settings es)
  | tables items => .list (tableSettings items).reverse

def settings : List (String × Node) → Entries Setting
  | [] => []
  | (key, node) :: rest => (key, node.setting) :: settings rest

def tableSettings : List (List (String × Node)) → List Setting
  | [] => []
  | es :: rest => .table (settings es) :: tableSettings rest

end

/-- Changes the table at the end of a path, making the tables on the way that are
missing; in a list of tables the way is through the latest. -/
def within (byKey : Bool) (change : Origin → Entries Node → Option (Entries Node)) :
    List String → Origin → Entries Node → Option (Entries Node)
  | [], origin, es => change origin es
  | name :: path, _, es =>
    match es.get? name with
    | none => do
      let origin := if byKey then .dotted else .implied
      return es.set name (.table origin (← within byKey change path origin []))
    | some (.table origin inner) =>
      if byKey ∧ origin = .header then none
      else do return es.set name (.table origin (← within byKey change path origin inner))
    | some (.tables (latest :: earlier)) => do
      return es.set name (.tables ((← within byKey change path .header latest) :: earlier))
    | some _ => none

/-- Gives a value to a key that has none, in a table reached by a dotted key. -/
def assign (path : List String) (name : String) (v : Setting) (origin : Origin)
    (es : Entries Node) : Option (Entries Node) :=
  within true (fun origin es =>
    if (origin = .dotted ↔ path = []) ∨ (es.get? name).isSome then none
    else some (es.set name (.value v))) path origin es

/-- Gives a table its header; a table that was implied takes its place anew. -/
def declare (name : String) (_ : Origin) (es : Entries Node) : Option (Entries Node) :=
  match es.get? name with
  | none => some (es.set name (.table .header []))
  | some (.table .implied inner) => some ((es.erase name).set name (.table .header inner))
  | some _ => none

/-- Begins another table of a list of tables. -/
def append (name : String) (_ : Origin) (es : Entries Node) : Option (Entries Node) :=
  match es.get? name with
  | none => some (es.set name (.tables [[]]))
  | some (.tables items) => some (es.set name (.tables ([] :: items)))
  | some _ => none

/-- The table that assignments make, one after the other, out of an empty one. -/
def ofAssignments? (pairs : List ((List String × String) × Setting)) : Option (Entries Node) :=
  pairs.foldlM (fun es ((path, name), v) => assign path name v .header es) []

end Node
end ElevatorBank.Toml
