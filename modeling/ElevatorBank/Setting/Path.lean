import ElevatorBank.Setting.Basic
import ElevatorBank.Text.Numeral

/-!
# Paths into settings

The keys at the top of a source may be paths: a key, then keys after dots and
positions in brackets, such as `queue.capacity` or `elevators.start_floors[2]`.
A key that does not read as a path stands for itself. The keys of a path are put
in small letters, as all keys are.
-/
namespace ElevatorBank.Setting

inductive Step
  | key (name : String)
  /-- Negative positions count from the end. -/
  | index (i : Int)
  deriving DecidableEq, Repr, Inhabited

abbrev Path := List Step

namespace Path

def isKeyChar (c : Char) : Bool := c.isAlphanum || c == ' ' || c == '_' || c == '-'

/-- A key: one character or more. -/
def key? (cs : List Char) : Option (Step × List Char) :=
  match cs.span isKeyChar with
  | ([], _) => none
  | (name, rest) => some (.key (String.ofList name), rest)

/-- A position after its opening bracket; blanks may stand around it. -/
def position? (cs : List Char) : Option (Step × List Char) := do
  let (inner, ']' :: rest) := cs.span (· != ']') | none
  let isBlank (c : Char) : Bool := c == ' ' || c == '\t'
  let number := ((inner.dropWhile isBlank).reverse.dropWhile isBlank).reverse
  return (.index (← (Text.int? number).filter fun i => decide (IsWhole i)), rest)

/-- The steps after the first. Each takes one character at least. -/
def steps? : Nat → List Char → Option Path
  | _, [] => some []
  | fuel + 1, '.' :: rest => do
    let (step, rest) ← key? rest
    return step :: (← steps? fuel rest)
  | fuel + 1, '[' :: rest => do
    let (step, rest) ← position? rest
    return step :: (← steps? fuel rest)
  | _, _ => none

def parse? (s : String) : Option Path := do
  let (first, rest) ← key? s.toList
  return first :: (← steps? rest.length rest)

/-- The path that a key at the top of a source stands for. -/
def ofKey (key : String) : Path := (parse? key).getD [.key key]

end Path

/-- Changes the item at a position; a list that is too short is filled up first. -/
def changeItem (i : Int) (change : Setting → Setting) (s : Setting) : Setting :=
  let n := if 0 ≤ i then i.toNat else s.items.length - i.natAbs
  list ((s.items ++ List.replicate (n + 1 - s.items.length) nothing).modify n change)

/-- Puts a value at the end of a path, through tables and lists that are made
where there are none. -/
def place (v : Setting) : Path → Setting → Setting
  | [], _ => v
  | [.key name], root => root.put name v
  | .key name :: rest, root =>
    let name := Text.foldCase name
    set name (place v rest ((root.get? name).getD nothing)) root
  | .index i :: rest, root => root.changeItem i (place v rest)

/-- Lays an entry over the settings so far. -/
def lay (key : String) (v root : Setting) : Setting := place v (Path.ofKey key) root

end ElevatorBank.Setting
