/-!
# JSON values

The tree of a JSON text. Members of an object keep their order and repetitions,
and a number keeps its literal, so that no reading of a number is preferred. A
string literal may name half of a surrogate pair; it is well-formed JSON but
stands for no text, and the tree records it as `none`.
-/
namespace ElevatorBank

inductive Json
  | null
  | bool (b : Bool)
  | number (literal : String)
  | string (s : Option String)
  | array (elements : List Json)
  | object (members : List (Option String × Json))
  deriving Repr, Inhabited

namespace Json

def text (s : String) : Json := string (some s)

def int (i : Int) : Json := number (toString i)

def nat (n : Nat) : Json := number (toString n)

/-- An object with the given members. -/
def record (fields : List (String × Json)) : Json :=
  object (fields.map fun f => (some f.1, f.2))

def ints (is : List Int) : Json := array (is.map int)

def nats (ns : List Nat) : Json := array (ns.map nat)

def texts (ss : List String) : Json := array (ss.map text)

def option {α : Type} (f : α → Json) : Option α → Json
  | some a => f a
  | none => null

mutual

/-- How many arrays and objects stand around the innermost value. -/
def depth : Json → Nat
  | array elements => 1 + elementsDepth elements
  | object members => 1 + membersDepth members
  | _ => 0

def elementsDepth : List Json → Nat
  | [] => 0
  | j :: rest => max j.depth (elementsDepth rest)

def membersDepth : List (Option String × Json) → Nat
  | [] => 0
  | (_, j) :: rest => max j.depth (membersDepth rest)

end

/-- The value of the first member of a name. -/
def member? (name : String) : Json → Option Json
  | object members => members.lookup (some name)
  | _ => none

end Json
end ElevatorBank
