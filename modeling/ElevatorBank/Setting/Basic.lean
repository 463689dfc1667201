import ElevatorBank.Entries
import ElevatorBank.Text.Letters

/-!
# Settings

The tree of values that a source of configuration gives. Sources are laid over
each other: a table goes entry by entry into the table that is there, any other
value takes the place of the one that is there. Keys are put in small letters.
-/
namespace ElevatorBank

inductive Setting
  | nothing
  | flag (b : Bool)
  | int (i : Int)
  | float (x : Float)
  | text (s : String)
  | list (items : List Setting)
  | table (entries : List (String × Setting))
  deriving Repr, Inhabited

namespace Setting

/-- Whole numbers of settings have 64 bits, one of them for the sign. -/
def IsWhole (i : Int) : Prop := -0x8000000000000000 ≤ i ∧ i < 0x8000000000000000

instance (i : Int) : Decidable (IsWhole i) := inferInstanceAs (Decidable (_ ∧ _))

/-- The entries of a table; any other value has none. -/
def entries : Setting → Entries Setting
  | table es => es
  | _ => []

def items : Setting → List Setting
  | list xs => xs
  | _ => []

def get? (key : String) (s : Setting) : Option Setting := s.entries.get? key

/-- The table with a value at a key; what is no table becomes one. -/
def set (key : String) (v root : Setting) : Setting := table (root.entries.set key v)

@[simp] theorem get?_set (key other : String) (v root : Setting) :
    (set key v root).get? other = if other == key then some v else root.get? other :=
  Entries.get?_set key other v root.entries

mutual

/-- Puts a value at a key of a table. -/
def put (key : String) (root : Setting) : Setting → Setting
  | table es =>
    set (Text.foldCase key) (putAll ((root.get? (Text.foldCase key)).getD (table [])) es) root
  | v => set (Text.foldCase key) v root

def putAll (root : Setting) : List (String × Setting) → Setting
  | [] => root
  | (k, v) :: rest => putAll (put k root v) rest

end

end Setting
end ElevatorBank
