import ElevatorBank.Floor
import ElevatorBank.Setting.Variables

/-!
# Values of settings

How a setting is read as a number, a list, a word or a record. Reading is lenient:
a number may be given as a text, as a truth value or as a fraction, which is
rounded to the nearest whole number, and the fields of a record may be given as a
list in their order.
-/
namespace ElevatorBank.Setting

/-- The number that a word stands for, if it stands for one. -/
def wordValue? (s : String) : Option Nat :=
  let word := Text.foldCase s
  if word = "true" ∨ word = "on" ∨ word = "yes" then some 1
  else if word = "false" ∨ word = "off" ∨ word = "no" then some 0
  else none

/-- A number that may be negative. -/
def int? : Setting → Option Int
  | int i => some i
  | text s => ((wordValue? s).map Int.ofNat).or (whole? s)
  | flag b => some (if b then 1 else 0)
  | float x => some x.round.toInt64.toInt
  | _ => none

def floor? (s : Setting) : Option Int := s.int?.filter fun i => decide (IsFloor i)

/-- A number that is not negative, of 64 bits. -/
def nat? : Setting → Option Nat
  | int i => if 0 ≤ i then some i.toNat else none
  | text s => (wordValue? s).or ((Text.unsignedNat? s.toList).filter (· < 0x10000000000000000))
  | flag b => some (if b then 1 else 0)
  | float x => some x.round.toUInt64.toNat
  | _ => none

def list? : Setting → Option (List Setting)
  | list xs => some xs
  | _ => none

/-- A word by itself, or as the name of the one entry of a table. -/
def word? (words : List String) : Setting → Option String
  | text s => words.find? (· == Text.foldCase s)
  | table [(name, _)] => words.find? (· == Text.foldCase name)
  | _ => none

def fields? (names : List String) : Setting → Option (List (Option Setting))
  | table es => some (names.map fun name => Entries.get? name es)
  | list xs =>
    some ((xs.take names.length).map some ++ List.replicate (names.length - xs.length) none)
  | _ => none

end ElevatorBank.Setting
