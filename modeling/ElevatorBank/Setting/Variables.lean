import ElevatorBank.Setting.Path
import ElevatorBank.Text.Decimal
import ElevatorBank.Text.Split

/-!
# Settings from environment variables

A variable whose name begins with a chosen word and an underscore gives a
setting. The rest of the name is its path, two underscores standing for a dot;
the case of the letters does not matter. What the text of a variable stands for
is told by its looks alone: a truth value, a whole number, a number, and if it
is none of these then a list of texts for the one setting that is a list, and a
text for any other.
-/
namespace ElevatorBank.Setting

def flag? (s : String) : Option Bool :=
  if Text.foldCase s = "true" then some true
  else if Text.foldCase s = "false" then some false
  else none

def whole? (s : String) : Option Int :=
  (Text.signedInt? s.toList).filter fun i => decide (IsWhole i)

def ofVariable (listKey key value : String) : Setting :=
  match flag? value with
  | some b => flag b
  | none =>
    match whole? value with
    | some i => int i
    | none =>
      match Text.float? value.toList with
      | some x => float x
      | none => if key = listKey then list ((Text.splitText ',' value).map text) else text value

/-- Puts a dot for two underscores. -/
def dotted : List Char → List Char
  | '_' :: '_' :: rest => '.' :: dotted rest
  | c :: rest => c :: dotted rest
  | [] => []

/-- The path of a variable that begins with the given word. -/
def keyOf? (word name : String) : Option String :=
  let start := (Text.foldCase (word ++ "_")).toList
  let name := (Text.foldCase name).toList
  if start.isPrefixOf name then some (String.ofList (dotted (name.drop start.length))) else none

end ElevatorBank.Setting
