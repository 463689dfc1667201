/-!
# Layout of report lines

Columns are filled with blanks to a least width, counted in characters. Lists
and sets are written between brackets with a comma and a blank between members.
-/
namespace ElevatorBank.Text

/-- Blanks before the text until it has the given width. -/
def padLeft (width : Nat) (s : String) : String :=
  String.ofList (List.replicate (width - s.length) ' ') ++ s

/-- Blanks after the text until it has the given width. -/
def padRight (width : Nat) (s : String) : String :=
  s ++ String.ofList (List.replicate (width - s.length) ' ')

def commaSeparated (parts : List String) : String := ", ".intercalate parts

def listText (parts : List String) : String := "[" ++ commaSeparated parts ++ "]"

def setText (parts : List String) : String := "\x7b" ++ commaSeparated parts ++ "\x7d"

/-- A record written on one line: its name, then its fields in order. -/
def recordText (name : String) (fields : List (String × String)) : String :=
  name ++ " \x7b " ++ commaSeparated (fields.map fun f => f.1 ++ ": " ++ f.2) ++ " \x7d"

def boolText (b : Bool) : String := if b then "true" else "false"

end ElevatorBank.Text
