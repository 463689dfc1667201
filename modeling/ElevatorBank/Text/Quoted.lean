import ElevatorBank.Text.Hidden

/-!
# Quoted text

A name shown between double quotes, on one line and in visible characters: the
quote and the backslash get a backslash before them, four control characters
have a letter of their own, and every other hidden character is shown by its
code point.
-/
namespace ElevatorBank.Text

/-- The hexadecimal digits of a number, in lower case, without leading zeros. -/
def hexText (n : Nat) : String := String.ofList (Nat.toDigits 16 n)

def escapeChar (c : Char) : String :=
  match c with
  | '\x00' => "\\0"
  | '\t' => "\\t"
  | '\r' => "\\r"
  | '\n' => "\\n"
  | '"' => "\\\""
  | '\\' => "\\\\"
  | c => if isHidden c then "\\u\x7b" ++ hexText c.toNat ++ "\x7d" else c.toString

def quoted (s : String) : String :=
  "\"" ++ String.join (s.toList.map escapeChar) ++ "\""

end ElevatorBank.Text
