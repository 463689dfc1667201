import ElevatorBank.Json.Basic

/-!
# Writing JSON

The compact text of a value: no blanks, members in their order. In a string only
the quote, the backslash and the control characters are escaped, five of these
by a letter and the rest by four hexadecimal digits.
-/
namespace ElevatorBank.Json

def hexDigit (n : Nat) : Char :=
  if n < 10 then Char.ofNat ('0'.toNat + n) else Char.ofNat ('a'.toNat + (n - 10))

def escape (c : Char) : List Char :=
  match c with
  | '"' => ['\\', '"']
  | '\\' => ['\\', '\\']
  | '\x08' => ['\\', 'b']
  | '\x0c' => ['\\', 'f']
  | '\n' => ['\\', 'n']
  | '\r' => ['\\', 'r']
  | '\t' => ['\\', 't']
  | c =>
    if c.toNat < 0x20 then
      ['\\', 'u', '0', '0', hexDigit (c.toNat / 16), hexDigit (c.toNat % 16)]
    else [c]

/-- A string literal. A string that stands for no text is written as the
replacement character. -/
def literal (s : Option String) : List Char :=
  '"' :: ((s.getD "\ufffd").toList.flatMap escape ++ ['"'])

mutual

def chars : Json → List Char
  | null => "null".toList
  | bool true => "true".toList
  | bool false => "false".toList
  | number literal => literal.toList
  | string s => literal s
  | array elements => '[' :: elementChars elements
  | object members => '\x7b' :: memberChars members

/-- The elements from one on, and the closing bracket. -/
def elementChars : List Json → List Char
  | [] => [']']
  | [j] => j.chars ++ [']']
  | j :: rest => j.chars ++ ',' :: elementChars rest

/-- The members from one on, and the closing brace. -/
def memberChars : List (Option String × Json) → List Char
  | [] => ['\x7d']
  | [(name, j)] => literal name ++ ':' :: (j.chars ++ ['\x7d'])
  | (name, j) :: rest => literal name ++ ':' :: (j.chars ++ ',' :: memberChars rest)

end

def compact (j : Json) : String := String.ofList j.chars

end ElevatorBank.Json
