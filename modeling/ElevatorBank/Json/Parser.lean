import ElevatorBank.Json.Basic
import ElevatorBank.Text.Numeral

/-!
# Reading JSON

A text is read into a tree, strictly by the grammar: no trailing commas, no
leading zeros, no raw control characters in strings, nothing but blanks after
the value. A reader takes the characters still to be read and gives what it read
with those left over.
-/
namespace ElevatorBank.Json.Parser

def isBlank (c : Char) : Bool := c == ' ' || c == '\t' || c == '\n' || c == '\r'

def skipBlanks (cs : List Char) : List Char := cs.dropWhile isBlank

/-- A part of a string: a character, or a UTF-16 unit given by its number. -/
inductive Piece
  | char (c : Char)
  | unit (u : Nat)

/-- The character that a letter after a backslash stands for. -/
def escaped? : Char → Option Char
  | '"' => some '"'
  | '\\' => some '\\'
  | '/' => some '/'
  | 'b' => some '\x08'
  | 'f' => some '\x0c'
  | 'n' => some '\n'
  | 'r' => some '\r'
  | 't' => some '\t'
  | _ => none

/-- The pieces up to the closing quote. -/
def pieces : List Char → Option (List Piece × List Char)
  | [] => none
  | '"' :: rest => some ([], rest)
  | '\\' :: 'u' :: a :: b :: c :: d :: rest => do
    let u ← Text.numberIn? 16 [a, b, c, d]
    let (ps, rest) ← pieces rest
    return (.unit u :: ps, rest)
  | '\\' :: e :: rest => do
    let c ← escaped? e
    let (ps, rest) ← pieces rest
    return (.char c :: ps, rest)
  | c :: rest => do
    if c == '\\' || c.toNat < 0x20 then none
    let (ps, rest) ← pieces rest
    return (.char c :: ps, rest)

def isLeading (u : Nat) : Bool := 0xd800 ≤ u && u < 0xdc00

def isTrailing (u : Nat) : Bool := 0xdc00 ≤ u && u < 0xe000

/-- The text of the pieces, if every surrogate is one of a pair. -/
def textOf : List Piece → Option (List Char)
  | [] => some []
  | .char c :: ps => (textOf ps).map (c :: ·)
  | .unit u :: .unit v :: ps =>
    if isLeading u then
      if isTrailing v then
        (textOf ps).map (Char.ofNat (0x10000 + 0x400 * (u - 0xd800) + (v - 0xdc00)) :: ·)
      else none
    else if isTrailing u then none
    else (textOf (.unit v :: ps)).map (Char.ofNat u :: ·)
  | .unit u :: ps =>
    if isLeading u || isTrailing u then none else (textOf ps).map (Char.ofNat u :: ·)

/-- A string after its opening quote. -/
def string (cs : List Char) : Option (Option String × List Char) :=
  (pieces cs).map fun (ps, rest) => ((textOf ps).map String.ofList, rest)

/-- One digit or more. -/
def digits (cs : List Char) : Option (List Char × List Char) :=
  match cs.span Char.isDigit with
  | ([], _) => none
  | r => some r

/-- Digits without a leading zero. -/
def wholePart (cs : List Char) : Option (List Char × List Char) := do
  let r ← digits cs
  match r.1 with
  | '0' :: _ :: _ => none
  | _ => some r

def fractionPart : List Char → Option (List Char × List Char)
  | '.' :: cs => (digits cs).map fun (ds, rest) => ('.' :: ds, rest)
  | cs => some ([], cs)

def exponentPart : List Char → Option (List Char × List Char)
  | e :: cs =>
    if e == 'e' || e == 'E' then
      match cs with
      | '+' :: cs => (digits cs).map fun (ds, rest) => (e :: '+' :: ds, rest)
      | '-' :: cs => (digits cs).map fun (ds, rest) => (e :: '-' :: ds, rest)
      | cs => (digits cs).map fun (ds, rest) => (e :: ds, rest)
    else some ([], e :: cs)
  | [] => some ([], [])

/-- A number literal. -/
def number (cs : List Char) : Option (List Char × List Char) := do
  let (sign, cs) := match cs with
    | '-' :: cs => (['-'], cs)
    | cs => ([], cs)
  let (whole, cs) ← wholePart cs
  let (fraction, cs) ← fractionPart cs
  let (exponent, cs) ← exponentPart cs
  return (sign ++ whole ++ fraction ++ exponent, cs)

mutual

/-- A value; blanks before it are passed over. -/
def value : Nat → List Char → Option (Json × List Char)
  | 0, _ => none
  | depth + 1, cs =>
    match skipBlanks cs with
    | 'n' :: 'u' :: 'l' :: 'l' :: rest => some (.null, rest)
    | 't' :: 'r' :: 'u' :: 'e' :: rest => some (.bool true, rest)
    | 'f' :: 'a' :: 'l' :: 's' :: 'e' :: rest => some (.bool false, rest)
    | '"' :: rest => (string rest).map fun (s, rest) => (.string s, rest)
    | '[' :: rest =>
      match skipBlanks rest with
      | ']' :: rest => some (.array [], rest)
      | rest => (elements depth rest).map fun (js, rest) => (.array js, rest)
    | '\x7b' :: rest =>
      match skipBlanks rest with
      | '\x7d' :: rest => some (.object [], rest)
      | rest => (members depth rest).map fun (ms, rest) => (.object ms, rest)
    | cs => (number cs).map fun (literal, rest) => (.number (String.ofList literal), rest)

/-- One element or more, and the closing bracket. -/
def elements : Nat → List Char → Option (List Json × List Char)
  | 0, _ => none
  | depth + 1, cs => do
    let (j, rest) ← value depth cs
    match skipBlanks rest with
    | ']' :: rest => return ([j], rest)
    | ',' :: rest =>
      let (js, rest) ← elements depth rest
      return (j :: js, rest)
    | _ => none

/-- One member or more, and the closing brace. -/
def members : Nat → List Char → Option (List (Option String × Json) × List Char)
  | 0, _ => none
  | depth + 1, cs => do
    let '"' :: rest := skipBlanks cs | none
    let (name, rest) ← string rest
    let ':' :: rest := skipBlanks rest | none
    let (j, rest) ← value depth rest
    match skipBlanks rest with
    | '\x7d' :: rest => return ([(name, j)], rest)
    | ',' :: rest =>
      let (ms, rest) ← members depth rest
      return ((name, j) :: ms, rest)
    | _ => none

end

end Parser

/-- The value that a text stands for. The readers nest at most twice for each
character, which bounds their depth. -/
def parse? (s : String) : Option Json := do
  let cs := s.toList
  let (j, rest) ← Parser.value (2 * cs.length + 2) cs
  if (Parser.skipBlanks rest).isEmpty then some j else none

end ElevatorBank.Json
