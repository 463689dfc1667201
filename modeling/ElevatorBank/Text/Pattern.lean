import ElevatorBank.Text.Alphanumeric
import ElevatorBank.Text.Numeral

/-!
# Well-formed patterns

Whether a text is a regular expression: groups and brackets are closed, what is
repeated comes before the sign of repetition, escapes and ranges are known ones.
Counts in braces, look-around, classes of characters by a property and matching
without regard to case are not part of these patterns.
-/
namespace ElevatorBank.Text.Pattern

/-! ### Escapes -/

/-- The characters that a letter after a backslash may stand for. -/
def namedEscapes : List (Char × Char) :=
  [('a', '\x07'), ('f', '\x0c'), ('n', '\n'), ('r', '\r'), ('t', '\t'), ('v', '\x0b')]

/-- How many digits of a code point come after a letter that announces them. -/
def digitCount? (c : Char) : Option Nat := [('x', 2), ('u', 4), ('U', 8)].lookup c

/-- What comes after a backslash: a character, or an end of the text, which is none. -/
def escape? : List Char → Option (Option Char × List Char)
  | [] => none
  | c :: rest =>
    match digitCount? c with
    | some n =>
      if (rest.take n).length = n then
        (codePoint? (rest.take n)).map fun d => (some d, rest.drop n)
      else none
    | none =>
      if c = 'A' ∨ c = 'z' then some (none, rest)
      else if 0x7f < c.toNat ∨ c = '<' ∨ c = '>' then none
      else if c.isAlphanum then (namedEscapes.lookup c).map fun d => (some d, rest)
      else some (some c, rest)

/-! ### Brackets -/

/-- The rest after the name of a class of ASCII characters between brackets and colons,
whose opening bracket has been read. -/
def afterName? (cs : List Char) : Option (List Char) := do
  let ':' :: cs := cs | none
  let cs := match cs with
    | '^' :: cs => cs
    | cs => cs
  let (name, ':' :: ']' :: rest) := cs.span (· != ':') | none
  if ["alnum", "alpha", "ascii", "blank", "cntrl", "digit", "graph", "lower", "print", "punct",
      "space", "upper", "word", "xdigit"].contains (String.ofList name) then some rest
  else none

/-- A bracket may be followed by a circumflex and hyphens, and a closing bracket right
after it stands for itself. -/
def afterOpening (cs : List Char) : List Char :=
  let cs := match cs with
    | '^' :: cs => cs
    | cs => cs
  match cs with
  | '-' :: cs => cs.dropWhile (· == '-')
  | ']' :: cs => cs
  | cs => cs

/-- A character between brackets. -/
def member? : List Char → Option (Char × List Char)
  | [] => none
  | '\\' :: cs => do
    let (some c, rest) ← escape? cs | none
    return (c, rest)
  | c :: cs => some (c, cs)

/-- The rest after a character or a range between brackets. -/
def afterRange? (cs : List Char) : Option (List Char) := do
  let (low, rest) ← member? cs
  match rest with
  | '-' :: ']' :: _ => return rest
  | '-' :: '-' :: _ => return rest
  | '-' :: cs =>
    let (high, rest) ← member? cs
    if low ≤ high then some rest else none
  | _ => return rest

/-- The rest after brackets of which one and so many within it are open. -/
def afterBrackets? : Nat → Nat → List Char → Option (List Char)
  | 0, _, _ => none
  | fuel + 1, depth, cs =>
    match cs with
    | '[' :: cs =>
      match afterName? cs with
      | some rest => afterBrackets? fuel depth rest
      | none => afterBrackets? fuel (depth + 1) (afterOpening cs)
    | ']' :: cs =>
      match depth with
      | 0 => some cs
      | depth + 1 => afterBrackets? fuel depth cs
    | '&' :: '&' :: cs => afterBrackets? fuel depth cs
    | '-' :: '-' :: cs => afterBrackets? fuel depth cs
    | '~' :: '~' :: cs => afterBrackets? fuel depth cs
    | cs => do afterBrackets? fuel depth (← afterRange? cs)

/-! ### Groups -/

/-- The name of a group up to its closing sign. -/
def afterGroupName? (cs : List Char) : Option (List Char) := do
  let (name, '>' :: rest) := cs.span (· != '>') | none
  let first ← name.head?
  if (first = '_' ∨ (isAlphanumeric first ∧ ! first.isDigit)) ∧
      name.all fun c => isAlphanumeric c || ['_', '.', '[', ']'].contains c then some rest
  else none

/-- Whether these letters set flags, of which those after a hyphen are taken back. -/
def areFlags (cs : List Char) : Bool :=
  let letters := cs.filter (· != '-')
  letters.all "msURux".toList.contains && decide letters.Nodup
    && cs.count '-' ≤ 1 && cs.getLast? != some '-'

/-- The rest after the opening of a group, and whether it is still open: flags may stand
in parentheses alone. -/
def afterGroupStart? : List Char → Option (Bool × List Char)
  | '?' :: 'P' :: '<' :: cs => (afterGroupName? cs).map fun rest => (true, rest)
  | '?' :: '<' :: cs => (afterGroupName? cs).map fun rest => (true, rest)
  | '?' :: cs =>
    match cs.span fun c => c != ':' && c != ')' with
    | (flags, ':' :: rest) => if areFlags flags then some (true, rest) else none
    | (flags, ')' :: rest) => if areFlags flags && !flags.isEmpty then some (false, rest) else none
    | _ => none
  | cs => some (true, cs)

/-! ### Patterns -/

/-- Whether this ends a pattern with so many open groups; `repeatable` tells whether
there is something before it that can be repeated. -/
def isRest : Nat → Nat → Bool → List Char → Bool
  | 0, _, _, _ => false
  | fuel + 1, depth, repeatable, cs =>
    match cs with
    | [] => depth == 0
    | '(' :: cs =>
      match afterGroupStart? cs with
      | some (true, rest) => isRest fuel (depth + 1) false rest
      | some (false, rest) => isRest fuel depth false rest
      | none => false
    | ')' :: cs => 0 < depth && isRest fuel (depth - 1) true cs
    | '|' :: cs => isRest fuel depth false cs
    | '[' :: cs =>
      match afterBrackets? (cs.length + 1) 0 (afterOpening cs) with
      | some rest => isRest fuel depth true rest
      | none => false
    | '\\' :: cs =>
      match escape? cs with
      | some (_, rest) => isRest fuel depth true rest
      | none => false
    | '\x7b' :: _ => false
    | c :: cs =>
      if c == '*' || c == '+' || c == '?' then repeatable && isRest fuel depth true cs
      else isRest fuel depth true cs

/-- Each step takes a character at least, so their number bounds the steps. -/
def isValid (cs : List Char) : Bool := isRest (cs.length + 1) 0 false cs

example : isValid "a(b|c)*[^d-f]".toList = true := by decide +kernel
example : isValid "(".toList = false := by decide +kernel
example : isValid "*".toList = false := by decide +kernel

end ElevatorBank.Text.Pattern
