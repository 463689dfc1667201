import ElevatorBank.Text.Decimal
import ElevatorBank.Toml.Date
import ElevatorBank.Toml.Text

/-!
# Scalars in TOML

Truth values, whole numbers, floating-point numbers, dates and times, all
written without quotes. Digits may be grouped by single underscores between
them.
-/
namespace ElevatorBank.Toml

/-- The digits of a group without the underscores between them. -/
def grouped? (isDigit : Char → Bool) : List Char → Option (List Char)
  | [] => none
  | [c] => if isDigit c then some [c] else none
  | c :: '_' :: rest => if isDigit c then (grouped? isDigit rest).map (c :: ·) else none
  | c :: rest => if isDigit c then (grouped? isDigit rest).map (c :: ·) else none

def decimals? (cs : List Char) : Option (List Char) := grouped? Char.isDigit cs

/-- Decimal digits of which the first is no zero, unless it stands alone. -/
def wholePart? (cs : List Char) : Option (List Char) :=
  match cs with
  | '0' :: _ :: _ => none
  | cs => decimals? cs

/-- Whether a number has a minus sign, and what comes after its sign. -/
def unsign : List Char → Bool × List Char
  | '-' :: cs => (true, cs)
  | '+' :: cs => (false, cs)
  | cs => (false, cs)

/-! ### Whole numbers -/

/-- The value of digits of some base. -/
def valueIn (base : Nat) (ds : List Char) : Option Nat := do
  Text.numberIn? base (← grouped? (fun c => (Text.hexValue? c).any (· < base)) ds)

def int? (token : List Char) : Option Int :=
  Option.filter (fun i => decide (Setting.IsWhole i)) <|
    match token with
    | '0' :: 'x' :: ds => (valueIn 16 ds).map Int.ofNat
    | '0' :: 'o' :: ds => (valueIn 8 ds).map Int.ofNat
    | '0' :: 'b' :: ds => (valueIn 2 ds).map Int.ofNat
    | token =>
      let (isNegative, cs) := unsign token
      (wholePart? cs).map fun ds =>
        let n : Int := Nat.ofDigitChars 10 ds 0
        if isNegative then -n else n

/-! ### Floating-point numbers -/

def isExponentLetter (c : Char) : Bool := c == 'e' || c == 'E'

/-- An exponent after its letter. -/
def exponent? (cs : List Char) : Option Int :=
  let (isNegative, cs) := unsign cs
  (decimals? cs).map fun ds =>
    let n : Int := Nat.ofDigitChars 10 ds 0
    if isNegative then -n else n

/-- A number without a sign that has a fraction or an exponent. -/
def unsignedFloat? (cs : List Char) : Option Float := do
  let (mantissa, power) := cs.span (! isExponentLetter ·)
  let exponent ← match power with
    | [] => some 0
    | _ :: power => exponent? power
  match mantissa.span (· != '.') with
  | (whole, '.' :: fraction) =>
    let fraction ← decimals? fraction
    return Text.scientific ((← wholePart? whole) ++ fraction) (exponent - fraction.length)
  | (whole, _) =>
    if power.isEmpty then none else return Text.scientific (← wholePart? whole) exponent

/-- A number too great for a double is refused, but not a number too small. -/
def float? (token : List Char) : Option Float :=
  let (isNegative, cs) := unsign token
  if cs = "inf".toList then some (if isNegative then -(1 / 0) else 1 / 0)
  else if cs = "nan".toList then some (0 / 0)
  else
    match unsignedFloat? cs with
    | none => none
    | some x => if isNegative then some (-x) else if x.isInf then none else some x

/-! ### Any of them -/

def ofToken? (token : List Char) : Option Setting :=
  if token = "true".toList then some (.flag true)
  else if token = "false".toList then some (.flag false)
  else if isDate token || isTime token || isMoment token then some (ofDate token)
  else
    match int? token with
    | some i => some (.int i)
    | none => (float? token).map .float

def isScalarChar (c : Char) : Bool :=
  c.isAlphanum || c == '+' || c == '-' || c == '_' || c == '.' || c == ':'

/-- A scalar, if there is one. A blank may take the place of the letter between a
date and a time. -/
def scalar? (cs : List Char) : Option (Setting × List Char) :=
  let (token, rest) := cs.span isScalarChar
  let alone := (ofToken? token).map fun s => (s, rest)
  match rest with
  | ' ' :: later =>
    let (clock, rest) := later.span isScalarChar
    if isDate token && isClock clock then
      some (ofDate (token ++ ' ' :: clock), rest)
    else alone
  | _ => alone

end ElevatorBank.Toml
