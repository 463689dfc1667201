import ElevatorBank.Text.Numeral

/-!
# Decimal fractions

Reading a text as a floating-point number: digits with or without a point among
or around them, then perhaps an exponent; or one of the words for infinity and
for no number. The number is the double nearest to what the text says.
-/
namespace ElevatorBank.Text

/-- No double but zero lies below ten to the power of minus it, none at or above
ten to the power of it. -/
def exponentLimit : Int := 400

/-- The double nearest to a whole number times a power of ten. -/
def scientific (digits : List Char) (exponent : Int) : Float :=
  let digits := digits.dropWhile (· == '0')
  if digits.isEmpty then 0
  else
    let magnitude := exponent + digits.length
    if magnitude < -exponentLimit then 0
    else if exponentLimit < magnitude then Float.ofScientific 1 false exponentLimit.toNat
    else
      let n := Nat.ofDigitChars 10 digits 0
      if exponent < 0 then Float.ofScientific n true exponent.natAbs
      else Float.ofScientific n false exponent.toNat

/-- An exponent after its letter. -/
def exponent? : List Char → Option Int
  | [] => some 0
  | e :: cs => if e == 'e' || e == 'E' then signedInt? cs else none

/-- A number without a sign. -/
def unsignedFloat? (cs : List Char) : Option Float :=
  let (whole, rest) := cs.span Char.isDigit
  let (fraction, rest) := match rest with
    | '.' :: rest => rest.span Char.isDigit
    | rest => ([], rest)
  if whole.isEmpty && fraction.isEmpty then
    let word := cs.map Char.toLower
    if word = "inf".toList ∨ word = "infinity".toList then some (1 / 0)
    else if word = "nan".toList then some (0 / 0)
    else none
  else
    (exponent? rest).map fun e => scientific (whole ++ fraction) (e - fraction.length)

/-- A number that may have a sign of either kind. -/
def float? : List Char → Option Float
  | '-' :: cs => (unsignedFloat? cs).map (- ·)
  | '+' :: cs => unsignedFloat? cs
  | cs => unsignedFloat? cs

end ElevatorBank.Text
