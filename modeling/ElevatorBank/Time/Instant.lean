import ElevatorBank.Text.Blank
import ElevatorBank.Text.Numeral
import ElevatorBank.Time.Calendar

/-!
# Instants

A point in time: seconds since the beginning of 1970 in UTC, and nanoseconds. A
leap second is told as the second before it with a billion nanoseconds more. An
instant is written in UTC with as many groups of three digits of the second's
fraction as it needs.

Reading is more lenient than writing. Blanks may stand before every number and
sign of punctuation of the date and the time and around the offset, a number may
lack leading zeros, the year may have a sign and any number of digits then, the
fraction may be of any length, and the offset may be missing its colon.
-/
namespace ElevatorBank.Time

structure Instant where
  seconds : Int
  nanos : Nat
  deriving DecidableEq, Repr, Inhabited

/-- The digits of a number with zeros before them up to a width. -/
def padded (width n : Nat) : String :=
  let ds := Nat.toDigits 10 n
  String.ofList (List.replicate (width - ds.length) '0' ++ ds)

/-- A year of four digits; any other has a sign. -/
def yearText (y : Int) : String :=
  if 0 ≤ y ∧ y ≤ 9999 then padded 4 y.toNat
  else (if y < 0 then "-" else "+") ++ padded 4 y.natAbs

def fractionText (nanos : Nat) : String :=
  if nanos = 0 then ""
  else if nanos % 1000000 = 0 then "." ++ padded 3 (nanos / 1000000)
  else if nanos % 1000 = 0 then "." ++ padded 6 (nanos / 1000)
  else "." ++ padded 9 nanos

namespace Instant

def billion : Nat := 1000000000

def text (i : Instant) : String :=
  let date := Date.ofDays (i.seconds / 86400)
  let second := (i.seconds % 86400).toNat
  let isLeap := billion ≤ i.nanos
  yearText date.year ++ "-" ++ padded 2 date.month ++ "-" ++ padded 2 date.day ++ "T"
    ++ padded 2 (second / 3600) ++ ":" ++ padded 2 (second / 60 % 60) ++ ":"
    ++ padded 2 (second % 60 + if isLeap then 1 else 0)
    ++ fractionText (if isLeap then i.nanos - billion else i.nanos) ++ "Z"

end Instant

/-! ### Reading -/

def skipBlanks (cs : List Char) : List Char := cs.dropWhile Text.isBlank

/-- One digit or more, at most so many of them. -/
def number? (most : Nat) (cs : List Char) : Option (Nat × List Char) :=
  let ds := (cs.take most).takeWhile Char.isDigit
  if ds.isEmpty then none else some (Nat.ofDigitChars 10 ds 0, cs.drop ds.length)

/-- A number of one or two digits, after blanks. -/
def twoDigits? (cs : List Char) : Option (Nat × List Char) := number? 2 (skipBlanks cs)

/-- A year: up to four digits, or a sign and any number of them. -/
def year? (cs : List Char) : Option (Int × List Char) :=
  match skipBlanks cs with
  | '-' :: cs => (number? cs.length cs).map fun (n, rest) => (-(n : Int), rest)
  | '+' :: cs => (number? cs.length cs).map fun (n, rest) => ((n : Int), rest)
  | cs => (number? 4 cs).map fun (n, rest) => ((n : Int), rest)

/-- A sign of punctuation, after blanks. -/
def mark? (c : Char) (cs : List Char) : Option (List Char) :=
  match skipBlanks cs with
  | d :: rest => if d = c then some rest else none
  | [] => none

def date? (cs : List Char) : Option (Date × List Char) := do
  let (year, cs) ← year? cs
  let (month, cs) ← twoDigits? (← mark? '-' cs)
  let (day, cs) ← twoDigits? (← mark? '-' cs)
  let date : Date := ⟨year, month, day⟩
  if date.IsValid then some (date, cs) else none

/-- The nanoseconds of a fraction; digits after the ninth do not count. -/
def fraction? : List Char → Option (Nat × List Char)
  | '.' :: cs => do
    let (n, rest) ← number? 9 cs
    return (n * Nat.pow 10 (9 - (cs.length - rest.length)), rest.dropWhile Char.isDigit)
  | cs => some (0, cs)

/-- The second of the day and the nanoseconds. -/
def clock? (cs : List Char) : Option (Nat × Nat × List Char) := do
  let (hour, cs) ← twoDigits? cs
  let (minute, cs) ← twoDigits? (← mark? ':' cs)
  let (second, cs) ← twoDigits? (← mark? ':' cs)
  let (nanos, cs) ← fraction? cs
  if 24 ≤ hour ∨ 60 ≤ minute ∨ 61 ≤ second then none
  let isLeap := second = 60
  let seconds := hour * 3600 + minute * 60 + if isLeap then 59 else second
  return (seconds, if isLeap then nanos + Instant.billion else nanos, cs)

/-- Exactly two digits, the first of them below a bound. -/
def pair? (firstBelow : Nat) : List Char → Option (Nat × List Char)
  | a :: b :: rest =>
    if a.isDigit ∧ b.isDigit ∧ a.toNat - '0'.toNat < firstBelow then
      some (10 * (a.toNat - '0'.toNat) + (b.toNat - '0'.toNat), rest)
    else none
  | _ => none

/-- Hours and minutes after the sign of an offset, in seconds. -/
def offsetSize? (cs : List Char) : Option (Int × List Char) := do
  let (hours, cs) ← pair? 10 cs
  let (minutes, cs) ← pair? 6 (cs.dropWhile fun c => c == ':' || Text.isBlank c)
  return ((hours * 3600 + minutes * 60 : Nat), cs)

/-- The offset from UTC in seconds; less than a day either way. -/
def offset? (cs : List Char) : Option (Int × List Char) := do
  let (offset, rest) ← match cs with
    | 'Z' :: rest => some ((0 : Int), rest)
    | 'z' :: rest => some (0, rest)
    | '+' :: rest => offsetSize? rest
    | '-' :: rest => (offsetSize? rest).map fun (n, rest) => (-n, rest)
    | '\u2212' :: rest => (offsetSize? rest).map fun (n, rest) => (-n, rest)
    | u :: t :: c :: rest =>
      if [u, t, c].map Char.toUpper = ['U', 'T', 'C'] then some (0, rest) else none
    | _ => none
  if offset.natAbs < 86400 then some (offset, rest) else none

/-- The years in which an instant may lie. -/
def firstYear : Int := -262143
def lastYear : Int := 262142

namespace Instant

def IsInRange (i : Instant) : Prop :=
  (⟨firstYear, 1, 1⟩ : Date).toDays ≤ i.seconds / 86400
    ∧ i.seconds / 86400 ≤ (⟨lastYear, 12, 31⟩ : Date).toDays

instance (i : Instant) : Decidable i.IsInRange := inferInstanceAs (Decidable (_ ∧ _))

def parse? (s : String) : Option Instant := do
  let (date, cs) ← date? s.toList
  let separator :: cs := cs | none
  if separator ≠ 'T' ∧ separator ≠ 't' ∧ separator ≠ ' ' then none
  let (second, nanos, cs) ← clock? cs
  let (offset, cs) ← offset? (skipBlanks cs)
  if ¬ (skipBlanks cs).isEmpty then none
  let shown : Instant := ⟨date.toDays * 86400 + second, nanos⟩
  let i : Instant := ⟨shown.seconds - offset, nanos⟩
  if shown.IsInRange ∧ i.IsInRange then some i else none

end Instant
end ElevatorBank.Time
