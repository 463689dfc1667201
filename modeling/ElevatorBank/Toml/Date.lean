import ElevatorBank.Setting.Basic
import ElevatorBank.Time.Calendar

/-!
# Dates and times in TOML

A date or a time is a setting by its text. Until a whole document has been read
it is held as a table whose only key is a reserved one, and any table that begins
with this key stands for a date: it must have the text of one there.
-/
namespace ElevatorBank.Toml

/-- A number of exactly so many digits. -/
def fixed? (width : Nat) (cs : List Char) : Option (Nat × List Char) :=
  let ds := cs.take width
  if ds.length = width ∧ ds.all Char.isDigit then some (Nat.ofDigitChars 10 ds 0, cs.drop width)
  else none

def mark? (c : Char) : List Char → Option (List Char)
  | d :: rest => if d = c then some rest else none
  | [] => none

/-- Passes over a date of the calendar. -/
def skipDate? (cs : List Char) : Option (List Char) := do
  let (year, cs) ← fixed? 4 cs
  let (month, cs) ← fixed? 2 (← mark? '-' cs)
  let (day, cs) ← fixed? 2 (← mark? '-' cs)
  if (⟨year, month, day⟩ : Time.Date).IsValid then some cs else none

/-- Passes over a fraction of a second, if there is one. -/
def skipFraction? : List Char → Option (List Char)
  | '.' :: cs =>
    if (cs.takeWhile Char.isDigit).isEmpty then none else some (cs.dropWhile Char.isDigit)
  | cs => some cs

/-- Passes over hours and minutes. -/
def skipMinutes? (cs : List Char) : Option (List Char) := do
  let (hour, cs) ← fixed? 2 cs
  let (minute, cs) ← fixed? 2 (← mark? ':' cs)
  if hour < 24 ∧ minute < 60 then some cs else none

/-- Passes over a time of day, in which a leap second may occur. -/
def skipTime? (cs : List Char) : Option (List Char) := do
  let (second, cs) ← fixed? 2 (← mark? ':' (← skipMinutes? cs))
  if second ≤ 60 then skipFraction? cs else none

/-- Whether this is the offset of a time from UTC, or nothing. -/
def isOffset : List Char → Bool
  | [] => true
  | ['Z'] => true
  | ['z'] => true
  | '+' :: cs => skipMinutes? cs == some []
  | '-' :: cs => skipMinutes? cs == some []
  | _ => false

def isDate (token : List Char) : Bool := skipDate? token == some []

def isTime (token : List Char) : Bool := skipTime? token == some []

/-- Whether this is a time with or without an offset. -/
def isClock (cs : List Char) : Bool := (skipTime? cs).any isOffset

/-- Whether this is a date, a letter T, and a time with or without an offset. -/
def isMoment (token : List Char) : Bool :=
  match skipDate? token with
  | some (t :: cs) => (t == 'T' || t == 't') && isClock cs
  | _ => false

/-! ### Texts of dates -/

/-- Whether this is an offset of a day at most, or nothing. -/
def isWideOffset (cs : List Char) : Bool :=
  let isWithinDay (cs : List Char) : Bool :=
    match fixed? 2 cs with
    | some (hours, ':' :: cs) =>
      match fixed? 2 cs with
      | some (minutes, []) => 60 * hours + minutes ≤ 24 * 60
      | _ => false
    | _ => false
  match cs with
  | [] => true
  | ['Z'] => true
  | ['z'] => true
  | '+' :: cs => isWithinDay cs
  | '-' :: cs => isWithinDay cs
  | _ => false

/-- Whether a text is a date, a time, or a date and a time with a blank or a letter T
between them; the offset may be wider than one that is written without quotes. -/
def isDateText (cs : List Char) : Bool :=
  isTime cs ||
    match skipDate? cs with
    | some [] => true
    | some (t :: cs) =>
      (t == 'T' || t == 't' || t == ' ') && (skipTime? cs).any isWideOffset
    | none => false

example : isDateText "1979-05-27 07:32:00.5+24:00".toList = true := by decide +kernel
example : isDateText "07:32:00Z".toList = false := by decide +kernel

/-- The reserved key. -/
def dateKey : String := "$__toml_private_datetime"

def ofDate (text : List Char) : Setting := .table [(dateKey, .text (String.ofList text))]

/-- The date that the value of the reserved key stands for. -/
def date? : Setting → Option Setting
  | .text s => if isDateText s.toList then some (.text s) else none
  | _ => none

mutual

/-- Puts the texts of dates for the tables that stand for them. -/
def withDates? : Setting → Option Setting
  | .list items => (itemsWithDates? items).map .list
  | .table es =>
    match es.head? with
    | some (key, v) => if key = dateKey then date? v else (entriesWithDates? es).map .table
    | none => some (.table es)
  | s => some s

def itemsWithDates? : List Setting → Option (List Setting)
  | [] => some []
  | s :: rest => do return (← withDates? s) :: (← itemsWithDates? rest)

def entriesWithDates? : List (String × Setting) → Option (Entries Setting)
  | [] => some []
  | (key, s) :: rest => do return (key, ← withDates? s) :: (← entriesWithDates? rest)

end

end ElevatorBank.Toml
