import ElevatorBank.Floor
import ElevatorBank.Json.Parser
import ElevatorBank.Json.Printer
import ElevatorBank.Wire.Library

/-!
# Reading the wire form

The rules by which the parts of a JSON value are read with the library in use
(`Wire.library`). A record is an object,
whose unknown members are passed over, or an array of all its fields in order. A
name out of a fixed list is a string, or an object with that one member and
nothing in it. A value that has to be read before it is known what it stands for
is buffered, and must then be readable as a whole.
-/
namespace ElevatorBank.Wire

/-- Car numbers are below it. -/
def carIdLimit : Nat := 0x100000000

/-- Counts and intervals are below it. -/
def wordLimit : Nat := 0x10000000000000000

/-- A whole number: no point, no exponent, no negative zero. -/
def integer? : Json → Option Int
  | .number literal => if literal == "-0" then none else Text.int? literal.toList
  | _ => none

def floor? (j : Json) : Option Int := (integer? j).filter fun i => decide (IsFloor i)

/-- A number that is not negative and below a limit. -/
def natBelow? (limit : Nat) (j : Json) : Option Nat :=
  match integer? j with
  | some (.ofNat n) => if n < limit then some n else none
  | _ => none

def carId? (j : Json) : Option Nat := natBelow? carIdLimit j

def word? (j : Json) : Option Nat := natBelow? wordLimit j

def list? {α : Type} (read : Json → Option α) : Json → Option (List α)
  | .array elements => elements.mapM read
  | _ => none

def text? : Json → Option String
  | .string s => s
  | _ => none

def elements? : Json → Option (List Json)
  | .array elements => some elements
  | _ => none

/-- A name. In a buffered value the object of such a name may also hold an empty
object. -/
def variant? (buffered : Bool) : Json → Option String
  | .string s => s
  | .object [(s, .null)] => s
  | .object [(s, .object [])] => if buffered then s else none
  | _ => none

def isUnit : Json → Bool
  | .object _ | .array [] => true
  | _ => false

/-- The members of the given names, each at most once. -/
def known? (names : List String) (members : List (Option String × Json)) :
    Option (List (Option Json)) :=
  if members.all (·.1.isSome) ∧ names.all (fun n => members.countP (·.1 == some n) ≤ 1) then
    some (names.map fun n => members.lookup (some n))
  else none

/-- The fields of a record, all of which are required. -/
def fields? (names : List String) : Json → Option (List Json)
  | .object members => (known? names members).bind (·.mapM id)
  | .array elements => if elements.length = names.length then some elements else none
  | _ => none

/-- Under a name of its own a record cannot be an array. -/
def named? (names : List String) : Json → Option (List Json)
  | .object members => fields? names (.object members)
  | _ => none

/-- The fields of a record that may lack some; an array may lack the last ones. -/
def someFields? (names : List String) : Json → Option (List (Option Json))
  | .object members => known? names members
  | .array elements =>
    if elements.length ≤ names.length then
      some (elements.map some ++ List.replicate (names.length - elements.length) none)
    else none
  | _ => none

/-- The digits of a number literal around its point, and its exponent. -/
def scientificParts (literal : List Char) : List Char × List Char × Int :=
  let (mantissa, exponent) := literal.span fun c => c != 'e' && c != 'E'
  let (whole, fraction) := mantissa.span (· != '.')
  let size : Int := Nat.ofDigitChars 10 (exponent.filter Char.isDigit) 0
  (whole.filter Char.isDigit, fraction.drop 1, if exponent.contains '-' then -size else size)

/-- Appends digits to a number as long as it stays below the word limit; gives
the number and how many digits were used. -/
def takeDigits (n : Nat) : List Char → Nat × Nat
  | [] => (n, 0)
  | c :: rest =>
    let m := 10 * n + (c.toNat - '0'.toNat)
    if m < wordLimit then
      let r := takeDigits m rest
      (r.1, r.2 + 1)
    else (n, 0)

/-- Whether a number literal stays within the range of a double. -/
def isFinite (literal : String) : Bool :=
  let (whole, fraction, exponent) := scientificParts literal.toList
  if literal.length < 20 ∧ fraction = [] ∧ exponent = 0 then true
  else
    let (n, used) := takeDigits 0 whole
    let (m, places) :=
      if used = whole.length then takeDigits n fraction else (n, 0)
    let power : Int := exponent + ((whole.length - used : Nat) : Int) - (places : Int)
    if m = 0 ∨ power ≤ 0 then true
    else if power > 308 then false
    else !(m.toUInt64.toFloat * Float.ofScientific 1 false power.toNat).isInf

mutual

/-- Whether a value can be read as a whole: every string is a text and every
number is in range. -/
def isReadable : Json → Bool
  | .number literal => isFinite literal
  | .string s => s.isSome
  | .array elements => elementsReadable elements
  | .object members => membersReadable members
  | _ => true

def elementsReadable : List Json → Bool
  | [] => true
  | j :: rest => isReadable j && elementsReadable rest

def membersReadable : List (Option String × Json) → Bool
  | [] => true
  | (name, j) :: rest => name.isSome && isReadable j && membersReadable rest

end

/-- So deep may a value be that is read as a whole, what stands around it included. -/
def depthLimit : Nat := 127

/-- Whether a value inside so many others can be buffered. -/
def isBufferable (enclosing : Nat) (j : Json) : Bool :=
  isReadable j && decide (enclosing + j.depth ≤ depthLimit)

/-- The tag of a record that says its own kind, and its other fields: an object
with a member for the tag, or an array that begins with it. It is buffered. -/
def tagged? (tag : String) (j : Json) : Option (String × Json) :=
  if isBufferable 0 j then
    match j with
    | .object members =>
      match members.filter (·.1 == some tag) with
      | [(_, .string (some s))] => some (s, .object (members.filter (·.1 != some tag)))
      | _ => none
    | .array (.string (some s) :: rest) => some (s, .array rest)
    | _ => none
  else none

/-- A tag and its content: the two members of an object, in either order, or the
two elements of an array. Content that comes before the tag is buffered. -/
def adjacent? (enclosing : Nat) (tag content : String) : Json → Option (String × Bool × Json)
  | .object members => do
    let [some kind, some data] ← known? [tag, content] members | none
    let kind ← variant? false kind
    let isTagOrContent (m : Option String × Json) : Bool := m.1 == some tag || m.1 == some content
    if (members.filter isTagOrContent).head?.map (·.1) = some (some content) then
      if isBufferable (enclosing + 1) data then some (kind, true, data) else none
    else some (kind, false, data)
  | .array [.string (some kind), data] => some (kind, false, data)
  | _ => none

/-- The library in use. -/
instance library : Library where
  print := Json.compact
  parse? := Json.parse?
  floor? := floor?
  carId? := carId?
  word? := word?
  text? := text?
  elements? := elements?
  variant? := variant?
  isUnit := isUnit
  fields? := fields?
  named? := named?
  someFields? := someFields?
  tagged? := tagged?
  adjacent? := adjacent?
  uuidText := Uuid.text
  uuid? := Uuid.parse?
  instantText := Time.Instant.text
  instant? := Time.Instant.parse?

end ElevatorBank.Wire
