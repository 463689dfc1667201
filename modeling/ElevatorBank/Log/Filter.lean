import ElevatorBank.Log.Record
import ElevatorBank.Text.Alphanumeric
import ElevatorBank.Text.Blank
import ElevatorBank.Text.Decimal
import ElevatorBank.Text.Pattern
import ElevatorBank.Text.Split

/-!
# Log filters

Which records are written. A filter is a list of directives, each of which lets
the records of some targets through up to a level; it may be about records that
have some field only. Of the directives about a record the most specific decides:
that with the longest target, then that with more fields, and of two alike the
later one. A record that no directive is about is not written.
-/
namespace ElevatorBank.Log

structure Directive where
  /-- What the targets begin with; the empty text is about all of them. -/
  target : String
  /-- The fields that a record must have. -/
  fields : List String := []
  /-- The least grave level let through, if any is. -/
  least : Option Level
  /-- Whether the directive is only about what happens inside some span. -/
  isScoped : Bool := false
  deriving DecidableEq, Repr, Inhabited

namespace Directive

/-! ### Reading -/

/-- A level by its name or its number; `off` and zero let nothing through. -/
def level? (cs : List Char) : Option (Option Level) :=
  match Text.unsignedNat? cs with
  | some 0 => some none
  | some n => (Level.all.find? (·.rank == n)).map some
  | none =>
    let name := cs.map Char.toLower
    if name = "off".toList then some none
    else (Level.ofName? (String.ofList name)).map some

/-- A level after an equals sign; without one everything is let through. -/
def levelAfter? (cs : List Char) : Option (Option Level) :=
  if cs.isEmpty then some (some .trace) else level? cs

def isTargetStart (c : Char) : Bool :=
  c == '-' || c == ':' || c == '_' || Text.isAlphanumeric c

/-- What a span has to be: its name, if it is given, and a field with perhaps the
value it has to have. -/
structure Scope where
  name : Option String
  field : Option (String × Option String)

/-- A field between braces, with a value after an equals sign that is a number or a
pattern. What comes after a second equals sign does not count. -/
def field? (cs : List Char) : Option (String × Option String) :=
  match Text.split '=' cs with
  | name :: value :: _ =>
    if (Text.float? value).isSome || Text.Pattern.isValid value then
      some (String.ofList name, some (String.ofList value))
    else none
  | _ => if cs.isEmpty then none else some (String.ofList cs, none)

/-- A directive with brackets. A field without a value, of no span in particular, is
one that the records themselves must have. -/
def ofScope (target : String) (least : Option Level) : Scope → Directive
  | ⟨none, some (field, none)⟩ => { target, fields := [field], least }
  | _ => { target, least, isScoped := true }

/-- What stands between brackets, and where they end; `start` is where they begin.
Places are counted in `body`, the text without the blanks around it, but parts are
cut from the whole text. -/
def scope? (cs body : List Char) (start : Nat) : Option (Scope × Nat) :=
  let part (start stop : Nat) : List Char := (cs.drop start).take (stop - start)
  let inner := body.drop start
  let stop := start + (inner.takeWhile fun c => c != ']' && c != '\x7b').length
  match body.drop stop with
  | ']' :: _ => some (⟨some (String.ofList (part start stop)), none⟩, stop + 1)
  | _ :: fields =>
    let last := stop + 1 + (fields.takeWhile (· != '\x7d')).length
    match body.drop last with
    | '\x7d' :: ']' :: _ =>
      (field? (part (stop + 1) last)).map fun field =>
        let name := if stop = start then none else some (String.ofList (part start stop))
        (⟨name, some field⟩, last + 2)
    | _ => none
  | [] => none

/-- A directive: a level, a target, a target with a level, or any of these with
brackets. Blanks around it do not count where its marks are looked for, but they do
where its parts are cut out. -/
def parse? (cs : List Char) : Option Directive :=
  let body := Text.trim cs
  let stop := (body.takeWhile fun c => c != '=' && c != '[').length
  let target := String.ofList (cs.take stop)
  if body.head?.any fun c => c == '[' || isTargetStart c then
    match body.drop stop with
    | [] =>
      match level? cs with
      | some least => some { target := "", least }
      | none => some { target := String.ofList cs, least := some .trace }
    | '[' :: _ => do
      let (scope, stop) ← scope? cs body (stop + 1)
      match body.drop stop with
      | [] => return ofScope target (some .trace) scope
      | '=' :: _ => return ofScope target (← levelAfter? (cs.drop (stop + 1))) scope
      | _ => none
    | _ => (levelAfter? (cs.drop (stop + 1))).map fun least => { target, least }
  else none

example : parse? "WARN".toList = some { target := "", least := some .warn } := by decide +kernel
example : parse? "a::b=off".toList = some { target := "a::b", least := none } := by decide +kernel
example : parse? "a[\x7bmessage\x7d]=2".toList
    = some { target := "a", fields := ["message"], least := some .warn } := by decide +kernel
example : parse? "[span]".toList
    = some { target := "", least := some .trace, isScoped := true } := by decide +kernel

/-! ### Deciding -/

/-- Whether a directive is about a record of a target, outside of all spans. -/
def isAbout (target : String) (r : Record) (d : Directive) : Bool :=
  !d.isScoped && d.target.toList.isPrefixOf target.toList
    && d.fields.all r.fieldNames.contains

/-- Whether a directive is less specific than another. -/
def isWeaker (d e : Directive) : Bool :=
  d.target.utf8ByteSize < e.target.utf8ByteSize
    || (d.target.utf8ByteSize == e.target.utf8ByteSize
      && (d.fields.length < e.fields.length
        || (d.fields.length == e.fields.length && decide (d.fields < e.fields))))

end Directive

abbrev Filter := List Directive

namespace Filter

/-- Everything of a level and the graver ones. -/
def upTo (l : Level) : Filter := [{ target := "", least := some l }]

/-- Directives with commas between them; nothing at all is written without any. -/
def parse? (s : String) : Option Filter :=
  ((Text.split ',' s.toList).filter (· ≠ [])).mapM Directive.parse?

/-- Of two directives the one that decides, the second being the later. -/
def stronger : Option Directive → Directive → Option Directive
  | some d, e => some (if e.isWeaker d then d else e)
  | none, e => some e

/-- The directive that decides about a record of a target. -/
def directive? (f : Filter) (target : String) (r : Record) : Option Directive :=
  (f.filter (·.isAbout target r)).foldl stronger none

def allows (f : Filter) (target : String) (r : Record) : Bool :=
  match f.directive? target r with
  | some d => d.least.any r.level.reaches
  | none => false

/-- The levels at which records of a target that have but a message are written, from
the gravest down. -/
def levels (f : Filter) (target : String) : List Level :=
  Level.all.filter fun l => f.allows target ⟨l, "", []⟩

end Filter
end ElevatorBank.Log
