import ElevatorBank.Text.Numeral

/-!
# Unique identifiers

A number of 128 bits, written as 32 hexadecimal digits in five groups.
-/
namespace ElevatorBank

structure Uuid where
  value : Nat
  deriving DecidableEq, Repr, Inhabited

namespace Uuid

/-- The lengths of the groups. -/
def groups : List Nat := [8, 4, 4, 4, 12]

/-- Cuts a list into parts of the given lengths. -/
def cut {α : Type} : List Nat → List α → List (List α)
  | [], _ => []
  | n :: ns, cs => cs.take n :: cut ns (cs.drop n)

/-- The 32 digits, in lower case. -/
def digits (u : Uuid) : List Char :=
  let ds := Nat.toDigits 16 u.value
  List.replicate (32 - ds.length) '0' ++ ds

def text (u : Uuid) : String :=
  "-".intercalate ((cut groups u.digits).map String.ofList)

def ofDigits? (cs : List Char) : Option Uuid :=
  if cs.length = 32 then (Text.numberIn? 16 cs).map Uuid.mk else none

/-- Reads five groups joined by hyphens. -/
def ofHyphenated? (cs : List Char) : Option Uuid :=
  let parts := cut [8, 1, 4, 1, 4, 1, 4, 1, 12] cs
  match parts with
  | [a, ['-'], b, ['-'], c, ['-'], d, ['-'], e] =>
    if cs.length = 36 then ofDigits? (a ++ b ++ c ++ d ++ e) else none
  | _ => none

def urnStart : List Char := "urn:uuid:".toList

/-- Reads the digits alone, in groups, in groups between braces, or as a name in
the `urn:uuid:` space, which may be spelled in capitals. -/
def parse? (s : String) : Option Uuid :=
  let cs := s.toList
  match cs.length with
  | 32 => ofDigits? cs
  | 36 => ofHyphenated? cs
  | 38 =>
    if cs.head? = some '\x7b' ∧ cs.getLast? = some '\x7d' then ofHyphenated? (cs.drop 1).dropLast
    else none
  | 45 => if (cs.take 9).map Char.toLower = urnStart then ofHyphenated? (cs.drop 9) else none
  | _ => none

end Uuid
end ElevatorBank
