/-!
# Numerals

Reading whole numbers from their digits, with the law that what is written in
decimal digits for a number reads back as that number.
-/
namespace ElevatorBank.Text

/-- A number from its digits, of which there is at least one. -/
def nat? (cs : List Char) : Option Nat :=
  if cs ≠ [] ∧ cs.all Char.isDigit then some (Nat.ofDigitChars 10 cs 0) else none

/-- A number that may have a minus sign. -/
def int? : List Char → Option Int
  | '-' :: ds => (nat? ds).map fun n => -(n : Int)
  | ds => (nat? ds).map fun n => (n : Int)

/-- A number that may have a sign of either kind. -/
def signedInt? : List Char → Option Int
  | '+' :: ds => (nat? ds).map fun n => (n : Int)
  | cs => int? cs

/-- A number that may have a plus sign. -/
def unsignedNat? : List Char → Option Nat
  | '+' :: ds => nat? ds
  | cs => nat? cs

/-- The value of a hexadecimal digit. -/
def hexValue? (c : Char) : Option Nat :=
  if '0' ≤ c ∧ c ≤ '9' then some (c.toNat - '0'.toNat)
  else if 'a' ≤ c ∧ c ≤ 'f' then some (c.toNat - 'a'.toNat + 10)
  else if 'A' ≤ c ∧ c ≤ 'F' then some (c.toNat - 'A'.toNat + 10)
  else none

/-- The number that digits of a base, which is sixteen at most, stand for. -/
def numberIn? (base : Nat) (ds : List Char) : Option Nat :=
  (ds.mapM fun c => (hexValue? c).filter (· < base)).map (·.foldl (fun n d => base * n + d) 0)

/-- The character of a code point in hexadecimal digits. -/
def codePoint? (ds : List Char) : Option Char := do
  let n ← numberIn? 16 ds
  if n.isValidChar then some (Char.ofNat n) else none

theorem nat?_toDigits (n : Nat) : nat? (Nat.toDigits 10 n) = some n := by
  have h : (Nat.toDigits 10 n).all Char.isDigit = true :=
    List.all_eq_true.mpr fun c hc => Nat.isDigit_of_mem_toDigits (by decide) (by decide) hc
  simp [nat?, h]

theorem nat?_toString (n : Nat) : nat? (toString n).toList = some n := by
  simpa using nat?_toDigits n

/-- Digits contain no minus sign. -/
theorem int?_of_nat? {cs : List Char} {n : Nat} (h : nat? cs = some n) :
    int? cs = some (n : Int) := by
  unfold int?
  split
  · exfalso
    unfold nat? at h
    split at h
    · rename_i hd
      have := List.all_eq_true.mp hd.2 '-' List.mem_cons_self
      revert this; decide
    · cases h
  · simp [h]

theorem int?_toString (i : Int) : int? (toString i).toList = some i := by
  match i with
  | .ofNat n => exact int?_of_nat? (nat?_toString n)
  | .negSucc n =>
    have : (toString (Int.negSucc n)).toList = '-' :: (toString (n + 1)).toList := by
      simp [Int.repr, String.toList_append]
    rw [this, int?, nat?_toString]
    rfl

/-- What is written for a number begins with no plus sign. -/
theorem signedInt?_toString (i : Int) : signedInt? (toString i).toList = some i := by
  rw [← int?_toString i, signedInt?]
  intro ds h
  have hd : int? ('+' :: ds) = none := by
    rw [int?, nat?, if_neg (by simp)]
    · rfl
    · intro _ e; cases e
  rw [← h, int?_toString] at hd
  cases hd

end ElevatorBank.Text
