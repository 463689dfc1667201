import ElevatorBank.Json.Parser
import ElevatorBank.Json.Printer
import Mathlib.Data.List.TakeDrop
import Mathlib.Tactic.Common

/-!
# Texts of trees

A tree of whole numbers and texts is written to a text that reads back as the same tree
(`Json.parse?_compact`).
-/
namespace ElevatorBank.Json

/-! ### Strings -/

namespace Parser

/-- A piece that stands for one character wherever it is. -/
def Piece.Spells (p : Piece) (c : Char) : Prop := ∀ ps, textOf (p :: ps) = (textOf ps).map (c :: ·)

lemma spells_char (c : Char) : (Piece.char c).Spells c := fun _ => rfl

lemma spells_unit {c : Char} (hc : c.toNat < 0x20) : (Piece.unit c.toNat).Spells c := by
  intro ps
  have hl : isLeading c.toNat = false := by simp [isLeading]; omega
  have ht : isTrailing c.toNat = false := by simp [isTrailing]; omega
  rcases ps with _ | ⟨_ | v, rest⟩ <;> simp [textOf, hl, ht, Char.ofNat_toNat]

lemma numberIn?_escaped : ∀ n < 0x20,
    Text.numberIn? 16 ['0', '0', hexDigit (n / 16), hexDigit (n % 16)] = some n := by decide

/-- A letter after a backslash is read as the character that it stands for. -/
lemma pieces_escaped {e c : Char} (hu : e ≠ 'u') (he : escaped? e = some c) (tail : List Char) :
    pieces ('\\' :: e :: tail) = (pieces tail).map fun r => (.char c :: r.1, r.2) := by
  rw [pieces]
  · cases pieces tail <;> simp [he]
  · rintro _ _ _ _ _ rfl
    exact absurd rfl hu

lemma pieces_unit {u : Nat} {a b c d : Char} (hu : Text.numberIn? 16 [a, b, c, d] = some u)
    (tail : List Char) : pieces ('\\' :: 'u' :: a :: b :: c :: d :: tail) =
      (pieces tail).map fun r => (.unit u :: r.1, r.2) := by
  rw [pieces, hu]
  cases pieces tail <;> rfl

lemma pieces_plain {c : Char} (hquote : c ≠ '"') (hslash : c ≠ '\\') (hc : ¬ c.toNat < 0x20)
    (tail : List Char) : pieces (c :: tail) = (pieces tail).map fun r => (.char c :: r.1, r.2) := by
  rw [pieces]
  · cases pieces tail <;> simp [hslash, hc]
  · exact hquote
  · rintro _ _ _ _ _ h
    exact absurd h hslash
  · rintro _ _ h
    exact absurd h hslash

/-- An escaped character is read as one piece. -/
lemma exists_piece (c : Char) : ∃ p : Piece, p.Spells c ∧
    ∀ tail, pieces (escape c ++ tail) = (pieces tail).map fun r => (p :: r.1, r.2) := by
  unfold escape
  split
  iterate 7 exact ⟨.char _, spells_char _, pieces_escaped (by decide) rfl⟩
  split
  · next hc => exact ⟨.unit c.toNat, spells_unit hc, pieces_unit (numberIn?_escaped _ hc)⟩
  · next hquote hslash _ _ _ _ _ hc => exact ⟨.char c, spells_char c, pieces_plain hquote hslash hc⟩

lemma exists_pieces (cs tail : List Char) :
    ∃ ps, pieces (cs.flatMap escape ++ '"' :: tail) = some (ps, tail) ∧ textOf ps = some cs := by
  induction cs with
  | nil => exact ⟨[], rfl, rfl⟩
  | cons c rest ih =>
    obtain ⟨ps, hps, htext⟩ := ih
    obtain ⟨p, hspells, hp⟩ := exists_piece c
    refine ⟨p :: ps, ?_, ?_⟩
    · rw [List.flatMap_cons, List.append_assoc, hp, hps]
      rfl
    · rw [hspells, htext]
      rfl

lemma string_literal (s : String) (tail : List Char) :
    string (s.toList.flatMap escape ++ '"' :: tail) = some (some s, tail) := by
  obtain ⟨ps, hps, htext⟩ := exists_pieces s.toList tail
  simp [string, hps, htext]

/-! ### Numbers -/

/-- What may stand behind a value: a comma, a closing bracket or nothing. -/
def IsEnd : List Char → Prop
  | [] => True
  | c :: _ => c = ',' ∨ c = ']' ∨ c = '\x7d'

lemma span_digits {ds rest : List Char} (hds : ∀ c ∈ ds, c.isDigit = true) (hrest : IsEnd rest) :
    (ds ++ rest).span Char.isDigit = (ds, rest) := by
  have hstop : rest.takeWhile Char.isDigit = [] ∧ rest.dropWhile Char.isDigit = rest := by
    cases rest with
    | nil => exact ⟨rfl, rfl⟩
    | cons c cs => obtain rfl | rfl | rfl := hrest <;> exact ⟨rfl, rfl⟩
  rw [List.span_eq_takeWhile_dropWhile, List.takeWhile_append_of_pos hds,
    List.dropWhile_append_of_pos hds, hstop.1, hstop.2, List.append_nil]

lemma exists_toDigits (n : Nat) : ∃ d ds, Nat.toDigits 10 n = d :: ds ∧ d.isDigit = true := by
  obtain ⟨d, ds, hds⟩ := List.exists_cons_of_ne_nil (Nat.toDigits_ne_nil (n := n) (b := 10))
  refine ⟨d, ds, hds, ?_⟩
  exact Nat.isDigit_of_mem_toDigits (n := n) (by decide) (by decide) (hds ▸ List.mem_cons_self)

/-- Only the numeral of zero begins with it. -/
lemma head?_toDigits {n : Nat} (hn : n ≠ 0) : (Nat.toDigits 10 n).head? ≠ some '0' := by
  induction n using Nat.strongRecOn with
  | ind n ih =>
    rw [Nat.toDigits_eq_if (by decide)]
    split
    · simpa [Nat.digitChar_eq_zero] using hn
    · rw [List.head?_append, Option.or_of_isSome (by simp [Nat.toDigits_ne_nil])]
      exact ih (n / 10) (by omega) (by omega)

lemma wholePart_toDigits (n : Nat) {rest : List Char} (hrest : IsEnd rest) :
    wholePart (Nat.toDigits 10 n ++ rest) = some (Nat.toDigits 10 n, rest) := by
  have hspan : (Nat.toDigits 10 n ++ rest).span Char.isDigit = (Nat.toDigits 10 n, rest) :=
    span_digits (fun c hc => Nat.isDigit_of_mem_toDigits (by decide) (by decide) hc) hrest
  have hdigits : digits (Nat.toDigits 10 n ++ rest) = some (Nat.toDigits 10 n, rest) := by
    unfold digits
    rw [hspan]
    split
    · next h => exact absurd (congrArg Prod.fst h) Nat.toDigits_ne_nil
    · rfl
  rw [wholePart, hdigits]
  by_cases hn : n = 0
  · rw [hn]
    rfl
  · have hhead := head?_toDigits hn
    simp only [Option.bind_eq_bind, Option.bind_some]
    split
    · next h => simp [h] at hhead
    · rfl

lemma fractionPart_end {rest : List Char} (hrest : IsEnd rest) :
    fractionPart rest = some ([], rest) := by
  cases rest with
  | nil => rfl
  | cons c cs => obtain rfl | rfl | rfl := hrest <;> rfl

lemma exponentPart_end {rest : List Char} (hrest : IsEnd rest) :
    exponentPart rest = some ([], rest) := by
  cases rest with
  | nil => rfl
  | cons c cs => obtain rfl | rfl | rfl := hrest <;> rfl

lemma toList_toString_ofNat (n : Nat) :
    (toString (Int.ofNat n)).toList = Nat.toDigits 10 n := by
  simp [Int.repr]

lemma toList_toString_negSucc (n : Nat) :
    (toString (Int.negSucc n)).toList = '-' :: Nat.toDigits 10 (n + 1) := by
  simp [Int.repr, String.toList_append]

lemma number_toString (i : Int) {rest : List Char} (hrest : IsEnd rest) :
    number ((toString i).toList ++ rest) = some ((toString i).toList, rest) := by
  cases i with
  | ofNat n =>
    rw [toList_toString_ofNat, number]
    · simp [wholePart_toDigits _ hrest, fractionPart_end hrest, exponentPart_end hrest]
    · intro cs h
      obtain ⟨d, ds, hds, hd⟩ := exists_toDigits n
      rw [hds] at h
      obtain rfl : d = '-' := (List.cons.inj h).1
      cases hd
  | negSucc n =>
    rw [toList_toString_negSucc, List.cons_append, number]
    simp [wholePart_toDigits _ hrest, fractionPart_end hrest, exponentPart_end hrest]

end Parser

/-! ### Trees -/

mutual

/-- All strings of a tree are texts, and all numbers are whole. -/
def IsPlain : Json → Prop
  | number literal => ∃ i : Int, literal = toString i
  | string s => s.isSome = true
  | array elements => ElementsPlain elements
  | object members => MembersPlain members
  | _ => True

def ElementsPlain : List Json → Prop
  | [] => True
  | j :: rest => j.IsPlain ∧ ElementsPlain rest

def MembersPlain : List (Option String × Json) → Prop
  | [] => True
  | (name, j) :: rest => name.isSome = true ∧ j.IsPlain ∧ MembersPlain rest

end

namespace Parser

lemma skipBlanks_cons {c : Char} (hc : isBlank c = false) (cs : List Char) :
    skipBlanks (c :: cs) = c :: cs := by
  simp [skipBlanks, hc]

lemma numeral_of_mem {i : Int} {c : Char} (hc : c ∈ (toString i).toList) :
    c = '-' ∨ c.isDigit = true := by
  cases i with
  | ofNat n =>
    rw [toList_toString_ofNat] at hc
    exact .inr (Nat.isDigit_of_mem_toDigits (by decide) (by decide) hc)
  | negSucc n =>
    rw [toList_toString_negSucc, List.mem_cons] at hc
    exact hc.imp_right (Nat.isDigit_of_mem_toDigits (by decide) (by decide))

lemma exists_toString (i : Int) : ∃ c cs, (toString i).toList = c :: cs ∧
    (c = '-' ∨ c.isDigit = true) := by
  have hne : (toString i).toList ≠ [] := by
    cases i with
    | ofNat n => exact toList_toString_ofNat n ▸ Nat.toDigits_ne_nil
    | negSucc n => exact toList_toString_negSucc n ▸ List.cons_ne_nil _ _
  obtain ⟨c, cs, hcs⟩ := List.exists_cons_of_ne_nil hne
  exact ⟨c, cs, hcs, numeral_of_mem (hcs ▸ List.mem_cons_self)⟩

/-- A number can be told from anything else by its first character. -/
lemma ne_of_numeral {c d : Char} (hc : c = '-' ∨ c.isDigit = true) (hd : d ≠ '-')
    (hdigit : d.isDigit = false) : c ≠ d := by
  rintro rfl
  simp [hd, hdigit] at hc

lemma isBlank_of_numeral {c : Char} (hc : c = '-' ∨ c.isDigit = true) : isBlank c = false := by
  have hne (d : Char) (hd : d ≠ '-' ∧ d.isDigit = false) : c ≠ d := ne_of_numeral hc hd.1 hd.2
  simp [isBlank, hne ' ' (by decide), hne '\t' (by decide), hne '\n' (by decide),
    hne '\r' (by decide)]

/-- A value begins with no blank, and not as an array ends. -/
lemma exists_chars {j : Json} (h : j.IsPlain) : ∃ c cs, j.chars = c :: cs ∧
    isBlank c = false ∧ c ≠ ']' := by
  cases j with
  | null => exact ⟨'n', _, rfl, rfl, by decide⟩
  | bool b =>
    cases b
    · exact ⟨'f', _, rfl, rfl, by decide⟩
    · exact ⟨'t', _, rfl, rfl, by decide⟩
  | number literal =>
    obtain ⟨i, rfl⟩ := h
    obtain ⟨c, cs, hcs, hc⟩ := exists_toString i
    exact ⟨c, cs, by rw [chars, hcs], isBlank_of_numeral hc,
      ne_of_numeral hc (by decide) (by decide)⟩
  | string s => exact ⟨'"', _, rfl, rfl, by decide⟩
  | array elements => exact ⟨'[', _, rfl, rfl, by decide⟩
  | object members => exact ⟨'\x7b', _, rfl, rfl, by decide⟩

lemma value_number {c : Char} (hc : c = '-' ∨ c.isDigit = true) (cs : List Char) (depth : Nat) :
    value (depth + 1) (c :: cs) =
      (number (c :: cs)).map fun r => (.number (String.ofList r.1), r.2) := by
  have hother {d : Char} {ds : List Char} (hd : d ≠ '-' ∧ d.isDigit = false) :
      c :: cs ≠ d :: ds := fun h => ne_of_numeral hc hd.1 hd.2 (List.cons.inj h).1
  rw [value, skipBlanks_cons (isBlank_of_numeral hc)]
  split
  iterate 6 next h => exact absurd h (hother (by decide))
  rfl

lemma elementChars_cons (j j' : Json) (js : List Json) :
    elementChars (j :: j' :: js) = j.chars ++ ',' :: elementChars (j' :: js) := rfl

lemma memberChars_cons (name : Option String) (j : Json) (m : Option String × Json)
    (ms : List (Option String × Json)) : memberChars ((name, j) :: m :: ms) =
      literal name ++ ':' :: (j.chars ++ ',' :: memberChars (m :: ms)) := rfl

lemma exists_elementChars {j : Json} (h : j.IsPlain) (js : List Json) :
    ∃ c cs, elementChars (j :: js) = c :: cs ∧ isBlank c = false ∧ c ≠ ']' := by
  obtain ⟨c, cs, hcs, hblank, hc⟩ := exists_chars h
  cases js with
  | nil => exact ⟨c, _, by rw [elementChars, hcs, List.cons_append], hblank, hc⟩
  | cons j' js => exact ⟨c, _, by rw [elementChars_cons, hcs, List.cons_append], hblank, hc⟩

lemma exists_memberChars (m : Option String × Json) (ms : List (Option String × Json)) :
    ∃ cs, memberChars (m :: ms) = '"' :: cs := by
  cases ms <;> exact ⟨_, rfl⟩

-- Reading a character takes two levels at most: one of the elements, and one of the value.
mutual

lemma value_chars : ∀ (j : Json) (depth : Nat) (rest : List Char), j.IsPlain →
    2 * j.chars.length ≤ depth → IsEnd rest → value depth (j.chars ++ rest) = some (j, rest)
  | j, 0, _, h, hdepth, _ => by
    obtain ⟨c, cs, hcs, -⟩ := exists_chars h
    simp [hcs] at hdepth
  | .null, _ + 1, _, _, _, _ => rfl
  | .bool true, _ + 1, _, _, _, _ => rfl
  | .bool false, _ + 1, _, _, _, _ => rfl
  | .number _, _ + 1, _, ⟨i, rfl⟩, _, hrest => by
    obtain ⟨c, cs, hcs, hc⟩ := exists_toString i
    have hnumber := number_toString i hrest
    rw [chars]
    rw [hcs] at hnumber ⊢
    rw [List.cons_append, value_number hc, ← List.cons_append, hnumber, ← hcs]
    simp
  | .string (some s), _ + 1, rest, _, _, _ => by
    have hread := string_literal s rest
    simp [chars, literal, value, skipBlanks_cons, isBlank, hread]
  | .array js, depth + 1, rest, h, hdepth, _ => by
    rw [chars, List.length_cons] at hdepth
    rw [chars, List.cons_append, value, skipBlanks_cons rfl]
    cases js with
    | nil => rfl
    | cons j js =>
      have hread := elements_chars (j :: js) depth rest (by simp) h (by omega)
      obtain ⟨c, cs, hcs, hblank, hc⟩ := exists_elementChars h.1 js
      rw [hcs] at hread ⊢
      rw [List.cons_append] at hread ⊢
      simp only [skipBlanks_cons hblank]
      split
      · next heq => exact absurd (List.cons.inj heq).1 hc
      · rw [hread]
        rfl
  | .object ms, depth + 1, rest, h, hdepth, _ => by
    rw [chars, List.length_cons] at hdepth
    rw [chars, List.cons_append, value, skipBlanks_cons rfl]
    cases ms with
    | nil => rfl
    | cons m ms =>
      have hread := members_chars (m :: ms) depth rest (by simp) h (by omega)
      obtain ⟨cs, hcs⟩ := exists_memberChars m ms
      rw [hcs, List.cons_append] at hread ⊢
      simp [skipBlanks_cons, isBlank, hread]

lemma elements_chars : ∀ (js : List Json) (depth : Nat) (rest : List Char), js ≠ [] →
    ElementsPlain js → 2 * (elementChars js).length ≤ depth →
      elements depth (elementChars js ++ rest) = some (js, rest)
  | _ :: js, 0, _, _, h, hdepth => by
    obtain ⟨c, cs, hcs, -⟩ := exists_elementChars h.1 js
    simp [hcs] at hdepth
  | [j], depth + 1, rest, _, h, hdepth => by
    rw [elementChars, List.length_append, List.length_singleton] at hdepth
    have hread := value_chars j depth (']' :: rest) h.1 (by omega) (.inr (.inl rfl))
    rw [elementChars, List.append_assoc, elements]
    simp [hread, skipBlanks_cons, isBlank]
  | j :: j' :: js, depth + 1, rest, _, h, hdepth => by
    rw [elementChars_cons, List.length_append, List.length_cons] at hdepth
    have hread := value_chars j depth (',' :: (elementChars (j' :: js) ++ rest)) h.1 (by omega)
      (.inl rfl)
    have hmore := elements_chars (j' :: js) depth rest (by simp) h.2 (by omega)
    rw [elementChars_cons, List.append_assoc, elements, List.cons_append]
    simp [hread, hmore, skipBlanks_cons, isBlank]

lemma members_chars : ∀ (ms : List (Option String × Json)) (depth : Nat) (rest : List Char),
    ms ≠ [] → MembersPlain ms → 2 * (memberChars ms).length ≤ depth →
      members depth (memberChars ms ++ rest) = some (ms, rest)
  | m :: ms, 0, _, _, _, hdepth => by
    obtain ⟨cs, hcs⟩ := exists_memberChars m ms
    simp [hcs] at hdepth
  | [(some name, j)], depth + 1, rest, _, h, hdepth => by
    rw [memberChars, List.length_append, List.length_cons, List.length_append,
      List.length_singleton] at hdepth
    have hname := string_literal name (':' :: (j.chars ++ '\x7d' :: rest))
    have hread := value_chars j depth ('\x7d' :: rest) h.2.1 (by omega) (.inr (.inr rfl))
    rw [memberChars, literal, members]
    simp [skipBlanks_cons, isBlank, hname, hread]
  | (some name, j) :: m :: ms, depth + 1, rest, _, h, hdepth => by
    rw [memberChars_cons, List.length_append, List.length_cons, List.length_append,
      List.length_cons] at hdepth
    have hname := string_literal name (':' :: (j.chars ++ ',' :: (memberChars (m :: ms) ++ rest)))
    have hread := value_chars j depth (',' :: (memberChars (m :: ms) ++ rest)) h.2.1 (by omega)
      (.inl rfl)
    have hmore := members_chars (m :: ms) depth rest (by simp) h.2.2 (by omega)
    rw [memberChars_cons, literal, members]
    simp [skipBlanks_cons, isBlank, hname, hread, hmore]

end

end Parser

/-- What is written for a tree reads back as the tree. -/
theorem parse?_compact {j : Json} (h : j.IsPlain) : parse? j.compact = some j := by
  have hread := Parser.value_chars j (2 * j.chars.length + 2) [] h (by omega) trivial
  rw [List.append_nil] at hread
  rw [parse?, compact, String.toList_ofList, hread]
  rfl

/-! ### Records -/

@[simp] lemma isPlain_text (s : String) : (text s).IsPlain := rfl

@[simp] lemma isPlain_int (i : Int) : (int i).IsPlain := ⟨i, rfl⟩

@[simp] lemma isPlain_nat (n : Nat) : (nat n).IsPlain := ⟨n, rfl⟩

lemma elementsPlain_iff {js : List Json} : ElementsPlain js ↔ ∀ j ∈ js, j.IsPlain := by
  induction js with
  | nil => simp [ElementsPlain]
  | cons j js ih => simp [ElementsPlain, ih]

@[simp] lemma isPlain_ints (is : List Int) : (ints is).IsPlain :=
  elementsPlain_iff.mpr (by simp)

@[simp] lemma isPlain_nats (ns : List Nat) : (nats ns).IsPlain :=
  elementsPlain_iff.mpr (by simp)

@[simp] lemma isPlain_record {fields : List (String × Json)} :
    (record fields).IsPlain ↔ ∀ f ∈ fields, f.2.IsPlain := by
  show MembersPlain (fields.map fun f => (some f.1, f.2)) ↔ _
  induction fields with
  | nil => simp [MembersPlain]
  | cons f fields ih => simp [MembersPlain, ih]

end ElevatorBank.Json
