import ElevatorBank.Proofs.WireReader
import Mathlib.Data.List.Nodup
import Mathlib.Data.List.TakeWhile

/-!
# The wire libraries in use

The libraries in use do what is relied on of them (`Wire.library_lawful`).
-/
namespace ElevatorBank

namespace Wire

/-! ### Numbers -/

lemma integer?_int (i : Int) : integer? (.int i) = some i := by
  have hzero : toString i ≠ "-0" := by
    intro h
    have hi := Text.int?_toString i
    rw [h] at hi
    obtain rfl : i = 0 := (Option.some.inj hi).symm
    revert h
    decide
  show (if (toString i == "-0") = true then none else Text.int? (toString i).toList) = some i
  rw [if_neg (by simpa only [beq_iff_eq] using hzero), Text.int?_toString]

lemma floor?_int {i : Int} (h : IsFloor i) : floor? (.int i) = some i := by
  rw [floor?, integer?_int]
  simpa using h

lemma isFloor_of_floor? {j : Json} {i : Int} (h : floor? j = some i) : IsFloor i := by
  simpa using (Option.filter_eq_some_iff.mp h).2

lemma natBelow?_nat {limit n : Nat} (h : n < limit) : natBelow? limit (.nat n) = some n := by
  have hn : integer? (.nat n) = some (.ofNat n) := integer?_int n
  simp [natBelow?, hn, h]

lemma lt_of_natBelow? {limit n : Nat} {j : Json} (h : natBelow? limit j = some n) : n < limit := by
  unfold natBelow? at h
  split at h
  · split_ifs at h with hlt
    exact Option.some.inj h ▸ hlt
  · cases h

/-! ### Records -/

lemma lookup_zip {names : List String} {values : List Json} (hnames : names.Nodup)
    (hlength : names.length = values.length) :
    names.map (fun n => ((names.zip values).map fun f => (some f.1, f.2)).lookup (some n)) =
      values.map some := by
  induction names generalizing values with
  | nil =>
    obtain rfl := List.length_eq_zero_iff.mp hlength.symm
    rfl
  | cons name names ih =>
    obtain ⟨value, values, rfl⟩ := List.exists_cons_of_length_eq_add_one hlength.symm
    obtain ⟨hnew, hnames⟩ := List.nodup_cons.mp hnames
    rw [List.map_cons, List.map_cons, ← ih hnames (Nat.succ.inj hlength)]
    refine congrArg₂ List.cons (by simp) (List.map_congr_left fun n hn => ?_)
    have hne : n ≠ name := fun h => hnew (h ▸ hn)
    have hb : (some n == some name) = false := by simpa using hne
    rw [List.zip_cons_cons, List.map_cons, List.lookup_cons, hb]

lemma known?_zip {names : List String} {values : List Json} (hnames : names.Nodup)
    (hlength : names.length = values.length) :
    known? names ((names.zip values).map fun f => (some f.1, f.2)) = some (values.map some) := by
  have hsome : ((names.zip values).map fun f => (some f.1, f.2)).all (·.1.isSome) = true := by simp
  have honce : names.all (fun n => decide
      (((names.zip values).map fun f => (some f.1, f.2)).countP (·.1 == some n) ≤ 1)) = true := by
    refine List.all_eq_true.mpr fun n _ => decide_eq_true ?_
    have hcount : ((names.zip values).map fun f => (some f.1, f.2)).countP (·.1 == some n) =
        (((names.zip values).map Prod.fst).map some).count (some n) := by
      rw [List.count, List.map_map, List.countP_map, List.countP_map]
      rfl
    rw [hcount, List.map_fst_zip (Nat.le_of_eq hlength)]
    exact List.nodup_iff_count_le_one.mp (hnames.map fun _ _ => Option.some.inj) _
  rw [known?, if_pos ⟨hsome, honce⟩, lookup_zip hnames hlength]

lemma fields?_zip {names : List String} {values : List Json} (hnames : names.Nodup)
    (hlength : names.length = values.length) :
    fields? names (.record (names.zip values)) = some values := by
  show (known? names _).bind (·.mapM id) = _
  rw [known?_zip hnames hlength, Option.bind_some]
  clear hlength
  induction values with
  | nil => rfl
  | cons value values ih => rw [List.map_cons, List.mapM_cons, ih]; rfl

/-! ### Tags -/

lemma span_of_forall {α : Type} {p : α → Bool} {as : List α} (h : ∀ a ∈ as, p a = true) :
    as.span p = (as, []) := by
  rw [List.span_eq_takeWhile_dropWhile, List.takeWhile_eq_self_iff.mpr h,
    List.dropWhile_eq_nil_iff.mpr h]

lemma isFinite_toString {i : Int} (h : (toString i).length < 20) :
    isFinite (toString i) = true := by
  have hne {c : Char} (hc : c ∈ (toString i).toList) (d : Char)
      (hd : d ≠ '-' ∧ d.isDigit = false) : c ≠ d :=
    Json.Parser.ne_of_numeral (Json.Parser.numeral_of_mem hc) hd.1 hd.2
  have hexponent : (toString i).toList.span (fun c => c != 'e' && c != 'E') =
      ((toString i).toList, []) :=
    span_of_forall fun c hc => by simp [hne hc 'e' (by decide), hne hc 'E' (by decide)]
  have hpoint : (toString i).toList.span (· != '.') = ((toString i).toList, []) :=
    span_of_forall fun c hc => by simp [hne hc '.' (by decide)]
  have hparts : scientificParts (toString i).toList =
      ((toString i).toList.filter Char.isDigit, [], 0) := by
    rw [scientificParts, hexponent]
    dsimp only
    rw [hpoint]
    rfl
  rw [isFinite, hparts]
  exact if_pos ⟨h, rfl, rfl⟩

lemma isReadable_int {i : Int} (h : i.natAbs < 10000000000) : isReadable (.int i) = true := by
  have hdigits : ∀ n, n < 10 ^ 11 → (Nat.toDigits 10 n).length ≤ 11 := fun n hn =>
    (Nat.length_toDigits_le_iff (by decide) (by decide)).mpr hn
  refine isFinite_toString ?_
  rw [← String.length_toList]
  cases i with
  | ofNat n =>
    have := hdigits n (lt_trans h (by decide))
    rw [Json.Parser.toList_toString_ofNat]
    omega
  | negSucc n =>
    have := hdigits (n + 1) (lt_trans h (by decide))
    rw [Json.Parser.toList_toString_negSucc, List.length_cons]
    omega

/-- What can be buffered whatever it stands for can be read as a whole, and nests no deeper than a
list. -/
lemma isReadable_of_isFlat {j : Json} (h : IsFlat j) : isReadable j = true ∧ j.depth ≤ 1 := by
  have hcar : ∀ {n : Nat}, n < carIdLimit → isReadable (.nat n) = true := fun h =>
    isReadable_int (i := (_ : Nat)) (lt_trans h (by decide))
  obtain ⟨s, rfl⟩ | ⟨i, hi, rfl⟩ | ⟨n, hn, rfl⟩ | ⟨ns, hns, rfl⟩ := h
  · exact ⟨rfl, Nat.zero_le 1⟩
  · exact ⟨isReadable_int (by unfold IsFloor floorLimit at hi; omega), Nat.zero_le 1⟩
  · exact ⟨hcar hn, Nat.zero_le 1⟩
  · have hall : elementsReadable (ns.map Json.nat) = true ∧
        Json.elementsDepth (ns.map Json.nat) = 0 := by
      induction ns with
      | nil => exact ⟨rfl, rfl⟩
      | cons n ns ih =>
        obtain ⟨hn, hns⟩ := List.forall_mem_cons.mp hns
        obtain ⟨hreadable, hdepth⟩ := ih hns
        exact ⟨Bool.and_eq_true_iff.mpr ⟨hcar hn, hreadable⟩, by
          rw [List.map_cons, Json.elementsDepth, hdepth]; rfl⟩
    exact ⟨hall.1, by rw [Json.nats, Json.depth, hall.2]⟩

lemma isBufferable_record {fields : List (String × Json)} (h : ∀ f ∈ fields, IsFlat f.2) :
    isBufferable 0 (.record fields) = true := by
  have hall : membersReadable (fields.map fun f => (some f.1, f.2)) = true ∧
      Json.membersDepth (fields.map fun f => (some f.1, f.2)) ≤ 1 := by
    induction fields with
    | nil => exact ⟨rfl, Nat.zero_le 1⟩
    | cons f fields ih =>
      obtain ⟨hf, hfields⟩ := List.forall_mem_cons.mp h
      obtain ⟨hreadable, hdepth⟩ := ih hfields
      have hflat := isReadable_of_isFlat hf
      exact ⟨by simp [membersReadable, hflat.1, hreadable], Nat.max_le.mpr ⟨hflat.2, hdepth⟩⟩
  have hdepth : (Json.record fields).depth ≤ 2 := Nat.add_le_add_left hall.2 1
  rw [isBufferable, Bool.and_eq_true_iff, decide_eq_true_iff]
  exact ⟨hall.1, by unfold depthLimit; omega⟩

lemma tagged?_flat {tag : String} {fields : List (String × Json)} (kind : String)
    (hfields : ∀ f ∈ fields, f.1 ≠ tag ∧ IsFlat f.2) :
    tagged? tag (.record ((tag, .text kind) :: fields)) = some (kind, .record fields) := by
  have hbuffer : isBufferable 0 (.record ((tag, .text kind) :: fields)) = true :=
    isBufferable_record (List.forall_mem_cons.mpr ⟨isFlat_text kind, fun f hf => (hfields f hf).2⟩)
  have hne : ∀ m ∈ fields.map fun f => (some f.1, f.2), m.1 ≠ some tag := fun m hm => by
    obtain ⟨f, hf, rfl⟩ := List.mem_map.mp hm
    exact fun h => (hfields f hf).1 (Option.some.inj h)
  have htag : (fields.map fun f => (some f.1, f.2)).filter (·.1 == some tag) = [] :=
    List.filter_eq_nil_iff.mpr fun m hm => by simpa using hne m hm
  have hrest : (fields.map fun f => (some f.1, f.2)).filter (·.1 != some tag) =
      fields.map fun f => (some f.1, f.2) :=
    List.filter_eq_self.mpr fun m hm => by simpa using hne m hm
  unfold tagged?
  rw [if_pos hbuffer]
  simp [Json.record, Json.text, htag, hrest]

lemma adjacent?_pair {tag content : String} (enclosing : Nat) (kind : String) (data : Json)
    (hne : tag ≠ content) :
    adjacent? enclosing tag content (.record [(tag, .text kind), (content, data)]) =
      some (kind, false, data) := by
  have hnames : [tag, content].Nodup := by simpa using hne
  have hknown : known? [tag, content] [(some tag, .text kind), (some content, data)] =
      some [some (.text kind), some data] := by
    exact known?_zip hnames (show [tag, content].length = [Json.text kind, data].length from rfl)
  simp only [Json.text] at hknown
  simp [adjacent?, Json.record, Json.text, hknown, hne, variant?]

/-- The libraries in use can be relied on. -/
theorem library_lawful : Lawful library where
  parse?_print := Json.parse?_compact
  floor?_int := floor?_int
  floor?_fits := isFloor_of_floor?
  carId?_nat := natBelow?_nat
  carId?_fits := lt_of_natBelow?
  word?_nat := natBelow?_nat
  word?_fits := lt_of_natBelow?
  text?_text _ := rfl
  elements?_array _ := rfl
  variant?_text _ _ := rfl
  isUnit_record := rfl
  fields?_record := fields?_zip
  named?_record := fields?_zip
  someFields?_record := known?_zip
  tagged?_record := tagged?_flat
  adjacent?_record := adjacent?_pair

end Wire
end ElevatorBank
