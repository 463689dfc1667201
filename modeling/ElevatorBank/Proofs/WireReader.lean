import ElevatorBank.Proofs.JsonText
import ElevatorBank.Snapshot
import ElevatorBank.Wire.Reader

/-!
# Reading what has been written

What is relied on of the libraries for the wire (`Lawful`): numbers, records and tags are read back
from the trees that are written for them, and trees from their texts. A writer and a reader that fit
together so (`Codec`) lose nothing on the way through a text (`Codec.roundTrips`).
-/
namespace ElevatorBank

namespace Wire

/-- Numbers of 32 bits, texts and lists of numbers, which can be buffered whatever they are. -/
def IsFlat (j : Json) : Prop :=
  (∃ s, j = .text s) ∨ (∃ i, IsFloor i ∧ j = .int i) ∨ (∃ n < carIdLimit, j = .nat n) ∨
    ∃ ns, (∀ n ∈ ns, n < carIdLimit) ∧ j = .nats ns

lemma isFlat_text (s : String) : IsFlat (.text s) := .inl ⟨s, rfl⟩

lemma isFlat_floor {i : Int} (h : IsFloor i) : IsFlat (.int i) := .inr (.inl ⟨i, h, rfl⟩)

lemma isFlat_car {c : CarId} (h : c < carIdLimit) : IsFlat (.nat c) :=
  .inr (.inr (.inl ⟨c, h, rfl⟩))

lemma isFlat_cars {cars : List CarId} (h : ∀ c ∈ cars, c < carIdLimit) : IsFlat (.nats cars) :=
  .inr (.inr (.inr ⟨cars, h, rfl⟩))

/-- Of the libraries for the wire the program relies on this. The text of a tree of texts, whole
numbers, arrays and objects is read as that tree. What is read as a number has the size of its
type, and every number of this size is read. A record is read by the names of its fields, and a
record that says its own kind by its tag, which stands among the other fields or beside them. -/
structure Lawful (lib : Library) : Prop where
  parse?_print : ∀ {j}, j.IsPlain → lib.parse? (lib.print j) = some j
  floor?_int : ∀ {i}, IsFloor i → lib.floor? (.int i) = some i
  floor?_fits : ∀ {j i}, lib.floor? j = some i → IsFloor i
  carId?_nat : ∀ {n}, n < carIdLimit → lib.carId? (.nat n) = some n
  carId?_fits : ∀ {j n}, lib.carId? j = some n → n < carIdLimit
  word?_nat : ∀ {n}, n < wordLimit → lib.word? (.nat n) = some n
  word?_fits : ∀ {j n}, lib.word? j = some n → n < wordLimit
  text?_text : ∀ s, lib.text? (.text s) = some s
  elements?_array : ∀ js, lib.elements? (.array js) = some js
  variant?_text : ∀ buffered s, lib.variant? buffered (.text s) = some s
  isUnit_record : lib.isUnit (.record []) = true
  fields?_record : ∀ {names values}, names.Nodup → names.length = values.length →
    lib.fields? names (.record (names.zip values)) = some values
  named?_record : ∀ {names values}, names.Nodup → names.length = values.length →
    lib.named? names (.record (names.zip values)) = some values
  someFields?_record : ∀ {names values}, names.Nodup → names.length = values.length →
    lib.someFields? names (.record (names.zip values)) = some (values.map some)
  tagged?_record : ∀ {tag fields} kind, (∀ f ∈ fields, f.1 ≠ tag ∧ IsFlat f.2) →
    lib.tagged? tag (.record ((tag, .text kind) :: fields)) = some (kind, .record fields)
  adjacent?_record : ∀ {tag content} enclosing kind data, tag ≠ content →
    lib.adjacent? enclosing tag content (.record [(tag, .text kind), (content, data)]) =
      some (kind, false, data)

variable [lib : Library]

/-! ### Lists and records -/

section
variable (hlib : Lawful lib)
include hlib

lemma list?_map {α : Type} {write : α → Json} {read : Json → Option α} {as : List α}
    (h : ∀ a ∈ as, read (write a) = some a) : lib.list? read (.array (as.map write)) = some as := by
  unfold Library.list?
  rw [hlib.elements?_array, Option.bind_some]
  induction as with
  | nil => rfl
  | cons a as ih =>
    rw [List.map_cons, List.mapM_cons, h a List.mem_cons_self,
      ih fun a ha => h a (List.mem_cons_of_mem _ ha)]
    rfl

lemma list?_floors {floors : List Int} (h : ∀ f ∈ floors, IsFloor f) :
    lib.list? lib.floor? (.ints floors) = some floors :=
  list?_map hlib fun f hf => hlib.floor?_int (h f hf)

lemma list?_cars {cars : List CarId} (h : ∀ c ∈ cars, c < carIdLimit) :
    lib.list? lib.carId? (.nats cars) = some cars :=
  list?_map hlib fun c hc => hlib.carId?_nat (h c hc)

omit hlib in
lemma forall_of_list? {α : Type} {P : α → Prop} {read : Json → Option α} {j : Json} {as : List α}
    (hread : ∀ j a, read j = some a → P a) (h : lib.list? read j = some as) : ∀ a ∈ as, P a := by
  obtain ⟨js, -, hjs⟩ := Option.bind_eq_some_iff.mp h
  clear h
  induction js generalizing as with
  | nil =>
    obtain rfl : as = [] := (Option.some.inj hjs).symm
    simp
  | cons j js ih =>
    obtain ⟨a, ha, rest, hrest, rfl⟩ : ∃ a, read j = some a ∧ ∃ rest, js.mapM read = some rest ∧
        a :: rest = as := by
      simpa [List.mapM_cons, Option.bind_eq_some_iff] using hjs
    exact List.forall_mem_cons.mpr ⟨hread j a ha, ih hrest⟩

lemma floors_of_list? {j : Json} {floors : List Int} (h : lib.list? lib.floor? j = some floors) :
    ∀ f ∈ floors, IsFloor f := forall_of_list? (fun _ _ => hlib.floor?_fits) h

lemma cars_of_list? {j : Json} {cars : List CarId} (h : lib.list? lib.carId? j = some cars) :
    ∀ c ∈ cars, c < carIdLimit := forall_of_list? (fun _ _ => hlib.carId?_fits) h

lemma name?_text {α : Type} {name : α → String} {ofName? : String → Option α}
    (h : ∀ a, ofName? (name a) = some a) (buffered : Bool) (a : α) :
    lib.name? ofName? buffered (.text (name a)) = some a := by
  rw [Library.name?, hlib.variant?_text, Option.bind_some, h]

/-- A record is read by the names of its fields. -/
lemma fields?_record {j : Json} (names : List String) (values : List Json)
    (hj : j = .record (names.zip values)) (hnames : names.Nodup)
    (hlength : names.length = values.length) : lib.fields? names j = some values := by
  rw [hj]
  exact hlib.fields?_record hnames hlength

lemma named?_record {j : Json} (names : List String) (values : List Json)
    (hj : j = .record (names.zip values)) (hnames : names.Nodup)
    (hlength : names.length = values.length) : lib.named? names j = some values := by
  rw [hj]
  exact hlib.named?_record hnames hlength

lemma someFields?_record {j : Json} (names : List String) (values : List Json)
    (hj : j = .record (names.zip values)) (hnames : names.Nodup)
    (hlength : names.length = values.length) :
    lib.someFields? names j = some (values.map some) := by
  rw [hj]
  exact hlib.someFields?_record hnames hlength

lemma tagged?_record {j : Json} (tag kind : String) (fields : List (String × Json))
    (hj : j = .record ((tag, .text kind) :: fields))
    (hfields : ∀ f ∈ fields, f.1 ≠ tag ∧ IsFlat f.2) :
    lib.tagged? tag j = some (kind, .record fields) := by
  rw [hj]
  exact hlib.tagged?_record kind hfields

end

/-! ### Writers and readers -/

def encode {α : Type} (write : α → Json) (a : α) : String := lib.print (write a)

def decode {α : Type} (read : Json → Option α) (s : String) : Option α := (lib.parse? s).bind read

/-- What is written for a value of the right sizes is read back, and no other value is read. -/
structure Codec {α : Type} (write : α → Json) (read : Json → Option α) (Fits : α → Prop) :
    Prop where
  plain : ∀ a, (write a).IsPlain
  read_write : ∀ a, Fits a → read (write a) = some a
  fits : ∀ j a, read j = some a → Fits a

lemma codec_name (hlib : Lawful lib) {α : Type} {name : α → String} {ofName? : String → Option α}
    (h : ∀ a, ofName? (name a) = some a) :
    Codec (fun a => .text (name a)) (lib.name? ofName? false) fun _ => True where
  plain a := Json.isPlain_text (name a)
  read_write a _ := name?_text hlib h false a
  fits _ _ _ := trivial

/-- From the text of a value the same value is read, which has the same text. -/
def ReadsAlike {α : Type} (write : α → Json) (read : Json → Option α) (a : α) : Prop :=
  ∃ b, decode read (encode write a) = some b ∧ b = a ∧ encode write b = encode write a

/-- What is written for a value of the right sizes is read as this value. Whatever text a value
has been read from, it can be written and read again. -/
structure RoundTrips {α : Type} (write : α → Json) (read : Json → Option α) (Fits : α → Prop) :
    Prop where
  written : ∀ a, Fits a → decode read (encode write a) = some a
  accepted : ∀ s a, decode read s = some a → ReadsAlike write read a

lemma decode_encode (hlib : Lawful lib) {α : Type} {write : α → Json} {read : Json → Option α}
    {a : α} (hplain : (write a).IsPlain) (h : read (write a) = some a) :
    decode read (encode write a) = some a := by
  rw [decode, encode, hlib.parse?_print hplain, Option.bind_some, h]

lemma exists_of_decode {α : Type} {read : Json → Option α} {s : String} {a : α}
    (h : decode read s = some a) : ∃ j, read j = some a :=
  (Option.bind_eq_some_iff.mp h).imp fun _ h => h.2

lemma Codec.roundTrips (hlib : Lawful lib) {α : Type} {write : α → Json} {read : Json → Option α}
    {Fits : α → Prop} (h : Codec write read Fits) : RoundTrips write read Fits where
  written a ha := decode_encode hlib (h.plain a) (h.read_write a ha)
  accepted s a hs := by
    obtain ⟨j, hj⟩ := exists_of_decode hs
    exact ⟨a, decode_encode hlib (h.plain a) (h.read_write a (h.fits j a hj)), rfl, rfl⟩

end Wire
end ElevatorBank
