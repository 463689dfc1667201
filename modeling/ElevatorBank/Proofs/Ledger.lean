import ElevatorBank.Event
import ElevatorBank.Proofs.Fleet
import ElevatorBank.Proofs.HallCalls
import Mathlib.Logic.Relation

/-!
# Ledgers

What a bank has to get right: its fleet, its pending calls and the events published so
far. A ledger changes by deeds, each of which publishes one event at most. What a deed
does to the hall requests of a car is said once, in `hasHallStop_act`, and what it does to
those of its passengers in `hasCabinStop_act`; invariants are shown to survive each deed and
then hold after any number of them (`Leads.preserves`).
-/
namespace ElevatorBank

lemma Target.eq_iff {t u : Target} : t = u ↔ u.floor = t.floor ∧ u.direction = t.direction := by
  cases t
  cases u
  simp [eq_comm]

inductive Deed
  /-- An event is published by itself. -/
  | announced (event : Event)
  /-- A hall call becomes pending on cars that race for it. -/
  | raced (t : Target) (cars : List CarId)
  /-- A hall call is queued on cars that alone are to serve it. -/
  | given (t : Target) (cars : List CarId)
  /-- A passenger's stop is queued. -/
  | boarded (car : CarId) (floor : Int)
  | switched (car : CarId) (mode : Mode)
  | moved (car : CarId) (source target : Int)
  /-- A stop is served where the car stands. -/
  | served (car : CarId) (t : Target)

structure Ledger where
  fleet : Fleet
  calls : HallCalls
  history : List Event

namespace Deed

def event? : Deed → Option Event
  | announced event => some event
  | raced t cars | given t cars => some (.assignmentMade t.floor t.direction cars)
  | boarded .. | switched .. => none
  | moved car source target => some (.carMoved car source target (.between source target))
  | served car t => some (.stopServed car t.floor t.direction)

/-- What a car gives up when another one has served a pending call. -/
def yield (calls : HallCalls) (car : CarId) (t : Target) (c : Car) : Car :=
  if c.id ≠ car ∧ calls.has t = true then c.withdraw t else c

/-- What becomes of a car. -/
def act (calls : HallCalls) (c : Car) : Deed → Car
  | announced (.stopServed car floor direction) => yield calls car ⟨floor, direction⟩ c
  | announced _ => c
  | raced t cars | given t cars => if c.id ∈ cars then c.enqueue t else c
  | boarded car floor => if c.id = car then c.enqueueCabin floor else c
  | switched car mode => if c.id = car then { c with mode } else c
  | moved car _ target => if c.id = car then { c with floor := target } else c
  | served car t =>
    yield calls car t (if c.id = car then c.serve t.floor t.direction else c)

/-- What becomes of the pending calls. -/
def book (calls : HallCalls) : Deed → HallCalls
  | announced (.stopServed _ floor direction) => calls.resolve ⟨floor, direction⟩
  | raced t cars => calls.register t cars
  | served _ t => calls.resolve t
  | _ => calls

end Deed

namespace Ledger

def after (l : Ledger) (d : Deed) : Ledger :=
  ⟨l.fleet.map (d.act l.calls), d.book l.calls, l.history ++ d.event?.toList⟩

/-- What an event sets right, its publication apart. -/
def settle (l : Ledger) (event : Event) : Ledger :=
  { l.after (.announced event) with history := l.history }

end Ledger

/-- A car has been asked by a landing to stop there. -/
def Fleet.Owes (f : Fleet) (id : CarId) (t : Target) : Prop :=
  ∃ c ∈ f, c.id = id ∧ c.hasHallStop t.floor t.direction = true

/-- The deeds that can be done: calls are for landing buttons and go to cars there are,
and a car moves from where it is and serves only what it has queued. -/
def Deed.Fits (l : Ledger) : Deed → Prop
  | announced _ | boarded .. | switched .. => True
  | raced t cars | given t cars =>
    t.direction.isHall = true ∧ cars ≠ [] ∧ ∀ id ∈ cars, id ∈ l.fleet.ids
  | moved car source _ => ∃ c ∈ l.fleet, c.id = car ∧ c.floor = source
  | served car t => t.direction.isHall = true ∧
      ∃ c ∈ l.fleet, c.id = car ∧ c.floor = t.floor ∧ c.hasStop t.floor t.direction = true

/-- The hall requests that a deed queues on a car. -/
def Deed.Queues (id : CarId) (u : Target) : Deed → Prop
  | raced t cars | given t cars => u = t ∧ id ∈ cars
  | _ => False

/-- The hall requests that a deed ends on a car. -/
def Deed.Ends (calls : HallCalls) (id : CarId) (u : Target) : Deed → Prop
  | announced (.stopServed car floor direction) =>
    u = ⟨floor, direction⟩ ∧ id ≠ car ∧ calls.has u = true
  | served car t => u = t ∧ (id = car ∨ calls.has u = true)
  | _ => False

/-- The passenger's request that a deed queues on a car. -/
def Deed.Boards (id : CarId) (g : Int) : Deed → Prop
  | boarded car floor => id = car ∧ g = floor
  | _ => False

/-- The passengers' requests that a deed ends on a car. -/
def Deed.Delivers (id : CarId) (g : Int) : Deed → Prop
  | served car t => id = car ∧ g = t.floor
  | _ => False

namespace Ledger

/-- What every deed keeps. -/
structure Sound (l : Ledger) : Prop where
  ids : l.fleet.ids.Nodup
  cars : ∀ c ∈ l.fleet, c.WellFormed
  unique : l.calls.Unique
  keys : ∀ t, l.calls.has t = true → t.direction.isHall = true
  /-- Some car has the request of every pending key. -/
  owed : ∀ t, l.calls.has t = true → ∃ id, l.fleet.Owes id t

/-- One ledger comes from another by deeds of a kind. -/
def Leads (P : Deed → Prop) : Ledger → Ledger → Prop :=
  Relation.ReflTransGen fun l m => ∃ d : Deed, P d ∧ d.Fits l ∧ m = l.after d

variable {P Q : Deed → Prop} {l m : Ledger}

lemma Leads.refl (l : Ledger) : Leads P l l := Relation.ReflTransGen.refl

lemma Leads.one {d : Deed} (hp : P d) (hf : d.Fits l) : Leads P l (l.after d) :=
  Relation.ReflTransGen.single ⟨d, hp, hf, rfl⟩

lemma Leads.trans {n : Ledger} (h : Leads P l m) (h' : Leads P m n) : Leads P l n :=
  Relation.ReflTransGen.trans h h'

lemma Leads.mono (h : Leads P l m) (hPQ : ∀ d, P d → Q d) : Leads Q l m :=
  Relation.ReflTransGen.mono (fun _ _ ⟨d, hp, hf, he⟩ => ⟨d, hPQ d hp, hf, he⟩) _ _ h

/-- What each deed preserves is preserved by any number of them. -/
theorem Leads.preserves {I : Ledger → Prop} (h : Leads P l m)
    (hstep : ∀ l d, P d → d.Fits l → I l → I (l.after d)) (hl : I l) : I m := by
  induction h with
  | refl => exact hl
  | tail _ hs ih =>
    obtain ⟨d, hp, hf, rfl⟩ := hs
    exact hstep _ d hp hf ih

end Ledger

namespace Deed

variable {l : Ledger} {c : Car}

@[simp] lemma yield_id (calls : HallCalls) (car : CarId) (t : Target) (c : Car) :
    (yield calls car t c).id = c.id := by
  unfold yield
  split_ifs <;> simp

@[simp] theorem act_id (calls : HallCalls) (c : Car) (d : Deed) : (d.act calls c).id = c.id := by
  unfold act
  split <;> try split_ifs
  all_goals simp

lemma yield_wellFormed (hw : c.WellFormed) (calls : HallCalls) (car : CarId) (t : Target) :
    (yield calls car t c).WellFormed := by
  unfold yield
  split_ifs
  · exact hw.withdraw t
  · exact hw

theorem act_wellFormed (hw : c.WellFormed) (calls : HallCalls) (d : Deed) :
    (d.act calls c).WellFormed := by
  unfold act
  split
  · exact yield_wellFormed hw _ _ _
  · exact hw
  · split_ifs
    · exact hw.enqueue _
    · exact hw
  · split_ifs
    · exact hw.enqueue _
    · exact hw
  · split_ifs
    · exact hw.enqueueCabin _
    · exact hw
  · split_ifs
    · exact ⟨hw.up, hw.down⟩
    · exact hw
  · split_ifs
    · exact ⟨hw.up, hw.down⟩
    · exact hw
  · split_ifs
    · exact yield_wellFormed (hw.serve _ _) _ _ _
    · exact yield_wellFormed hw _ _ _

lemma hasHallStop_yield (hw : c.WellFormed) {calls : HallCalls}
    (hk : ∀ t, calls.has t = true → t.direction.isHall = true) (car : CarId) (t u : Target) :
    (yield calls car t c).hasHallStop u.floor u.direction = true ↔
      c.hasHallStop u.floor u.direction = true ∧
        ¬(u = t ∧ c.id ≠ car ∧ calls.has u = true) := by
  unfold yield
  split_ifs with h
  · rw [Car.hasHallStop_withdraw hw (hk t h.2)]
    constructor
    · rintro ⟨hne, hs⟩
      exact ⟨hs, fun hu => hne hu.1⟩
    · rintro ⟨hs, hn⟩
      refine ⟨?_, hs⟩
      rintro rfl
      exact hn ⟨rfl, h⟩
  · constructor
    · intro hs
      refine ⟨hs, ?_⟩
      rintro ⟨rfl, hu⟩
      exact h hu
    · exact fun hs => hs.1

/-- A car has a hall request after a deed exactly if the deed has queued it, or the car
had it before and the deed has not ended it. -/
theorem hasHallStop_act (hl : l.Sound) (hm : c ∈ l.fleet) {d : Deed} (hf : d.Fits l)
    (u : Target) :
    (d.act l.calls c).hasHallStop u.floor u.direction = true ↔
      d.Queues c.id u ∨
        c.hasHallStop u.floor u.direction = true ∧ ¬d.Ends l.calls c.id u := by
  have hw := hl.cars c hm
  cases d with
  | announced event =>
    cases event with
    | stopServed car floor direction =>
      simpa [act, Queues, Ends] using hasHallStop_yield hw hl.keys car ⟨floor, direction⟩ u
    | _ => simp [act, Queues, Ends]
  | raced t cars =>
    by_cases hid : c.id ∈ cars <;> simp [act, Queues, Ends, hid, Car.hasHallStop_enqueue hw hf.1]
  | given t cars =>
    by_cases hid : c.id ∈ cars <;> simp [act, Queues, Ends, hid, Car.hasHallStop_enqueue hw hf.1]
  | boarded car floor =>
    by_cases hid : c.id = car <;> simp [act, Queues, Ends, hid, Car.hasHallStop_enqueueCabin hw]
  | switched car mode =>
    simp only [act, Queues, Ends, false_or, not_false_eq_true, and_true]
    split_ifs <;> simp
  | moved car source target =>
    simp only [act, Queues, Ends, false_or, not_false_eq_true, and_true]
    split_ifs <;> simp
  | served car t =>
    simp only [act, Queues, Ends, false_or]
    split_ifs with hid
    · rw [hasHallStop_yield (hw.serve _ _) hl.keys, Car.hasHallStop_serve hw hf.1]
      simp [hid]
      tauto
    · rw [hasHallStop_yield hw hl.keys]
      simp [hid]

lemma hasCabinStop_yield (hw : c.WellFormed) {calls : HallCalls}
    (hk : ∀ t, calls.has t = true → t.direction.isHall = true) (car : CarId) (t : Target)
    (g : Int) : (yield calls car t c).hasCabinStop g = c.hasCabinStop g := by
  unfold yield
  split_ifs with h
  · exact Car.hasCabinStop_withdraw hw (hk t h.2) g
  · rfl

/-- A car has a passenger's request after a deed exactly if the deed has queued it, or the
car had it before and the deed has not delivered the passenger. -/
theorem hasCabinStop_act (hl : l.Sound) (hm : c ∈ l.fleet) {d : Deed} (hf : d.Fits l) (g : Int) :
    (d.act l.calls c).hasCabinStop g = true ↔
      d.Boards c.id g ∨ c.hasCabinStop g = true ∧ ¬d.Delivers c.id g := by
  have hw := hl.cars c hm
  cases d with
  | announced event =>
    cases event with
    | stopServed => simp [act, Boards, Delivers, hasCabinStop_yield hw hl.keys]
    | _ => simp [act, Boards, Delivers]
  | raced t cars =>
    by_cases hid : c.id ∈ cars <;>
      simp [act, Boards, Delivers, hid, Car.hasCabinStop_enqueue hw hf.1]
  | given t cars =>
    by_cases hid : c.id ∈ cars <;>
      simp [act, Boards, Delivers, hid, Car.hasCabinStop_enqueue hw hf.1]
  | boarded car floor =>
    by_cases hid : c.id = car <;>
      simp [act, Boards, Delivers, hid, Car.hasCabinStop_enqueueCabin hw]
  | switched car mode =>
    simp only [act, Boards, Delivers, false_or, not_false_eq_true, and_true]
    split_ifs <;> simp
  | moved car source target =>
    simp only [act, Boards, Delivers, false_or, not_false_eq_true, and_true]
    split_ifs <;> simp
  | served car t =>
    simp only [act, Boards, Delivers, false_or]
    split_ifs with hid
    · rw [hasCabinStop_yield (hw.serve _ _) hl.keys, Car.hasCabinStop_serve hw]
      simp [hid]
      tauto
    · rw [hasCabinStop_yield hw hl.keys]
      simp [hid]

end Deed

namespace Ledger

variable {l m : Ledger} {d : Deed}

@[simp] lemma after_ids (l : Ledger) (d : Deed) : (l.after d).fleet.ids = l.fleet.ids :=
  Fleet.ids_map fun c => Deed.act_id _ c d

/-- A landing's request is there after a deed exactly if the deed has queued it, or it was
there before and the deed has not ended it. -/
theorem owes_after (hl : l.Sound) (hf : d.Fits l) (id : CarId) (u : Target) :
    (l.after d).fleet.Owes id u ↔
      d.Queues id u ∨ l.fleet.Owes id u ∧ ¬d.Ends l.calls id u := by
  constructor
  · rintro ⟨c', hm', rfl, hs⟩
    obtain ⟨c, hm, rfl⟩ := List.mem_map.mp hm'
    rw [Deed.act_id]
    exact ((Deed.hasHallStop_act hl hm hf u).mp hs).imp_right fun h => ⟨⟨c, hm, rfl, h.1⟩, h.2⟩
  · intro h
    have hid : id ∈ l.fleet.ids := by
      rcases h with hq | ⟨⟨c, hm, rfl, -⟩, -⟩
      · cases d with
        | raced t cars => exact hf.2.2 id hq.2
        | given t cars => exact hf.2.2 id hq.2
        | _ => cases hq
      · exact Fleet.mem_ids.mpr ⟨c, hm, rfl⟩
    obtain ⟨c, hm, rfl⟩ := Fleet.mem_ids.mp hid
    refine ⟨_, List.mem_map_of_mem hm, Deed.act_id _ _ _,
      (Deed.hasHallStop_act hl hm hf u).mpr (h.imp_right ?_)⟩
    rintro ⟨⟨other, hother, hid', hs⟩, hn⟩
    rw [List.inj_on_of_nodup_map hl.ids hother hm hid'] at hs
    exact ⟨hs, hn⟩

/-- A key is pending only if it has just become so, or was before and has not been served. -/
lemma has_after {t : Target} (ht : (l.after d).calls.has t = true) :
    (∃ cars, d = .raced t cars) ∨ l.calls.has t = true ∧ ∀ id, ¬d.Ends l.calls id t := by
  cases d with
  | announced event =>
    cases event with
    | stopServed =>
      obtain ⟨hne, ht⟩ := (HallCalls.has_resolve _ _ _).mp ht
      exact .inr ⟨ht, fun id he => hne he.1⟩
    | _ => exact .inr ⟨ht, fun id he => he⟩
  | raced u cars =>
    rcases (HallCalls.has_register _ _ _ _).mp ht with rfl | ht
    · exact .inl ⟨cars, rfl⟩
    · exact .inr ⟨ht, fun id he => he⟩
  | served =>
    obtain ⟨hne, ht⟩ := (HallCalls.has_resolve _ _ _).mp ht
    exact .inr ⟨ht, fun id he => hne he.1⟩
  | _ => exact .inr ⟨ht, fun id he => he⟩

theorem Sound.after (hl : l.Sound) (hf : d.Fits l) : (l.after d).Sound where
  ids := by
    rw [after_ids]
    exact hl.ids
  cars := by
    intro c' hm'
    obtain ⟨c, hm, rfl⟩ := List.mem_map.mp hm'
    exact Deed.act_wellFormed (hl.cars c hm) _ d
  unique := by
    unfold Ledger.after Deed.book
    dsimp only
    split
    · exact hl.unique.resolve _
    · exact hl.unique.register _ _
    · exact hl.unique.resolve _
    · exact hl.unique
  keys := by
    intro t ht
    rcases has_after ht with ⟨cars, rfl⟩ | ⟨ht, -⟩
    · exact hf.1
    · exact hl.keys t ht
  owed := by
    intro t ht
    rcases has_after ht with ⟨cars, rfl⟩ | ⟨ht, hn⟩
    · obtain ⟨id, hid⟩ := List.exists_mem_of_ne_nil cars hf.2.1
      exact ⟨id, (owes_after hl hf id t).mpr (.inl ⟨rfl, hid⟩)⟩
    · obtain ⟨id, ho⟩ := hl.owed t ht
      exact ⟨id, (owes_after hl hf id t).mpr (.inr ⟨ho, hn id⟩)⟩

theorem Leads.sound {P : Deed → Prop} (h : Leads P l m) (hl : l.Sound) : m.Sound :=
  h.preserves (fun _ _ _ hf hs => hs.after hf) hl

lemma Leads.ids {P : Deed → Prop} (h : Leads P l m) : m.fleet.ids = l.fleet.ids := by
  apply h.preserves (I := fun m => m.fleet.ids = l.fleet.ids)
  · exact fun m d _ _ he => (after_ids m d).trans he
  · rfl

/-- Events are only ever added. -/
theorem Leads.history_prefix {P : Deed → Prop} (h : Leads P l m) : l.history <+: m.history := by
  apply h.preserves (I := fun m => l.history <+: m.history)
  · exact fun _ _ _ _ hs => hs.trans (List.prefix_append _ _)
  · exact List.prefix_rfl

end Ledger
end ElevatorBank
