import ElevatorBank.Controller
import ElevatorBank.Proofs.Motion
import ElevatorBank.Proofs.QueuedPath
import ElevatorBank.Proofs.Resolution

/-!
# Controllers keep their cars in order

A controller does to its car what is asked of the car, and what it does leaves the register showing
the direction that the stops ask for (`Controller.advance_eq`), although a step writes it by the
stops only where it serves one. So whatever a controller has been ordered, nobody's stops are left
over, the sets are in order and the register is right, and a bank does and answers the same
(`Controller.kept_in_order`).
-/
namespace ElevatorBank

/-! ### Entries -/

namespace StopSet

variable {s : StopSet}

lemma entry?_eq (s : StopSet) (floor : Int) :
    s.entry? floor = if s.has floor then some (s.requests floor) else none := by
  induction s with
  | nil => rfl
  | cons stop rest ih =>
    unfold entry? at ih ⊢
    by_cases hf : stop.floor = floor
    · simp [has, requests, hf]
    · rw [List.find?_cons_of_neg (by simpa using hf), ih]
      simp [has, requests, hf]

lemma entry?_getD (h : s.WellFormed) (floor : Int) :
    (s.entry? floor).getD .nobody = s.requests floor := by
  rw [entry?_eq, has_iff_any h]
  split_ifs with hany
  · rfl
  · exact (Requesters.eq_nobody_iff.mpr (by simpa using hany)).symm

lemma dropEntry_of_notMem {floor : Int} (h : ∀ stop ∈ s, stop.floor ≠ floor) :
    s.dropEntry floor = s := List.filter_eq_self.mpr fun stop hm => by simpa using h stop hm

/-- To put somebody's request for a floor is to write its entry. -/
lemma put_eq_setEntry (s : StopSet) (floor : Int) {r : Requesters} (hr : r.any = true) :
    put floor r s = s.setEntry floor r := by
  have hentry : put.entry floor r = [⟨floor, r⟩] := if_pos hr
  induction s with
  | nil => exact hentry
  | cons stop rest ih =>
    rw [put, setEntry, hentry, ih]
    rfl

/-- To put down that nobody asks for a floor is to drop its entry. -/
lemma put_eq_dropEntry (h : s.Ascending) (floor : Int) {r : Requesters} (hr : r.any = false) :
    put floor r s = s.dropEntry floor := by
  have hentry : put.entry floor r = [] := if_neg (by simp [hr])
  induction s with
  | nil => exact hentry
  | cons stop rest ih =>
    obtain ⟨hfirst, hrest⟩ := List.pairwise_cons.mp h
    rw [put, hentry, ih hrest]
    obtain hlt | rfl | hgt := Int.lt_trichotomy floor stop.floor
    · rw [if_pos hlt, List.nil_append, dropEntry_of_notMem fun other hm => ?_]
      obtain rfl | hm := List.mem_cons.mp hm
      · omega
      · have := hfirst other hm
        omega
    · have hgone : dropEntry rest stop.floor = rest :=
        dropEntry_of_notMem fun other hm => (hfirst other hm).ne'
      rw [if_neg (Int.lt_irrefl _), if_neg (Int.lt_irrefl _), List.nil_append]
      exact (hgone.symm.trans (List.filter_cons_of_neg (by simp)).symm)
    · rw [if_neg (by omega), if_pos hgt]
      exact (List.filter_cons_of_pos (by simpa using hgt.ne)).symm

/-- Writing down who asks for a floor already changes nothing. -/
lemma put_requests (h : s.WellFormed) (floor : Int) : put floor (s.requests floor) s = s := by
  refine ext_requests (h.put _ _) h fun g => ?_
  rw [requests_put h.ascending]
  split_ifs with hg
  · rw [hg]
  · rfl

lemma setEntry_cabin (s : StopSet) (floor : Int) :
    s.setEntry floor { s.requests floor with cabin := true } = s.markCabin floor :=
  (put_eq_setEntry s floor (by simp [Requesters.any])).symm

section
variable (h : s.WellFormed) (floor : Int)
include h

lemma addHall_eq : s.addHall floor = (s.markHall floor, !(s.requests floor).hall) := by
  unfold addHall markHall
  rw [entry?_getD h, put_eq_setEntry s floor rfl]

lemma dropHall_eq : s.dropHall floor = (s.clearHall floor, (s.requests floor).hall) := by
  have hsame := put_requests h floor
  have hdrop := @put_eq_dropEntry s h.ascending floor
  have hset := @put_eq_setEntry s floor
  unfold dropHall clearHall
  rw [entry?_eq, has_iff_any h]
  generalize s.requests floor = r at hsame ⊢
  -- without a landing's request the set stays as it is; else the entry stays for the passengers in
  -- it, and goes if there are none
  obtain ⟨_ | _, _ | _⟩ := r <;> simp_all [Requesters.any]

lemma dropCabin_eq : s.dropCabin floor = s.clearCabin floor := by
  have hsame := put_requests h floor
  have hdrop := @put_eq_dropEntry s h.ascending floor
  have hset := @put_eq_setEntry s floor
  unfold dropCabin clearCabin
  rw [entry?_eq, has_iff_any h]
  generalize s.requests floor = r at hsame ⊢
  obtain ⟨_ | _, _ | _⟩ := r <;> simp_all [Requesters.any]

lemma dropEntry_eq : s.dropEntry floor = s.remove floor :=
  (put_eq_dropEntry h.ascending floor rfl).symm

end

end StopSet

/-! ### Requests -/

namespace Car

variable {c : Car}

/-- A passenger's request goes to the entry there is, or where `enqueueCabin` queues it. -/
lemma addCabin_eq (hw : c.WellFormed) (floor : Int) :
    c.addCabin floor = (c.enqueueCabin floor, c.lacks (.cabin floor)) := by
  unfold addCabin enqueueCabin lacks Target.cabin
  rw [StopSet.entry?_eq, StopSet.entry?_eq]
  cases hup : c.up.has floor with
  | true => simp [StopSet.setEntry_cabin]
  | false =>
    cases hdown : c.down.has floor with
    | true => simp [StopSet.setEntry_cabin]
    | false =>
      have hu : c.up.requests floor = .nobody :=
        Requesters.eq_nobody_iff.mpr (StopSet.has_iff_any hw.up floor ▸ hup)
      have hd : c.down.requests floor = .nobody :=
        Requesters.eq_nobody_iff.mpr (StopSet.has_iff_any hw.down floor ▸ hdown)
      have hnewUp := StopSet.setEntry_cabin c.up floor
      have hnewDown := StopSet.setEntry_cabin c.down floor
      rw [hu] at hnewUp
      rw [hd] at hnewDown
      rw [← hnewUp, ← hnewDown, hd]
      simp only [Bool.false_eq_true, if_false, Requesters.nobody]
      split_ifs <;> rfl

theorem addStop_eq (hw : c.WellFormed) (t : Target) : c.addStop t = (c.enqueue t, c.lacks t) := by
  obtain ⟨floor, direction⟩ := t
  unfold addStop enqueue
  cases direction with
  | up =>
    dsimp only
    rw [StopSet.addHall_eq hw.up]
    rfl
  | down =>
    dsimp only
    rw [StopSet.addHall_eq hw.down]
    rfl
  | idle => exact addCabin_eq hw floor

theorem dropStop_eq (hw : c.WellFormed) (t : Target) :
    c.dropStop t = (c.withdraw t, c.canWithdraw t) := by
  obtain ⟨floor, direction⟩ := t
  unfold dropStop withdraw
  cases direction with
  | up =>
    dsimp only
    rw [StopSet.dropHall_eq hw.up]
    rfl
  | down =>
    dsimp only
    rw [StopSet.dropHall_eq hw.down]
    rfl
  | idle =>
    dsimp only
    rw [StopSet.dropEntry_eq hw.up, StopSet.dropEntry_eq hw.down, StopSet.entry?_eq,
      StopSet.entry?_eq]
    unfold canWithdraw hasStop
    cases c.up.has floor <;> cases c.down.has floor <;> rfl

theorem serveStop_eq (hw : c.WellFormed) (floor : Int) (d : Direction) :
    c.serveStop floor d = c.serve floor d := by
  have hup := StopSet.dropEntry_eq hw.up floor
  have hdown := StopSet.dropEntry_eq hw.down floor
  have hupCabin := StopSet.dropCabin_eq hw.up floor
  have hdownCabin := StopSet.dropCabin_eq hw.down floor
  cases d with
  | up => rw [serveStop, serve, hup, hdownCabin]
  | down | idle => simp only [serveStop, serve, hdown, hupCabin]

end Car

/-! ### Registers -/

namespace Controller

/-- The controller of a car whose register names the set that the car is working on. -/
def ofCar (c : Car) : Controller := ⟨c, c.direction⟩

variable {k : Controller}

lemma enqueue_eq (hw : k.car.WellFormed) (t : Target) :
    k.enqueue t = (ofCar (k.car.enqueue t), k.car.lacks t) := by
  unfold enqueue
  rw [Car.addStop_eq hw]
  rfl

lemma withdraw_eq (hw : k.car.WellFormed) (t : Target) :
    k.withdraw t = (ofCar (k.car.withdraw t), k.car.canWithdraw t) := by
  unfold withdraw
  rw [Car.dropStop_eq hw]
  rfl

/-- The register need not be written by the stops on the way: a move does not change them, so they
still ask for the set of the aim, which it shows from the start. -/
lemma advance_eq (hw : k.car.WellFormed) :
    k.advance = (ofCar k.car.advance.1, k.car.advance.2) := by
  unfold advance Car.advance
  cases ha : k.car.aim with
  | none =>
    have hidle : k.car.direction = .idle := by
      obtain ⟨hup, hdown, -⟩ | ⟨_, -, haim⟩ | ⟨-, _, -, haim⟩ := Car.aim_cases k.car
      · simp [Car.direction, hup, hdown]
      · cases ha.symm.trans haim
      · cases ha.symm.trans haim
    rw [ofCar, hidle]
  | some target =>
    obtain ⟨aim, set⟩ := target
    obtain rfl := Car.direction_of_aim ha
    have hthere : { k.car with floor := Floor.next k.car.floor aim }.WellFormed :=
      ⟨hw.up, hw.down⟩
    dsimp only
    rw [Car.serveStop_eq hthere]
    by_cases hreached : Floor.next k.car.floor aim = aim
    · rw [if_pos hreached, if_pos hreached]
      rfl
    · rw [if_neg hreached, if_neg hreached]
      rfl

/-- The sets are well-formed, and the register names the one that the car is working on. -/
structure Steady (k : Controller) : Prop where
  wellFormed : k.car.WellFormed
  register : k = ofCar k.car

lemma steady_ofCar {c : Car} (hw : c.WellFormed) : (ofCar c).Steady := ⟨hw, rfl⟩

lemma start_steady (id : CarId) (floor : Int) : (start id floor).Steady :=
  steady_ofCar (Car.start_wellFormed id floor)

theorem Steady.obey (h : k.Steady) (order : Order) : (k.obey order).1.Steady := by
  have hw := h.wellFormed
  cases order with
  | enqueue t =>
    rw [Controller.obey, enqueue_eq hw]
    exact steady_ofCar (hw.enqueue t)
  | withdraw t =>
    rw [Controller.obey, withdraw_eq hw]
    exact steady_ofCar (hw.withdraw t)
  | setMode mode =>
    have hregister : k.direction = k.car.direction := congrArg Controller.direction h.register
    exact ⟨⟨hw.up, hw.down⟩, congrArg (Controller.mk _) hregister⟩
  | step =>
    rw [Controller.obey, advance_eq hw]
    exact steady_ofCar (Car.advance_wellFormed hw)

theorem Steady.obeyAll (h : k.Steady) (orders : List Order) : (k.obeyAll orders).1.Steady := by
  induction orders generalizing k with
  | nil => exact h
  | cons order rest ih => exact ih (h.obey order)

/-- Nobody's stops are not queued, both sets are in order, and the register names the set that is
to be worked on. -/
structure InOrder (k : Controller) : Prop where
  requested : ∀ stop ∈ k.car.up ++ k.car.down,
    stop.requesters.hall = true ∨ stop.requesters.cabin = true
  upStops : k.snapshot.upStops.Pairwise (· < ·)
  downStops : k.snapshot.downStops.Pairwise (· > ·)
  up : k.snapshot.direction = .up ↔ k.snapshot.upStops ≠ []
  down : k.snapshot.direction = .down ↔ k.snapshot.upStops = [] ∧ k.snapshot.downStops ≠ []
  idle : k.snapshot.direction = .idle ↔ k.snapshot.upStops = [] ∧ k.snapshot.downStops = []

lemma Steady.snapshot (h : k.Steady) : k.snapshot = k.car.snapshot := by
  rw [h.register]
  rfl

theorem Steady.inOrder (h : k.Steady) : k.InOrder := by
  have hw := h.wellFormed
  have hdirection := k.car.snapshot_direction
  rw [← h.snapshot] at hdirection
  refine ⟨fun stop hm => ?_, StopSet.floors_pairwise hw.up,
    List.pairwise_reverse.mpr (StopSet.floors_pairwise hw.down), ?_, ?_, ?_⟩
  · have hany : stop.requesters.any = true := by
      obtain hm | hm := List.mem_append.mp hm
      · exact hw.up.requested stop hm
      · exact hw.down.requested stop hm
    simpa [Requesters.any] using hany
  all_goals
    rw [hdirection]
    split_ifs <;> simp_all

end Controller

/-! ### Banks -/

namespace Bank

/-- The car of a number is as a controller keeps it whose register is right. -/
structure Heeds (id : CarId) (k : Controller) (b : Bank) : Prop where
  car : b.car? id = some k.car
  steady : k.Steady

variable {b b' : Bank} {id : CarId} {c : Car} {k k' : Controller}

lemma perform_enqueue (hc : b.car? id = some c) (t : Target) :
    b.perform (.enqueue id t) = (b.enqueue c t, .flag (c.lacks t)) :=
  onCar_of_car? hc _

lemma perform_withdraw (hc : b.car? id = some c) (t : Target) :
    b.perform (.withdraw id t) = (b.withdraw c t, .flag (c.canWithdraw t)) :=
  onCar_of_car? hc _

lemma perform_setMode (hc : b.car? id = some c) (mode : Mode) :
    b.perform (.setMode id mode) = (b.setMode c mode, .mode c.mode) :=
  onCar_of_car? hc _

/-- The one car has changed, and otherwise no more than what is noted. -/
lemma Heeds.change (h : b.Heeds id k) {g : Car → Car} (hid : ∀ c, (g c).id = c.id)
    (ho : b'.outline = { b with fleet := b.fleet.change k.car.id g }.outline)
    (hk' : k'.Steady) (hcar : k'.car = g k.car) : b'.Heeds id k' ∧ b'.bus = b.bus := by
  have hfound : b.fleet.car? id = some k.car := h.car
  obtain rfl : k.car.id = id := by simpa using List.find?_some hfound
  have hchanged := Fleet.car?_map (f := b.fleet) (g := fun c =>
    if c.id = k.car.id then g c else c) (fun _ => by split_ifs <;> simp [hid]) k.car.id
  rw [hfound, Option.map_some, if_pos rfl, ← hcar] at hchanged
  refine ⟨⟨?_, hk'⟩, congrArg Outline.bus ho⟩
  rw [car?, fleet_of_outline ho]
  exact hchanged

/-- A bank answers an order as the controller of its car does, and does the same to the car. For a
step it takes handlers that do not call back. -/
theorem Heeds.perform (h : b.Heeds id k) (order : Controller.Order)
    (hstill : order = .step → b.bus.Still) :
    (b.perform (order.op id)).2 = (k.obey order).2 ∧
      (b.perform (order.op id)).1.Heeds id (k.obey order).1 ∧
      (b.bus.Still → (b.perform (order.op id)).1.bus.Still) := by
  have hw := h.steady.wellFormed
  have hnext := h.steady.obey order
  cases order with
  | enqueue t =>
    rw [Controller.obey, Controller.enqueue_eq hw] at hnext ⊢
    rw [Controller.Order.op, perform_enqueue h.car]
    obtain ⟨hheeds, hbus⟩ :=
      h.change (Car.enqueue_id · t) (outline_enqueue b k.car t) hnext rfl
    exact ⟨rfl, hheeds, fun hs => hbus ▸ hs⟩
  | withdraw t =>
    rw [Controller.obey, Controller.withdraw_eq hw] at hnext ⊢
    rw [Controller.Order.op, perform_withdraw h.car]
    obtain ⟨hheeds, hbus⟩ :=
      h.change (Car.withdraw_id · t) (outline_withdraw b k.car t) hnext rfl
    exact ⟨rfl, hheeds, fun hs => hbus ▸ hs⟩
  | setMode mode =>
    rw [Controller.obey] at hnext ⊢
    rw [Controller.Order.op, perform_setMode h.car]
    obtain ⟨hheeds, hbus⟩ := h.change (g := fun c => { c with mode }) (fun _ => rfl)
      (outline_setMode b k.car mode) hnext rfl
    exact ⟨rfl, hheeds, fun hs => hbus ▸ hs⟩
  | step =>
    have hrode := rode_stepCar (react_passive b.callbacks) (hstill rfl) h.car
    rw [Controller.obey, Controller.advance_eq hw] at hnext ⊢
    rw [Controller.Order.op, perform_stepCar h.car]
    exact ⟨rfl, ⟨hrode.car, hnext⟩, fun _ => hrode.still⟩

theorem Heeds.run (h : b.Heeds id k) (orders : List Controller.Order)
    (hstill : .step ∈ orders → b.bus.Still) :
    b.answers (orders.map (·.op id)) = (k.obeyAll orders).2 ∧
      (b.run (orders.map (·.op id))).Heeds id (k.obeyAll orders).1 := by
  induction orders generalizing b k with
  | nil => exact ⟨rfl, h⟩
  | cons order rest ih =>
    obtain ⟨hanswer, hnext, hstays⟩ := h.perform order fun hs => hstill (hs ▸ List.mem_cons_self)
    obtain ⟨hanswers, hlast⟩ := ih hnext fun hs => hstays (hstill (List.mem_cons_of_mem _ hs))
    exact ⟨congrArg₂ List.cons hanswer hanswers, hlast⟩

end Bank

/-- Whatever a controller has been ordered since its car was new, its car and its register are in
order, and it shows what is to be seen of the car. A bank in which no handler calls back answers
the same orders to a new car as the controller does, and its car comes to be the controller's. -/
theorem Controller.kept_in_order (id : CarId) (floor : Int) (orders : List Order) :
    let told := (start id floor).obeyAll orders
    told.1.InOrder ∧ told.1.snapshot = told.1.car.snapshot ∧
    ∀ b : Bank, b.bus.Still → b.car? id = some (.start id floor) →
      b.answers (orders.map (·.op id)) = told.2 ∧
      (b.run (orders.map (·.op id))).car? id = some told.1.car := by
  intro told
  have hfirst := start_steady id floor
  have hlast : told.1.Steady := hfirst.obeyAll orders
  refine ⟨hlast.inOrder, hlast.snapshot, fun b hstill hc => ?_⟩
  have hheeds : b.Heeds id (start id floor) := ⟨hc, hfirst⟩
  obtain ⟨hanswers, hafter⟩ := hheeds.run orders fun _ => hstill
  exact ⟨hanswers, hafter.car⟩

/-- A passenger for floor 1 waits on the way down, where the car gets to on its way up: once it has
served the landing there nothing is left of floor 1, and the register turns from up to down. -/
theorem Controller.kept_in_order_crossing : ∃ b, Bank.start { startFloors := [3] } = .ok b ∧
    let orders : List Order := [.enqueue ⟨1, .idle⟩, .enqueue ⟨1, .up⟩, .enqueue ⟨5, .down⟩,
      .enqueue ⟨5, .idle⟩, .enqueue ⟨4, .up⟩, .withdraw ⟨4, .idle⟩, .step, .setMode .maintenance,
      .withdraw ⟨5, .down⟩, .step]
    let told := (start 1 3).obeyAll orders
    told.1.snapshot = ⟨1, 1, .down, .maintenance, [], [5]⟩ ∧ told.1.InOrder ∧
      b.bus.Still ∧ b.car? 1 = some (.start 1 3) ∧
      b.answers (orders.map (·.op 1)) = told.2 ∧
      (b.run (orders.map (·.op 1))).car? 1 = some told.1.car := by
  have hstart : Bank.start { startFloors := [3] } = .ok _ := rfl
  refine ⟨_, hstart, ?_⟩
  intro orders told
  have hstill : Bus.Still _ := fun script hm =>
    .inr ((Bank.Fresh.started hstart).shows.calm.silent script hm)
  obtain ⟨horder, -, hbank⟩ := kept_in_order 1 3 orders
  exact ⟨rfl, horder, hstill, rfl, hbank _ hstill rfl⟩

end ElevatorBank
