import ElevatorBank.Proofs.Orderly

/-!
# Resolving a call

To resolve a pending call takes one landing's request off the cars that have lost the race and
touches nothing else (`Fresh.resolve_clears_losers`): not the car that has won, not what passengers
have asked for, no other key. This holds at any moment, also while a car has taken a stop off its
sets and some handlers have not been told yet (`Bank.Occurs`).
-/
namespace ElevatorBank

/-- A car has lost a landing's request, if it had it, and is otherwise as it was. -/
structure Car.Loses (t : Target) (c c' : Car) : Prop where
  id : c'.id = c.id
  floor : c'.floor = c.floor
  mode : c'.mode = c.mode
  up : ∀ g, c'.up.requests g =
    if t = ⟨g, .up⟩ then { c.up.requests g with hall := false } else c.up.requests g
  down : ∀ g, c'.down.requests g =
    if t = ⟨g, .down⟩ then { c.down.requests g with hall := false } else c.down.requests g
  /-- The floors that somebody asks for are queued, and no others. -/
  upStops : ∀ g, g ∈ c'.snapshot.upStops ↔ (c'.up.requests g).any = true
  downStops : ∀ g, g ∈ c'.snapshot.downStops ↔ (c'.down.requests g).any = true
  direction : c'.snapshot.direction =
    if c'.snapshot.upStops ≠ [] then .up else if c'.snapshot.downStops ≠ [] then .down else .idle

namespace Car

variable {c : Car}

lemma mem_snapshot_upStops (hw : c.WellFormed) (g : Int) :
    g ∈ c.snapshot.upStops ↔ (c.up.requests g).any = true := by
  rw [← StopSet.has_iff_any hw.up, StopSet.has_eq_true_iff_mem]
  rfl

lemma mem_snapshot_downStops (hw : c.WellFormed) (g : Int) :
    g ∈ c.snapshot.downStops ↔ (c.down.requests g).any = true := by
  rw [← StopSet.has_iff_any hw.down, StopSet.has_eq_true_iff_mem]
  exact List.mem_reverse

/-- The reported direction is that of the stops which are shown with it. -/
lemma snapshot_direction (c : Car) : c.snapshot.direction =
    if c.snapshot.upStops ≠ [] then .up
    else if c.snapshot.downStops ≠ [] then .down else .idle := by
  simp [snapshot, direction, StopSet.floors]

theorem loses_withdraw (hw : c.WellFormed) {t : Target} (ht : t.direction.isHall = true) :
    c.Loses t (c.withdraw t) := by
  have hw' := hw.withdraw t
  refine ⟨withdraw_id c t, withdraw_floor c t, withdraw_mode c t, fun g => ?_, fun g => ?_,
    mem_snapshot_upStops hw', mem_snapshot_downStops hw', snapshot_direction _⟩
  · obtain ⟨floor, direction⟩ := t
    cases direction with
    | up => by_cases hg : g = floor <;> simp [withdraw, hw.up, hg, eq_comm]
    | down => simp [withdraw]
    | idle => cases ht
  · obtain ⟨floor, direction⟩ := t
    cases direction with
    | up => simp [withdraw]
    | down => by_cases hg : g = floor <;> simp [withdraw, hw.down, hg, eq_comm]
    | idle => cases ht

lemma canWithdraw_eq_hasHallStop (c : Car) {t : Target} (ht : t.direction.isHall = true) :
    c.canWithdraw t = c.hasHallStop t.floor t.direction := by
  obtain ⟨floor, direction⟩ := t
  cases direction with
  | idle => cases ht
  | _ => rfl

end Car

lemma Fleet.length_others (f : Fleet) (id : CarId) {t : Target} (ht : t.direction.isHall = true) :
    (f.others id t).length =
      (f.filter fun c => c.id ≠ id ∧ c.hasHallStop t.floor t.direction = true).length := by
  unfold others
  rw [List.length_map]
  congr 1
  apply List.filter_congr
  intro c _
  rw [Car.canWithdraw_eq_hasHallStop c ht]
  by_cases hid : c.id = id <;> simp [hid]

/-- The car that has won is left alone, the others lose the request. -/
lemma Fleet.withdrawFromOthers_loses {f : Fleet} (hw : ∀ c ∈ f, c.WellFormed) (id : CarId)
    {t : Target} (ht : t.direction.isHall = true) :
    List.Forall₂ (fun c c' => if c.id = id then c' = c else c.Loses t c') f
      (f.withdrawFromOthers id t) := by
  unfold withdrawFromOthers
  rw [List.forall₂_map_right_iff]
  refine List.forall₂_same.mpr fun c hm => ?_
  split_ifs
  · rfl
  · exact Car.loses_withdraw (hw c hm) ht

lemma HallCalls.holders?_resolve_of_ne (h : HallCalls) {t u : Target} (hu : u ≠ t) :
    (h.resolve t).holders? u = h.holders? u := by
  unfold holders? resolve
  rw [List.find?_filter]
  congr 2
  funext call
  by_cases hc : call.target = u <;> simp [hc, hu]

namespace Bank

/-- The banks that come up in the course of any operations, by callers or by handlers at any
depth, and in the midst of them. -/
inductive Occurs (b : Bank) : Bank → Prop
  | refl : Occurs b b
  | performed {c : Bank} (h : Occurs b c) (depth : Nat) (op : Op) :
    Occurs b (performWith (Bank.react depth) c op).1
  /-- A car has made a step that nobody has been told of yet. -/
  | advanced {c : Bank} (h : Occurs b c) {id : CarId} {car : Car} (hc : c.car? id = some car) :
    Occurs b { c with fleet := c.fleet.change id fun _ => car.advance.1 }
  /-- An event has gone to one subscription, and others are still to be told. -/
  | told {c : Bank} (h : Occurs b c) (depth : Nat) (event : Event) (d : Delivery)
    (sub : Subscription) : Occurs b (deliverCounted (Bank.react depth) event (c, d) sub).1
  /-- Notes are made, the bus or the queue changes. -/
  | elsewhere {c c' : Bank} (h : Occurs b c) (hfleet : c'.fleet = c.fleet)
    (hcalls : c'.calls = c.calls) : Occurs b c'

variable {b c : Bank}

theorem Occurs.shaped (h : b.Occurs c) (hb : b.Shaped) : c.Shaped := by
  induction h with
  | refl => exact hb
  | performed _ depth op ih =>
    have hkept := handlersKeep_keepsShape depth
    exact lasting_keepsShape.performWith hkept (carsKeep_keepsShape hkept) _ trivial ih
  | advanced _ hc ih => exact ih.advanced hc
  | told _ depth event d sub ih =>
    exact lasting_keepsShape.deliverCounted (handlersKeep_keepsShape depth) event (_, d) sub ih
  | elsewhere _ hfleet _ ih => exact (reshapes_of_fleet hfleet).keepsShape ih

lemma Occurs.run (h : b.Occurs c) (ops : List Op) : b.Occurs (c.run ops) := by
  induction ops generalizing c with
  | nil => exact h
  | cons op rest ih => exact ih (h.performed _ op)

lemma resolve_answer_of_pending {t : Target} (ht : b.calls.has t = true) (id : CarId) :
    (b.resolve id t).2 = some (b.fleet.others id t).length := by
  rw [← HallCalls.isSome_holders?] at ht
  obtain ⟨holders, hh⟩ := Option.isSome_iff_exists.mp ht
  rw [resolve, hh]
  rfl

/-- At any moment, resolving a call for a landing in favour of a car, be it of the fleet or not,
does nothing just if the call is not pending. Otherwise it answers how many other cars had the
request, whether they held the key or not; it takes the request off each of them, and the key off
the pending ones; and that is all. -/
theorem Fresh.resolve_clears_losers {floors : List Int} {s : Strategy} (hb : b.Fresh floors s)
    {state : Bank} (hstate : b.Occurs state) (id : CarId) (floor : Int)
    (direction : Direction) (hd : direction ≠ .idle) :
    let t : Target := ⟨floor, direction⟩
    let after := (state.resolve id t).1
    (state.resolve id t = (state, none) ↔ state.calls.has t = false) ∧
    (state.calls.has t = true →
      (state.resolve id t).2 = some (state.fleet.filter fun c =>
        c.id ≠ id ∧ c.hasHallStop floor direction = true).length ∧
      List.Forall₂ (fun c c' => if c.id = id then c' = c else c.Loses t c')
        state.fleet after.fleet ∧
      after.calls.holders? t = none ∧
      (∀ u, u ≠ t → after.calls.holders? u = state.calls.holders? u) ∧
      after.published = state.published ∧ after.bus = state.bus ∧
      after.strategy = state.strategy ∧ after.queue = state.queue) := by
  intro t after
  have ht : t.direction.isHall = true := by
    cases direction with
    | idle => exact absurd rfl hd
    | _ => rfl
  have hshaped := hstate.shaped hb.shaped
  refine ⟨⟨fun hnone => ?_, fun hn => resolve_of_not_pending hn id⟩, fun hpending => ?_⟩
  · cases hpending : state.calls.has t with
    | false => rfl
    | true =>
      have hanswer := resolve_answer_of_pending hpending id
      rw [hnone] at hanswer
      cases hanswer
  · have ho := outline_resolve_of_pending hpending id
    have hcalls : after.calls = state.calls.resolve t := congrArg (·.ledger.calls) ho
    refine ⟨?_, ?_, ?_, fun u hu => ?_, congrArg (·.ledger.history) ho, congrArg (·.bus) ho,
      congrArg (·.strategy) ho, queue_resolve state id t⟩
    · rw [resolve_answer_of_pending hpending, Fleet.length_others _ _ ht]
    · rw [fleet_of_outline ho]
      exact Fleet.withdrawFromOthers_loses hshaped.cars id ht
    · have hgone : ¬(state.calls.resolve t).has t = true := fun h =>
        ((HallCalls.has_resolve _ _ _).mp h).1 rfl
      rw [← HallCalls.isSome_holders?] at hgone
      rw [hcalls]
      simpa using hgone
    · rw [hcalls, HallCalls.holders?_resolve_of_ne _ hu]

/-- Cars 1 and 2 race for a call at floor 3, which car 3 has been given without being a holder;
car 2 has a passenger for that floor too. Car 1 has just taken the stop off its set. A car that
the fleet does not have can win the call as well. -/
theorem Fresh.resolve_clears_losers_underway : ∃ b, Bank.start { startFloors := [0, 0, 9] } = .ok b ∧
    let state := b.run [.setMode 3 .maintenance, .hallCall 3 .up,
      .setStrategy (.fixed .exclusiveEta [3]), .hallCall 3 .up, .carCall 2 3, .stepCar 1 2]
    ∃ car, state.car? 1 = some car ∧
      let underway := { state with fleet := state.fleet.change 1 fun _ => car.advance.1 }
      let after := (underway.resolve 1 ⟨3, .up⟩).1
      (underway.resolve 1 ⟨3, .up⟩).2 = some 2 ∧ after.calls.holders? ⟨3, .up⟩ = none ∧
        List.Forall₂ (fun c c' => if c.id = 1 then c' = c else c.Loses ⟨3, .up⟩ c')
          underway.fleet after.fleet ∧
        underway.resolve 1 ⟨3, .down⟩ = (underway, none) ∧
        (underway.resolve 7 ⟨3, .up⟩).2 = some 2 := by
  have hstart : Bank.start { startFloors := [0, 0, 9] } = .ok _ := rfl
  refine ⟨_, hstart, ?_⟩
  intro state
  have hcar : state.car? 1 = some ⟨1, 2, .normal, [⟨3, ⟨true, false⟩⟩], []⟩ := rfl
  refine ⟨_, hcar, ?_⟩
  intro underway after
  have hfresh := Fresh.started hstart
  have hunderway := (Occurs.refl.run _).advanced hcar
  have hup : underway.calls.has ⟨3, .up⟩ = true := rfl
  have hdown : underway.calls.has ⟨3, .down⟩ = false := rfl
  obtain ⟨-, hpending⟩ := hfresh.resolve_clears_losers hunderway 1 3 .up (by decide)
  obtain ⟨hcount, hcars, hgone, -⟩ := hpending hup
  obtain ⟨hnone, -⟩ := hfresh.resolve_clears_losers hunderway 1 3 .down (by decide)
  obtain ⟨-, hunknown⟩ := hfresh.resolve_clears_losers hunderway 7 3 .up (by decide)
  exact ⟨hcount, hgone, hcars, hnone.mpr hdown, (hunknown hup).1⟩

end Bank
end ElevatorBank
