import ElevatorBank.Proofs.Controller
import ElevatorBank.Proofs.Pressed

/-!
# Requests taken back

Landings that have asked for new stops and then take all of them back, in whatever order, leave no
trace on the car (`Fresh.taken_back`). Each withdrawal takes one request off those that the car has
collected (`Collects.withdraw`), and where none is left to be taken the car is what it was before.
-/
namespace ElevatorBank

namespace Car

variable {c c' : Car} {t : Target} {ts us : List Target}

lemma lacks_eq_not_hasHallStop (c : Car) (ht : t.direction.isHall = true) :
    c.lacks t = !c.hasHallStop t.floor t.direction := by
  obtain ⟨floor, direction⟩ := t
  cases direction with
  | idle => cases ht
  | _ => rfl

lemma Collects.hasHallStop (h : c.Collects ts c') (hm : t ∈ ts) (ht : t.direction.isHall = true) :
    c'.hasHallStop t.floor t.direction = true := by
  obtain ⟨floor, direction⟩ := t
  cases direction with
  | up => simp [Car.hasHallStop, h.up, hm]
  | down => simp [Car.hasHallStop, h.down, hm]
  | idle => cases ht

lemma Collects.perm (h : c.Collects ts c') (hus : us.Perm ts) : c.Collects us c' where
  id := h.id
  floor := h.floor
  mode := h.mode
  wellFormed := h.wellFormed
  up g := by simp only [h.up, hus.mem_iff]
  down g := by simp only [h.down, hus.mem_iff]

/-- A request that was new and has been collected once can be taken off again. -/
theorem Collects.withdraw (h : c.Collects (t :: ts) c') (ht : t.direction.isHall = true)
    (hts : t ∉ ts) (hnew : c.hasHallStop t.floor t.direction = false) :
    c.Collects ts (c'.withdraw t) := by
  have hloses := loses_withdraw h.wellFormed ht
  refine ⟨hloses.id.trans h.id, hloses.floor.trans h.floor, hloses.mode.trans h.mode,
    h.wellFormed.withdraw t, fun g => ?_, fun g => ?_⟩
  · rw [hloses.up, h.up]
    by_cases hg : t = ⟨g, .up⟩
    · subst hg
      rw [if_pos rfl, if_pos List.mem_cons_self, if_neg hts]
      exact congrArg (Requesters.mk · _) hnew.symm
    · simp [hg, Ne.symm hg]
  · rw [hloses.down, h.down]
    by_cases hg : t = ⟨g, .down⟩
    · subst hg
      rw [if_pos rfl, if_pos List.mem_cons_self, if_neg hts]
      exact congrArg (Requesters.mk · _) hnew.symm
    · simp [hg, Ne.symm hg]

/-- Once everything that was collected has been taken off, the car is what it was. -/
theorem Collects.foldl_withdraw (h : c.Collects us c') (hw : c.WellFormed) (hus : us.Nodup)
    (hhall : ∀ t ∈ us, t.direction.isHall = true)
    (hnew : ∀ t ∈ us, c.hasHallStop t.floor t.direction = false) :
    us.foldl Car.withdraw c' = c := by
  induction us generalizing c' with
  | nil =>
    have hsame : c.Collects [] c := collects_foldl_enqueue hw (List.forall_mem_nil _)
    exact h.unique hsame fun _ => Iff.rfl
  | cons t rest ih =>
    obtain ⟨ht, hrest⟩ := List.nodup_cons.mp hus
    have hfirst := h.withdraw (hhall t List.mem_cons_self) ht (hnew t List.mem_cons_self)
    exact ih hfirst hrest (fun u hu => hhall u (List.mem_cons_of_mem _ hu))
      fun u hu => hnew u (List.mem_cons_of_mem _ hu)

/-- It does not matter in which order the requests are taken back. -/
theorem foldl_withdraw_foldl_enqueue (hw : c.WellFormed) (hts : ts.Nodup)
    (hhall : ∀ t ∈ ts, t.direction.isHall = true)
    (hnew : ∀ t ∈ ts, c.hasHallStop t.floor t.direction = false) (hus : us.Perm ts) :
    us.foldl withdraw (ts.foldl enqueue c) = c := by
  have hcollected : c.Collects us (ts.foldl enqueue c) :=
    (collects_foldl_enqueue hw hhall).perm hus
  exact hcollected.foldl_withdraw hw (hus.nodup_iff.mpr hts)
    (fun t ht => hhall t (hus.mem_iff.mp ht)) fun t ht => hnew t (hus.mem_iff.mp ht)

end Car

namespace Controller

variable {k : Controller} {ts us : List Target}

lemma obeyAll_cons (k : Controller) (order : Order) (rest : List Order) :
    k.obeyAll (order :: rest) =
      ((k.obey order).1.obeyAll rest).map id ((k.obey order).2 :: ·) := rfl

lemma obeyAll_append (k : Controller) (orders later : List Order) :
    k.obeyAll (orders ++ later) =
      ((k.obeyAll orders).1.obeyAll later).map id ((k.obeyAll orders).2 ++ ·) := by
  induction orders generalizing k with
  | nil => rfl
  | cons order rest ih =>
    rw [List.cons_append, obeyAll_cons, ih]
    rfl

section
variable {make : Target → Order} {act : Car → Target → Car} (ready : Car → Target → Prop)

/-- Orders for landings are all granted where each is granted to a car that is ready for it, and
none keeps the car from being ready for the others. -/
theorem Steady.obeyAll_granted (hk : k.Steady)
    (hmake : ∀ {k : Controller} {t : Target}, k.Steady → t.direction.isHall = true →
      ready k.car t → k.obey (make t) = (ofCar (act k.car t), .flag true))
    (hothers : ∀ {c : Car} {t u : Target}, c.WellFormed → t.direction.isHall = true → u ≠ t →
      ready c u → ready (act c t) u)
    (hts : ts.Nodup) (hhall : ∀ t ∈ ts, t.direction.isHall = true)
    (hready : ∀ t ∈ ts, ready k.car t) :
    k.obeyAll (ts.map make) =
      (ofCar (ts.foldl act k.car), List.replicate ts.length (.flag true)) := by
  induction ts generalizing k with
  | nil => exact congrArg (·, []) hk.register
  | cons t rest ih =>
    obtain ⟨ht, hrest⟩ := List.nodup_cons.mp hts
    have hhallFirst := hhall t List.mem_cons_self
    have hfirst := hmake hk hhallFirst (hready t List.mem_cons_self)
    have hnext := hk.obey (make t)
    rw [hfirst] at hnext
    have hlater := ih hnext hrest (fun u hu => hhall u (List.mem_cons_of_mem _ hu)) fun u hu =>
      hothers hk.wellFormed hhallFirst (fun h => ht (h ▸ hu)) (hready u (List.mem_cons_of_mem _ hu))
    rw [List.map_cons, obeyAll_cons, hfirst, hlater]
    rfl

end

/-- Stops that no landing has asked for yet are all added. -/
lemma Steady.obeyAll_enqueue (hk : k.Steady) (hts : ts.Nodup)
    (hhall : ∀ t ∈ ts, t.direction.isHall = true)
    (hnew : ∀ t ∈ ts, k.car.hasHallStop t.floor t.direction = false) :
    k.obeyAll (ts.map .enqueue) =
      (ofCar (ts.foldl Car.enqueue k.car), List.replicate ts.length (.flag true)) := by
  refine hk.obeyAll_granted (fun c t => c.hasHallStop t.floor t.direction = false) ?_ ?_
    hts hhall hnew
  · intro k t hk ht hnew
    rw [Controller.obey, enqueue_eq hk.wellFormed, Car.lacks_eq_not_hasHallStop _ ht, hnew]
    rfl
  · intro c t u hw ht hne hnew
    rw [← Bool.not_eq_true, Car.hasHallStop_enqueue hw ht]
    simpa [hne] using hnew

/-- What landings have asked for can all be withdrawn. -/
lemma Steady.obeyAll_withdraw (hk : k.Steady) (hus : us.Nodup)
    (hhall : ∀ t ∈ us, t.direction.isHall = true)
    (hheld : ∀ t ∈ us, k.car.hasHallStop t.floor t.direction = true) :
    k.obeyAll (us.map .withdraw) =
      (ofCar (us.foldl Car.withdraw k.car), List.replicate us.length (.flag true)) := by
  refine hk.obeyAll_granted (fun c t => c.hasHallStop t.floor t.direction = true) ?_ ?_
    hus hhall hheld
  · intro k t hk ht hheld
    rw [Controller.obey, withdraw_eq hk.wellFormed, Car.canWithdraw_eq_hasHallStop _ ht, hheld]
    rfl
  · intro c t u hw ht hne hheld
    exact (Car.hasHallStop_withdraw hw ht u).mpr ⟨hne, hheld⟩

/-- A steady controller grants new requests of landings and their withdrawal in any order, and is
then what it was. -/
theorem Steady.obeyAll_taken_back (hk : k.Steady) (hts : ts.Nodup)
    (hhall : ∀ t ∈ ts, t.direction.isHall = true)
    (hnew : ∀ t ∈ ts, k.car.hasHallStop t.floor t.direction = false) (hus : us.Perm ts) :
    k.obeyAll (ts.map .enqueue ++ us.map .withdraw) =
      (k, List.replicate (ts.length + us.length) (.flag true)) := by
  have hw := hk.wellFormed
  have hasked := hk.obeyAll_enqueue hts hhall hnew
  have hcollected := Car.collects_foldl_enqueue hw hhall
  have hheld : ∀ t ∈ us, (ts.foldl Car.enqueue k.car).hasHallStop t.floor t.direction = true :=
    fun t ht => hcollected.hasHallStop (hus.mem_iff.mp ht) (hhall t (hus.mem_iff.mp ht))
  have hwithdrawn := (steady_ofCar hcollected.wellFormed).obeyAll_withdraw
    (hus.nodup_iff.mpr hts) (fun t ht => hhall t (hus.mem_iff.mp ht)) hheld
  have hback : ofCar (us.foldl Car.withdraw (ts.foldl Car.enqueue k.car)) = k := by
    rw [Car.foldl_withdraw_foldl_enqueue hw hts hhall hnew hus]
    exact hk.register.symm
  rw [obeyAll_append, hasked, hwithdrawn]
  exact congrArg₂ Prod.mk hback List.replicate_append_replicate

end Controller

namespace Bank

variable {b : Bank}

/-- Whatever has been asked of a bank, and however handlers call back: landings that ask a car for
stops which none of them has asked it for yet, each once, are all granted, and so is the withdrawal
of all of these in any order. It brings the car back to where it was, with both sets and who asked
for every stop, and so its controller with its register. -/
theorem Fresh.taken_back {floors : List Int} {s : Strategy} (hb : b.Fresh floors s) (ops : List Op)
    {id : CarId} {c : Car} (hc : (b.run ops).car? id = some c) {ts us : List Target}
    (hts : ts.Nodup) (hhall : ∀ t ∈ ts, t.direction ≠ .idle)
    (hnew : ∀ t ∈ ts, c.hasHallStop t.floor t.direction = false) (hus : us.Perm ts) :
    let state := b.run ops
    let orders := ts.map Controller.Order.enqueue ++ us.map .withdraw
    let granted := List.replicate (ts.length + us.length) (Answer.flag true)
    state.answers (orders.map (·.op id)) = granted ∧
      (state.run (orders.map (·.op id))).car? id = some c ∧
      (Controller.ofCar c).obeyAll orders = (.ofCar c, granted) := by
  intro state orders granted
  have hshaped := hb.shaped.run ops
  have hsteady := Controller.steady_ofCar
    (hshaped.cars c ((Fleet.car?_eq_some_iff hshaped.ids).mp hc).1)
  have hback : (Controller.ofCar c).obeyAll orders = (.ofCar c, granted) := by
    refine hsteady.obeyAll_taken_back hts (fun t ht => ?_) hnew hus
    simpa [Direction.isHall] using hhall t ht
  have hheeds : state.Heeds id (.ofCar c) := ⟨hc, hsteady⟩
  obtain ⟨hanswers, hlast⟩ := hheeds.run orders (by simp [orders])
  rw [hback] at hanswers hlast
  exact ⟨hanswers, hlast.car, hback⟩

/-- The car has been out of service and works off a passenger's stop on the way down. One landing
joins that stop and another asks for the same floor on the way up, which turns the register round
until the last of the up-stops has been taken back. -/
theorem Fresh.taken_back_joined : ∃ b, Bank.start { startFloors := [3] } = .ok b ∧
    let state := b.run [.enqueue 1 ⟨1, .idle⟩, .enqueue 1 ⟨2, .down⟩, .stepCar 1 1,
      .setMode 1 .maintenance]
    let c : Car := ⟨1, 2, .maintenance, [], [⟨1, ⟨false, true⟩⟩]⟩
    let orders : List Controller.Order := [.enqueue ⟨1, .down⟩, .enqueue ⟨1, .up⟩,
      .enqueue ⟨2, .down⟩, .enqueue ⟨4, .up⟩, .withdraw ⟨4, .up⟩, .withdraw ⟨1, .down⟩,
      .withdraw ⟨1, .up⟩, .withdraw ⟨2, .down⟩]
    state.car? 1 = some c ∧
      state.answers (orders.map (·.op 1)) = List.replicate 8 (.flag true) ∧
      (state.run (orders.map (·.op 1))).car? 1 = some c ∧
      (Controller.ofCar c).obeyAll orders = (.ofCar c, List.replicate 8 (.flag true)) := by
  have hstart : Bank.start { startFloors := [3] } = .ok _ := rfl
  refine ⟨_, hstart, ?_⟩
  intro state c orders
  have hcar : state.car? 1 = some c := rfl
  have horder : List.Perm [⟨4, .up⟩, ⟨1, .down⟩, ⟨1, .up⟩, ⟨2, .down⟩]
      [⟨1, .down⟩, ⟨1, .up⟩, ⟨2, .down⟩, (⟨4, .up⟩ : Target)] := by decide
  exact ⟨hcar, (Fresh.started hstart).taken_back _ hcar (by decide) (by decide) (by decide) horder⟩

end Bank
end ElevatorBank
