import ElevatorBank.Proofs.AllOrNothing

/-!
# Pressed buttons

What comes of several hall calls under the broadcast strategy depends on which buttons have been
pressed and on nothing else, neither their order nor how often (`Fresh.pressed_alike`): every car
in normal mode collects all of the requests (`Car.Collects`), and every key is pending on those
cars and the ones that have held it before (`Orderly.pressed`).
-/
namespace ElevatorBank

namespace HallCalls

lemma insertHolder_insertHolder (id : CarId) (holders : List CarId) :
    insertHolder id (insertHolder id holders) = insertHolder id holders := by
  induction holders with
  | nil => simp [insertHolder]
  | cons a rest ih =>
    rcases Nat.lt_trichotomy id a with hlt | rfl | hgt
    · simp [insertHolder, hlt]
    · simp [insertHolder]
    · simp [insertHolder, hgt, Nat.lt_asymm hgt, ih]

lemma insertHolder_comm (id other : CarId) (holders : List CarId) :
    insertHolder id (insertHolder other holders) =
      insertHolder other (insertHolder id holders) := by
  induction holders with
  | nil => grind [insertHolder]
  | cons a rest ih => grind [insertHolder]

/-- Cars that have joined the holders of a key do not join them again. -/
lemma foldl_insertHolder_foldl (cars holders : List CarId) :
    cars.foldl (flip insertHolder) (cars.foldl (flip insertHolder) holders) =
      cars.foldl (flip insertHolder) holders := by
  have hinsert : ∀ (id : CarId) (cars holders : List CarId),
      insertHolder id (cars.foldl (flip insertHolder) holders) =
        cars.foldl (flip insertHolder) (insertHolder id holders) := by
    intro id cars
    induction cars with
    | nil => exact fun _ => rfl
    | cons car rest ih =>
      intro holders
      rw [List.foldl_cons, ih, flip, insertHolder_comm]
      rfl
  induction cars generalizing holders with
  | nil => rfl
  | cons car rest ih =>
    rw [List.foldl_cons, List.foldl_cons, flip, hinsert, flip, insertHolder_insertHolder, ih]

end HallCalls

/-- The cars that race for a broadcast call. -/
def Fleet.racing (f : Fleet) : List CarId := (f.filter (·.mode.acceptsCalls)).map (·.id)

namespace Fleet

variable {f : Fleet}

lemma broadcast_select (f : Fleet) (floor : Int) (direction : Direction) :
    Strategy.broadcast.select floor direction f.snapshots = .ok f.racing := by
  simp only [Strategy.broadcast, Strategy.eligible, snapshots, racing, List.filter_map,
    List.map_map]
  rfl

lemma mem_racing (hn : f.ids.Nodup) {c : Car} (hm : c ∈ f) :
    c.id ∈ f.racing ↔ c.mode.acceptsCalls = true := by
  constructor
  · intro hid
    obtain ⟨other, hother, hid⟩ := List.mem_map.mp hid
    obtain ⟨hother, hmode⟩ := List.mem_filter.mp hother
    rwa [List.inj_on_of_nodup_map hn hother hm hid] at hmode
  · exact fun hmode => List.mem_map_of_mem (List.mem_filter.mpr ⟨hm, hmode⟩)

lemma racing_subset_ids (f : Fleet) : ∀ id ∈ f.racing, id ∈ f.ids := by
  intro id hid
  obtain ⟨c, hm, rfl⟩ := List.mem_map.mp hid
  exact mem_ids.mpr ⟨c, List.mem_of_mem_filter hm, rfl⟩

end Fleet

/-- A car has been given all the hall requests of a list and is otherwise as it was. -/
structure Car.Collects (ts : List Target) (c c' : Car) : Prop where
  id : c'.id = c.id
  floor : c'.floor = c.floor
  mode : c'.mode = c.mode
  wellFormed : c'.WellFormed
  up : ∀ g, c'.up.requests g =
    if ⟨g, .up⟩ ∈ ts then { c.up.requests g with hall := true } else c.up.requests g
  down : ∀ g, c'.down.requests g =
    if ⟨g, .down⟩ ∈ ts then { c.down.requests g with hall := true } else c.down.requests g

namespace Car

variable {c c' : Car}

theorem collects_foldl_enqueue (hw : c.WellFormed) {ts : List Target}
    (hts : ∀ t ∈ ts, t.direction.isHall = true) : c.Collects ts (ts.foldl enqueue c) := by
  induction ts generalizing c with
  | nil => exact ⟨rfl, rfl, rfl, hw, fun _ => rfl, fun _ => rfl⟩
  | cons t rest ih =>
    have hfirst := gains_enqueue hw (hts t List.mem_cons_self)
    have hrest := ih hfirst.wellFormed fun u hu => hts u (List.mem_cons_of_mem _ hu)
    refine ⟨hrest.id.trans hfirst.id, hrest.floor.trans hfirst.floor,
      hrest.mode.trans hfirst.mode, hrest.wellFormed, fun g => ?_, fun g => ?_⟩
    · rw [List.foldl_cons, hrest.up, hfirst.up]
      by_cases hg : t = ⟨g, .up⟩ <;> simp [hg, eq_comm]
    · rw [List.foldl_cons, hrest.down, hfirst.down]
      by_cases hg : t = ⟨g, .down⟩ <;> simp [hg, eq_comm]

/-- What a car has collected is a matter of which requests were on the list. -/
theorem Collects.unique {ts ts' : List Target} (h : c.Collects ts c') {c'' : Car}
    (h' : c.Collects ts' c'') (hts : ∀ t, t ∈ ts ↔ t ∈ ts') : c' = c'' := by
  have hup : c'.up = c''.up := by
    apply StopSet.ext_requests h.wellFormed.up h'.wellFormed.up
    intro g
    simp only [h.up, h'.up, hts]
  have hdown : c'.down = c''.down := by
    apply StopSet.ext_requests h.wellFormed.down h'.wellFormed.down
    intro g
    simp only [h.down, h'.down, hts]
  have hid := h.id.trans h'.id.symm
  have hfloor := h.floor.trans h'.floor.symm
  have hmode := h.mode.trans h'.mode.symm
  cases c'
  cases c''
  simp_all

end Car

/-- The hall calls of pressed buttons, in their order. -/
def Op.presses (ts : List Target) : List Op := ts.map fun t => .hallCall t.floor t.direction

namespace Bank

variable {b : Bank} {ts : List Target}

/-- A broadcast call is queued on the cars in normal mode and makes its key pending on them, if
there are any. -/
lemma Orderly.press (h : b.Orderly) (hs : b.strategy = .broadcast) {t : Target}
    (ht : t.direction.isHall = true) :
    let after := (b.perform (.hallCall t.floor t.direction)).1
    after.strategy = .broadcast ∧
    after.fleet = (b.fleet.map fun c => if c.mode.acceptsCalls then c.enqueue t else c) ∧
    ∀ u, after.calls.holders? u =
      if u = t ∧ b.fleet.racing ≠ [] then
        some (b.fleet.racing.foldl (flip HallCalls.insertHolder) ((b.calls.holders? u).getD []))
      else b.calls.holders? u := by
  intro after
  obtain ⟨-, hstands⟩ := h.stands.hallCall h.cars (react_passive (b.callbacks + 0)) t.floor
    t.direction
  have hstrategy : after.strategy = b.strategy := congrArg (·.strategy) hstands.standing
  refine ⟨hstrategy.trans hs, ?_⟩
  obtain ⟨l, r, hdispatch, -, hledger⟩ := h.hallCall t.floor ht
  have hraised := Ledger.after_announced_of_kind_ne b.ledger (.hallCallRaised t.floor t.direction)
    (by simp [Event.kind])
  have hchosen : b.strategy.select t.floor t.direction (b.ledger.after
      (.announced (.hallCallRaised t.floor t.direction))).fleet.snapshots = .ok b.fleet.racing := by
    rw [Ledger.raised_fleet, hs]
    exact Fleet.broadcast_select _ _ _
  have hqueued : (b.fleet.map fun c => if c.id ∈ b.fleet.racing then c.enqueue t else c) =
      b.fleet.map fun c => if c.mode.acceptsCalls then c.enqueue t else c := by
    apply List.map_congr_left
    intro c hm
    simp only [Fleet.mem_racing h.ids hm]
  by_cases hnone : b.fleet.racing = []
  · rw [hnone] at hchosen
    rw [Ledger.dispatch_of_nil hchosen, hraised] at hdispatch
    cases hdispatch
    obtain ⟨hfleet, hcalls, -⟩ := Ledger.mk.inj hledger
    refine ⟨?_, fun u => ?_⟩
    · rw [← hqueued, hnone]
      simp only [List.not_mem_nil, if_false, List.map_id']
      exact hfleet
    · rw [if_neg fun hu => hu.2 hnone]
      exact congrArg (·.holders? u) hcalls
  · have hkept : kept b.strategy b.fleet.racing = b.fleet.racing := by
      rw [hs]
      rfl
    have hknown : (b.ledger.after (.announced (.hallCallRaised t.floor
        t.direction))).fleet.unknown? (kept b.strategy b.fleet.racing) = none := by
      rw [Ledger.raised_fleet, hkept]
      exact Fleet.unknown?_eq_none_iff.mpr b.fleet.racing_subset_ids
    rw [Ledger.dispatch_of_known hchosen hnone hknown, hkept, hraised, hs] at hdispatch
    cases hdispatch
    obtain ⟨hfleet, hcalls, -⟩ := Ledger.mk.inj hledger
    change after.calls = b.calls.register t b.fleet.racing at hcalls
    refine ⟨hfleet.trans hqueued, fun u => ?_⟩
    rw [hcalls, HallCalls.holders?_register]
    by_cases hu : u = t <;> simp [hu, hnone]

/-- All the broadcast calls of a list have reached every car in normal mode, and each key of the
list is pending on these cars and its holders of before. -/
theorem Orderly.pressed (h : b.Orderly) (hs : b.strategy = .broadcast)
    (hts : ∀ t ∈ ts, t.direction.isHall = true) :
    let after := b.run (Op.presses ts)
    after.fleet = (b.fleet.map fun c =>
      if c.mode.acceptsCalls then ts.foldl Car.enqueue c else c) ∧
    ∀ u, after.calls.holders? u =
      if u ∈ ts ∧ b.fleet.racing ≠ [] then
        some (b.fleet.racing.foldl (flip HallCalls.insertHolder) ((b.calls.holders? u).getD []))
      else b.calls.holders? u := by
  induction ts generalizing b with
  | nil =>
    refine ⟨?_, fun u => ?_⟩
    · simp only [List.foldl_nil, ite_self, List.map_id']
      rfl
    · rw [if_neg fun hu => List.not_mem_nil hu.1]
      rfl
  | cons t rest ih =>
    have ht := hts t List.mem_cons_self
    obtain ⟨hs', hfleet, hcalls⟩ := h.press hs ht
    have hnext : (b.perform (.hallCall t.floor t.direction)).1.Orderly := h.perform trivial
    obtain ⟨hfleet', hcalls'⟩ := ih hnext hs' fun u hu => hts u (List.mem_cons_of_mem _ hu)
    have hmode : ∀ c : Car, (if c.mode.acceptsCalls then c.enqueue t else c).mode = c.mode := by
      intro c
      split_ifs <;> simp
    have hid : ∀ c : Car, (if c.mode.acceptsCalls then c.enqueue t else c).id = c.id := by
      intro c
      split_ifs <;> simp
    have hracing : Fleet.racing (b.fleet.map fun c =>
        if c.mode.acceptsCalls then c.enqueue t else c) = b.fleet.racing := by
      simp only [Fleet.racing, List.filter_map, List.map_map, Function.comp_def, hmode, hid]
    rw [hfleet] at hfleet' hcalls'
    rw [hracing] at hcalls'
    refine ⟨hfleet'.trans ?_, fun u => (hcalls' u).trans ?_⟩
    · rw [List.map_map]
      apply List.map_congr_left
      intro c _
      simp only [Function.comp_apply, hmode]
      split_ifs <;> rfl
    · rw [hcalls u]
      by_cases hnone : b.fleet.racing = []
      · simp [hnone]
      · by_cases hu : u = t <;> by_cases hrest : u ∈ rest <;>
          simp [hu, hrest, hnone, HallCalls.foldl_insertHolder_foldl]

/-- However the handlers of the bank have been set up and whatever has been done, as long as none
calls back: pressing the same buttons in any order and any number of times leaves the same cars,
with the same stops, and the same pending keys with the same holders. -/
theorem Fresh.pressed_alike {floors : List Int} {s : Strategy} {before : List Op}
    (hb : b.Fresh floors s) (hbefore : ∀ op ∈ before, op.IsSilent)
    (hs : (b.run before).strategy = .broadcast) {ts' : List Target}
    (hts : ∀ t ∈ ts, t.direction ≠ .idle) (hsame : ∀ t, t ∈ ts ↔ t ∈ ts') :
    let after := (b.run before).run (Op.presses ts)
    let after' := (b.run before).run (Op.presses ts')
    after.fleet = after'.fleet ∧
    ∀ t, after.calls.holders? t = after'.calls.holders? t := by
  intro after after'
  have hhall : ∀ t ∈ ts, t.direction.isHall = true := fun t ht => by
    simpa [Direction.isHall] using hts t ht
  have hhall' : ∀ t ∈ ts', t.direction.isHall = true := fun t ht => hhall t ((hsame t).mpr ht)
  have hstate := hb.orderly.run hbefore
  obtain ⟨hfleet, hcalls⟩ := hstate.pressed hs hhall
  obtain ⟨hfleet', hcalls'⟩ := hstate.pressed hs hhall'
  refine ⟨?_, fun t => ?_⟩
  · rw [hfleet, hfleet']
    apply List.map_congr_left
    intro c hm
    have hw := hstate.cars c hm
    have hcollected := Car.collects_foldl_enqueue hw hhall
    rw [hcollected.unique (Car.collects_foldl_enqueue hw hhall') hsame]
  · rw [hcalls, hcalls']
    simp only [hsame]

/-- All three cars race for a call at floor 3, where car 1 has a passenger to take too; car 2 has a
call of its own at floor 5, car 3 has been taken out of service, and one handler fails. -/
theorem Fresh.pressed_alike_mixed : ∃ b, Bank.start { startFloors := [0, 9, 7] } = .ok b ∧
    let state := b.run [.hallCall 3 .up, .setMode 3 .outOfService, .carCall 1 3,
      .enqueue 2 ⟨5, .down⟩, .subscribe "panel" [] ⟨[], 1, .failed "jammed"⟩, .step 1]
    let after := state.run (Op.presses [⟨3, .up⟩, ⟨5, .down⟩, ⟨3, .down⟩, ⟨3, .up⟩])
    let after' := state.run (Op.presses [⟨5, .down⟩, ⟨3, .down⟩, ⟨3, .up⟩])
    after.fleet = after'.fleet ∧
      ∀ t, after.calls.holders? t = after'.calls.holders? t := by
  have hstart : Bank.start { startFloors := [0, 9, 7] } = .ok _ := rfl
  refine ⟨_, hstart, ?_⟩
  have hsilent : ∀ op ∈ [Op.hallCall 3 .up, .setMode 3 .outOfService, .carCall 1 3,
      .enqueue 2 ⟨5, .down⟩, .subscribe "panel" [] ⟨[], 1, .failed "jammed"⟩, .step 1],
      op.IsSilent := by
    simp [Op.IsSilent]
  exact (Fresh.started hstart).pressed_alike hsilent rfl (by decide) (by simp)

end Bank
end ElevatorBank
