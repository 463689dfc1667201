import ElevatorBank.Proofs.Circuit
import ElevatorBank.Proofs.Service

/-!
# Coming to rest

A fleet that is only stepped comes to rest within a bound that some measure of its cars gives
(`atRest_iterate`): the floors between which it works, or how many stops there are. Then nothing
is pending and nothing happens any more. So it does not matter how many more steps a driver makes.
-/
namespace ElevatorBank

namespace Deed

variable (calls : HallCalls) (t : Target) {car : CarId} {c : Car}

lemma act_served_self (hid : c.id = car) :
    (served car t).act calls c = c.serve t.floor t.direction := by
  simp [act, yield, hid]

lemma act_served_other (hid : c.id ≠ car) :
    (served car t).act calls c = c ∨ (served car t).act calls c = c.withdraw t := by
  simp only [act, if_neg hid, yield]
  split_ifs
  · exact .inr rfl
  · exact .inl rfl

end Deed

namespace Ledger

/-- No car has a stop. -/
def AtRest (l : Ledger) : Prop := ∀ c ∈ l.fleet, c.isEmpty = true

variable {l : Ledger} {lo hi : Int} (μ : Car.Measure)

/-! ### One step -/

/-- While one car rides, the others stand where they are and have no stops but their own. -/
theorem fewer_of_rides {m : Ledger} {id : CarId} (h : Leads (Deed.IsRideOf id) l m)
    (hl : l.Sound) : ∀ c' ∈ m.fleet, c'.id ≠ id → ∃ c ∈ l.fleet, c'.id = c.id ∧ c'.Fewer c := by
  refine (h.preserves (I := fun m => m.Sound ∧ ∀ c' ∈ m.fleet, c'.id ≠ id →
    ∃ c ∈ l.fleet, c'.id = c.id ∧ c'.Fewer c) ?_ ⟨hl, fun c hm _ => ⟨c, hm, rfl, .refl c⟩⟩).2
  rintro m d hd hf ⟨hsound, hfewer⟩
  refine ⟨hsound.after hf, fun c'' hm'' hid => ?_⟩
  obtain ⟨c', hm', rfl⟩ := List.mem_map.mp hm''
  rw [Deed.act_id] at hid ⊢
  obtain ⟨c, hm, hsame, hless⟩ := hfewer c' hm' hid
  refine ⟨c, hm, hsame, ?_⟩
  cases d with
  | moved car source target =>
    obtain rfl : car = id := hd
    rw [show (Deed.moved car source target).act m.calls c' = c' from if_neg hid]
    exact hless
  | served car t =>
    obtain rfl : car = id := hd
    rcases Deed.act_served_other m.calls t hid with hact | hact <;> rw [hact]
    · exact hless
    · exact (Car.withdraw_fewer (hsound.cars c' hm') t).trans hless
  | _ => cases hd

/-- A step of one car is the step of that car. -/
theorem advanced_of_stepCar (hl : l.Sound) {c' : Car} (hm' : c' ∈ (l.stepCar c'.id).fleet) :
    ∃ c ∈ l.fleet, c'.id = c.id ∧ c' = c.advance.1 := by
  have hid : c'.id ∈ l.fleet.ids := by
    rw [← (leads_stepCar hl c'.id).ids]
    exact Fleet.mem_ids.mpr ⟨c', hm', rfl⟩
  obtain ⟨c, hm, hid⟩ := Fleet.mem_ids.mp hid
  refine ⟨c, hm, hid.symm, ?_⟩
  have hself : ∀ other ∈ l.fleet, other.id = c.id → other = c := fun other hother he =>
    List.inj_on_of_nodup_map hl.ids hother hm he
  rw [stepCar_of_car? ((Fleet.car?_eq_some_iff hl.ids).mpr ⟨hm, hid⟩)] at hm'
  rcases Car.step_cases (hl.cars c hm) with ⟨-, -, hds, hadv⟩ |
    ⟨aim, set, -, -, -, ⟨-, hds, hadv⟩ | ⟨floor, -, -, ⟨-, hds, hadv⟩ | ⟨-, hds, hadv⟩⟩⟩ <;>
    rw [hds] at hm' <;> rw [hadv]
  · exact hself c' hm' hid.symm
  · obtain ⟨other, hother, he⟩ := List.mem_map.mp hm'
    have hsame : other = c := hself other hother (by rw [hid, ← he, Deed.act_id])
    rw [← he, hsame, Deed.act_served_self _ _ rfl]
  · obtain ⟨moved, hmoved, he⟩ := List.mem_map.mp hm'
    obtain ⟨other, hother, rfl⟩ := List.mem_map.mp hmoved
    have hsame : other = c := hself other hother (by rw [hid, ← he, Deed.act_id, Deed.act_id])
    rw [← he, hsame, Deed.act_served_self _ _ (Deed.act_id _ _ _),
      show (Deed.moved c.id c.floor floor).act l.calls c = { c with floor } from if_pos rfl]
  · obtain ⟨other, hother, he⟩ := List.mem_map.mp hm'
    have hsame : other = c := hself other hother (by rw [hid, ← he, Deed.act_id])
    rw [← he, hsame]
    exact if_pos rfl

/-- A step of one car takes it closer to rest, and no other car further away. -/
lemma rank_stepCar (hl : l.Sound) (hb : ∀ c ∈ l.fleet, μ.Covers c) {id : CarId} {c' : Car}
    (hm' : c' ∈ (l.stepCar id).fleet) :
    μ.Covers c' ∧ ∃ c ∈ l.fleet, c'.id = c.id ∧ μ.rank c' ≤ μ.rank c ∧
      (c'.id = id → μ.rank c' < μ.rank c ∨ μ.rank c' ≤ 0) := by
  by_cases hrider : c'.id = id
  · subst hrider
    obtain ⟨c, hm, hid, he⟩ := advanced_of_stepCar hl hm'
    have hw := hl.cars c hm
    rw [he]
    cases hn : c.isEmpty with
    | false =>
      obtain ⟨hcovers, hcloser⟩ := μ.advance hw (hb c hm) hn
      exact ⟨hcovers, c, hm, he ▸ hid, Int.le_of_lt hcloser, fun _ => .inl hcloser⟩
    | true =>
      rw [Car.advance_of_isEmpty hn]
      exact ⟨hb c hm, c, hm, rfl, Int.le_refl _, fun _ => .inr (Int.le_of_eq (μ.resting hn))⟩
  · have hleads := leads_stepCar hl id
    obtain ⟨c, hm, hid, hfewer⟩ := fewer_of_rides hleads hl c' hm' hrider
    obtain ⟨hcovers, hle⟩ := μ.fewer hfewer ((hleads.sound hl).cars c' hm') (hl.cars c hm) (hb c hm)
    exact ⟨hcovers, c, hm, hid, hle, fun h => absurd h hrider⟩

lemma rank_foldl_stepCar (hl : l.Sound) (hb : ∀ c ∈ l.fleet, μ.Covers c) (ids : List CarId)
    {c' : Car} (hm' : c' ∈ (ids.foldl stepCar l).fleet) :
    μ.Covers c' ∧ ∃ c ∈ l.fleet, c'.id = c.id ∧ μ.rank c' ≤ μ.rank c ∧
      (c'.id ∈ ids → μ.rank c' < μ.rank c ∨ μ.rank c' ≤ 0) := by
  -- A car comes closer with its own step; before and after it may only give up stops.
  induction ids generalizing l with
  | nil => exact ⟨hb c' hm', c', hm', rfl, Int.le_refl _, fun h => by cases h⟩
  | cons id rest ih =>
    have hsound := (leads_stepCar hl id).sound hl
    have hstays : ∀ c ∈ (l.stepCar id).fleet, μ.Covers c := fun c hm =>
      (rank_stepCar μ hl hb hm).1
    obtain ⟨hin, c₁, hm₁, hid₁, hle₁, hlt₁⟩ := ih hsound hstays hm'
    obtain ⟨-, c, hm, hid, hle, hlt⟩ := rank_stepCar μ hl hb hm₁
    refine ⟨hin, c, hm, hid₁.trans hid, by omega, fun hmem => ?_⟩
    rcases List.mem_cons.mp hmem with hhead | hrest
    · have := hlt (hid₁ ▸ hhead)
      omega
    · have := hlt₁ hrest
      omega

/-- A step of the fleet takes every car closer to rest. -/
theorem rank_step (hl : l.Sound) (hb : ∀ c ∈ l.fleet, μ.Covers c) {c' : Car}
    (hm' : c' ∈ l.step.fleet) :
    μ.Covers c' ∧ ∃ c ∈ l.fleet, μ.rank c' < μ.rank c ∨ μ.rank c' ≤ 0 := by
  obtain ⟨hin, c, hm, hid, -, hlt⟩ := rank_foldl_stepCar μ hl hb _ hm'
  exact ⟨hin, c, hm, hlt (Fleet.mem_ids.mpr ⟨c, hm, hid.symm⟩)⟩

/-! ### At rest -/

/-- So many steps as no car exceeds in rank bring the fleet to rest. -/
theorem atRest_iterate (hl : l.Sound) (n : Nat)
    (hb : ∀ c ∈ l.fleet, μ.Covers c ∧ μ.rank c ≤ n) : (step^[n] l).AtRest := by
  induction n generalizing l with
  | zero =>
    intro c hm
    obtain ⟨hin, hrank⟩ := hb c hm
    by_contra hn
    have hpos := μ.pos (hl.cars c hm) hin (by simpa using hn)
    simp at hrank
    omega
  | succ n ih =>
    rw [Function.iterate_succ_apply]
    refine ih ((leads_step hl).sound hl) fun c' hm' => ?_
    obtain ⟨hin, c, hm, hcloser⟩ := rank_step μ hl (fun c hm => (hb c hm).1) hm'
    have hrank := (hb c hm).2
    push_cast at hrank
    exact ⟨hin, by omega⟩

/-- The bound on the steps of a fleet that works between two floors. -/
lemma atRest_of_within (hspan : Floor.Span lo hi) (hl : l.Sound)
    (hb : ∀ c ∈ l.fleet, c.Within lo hi) {n : Nat} (hn : (4 * (hi - lo + 1)).toNat ≤ n) :
    (step^[n] l).AtRest := by
  refine atRest_iterate (.between hspan) hl n fun c hm => ⟨hb c hm, ?_⟩
  have hbound := Car.rank_le_bound (hb c hm)
  show c.rank lo hi ≤ n
  omega

/-- The bound on the steps of a fleet with so many stops, wherever they are. -/
lemma atRest_of_placed (hl : l.Sound) (hb : ∀ c ∈ l.fleet, c.Placed) {n : Nat}
    (hn : (l.fleet.flatMap fun c => c.up ++ c.down).length * (floorLimit + 1) ≤ n) :
    (step^[n] l).AtRest := by
  refine atRest_iterate .circuit hl n fun c hm => ⟨hb c hm, ?_⟩
  have hstops : List.Sublist (c.up ++ c.down) (l.fleet.flatMap fun c => c.up ++ c.down) := by
    rw [List.flatMap_def]
    exact List.sublist_flatten_of_mem (List.mem_map.mpr ⟨c, hm, rfl⟩)
  have hcount := hstops.length_le
  rw [List.length_append] at hcount
  calc
    c.circuit ≤ (c.up.length + c.down.length) * (floorLimit + 1) := c.circuit_le
    _ ≤ n := by
      exact_mod_cast Nat.le_trans (Nat.mul_le_mul_right (floorLimit + 1) hcount) hn

/-- The driver's own bound is enough. -/
lemma atRest_of_restTime (hl : l.Sound) (hb : ∀ c ∈ l.fleet, c.Placed) {n : Nat}
    (hn : Bank.restTime l.fleet ≤ n) : (step^[n] l).AtRest := by
  unfold Bank.restTime at hn
  split_ifs at hn with hspan
  · exact atRest_of_within hspan hl (fun c hm => Fleet.within_span hm) (by omega)
  · exact atRest_of_placed hl hb hn

lemma AtRest.stepCar (h : l.AtRest) (id : CarId) : l.stepCar id = l := by
  cases hc : l.fleet.car? id with
  | none => exact stepCar_of_unknown hc
  | some c =>
    have hempty : c.up = [] ∧ c.down = [] := by
      simpa [Car.isEmpty] using h c (List.mem_of_find?_eq_some hc)
    have hdeeds : c.deeds = [] := by
      simp [Car.deeds, Car.aim, Car.upAim, Car.downAim, hempty, StopSet.floors]
    rw [stepCar_of_car? hc, hdeeds]
    rfl

lemma AtRest.step (h : l.AtRest) : l.step = l := by
  have hall : ∀ ids : List CarId, ids.foldl Ledger.stepCar l = l := by
    intro ids
    induction ids with
    | nil => rfl
    | cons id rest ih => rw [List.foldl_cons, h.stepCar id, ih]
  exact hall _

lemma AtRest.iterate (h : l.AtRest) (n : Nat) : Ledger.step^[n] l = l :=
  Function.iterate_fixed h.step n

/-- A fleet that has come to rest stays as it is, however many more steps there are. -/
theorem iterate_eq_of_atRest {m n : Nat} (hm : (Ledger.step^[m] l).AtRest)
    (hn : (Ledger.step^[n] l).AtRest) : Ledger.step^[m] l = Ledger.step^[n] l := by
  rcases Nat.le_total m n with hle | hle <;> obtain ⟨k, rfl⟩ := Nat.exists_eq_add_of_le hle
  · rw [Nat.add_comm m, Function.iterate_add_apply, hm.iterate]
  · rw [Nat.add_comm n, Function.iterate_add_apply, hn.iterate]

/-- At rest nothing is pending. -/
theorem AtRest.calls (h : l.AtRest) (hl : l.Sound) : l.calls = [] := by
  refine List.eq_nil_iff_forall_not_mem.mpr fun call hm => ?_
  have hhas : l.calls.has call.target = true := (HallCalls.has_iff _ _).mpr ⟨call, hm, rfl⟩
  obtain ⟨id, c, hc, -, hs⟩ := hl.owed _ hhas
  have hempty : c.up = [] ∧ c.down = [] := by simpa [Car.isEmpty] using h c hc
  cases hd : call.target.direction <;>
    simp [hd, Car.hasHallStop, hempty, Requesters.nobody] at hs

end Ledger

/-! ### Banks at rest -/

namespace Bank

variable {b : Bank} {l : Ledger} {s : Strategy} {react : React} {floors : List Int}

lemma Shows.run_steps (h : b.Shows l s) (hl : l.Sound) (n : Nat) :
    (b.run (List.replicate n (.step 1))).Shows (Ledger.step^[n] l) s := by
  induction n generalizing b l with
  | zero => exact h
  | succ n ih =>
    rw [List.replicate_succ, run_cons, Function.iterate_succ_apply]
    exact ih (h.repeated_step hl (react_passive _) 1).1 ((Ledger.leads_step hl).sound hl)

/-- At rest a step changes nothing at all and publishes nothing. -/
theorem Shows.step_of_atRest (h : b.Shows l s) (hl : l.Sound) (hr : l.AtRest) :
    Bank.step react b = (b, []) := by
  have hfleet : b.fleet = l.fleet := congrArg Ledger.fleet h.ledger
  have hone : ∀ id, Bank.stepCar react b id = (b, []) := by
    intro id
    unfold Bank.stepCar
    rw [h.car?]
    cases hc : l.fleet.car? id with
    | none => rfl
    | some c =>
      have hsame := Fleet.change_eq_of_car? hl.ids hc fun c => c
      rw [Fleet.change_self] at hsame
      simp only [Car.advance_of_isEmpty (hr c (List.mem_of_find?_eq_some hc)), hfleet, hsame]
      rw [← hfleet]
      rfl
  have hall : ∀ ids, Bank.stepCars react b ids = (b, []) := by
    intro ids
    induction ids with
    | nil => rfl
    | cons id rest ih => rw [stepCars_cons, hone id, ih]; rfl
  exact hall _

lemma Shows.repeated_of_atRest (h : b.Shows l s) (hl : l.Sound) (hr : l.AtRest) (n : Nat) :
    Bank.repeated (Bank.step react) n b = (b, []) := by
  induction n with
  | zero => rfl
  | succ n ih => simp only [Bank.repeated, h.step_of_atRest hl hr, ih, List.append_nil]

/-! ### Drivers -/

lemma Shows.isEmpty_iff (h : b.Shows l s) : b.fleet.isEmpty = true ↔ l.AtRest := by
  have hfleet : b.fleet = l.fleet := congrArg Ledger.fleet h.ledger
  rw [hfleet]
  exact List.all_eq_true

lemma Shows.with_audible (h : b.Shows l s) (audible : Bool) : { b with audible }.Shows l s :=
  ⟨h.ledger, h.strategy, h.calm⟩

/-- A driver that stops as soon as no car has a stop misses nothing. -/
lemma Shows.stepUntilIdle (h : b.Shows l s) (hl : l.Sound) (hr : Passive react) (n : Nat) :
    (Bank.stepUntilIdle react n b).Shows (Ledger.step^[n] l) s := by
  induction n generalizing b l with
  | zero => exact h
  | succ n ih =>
    unfold Bank.stepUntilIdle
    split_ifs with hrest
    · rw [(h.isEmpty_iff.mp hrest).iterate]
      exact h
    · exact ih (h.step hl hr).1 ((Ledger.leads_step hl).sound hl)

lemma settle_of_isEmpty (hrest : b.fleet.isEmpty = true) (n : Nat) : settle react n b = b := by
  cases n with
  | zero => rfl
  | succ n => rw [settle, if_pos hrest]

/-- One round of a driver is enough for a quiet bank. -/
lemma Shows.settle (h : b.Shows l s) (hl : l.Sound) (hb : ∀ c ∈ l.fleet, c.Placed)
    (hr : Passive react) (n : Nat) :
    (Bank.settle react (n + 1) b).Shows (Ledger.step^[restTime l.fleet] l) s := by
  have hfleet : b.fleet = l.fleet := congrArg Ledger.fleet h.ledger
  unfold Bank.settle
  split_ifs with hrest
  · rw [(h.isEmpty_iff.mp hrest).iterate]
    exact h
  · have hround := h.stepUntilIdle hl hr (restTime l.fleet)
    have hrest := Ledger.atRest_of_restTime hl hb (Nat.le_refl _)
    rw [hfleet, settle_of_isEmpty (hround.isEmpty_iff.mpr hrest)]
    exact hround

lemma Shows.drive (h : b.Shows l s) (hl : l.Sound) (hb : ∀ c ∈ l.fleet, c.Placed)
    (hr : Passive react) :
    (Bank.drive react b).Shows (Ledger.step^[restTime l.fleet] l) s := by
  have hstarted : b.startDriver.Shows l s := by
    unfold startDriver
    split_ifs
    · exact h
    · exact Shows.say (b := { b with driver := some (.start b.config.stepIntervalMs) })
        ⟨h.ledger, h.strategy, h.calm⟩ _ _ _
  have hsettled := ((hstarted.with_audible false).settle hl hb hr
    (Bank.callbacks { b.startDriver with audible := false })).with_audible b.startDriver.audible
  exact ⟨hsettled.ledger, hsettled.strategy, hsettled.calm⟩

lemma Shows.driveFor (h : b.Shows l s) (hl : l.Sound) (hr : Passive react) (ms n : Nat) :
    (Bank.driveFor react b ms n).1.Shows (Ledger.step^[n] l) s :=
  (((h.say _ _ _).with_audible false).repeated_step hl hr n).1.with_audible _

/-- What a bank at rest shows, and that it stays as it is. -/
lemma Shows.still (h : b.Shows l s) (hl : l.Sound) (hr : l.AtRest) :
    (∀ c ∈ b.fleet, c.snapshot.queuedStops = 0 ∧ c.snapshot.direction = .idle) ∧
      b.calls.targets = [] ∧ ∀ n, b.perform (.step n) = (b, .events []) := by
  refine ⟨fun c hm => ?_, ?_, fun n => ?_⟩
  · have hfleet : b.fleet = l.fleet := congrArg Ledger.fleet h.ledger
    have hempty : c.up = [] ∧ c.down = [] := by simpa [Car.isEmpty] using hr c (hfleet ▸ hm)
    simp [Car.snapshot, Snapshot.queuedStops, Car.direction, StopSet.floors, hempty]
  · have hcalls : b.calls = l.calls := congrArg Ledger.calls h.ledger
    simp [hcalls, hr.calls hl, HallCalls.targets]
  · show (Bank.repeated (Bank.step _) n b).map id Answer.events = _
    rw [h.repeated_of_atRest hl hr]
    rfl

/-- After any routine service, under any strategies, a fleet between two floors that are near
enough to each other comes to rest within a bound: no car has a stop or a direction, nothing is
pending, and further steps do nothing. A driver leaves the fleet, the pending calls and the history
the same however many more steps it makes. -/
theorem Fresh.drains {ops : List Op} (hb : b.Fresh floors s) (hops : ∀ op ∈ ops, op.IsRoutine)
    {lo hi : Int} (hspan : Floor.Span lo hi)
    (hin : ∀ c ∈ (b.run ops).fleet, (lo ≤ c.floor ∧ c.floor ≤ hi) ∧
      ∀ g ∈ c.snapshot.upStops ++ c.snapshot.downStops, lo ≤ g ∧ g ≤ hi) :
    let bound := (4 * (hi - lo + 1)).toNat
    let rest := (b.run ops).run (List.replicate bound (.step 1))
    (∀ c ∈ rest.fleet, c.snapshot.queuedStops = 0 ∧ c.snapshot.direction = .idle) ∧
      rest.calls.targets = [] ∧
      (∀ n, rest.perform (.step n) = (rest, .events [])) ∧
      (∀ ms n, bound ≤ n → ((b.run ops).perform (.driveFor ms n)).1.ledger = rest.ledger) ∧
      ((b.run ops).perform .drive).1.ledger = rest.ledger := by
  obtain ⟨l, s', hshow, -, hl, -⟩ := hb.run (P := fun _ => True) trivial
    fun op hop => ⟨hops op hop, op.installs_any⟩
  generalize b.run ops = b at hshow hin
  intro bound rest
  have hfleet : b.fleet = l.fleet := congrArg Ledger.fleet hshow.ledger
  have hwithin : ∀ c ∈ l.fleet, c.Within lo hi := by
    intro c hm
    obtain ⟨hfloor, hstops⟩ := hin c (hfleet ▸ hm)
    refine ⟨hfloor.1, hfloor.2, fun g hg => hstops g ?_, fun g hg => hstops g ?_⟩
    · simp [Car.snapshot, (StopSet.has_eq_true_iff_mem _ _).mp hg]
    · simp [Car.snapshot, (StopSet.has_eq_true_iff_mem _ _).mp hg]
  have hatRest : ∀ n, bound ≤ n → (Ledger.step^[n] l).AtRest := fun n hn =>
    Ledger.atRest_of_within hspan hl hwithin hn
  have hrest : rest.Shows (Ledger.step^[bound] l) s' := hshow.run_steps hl bound
  have hstill := hatRest bound (Nat.le_refl _)
  have hsound := (Ledger.leads_iterate (fun l hl => Ledger.leads_step hl) hl bound).sound hl
  obtain ⟨hcars, hpending, hsteps⟩ := hrest.still hsound hstill
  refine ⟨hcars, hpending, hsteps, fun ms n hn => ?_, ?_⟩
  · have hdriven := hshow.driveFor hl (react_passive (b.callbacks + 0)) ms n
    rw [hrest.ledger, ← Ledger.iterate_eq_of_atRest (hatRest n hn) hstill]
    exact hdriven.ledger
  · have hplaced : ∀ c ∈ l.fleet, c.Placed := fun c hm => (hwithin c hm).placed hspan
    have hdriven := hshow.drive hl hplaced (react_passive (b.callbacks + 0))
    have hdone := Ledger.atRest_of_restTime hl hplaced (Nat.le_refl _)
    rw [hrest.ledger, ← Ledger.iterate_eq_of_atRest hdone hstill]
    exact hdriven.ledger

/-- Calls from a landing and from inside a car, between floor 0 and floor 5. -/
theorem Fresh.drains_two_cars : ∃ b, Bank.start {} = .ok b ∧
    let called := b.run [.hallCall 3 .up, .carCall 1 5, .step 1, .setStrategy .exclusiveEta,
      .setMode 2 .outOfService]
    (called.run (List.replicate 24 (.step 1))).calls.targets = [] ∧
      (called.perform .drive).1.ledger = (called.run (List.replicate 24 (.step 1))).ledger := by
  have hstart : Bank.start {} = .ok _ := rfl
  refine ⟨_, hstart, ?_⟩
  have hops : ∀ op ∈ [Op.hallCall 3 .up, .carCall 1 5, .step 1, .setStrategy .exclusiveEta,
      .setMode 2 .outOfService], op.IsRoutine := by simp [Op.IsRoutine]
  have hspan : Floor.Span 0 5 := ⟨by decide, by decide, by decide⟩
  obtain ⟨-, hpending, -, -, hdriven⟩ := (Fresh.started hstart).drains hops hspan (by decide)
  exact ⟨hpending, hdriven⟩

end Bank
end ElevatorBank
