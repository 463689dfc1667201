import ElevatorBank.Proofs.Cheapest
import ElevatorBank.Proofs.Passengers

/-!
# Modes

A car out of normal mode gets no new hall request, whichever of the built-in strategies is in
force, and a call is dropped just if no car is in normal mode (`Strategy.ServesNormal`). Cars ride
the same in every mode: what the operations other than hall calls do, they do to the fleet
regardless of the modes (`Ledger.modeless_follow`), so a stop that has been queued is served
whatever becomes of the mode of its car (`Fresh.modes_respected`).
-/
namespace ElevatorBank

/-- A strategy that never breaks down, chooses cars in normal mode only, and chooses some car if
there is one in normal mode. -/
def Strategy.ServesNormal (s : Strategy) : Prop :=
  ∀ floor direction snapshots, ∃ chosen, s.select floor direction snapshots = .ok chosen ∧
    (∀ id ∈ chosen, ∃ x ∈ snapshots, x.id = id ∧ x.mode = .normal) ∧
    (chosen = [] → ∀ x ∈ snapshots, x.mode ≠ .normal)

theorem Strategy.ofKind_servesNormal (kind : StrategyKind) : (ofKind kind).ServesNormal := by
  intro floor direction snapshots
  cases kind with
  | broadcast =>
    refine ⟨_, rfl, fun id hid => ?_, fun hnone x hx hmode => ?_⟩
    · obtain ⟨x, hx, rfl⟩ := List.mem_map.mp hid
      obtain ⟨hx, hmode⟩ := List.mem_filter.mp hx
      exact ⟨x, hx, rfl, Mode.acceptsCalls_iff.mp hmode⟩
    · have hmem : x ∈ eligible snapshots :=
        List.mem_filter.mpr ⟨hx, Mode.acceptsCalls_iff.mpr hmode⟩
      rw [List.map_eq_nil_iff.mp hnone] at hmem
      cases hmem
  | exclusiveEta =>
    obtain hnone | ⟨best, hbest⟩ := foremost_cases floor direction snapshots
    · exact ⟨[], select_of_none hnone, by simp, fun _ => hnone⟩
    · refine ⟨[best.id], select_of_foremost hbest, fun id hid => ?_, by simp⟩
      obtain rfl := List.mem_singleton.mp hid
      exact ⟨best, hbest.mem, rfl, hbest.normal⟩

/-- A strategy that is built in. -/
def Strategy.IsBuiltIn (s : Strategy) : Prop := ∃ kind, s = ofKind kind

lemma Strategy.IsBuiltIn.servesNormal {s : Strategy} (h : s.IsBuiltIn) : s.ServesNormal := by
  obtain ⟨kind, rfl⟩ := h
  exact ofKind_servesNormal kind

/-- Whether an operation changes the mode of a car. -/
def Op.switchesMode : Op → Bool
  | .setMode .. => true
  | _ => false

/-- The hall requests of a deed are for cars in normal mode. -/
def Deed.CallsNormal (f : Fleet) (d : Deed) : Prop :=
  ∀ id t, d.Queues id t → ∃ c ∈ f, c.id = id ∧ c.mode = .normal

/-- A hall request is queued by a hall call and nothing else. -/
lemma Op.Comprises.not_queues {s : Strategy} {op : Op} {d : Deed} (h : op.Comprises s d)
    (hop : ∀ floor direction, op ≠ .hallCall floor direction) (id : CarId) (t : Target) :
    ¬d.Queues id t := by
  cases op with
  | hallCall floor direction => exact absurd rfl (hop floor direction)
  | step times =>
    obtain ⟨rider, h⟩ := h
    exact h.not_queues
  | stepCar car times => exact Deed.IsRideOf.not_queues h
  | _ => cases d <;> first | exact fun hq => hq | cases h

/-- Two fleets with the same numbers, compared car by car. -/
lemma Fleet.forall₂_of_ids {R : Car → Car → Prop} {f f' : Fleet} (hids : f'.ids = f.ids)
    (h : ∀ c ∈ f, ∀ c' ∈ f', c'.id = c.id → R c c') : List.Forall₂ R f f' := by
  induction f generalizing f' with
  | nil =>
    obtain rfl := List.map_eq_nil_iff.mp hids
    exact .nil
  | cons c rest ih =>
    obtain ⟨c', rest', rfl, hid, hrest⟩ := List.map_eq_cons_iff.mp hids
    exact .cons (h c List.mem_cons_self c' List.mem_cons_self hid) (ih hrest fun d hd d' hd' =>
      h d (List.mem_cons_of_mem _ hd) d' (List.mem_cons_of_mem _ hd'))

lemma Bank.mem_of_mem_kept {s : Strategy} {chosen : List CarId} {id : CarId}
    (h : id ∈ kept s chosen) : id ∈ chosen := by
  unfold kept at h
  split_ifs at h
  · exact h
  · exact List.mem_of_mem_take h

namespace Ledger

variable {l m : Ledger} {s : Strategy} {t : Target}

/-- Where hall requests are queued on cars in normal mode only, another car has none that it did
not have before. -/
theorem owes_of_spared (hleads : Leads (Deed.CallsNormal l.fleet) l m) (hl : l.Sound) {c : Car}
    (hm : c ∈ l.fleet) (hmode : c.mode ≠ .normal) (ho : m.fleet.Owes c.id t) :
    c.hasHallStop t.floor t.direction = true := by
  have hbefore : l.fleet.Owes c.id t := by
    refine (hleads.preserves (I := fun m => m.Sound ∧ (m.fleet.Owes c.id t → l.fleet.Owes c.id t))
      (fun m d hd hf hkept => ?_) ⟨hl, id⟩).2 ho
    refine ⟨hkept.1.after hf, fun ho => ?_⟩
    rcases (owes_after hkept.1 hf c.id t).mp ho with hq | ⟨ho, -⟩
    · obtain ⟨other, hother, hid, hnormal⟩ := hd c.id t hq
      rw [List.inj_on_of_nodup_map hl.ids hother hm hid] at hnormal
      exact absurd hnormal hmode
    · exact hkept.2 ho
  obtain ⟨other, hother, hid, hs⟩ := hbefore
  rwa [List.inj_on_of_nodup_map hl.ids hother hm hid] at hs

/-- A call is dropped just if no car is in normal mode. -/
theorem dispatch_dropped_iff (hs : s.ServesNormal) :
    (l.dispatch s t).2 = .ok .dropped ↔ ∀ c ∈ l.fleet, c.mode ≠ .normal := by
  obtain ⟨chosen, hchosen, hnormal, hnone⟩ := hs t.floor t.direction l.fleet.snapshots
  by_cases hne : chosen = []
  · subst hne
    rw [dispatch_of_nil hchosen]
    exact ⟨fun _ c hm => hnone rfl c.snapshot (List.mem_map_of_mem hm), fun _ => rfl⟩
  · have hcars : ∀ id ∈ chosen, ∃ c ∈ l.fleet, c.id = id ∧ c.mode = .normal := by
      intro id hid
      obtain ⟨x, hx, rfl, hmode⟩ := hnormal id hid
      obtain ⟨c, hm, rfl⟩ := List.mem_map.mp hx
      exact ⟨c, hm, rfl, hmode⟩
    have hknown : l.fleet.unknown? (Bank.kept s chosen) = none := by
      refine Fleet.unknown?_eq_none_iff.mpr fun id hid => ?_
      obtain ⟨c, hm, hid, -⟩ := hcars id (Bank.mem_of_mem_kept hid)
      exact Fleet.mem_ids.mpr ⟨c, hm, hid⟩
    rw [dispatch_of_known hchosen hne hknown]
    refine ⟨fun h => by simp at h, fun hn => ?_⟩
    obtain ⟨id, hid⟩ := List.exists_mem_of_ne_nil chosen hne
    obtain ⟨c, hm, -, hmode⟩ := hcars id hid
    exact absurd hmode (hn c hm)

end Ledger

/-! ### Riding in any mode -/

namespace Car

variable (c : Car)

/-- A car put in normal mode. -/
def modeless : Car := { c with mode := .normal }

@[simp] lemma modeless_id : c.modeless.id = c.id := rfl

@[simp] lemma modeless_modeless : c.modeless.modeless = c.modeless := rfl

@[simp] lemma withdraw_modeless (t : Target) :
    c.modeless.withdraw t = (c.withdraw t).modeless := by
  unfold withdraw
  split <;> rfl

@[simp] lemma enqueueCabin_modeless (floor : Int) :
    c.modeless.enqueueCabin floor = (c.enqueueCabin floor).modeless := by
  unfold enqueueCabin modeless
  split_ifs <;> rfl

@[simp] lemma enqueue_modeless (t : Target) : c.modeless.enqueue t = (c.enqueue t).modeless := by
  unfold enqueue
  split
  · rfl
  · rfl
  · exact c.enqueueCabin_modeless _

@[simp] lemma serve_modeless (floor : Int) (d : Direction) :
    c.modeless.serve floor d = (c.serve floor d).modeless := by
  unfold serve
  split <;> rfl

@[simp] lemma yield_modeless (calls : HallCalls) (car : CarId) (t : Target) :
    Deed.yield calls car t c.modeless = (Deed.yield calls car t c).modeless := by
  unfold Deed.yield
  rw [modeless_id]
  split_ifs <;> simp

/-- What becomes of a car but for its mode does not depend on its mode. -/
lemma modeless_act (calls : HallCalls) (d : Deed) :
    (d.act calls c.modeless).modeless = (d.act calls c).modeless := by
  cases d with
  | announced event =>
    cases event with
    | stopServed => simp [Deed.act]
    | _ => rfl
  | raced t cars | given t cars => by_cases hid : c.id ∈ cars <;> simp [Deed.act, hid]
  | boarded car | served car => by_cases hid : c.id = car <;> simp [Deed.act, hid]
  | switched car | moved car => by_cases hid : c.id = car <;> simp [Deed.act, modeless, hid]

/-- What a car does in a step does not depend on its mode. -/
lemma deeds_modeless : c.modeless.deeds = c.deeds := rfl

end Car

namespace Ledger

variable {l m : Ledger}

/-- A ledger with all its cars put in normal mode. -/
def modeless (l : Ledger) : Ledger := { l with fleet := l.fleet.map Car.modeless }

lemma modeless_after (l : Ledger) (d : Deed) :
    (l.after d).modeless = (l.modeless.after d).modeless := by
  simp only [modeless, after, List.map_map]
  congr 1
  apply List.map_congr_left
  intro c _
  exact (c.modeless_act l.calls d).symm

/-- To change a mode is to change nothing else. -/
lemma modeless_switched (l : Ledger) (car : CarId) (mode : Mode) :
    (l.after (.switched car mode)).modeless = l.modeless := by
  rw [after_switched]
  simp only [modeless, Fleet.change, List.map_map]
  congr 1
  apply List.map_congr_left
  intro c _
  by_cases hid : c.id = car <;> simp [hid, Car.modeless]

section
variable (h : l.modeless = m.modeless)
include h

lemma ids_of_modeless : l.fleet.ids = m.fleet.ids := by
  have hids : ∀ l : Ledger, l.modeless.fleet.ids = l.fleet.ids := fun l =>
    Fleet.ids_map fun _ => rfl
  rw [← hids, h, hids]

lemma after_of_modeless (d : Deed) : (l.after d).modeless = (m.after d).modeless := by
  rw [modeless_after, h, ← modeless_after]

lemma foldl_after_of_modeless (ds : List Deed) :
    (ds.foldl after l).modeless = (ds.foldl after m).modeless := by
  induction ds generalizing l m with
  | nil => exact h
  | cons d rest ih => exact ih (after_of_modeless h d)

lemma car?_of_modeless (id : CarId) :
    (l.fleet.car? id).map Car.modeless = (m.fleet.car? id).map Car.modeless := by
  have hcar : ∀ l : Ledger, l.modeless.fleet.car? id = (l.fleet.car? id).map Car.modeless :=
    fun l => Fleet.car?_map (g := Car.modeless) (fun _ => rfl) id
  rw [← hcar, h, hcar]

lemma stepCar_of_modeless (id : CarId) : (l.stepCar id).modeless = (m.stepCar id).modeless := by
  have hcar := car?_of_modeless h id
  cases hl : l.fleet.car? id with
  | none =>
    rw [hl, eq_comm, Option.map_none, Option.map_eq_none_iff] at hcar
    rw [stepCar_of_unknown hl, stepCar_of_unknown hcar]
    exact h
  | some c =>
    rw [hl, eq_comm, Option.map_some, Option.map_eq_some_iff] at hcar
    obtain ⟨c', hm, hc⟩ := hcar
    have hdeeds : c'.deeds = c.deeds := by
      rw [← c'.deeds_modeless, hc, c.deeds_modeless]
    rw [stepCar_of_car? hl, stepCar_of_car? hm, hdeeds]
    exact foldl_after_of_modeless h _

lemma foldl_stepCar_of_modeless (ids : List CarId) :
    (ids.foldl stepCar l).modeless = (ids.foldl stepCar m).modeless := by
  induction ids generalizing l m with
  | nil => exact h
  | cons id rest ih => exact ih (stepCar_of_modeless h id)

lemma step_of_modeless : l.step.modeless = m.step.modeless := by
  unfold step
  rw [ids_of_modeless h]
  exact foldl_stepCar_of_modeless h _

lemma carCall_of_modeless (car : CarId) (floor : Int) :
    (l.carCall car floor).1.modeless = (m.carCall car floor).1.modeless := by
  have hknown : (l.fleet.car? car).isSome = (m.fleet.car? car).isSome := by
    simpa using congrArg Option.isSome (car?_of_modeless h car)
  unfold carCall
  rw [hknown]
  split_ifs
  · exact after_of_modeless h _
  · exact h

end

lemma iterate_of_modeless {next : Ledger → Ledger}
    (hnext : ∀ {l m : Ledger}, l.modeless = m.modeless → (next l).modeless = (next m).modeless)
    (h : l.modeless = m.modeless) (n : Nat) : (next^[n] l).modeless = (next^[n] m).modeless := by
  induction n generalizing l m with
  | zero => exact h
  | succ n ih =>
    rw [Function.iterate_succ_apply, Function.iterate_succ_apply]
    exact ih (hnext h)

/-- What an operation other than a hall call does, it does regardless of the modes. -/
theorem follow_of_modeless (h : l.modeless = m.modeless) (op : Op) :
    (l.follow op).modeless = (m.follow op).modeless := by
  cases op with
  | carCall car floor => exact carCall_of_modeless h car floor
  | step times => exact iterate_of_modeless step_of_modeless h times
  | stepCar car times => exact iterate_of_modeless (fun h => stepCar_of_modeless h car) h times
  | setMode car mode => exact after_of_modeless h _
  | _ => exact h

end Ledger

namespace Bank

variable {b b' : Bank} {l l' : Ledger} {s : Strategy} {op : Op} {ops : List Op}
  {floors : List Int}

lemma Shows.spares_perform (h : b.Shows l s) (hl : l.Sound) (hs : s.ServesNormal)
    (hop : op.IsRoutine) : ∃ m, (b.perform op).1.Shows m (op.strategyAfter s) ∧
      Ledger.Leads (Deed.CallsNormal l.fleet) l m := by
  by_cases hcall : ∃ floor direction, op = .hallCall floor direction
  · obtain ⟨floor, direction, rfl⟩ := hcall
    have hraised : Ledger.Leads (Deed.CallsNormal l.fleet) l
        (l.after (.announced (.hallCallRaised floor direction))) :=
      .one (fun _ _ => False.elim) trivial
    change ∃ m, (Bank.hallCall (Bank.react (b.callbacks + 0)) b floor direction).1.Shows m s ∧ _
    rcases h.hallCall_cases hl (react_passive (b.callbacks + 0)) floor direction with ⟨-, he⟩ |
      ⟨-, ⟨_, -, -, hshow⟩ | ⟨chosen, hchosen, hfits, -, hshow⟩⟩
    · exact ⟨l, by rwa [he], .refl l⟩
    · exact ⟨_, hshow, hraised⟩
    · refine ⟨_, hshow, hraised.trans (.one (fun id t hq => ?_) hfits)⟩
      have hid : id ∈ kept s chosen := by
        unfold Deed.assigning at hq
        split_ifs at hq <;> exact hq.2
      obtain ⟨chosen', hchosen', hnormal, -⟩ := hs floor direction l.fleet.snapshots
      obtain rfl : chosen' = chosen := Except.ok.inj (hchosen'.symm.trans hchosen)
      obtain ⟨x, hx, hid, hmode⟩ := hnormal id (mem_of_mem_kept hid)
      obtain ⟨c, hm, rfl⟩ := List.mem_map.mp hx
      exact ⟨c, hm, hid, hmode⟩
  · obtain ⟨m, hm, hleads⟩ := h.perform hl hop
    refine ⟨m, hm, hleads.mono fun d hd id t hq => ?_⟩
    exact absurd hq (hd.not_queues (fun floor direction he => hcall ⟨floor, direction, he⟩) id t)

/-- An operation gives no new hall request to a car that it finds out of normal mode. -/
theorem Shows.spared (h : b.Shows l s) (hl : l.Sound) (hs : s.ServesNormal) (hop : op.IsRoutine) :
    List.Forall₂ (fun c c' => c'.id = c.id ∧ (c.mode ≠ .normal → ∀ floor direction,
        c'.hasHallStop floor direction = true → c.hasHallStop floor direction = true))
      b.fleet (b.perform op).1.fleet := by
  obtain ⟨m, hm, hleads⟩ := h.spares_perform hl hs hop
  have hfleet : b.fleet = l.fleet := congrArg Ledger.fleet h.ledger
  have hfleet' : (b.perform op).1.fleet = m.fleet := congrArg Ledger.fleet hm.ledger
  rw [hfleet, hfleet']
  refine Fleet.forall₂_of_ids hleads.ids fun c hc c' hc' hid =>
    ⟨hid, fun hmode floor direction hs => ?_⟩
  exact Ledger.owes_of_spared hleads hl hc hmode (t := ⟨floor, direction⟩) ⟨c', hc', hid, hs⟩

theorem Shows.dropped_iff (h : b.Shows l s) (hl : l.Sound) (hs : s.ServesNormal) (floor : Int)
    {direction : Direction} (hd : direction ≠ .idle) :
    (b.perform (.hallCall floor direction)).2 = .outcome .dropped ↔
      ∀ c ∈ b.fleet, c.mode ≠ .normal := by
  have hd : direction.isHall = true := by simpa [Direction.isHall] using hd
  have hfleet : b.fleet = l.fleet := congrArg Ledger.fleet h.ledger
  have hanswer := (h.stands.hallCall hl.cars (react_passive (b.callbacks + 0)) floor direction).1
  have hdropped := Ledger.dispatch_dropped_iff hs
    (l := l.after (.announced (.hallCallRaised floor direction))) (t := ⟨floor, direction⟩)
  rw [Ledger.raised_fleet, ← hfleet] at hdropped
  rw [Ledger.hallCall, if_pos hd] at hanswer
  change Answer.ofExcept (Bank.hallCall (Bank.react (b.callbacks + 0)) b floor direction).2 = _ ↔ _
  rw [hanswer, ← hdropped]
  cases (Ledger.dispatch _ s ⟨floor, direction⟩).2 <;> simp [Answer.ofExcept]

/-! ### Runs -/

/-- Without hall calls a run does the same to the fleet, and publishes the same, if its changes of
mode are left out. -/
theorem Shows.modeless_run (h : b.Shows l s) (h' : b'.Shows l' s) (hl : l.Sound) (hl' : l'.Sound)
    (hsame : l.modeless = l'.modeless)
    (hops : ∀ op ∈ ops, op.IsRoutine ∧ ∀ floor direction, op ≠ .hallCall floor direction) :
    (b.run ops).ledger.modeless = (b'.run (ops.filter (!·.switchesMode))).ledger.modeless := by
  induction ops generalizing b b' l l' s with
  | nil =>
    rw [run_nil, List.filter_nil, run_nil, h.ledger, h'.ledger]
    exact hsame
  | cons op rest ih =>
    obtain ⟨hop, hcall⟩ := hops op List.mem_cons_self
    have hrest := fun other hm => hops other (List.mem_cons_of_mem _ hm)
    have hnext := h.follow hl hop hcall
    have hsound := (Ledger.leads_follow hl s op).sound hl
    by_cases hswitch : op.switchesMode = true
    · rw [List.filter_cons_of_neg (by simp [hswitch])]
      cases op with
      | setMode car mode =>
        exact ih hnext h' hsound hl' ((l.modeless_switched car mode).trans hsame) hrest
      | _ => cases hswitch
    · rw [List.filter_cons_of_pos (by simpa using hswitch)]
      exact ih hnext (h'.follow hl' hop hcall) hsound ((Ledger.leads_follow hl' s op).sound hl')
        (Ledger.follow_of_modeless hsame op) hrest

/-- Once the fleet is at rest, every stop that was queued has been served: a landing's by some
car, a passenger's by the car that carried the passenger. -/
theorem served_at_rest {P : Deed → Prop} {m : Ledger} (h : Ledger.Leads P l m) (hl : l.Sound)
    (hrest : m.AtRest) {c : Car} (hm : c ∈ l.fleet) :
    (∀ floor direction, c.hasHallStop floor direction = true →
      ∃ car, .stopServed car floor direction ∈ l.since m) ∧
    ∀ floor, c.hasCabinStop floor = true →
      ∃ direction, .stopServed c.id floor direction ∈ l.since m := by
  have hempty : ∀ c ∈ m.fleet, c.up = [] ∧ c.down = [] := fun c hc => by
    simpa [Car.isEmpty] using hrest c hc
  refine ⟨fun floor direction hs => ?_, fun floor hs => ?_⟩
  · by_contra hn
    obtain ⟨c', hm', -, hs'⟩ := Ledger.owes_of_leads h hl (t := ⟨floor, direction⟩)
      ⟨c, hm, rfl, hs⟩ fun car hserved => hn ⟨car, hserved⟩
    obtain ⟨hup, hdown⟩ := hempty c' hm'
    cases direction <;> simp [Car.hasHallStop, hup, hdown, Requesters.nobody] at hs'
  · by_contra hn
    have hundelivered : Ledger.Leads (¬Deed.Delivers c.id floor ·) l m := by
      refine h.recorded.mono ?_
      rintro d ⟨-, hrecorded⟩ hdelivers
      cases d with
      | served car t =>
        obtain ⟨rfl, rfl⟩ := hdelivers
        exact hn ⟨_, hrecorded _ rfl⟩
      | _ => cases hdelivers
    obtain ⟨c', hm', -, hs'⟩ := Ledger.carries_of_leads hundelivered hl ⟨c, hm, rfl, hs⟩
    obtain ⟨hup, hdown⟩ := hempty c' hm'
    simp [Car.hasCabinStop, hup, hdown, Requesters.nobody] at hs'

/-- Whatever the routine so far, under the built-in strategies and with no handler calling back:
an operation gives a car that is out of normal mode no hall request that it did not have. A hall
call is dropped just if no car is in normal mode. Changes of mode make no difference to what the
cars do and what they publish, and once the cars have come to rest every stop has been served that
was queued before, whatever the modes have become since. They come to rest after enough steps,
whichever floors they are at and bound for. -/
theorem Fresh.modes_respected {kind : StrategyKind} (hb : b.Fresh floors (.ofKind kind))
    (hops : ∀ op ∈ ops, op.IsRoutine ∧ op.Installs Strategy.IsBuiltIn) :
    let state := b.run ops
    (∀ op : Op, op.IsRoutine →
      List.Forall₂ (fun c c' => c'.id = c.id ∧ (c.mode ≠ .normal → ∀ floor direction,
          c'.hasHallStop floor direction = true → c.hasHallStop floor direction = true))
        state.fleet (state.perform op).1.fleet) ∧
    (∀ floor direction, direction ≠ .idle →
      ((state.perform (.hallCall floor direction)).2 = .outcome .dropped ↔
        ∀ c ∈ state.fleet, c.mode ≠ .normal)) ∧
    (∀ after : List Op,
      (∀ op ∈ after, op.IsRoutine ∧ ∀ floor direction, op ≠ .hallCall floor direction) →
      let unswitched := state.run (after.filter (!·.switchesMode))
      (state.run after).published = unswitched.published ∧
        (state.run after).fleet.map Car.modeless = unswitched.fleet.map Car.modeless) ∧
    ∀ after : List Op, (∀ op ∈ after, op.IsRoutine) →
      ∀ n,
        let fleet := (state.run after).fleet
        let ended := ((state.run after).perform (.step n)).1
        ((∀ c ∈ fleet, c.Placed) → restTime fleet ≤ n →
          ∀ c ∈ ended.fleet, c.isEmpty = true) ∧
        ((∀ c ∈ ended.fleet, c.isEmpty = true) →
          ∃ events, ended.published = state.published ++ events ∧ ∀ c ∈ state.fleet,
            (∀ floor direction, c.hasHallStop floor direction = true →
              ∃ car, .stopServed car floor direction ∈ events) ∧
            ∀ floor, c.hasCabinStop floor = true →
              ∃ direction, .stopServed c.id floor direction ∈ events) := by
  intro state
  obtain ⟨l, s, hshow, hs, hl, -⟩ := hb.run ⟨kind, rfl⟩ hops
  obtain rfl := hshow.ledger
  refine ⟨fun op hop => hshow.spared hl hs.servesNormal hop,
    fun floor direction hd => hshow.dropped_iff hl hs.servesNormal floor hd,
    fun after hafter => ?_, fun after hafter n => ?_⟩
  · have hsame := hshow.modeless_run hshow hl hl rfl hafter
    exact ⟨congrArg Ledger.history hsame, congrArg Ledger.fleet hsame⟩
  · intro fleet ended
    obtain ⟨m, s', hm, -, hleads⟩ := hshow.run (P := fun _ => True) hl trivial
      fun op hop => ⟨hafter op hop, op.installs_any⟩
    have hsound := hleads.sound hl
    have hended := (hm.repeated_step hsound (react_passive ((state.run after).callbacks + 0)) n).1
    have hfleet : fleet = m.fleet := congrArg Ledger.fleet hm.ledger
    have hrested : ended.fleet = (Ledger.step^[n] m).fleet := congrArg Ledger.fleet hended.ledger
    have hpublished : ended.published = (Ledger.step^[n] m).history :=
      congrArg Ledger.history hended.ledger
    have hsteps := Ledger.leads_iterate (fun l hl => Ledger.leads_step hl) hsound n
    have hall : Ledger.Leads (fun _ => True) state.ledger (Ledger.step^[n] m) :=
      (hleads.mono fun _ _ => trivial).trans (hsteps.mono fun _ _ => trivial)
    refine ⟨fun hplaced hn => ?_, fun hrest => ?_⟩
    · rw [hfleet] at hplaced hn
      rw [hrested]
      exact Ledger.atRest_of_restTime hsound hplaced hn
    · rw [hrested] at hrest
      refine ⟨state.ledger.since (Ledger.step^[n] m), ?_,
        fun c hc => served_at_rest hall hl hrest hc⟩
      rw [hpublished]
      exact (List.prefix_iff_eq_append.mp hall.history_prefix).symm

/-- Car 2 is in normal mode and gets a call that car 1, under maintenance, does not get. With both
out of normal mode a call is dropped. The calls at floor 3, made before, and the passenger of car 1
are served all the same, and it makes no difference to the cars that car 2 is put out of service. -/
theorem Fresh.modes_respected_maintenance : ∃ b, Bank.start {} = .ok b ∧
    let state := b.run [.hallCall 3 .up, .carCall 1 5, .setMode 1 .maintenance, .step 1,
      .setStrategy (.ofKind .exclusiveEta)]
    List.Forall₂ (fun c c' => c'.id = c.id ∧ (c.mode ≠ .normal → ∀ floor direction,
        c'.hasHallStop floor direction = true → c.hasHallStop floor direction = true))
      state.fleet (state.perform (.hallCall 1 .down)).1.fleet ∧
    (state.perform (.hallCall 1 .down)).2 ≠ .outcome .dropped ∧
    ((b.run [.setMode 1 .maintenance, .setMode 2 .outOfService]).perform (.hallCall 1 .down)).2 =
      .outcome .dropped ∧
    (state.run [.setMode 2 .outOfService, .step 1, .setMode 1 .normal, .step 1]).published =
      (state.run [.step 1, .step 1]).published ∧
    ∃ events,
      ((state.run [.setMode 2 .outOfService]).perform (.step 30)).1.published =
        state.published ++ events ∧
      (∃ car, .stopServed car 3 .up ∈ events) ∧
      ∃ direction, .stopServed 1 5 direction ∈ events := by
  have hstart : Bank.start {} = .ok _ := rfl
  refine ⟨_, hstart, ?_⟩
  intro state
  have hfresh := Fresh.started hstart
  have hops : ∀ op ∈ [Op.hallCall 3 .up, .carCall 1 5, .setMode 1 .maintenance, .step 1,
      .setStrategy (.ofKind .exclusiveEta)], op.IsRoutine ∧ op.Installs Strategy.IsBuiltIn := by
    simp [Op.IsRoutine, Op.Installs, Strategy.IsBuiltIn]
  have hnone : ∀ op ∈ [Op.setMode 1 .maintenance, .setMode 2 .outOfService],
      op.IsRoutine ∧ op.Installs Strategy.IsBuiltIn := by
    simp [Op.IsRoutine, Op.Installs]
  have hstate : state.fleet = [⟨1, 1, .maintenance, [⟨3, ⟨true, false⟩⟩, ⟨5, ⟨false, true⟩⟩], []⟩,
      ⟨2, 1, .normal, [⟨3, ⟨true, false⟩⟩], []⟩] := rfl
  obtain ⟨hspared, hdropped, halike, hserved⟩ := hfresh.modes_respected hops
  obtain ⟨-, hdropped', -, -⟩ := hfresh.modes_respected hnone
  obtain ⟨hrests, hserves⟩ := hserved [.setMode 2 .outOfService] (by simp [Op.IsRoutine]) 30
  have hspan : Floor.Span 1 5 := ⟨by decide, by decide, by decide⟩
  obtain ⟨events, hpublished, hevents⟩ :=
    hserves (hrests (fun c hc => (Fleet.within_span hc).placed hspan) (by decide))
  refine ⟨hspared _ trivial, fun h => ?_, (hdropped' 1 .down (by decide)).mpr (by decide),
    (halike _ (by simp [Op.IsRoutine])).1, events, hpublished, ?_, ?_⟩
  · have hnormal := (hdropped 1 .down (by decide)).mp h
    exact hnormal ⟨2, 1, .normal, [⟨3, ⟨true, false⟩⟩], []⟩ (hstate ▸ by simp) rfl
  · exact (hevents ⟨2, 1, .normal, [⟨3, ⟨true, false⟩⟩], []⟩ (hstate ▸ by simp)).1 3 .up rfl
  · exact (hevents ⟨1, 1, .maintenance, [⟨3, ⟨true, false⟩⟩, ⟨5, ⟨false, true⟩⟩], []⟩
      (hstate ▸ by simp)).2 5 rfl

end Bank
end ElevatorBank
