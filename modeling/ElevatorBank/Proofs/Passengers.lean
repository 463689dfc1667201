import ElevatorBank.Proofs.Kept
import ElevatorBank.Proofs.Rest

/-!
# Passengers kept

A passenger's request stays on a car until a step of that car serves the floor
(`Shows.carries_run`), whatever calls are made and settled meanwhile and whatever events are
published. What counts is what the rides answer: an event that somebody else publishes may
claim any stop to have been served.
-/
namespace ElevatorBank

/-- Routine service in which anybody may publish any event. -/
def Op.IsOpenService (op : Op) : Prop := op.IsRoutine ∨ ∃ event, op = .publish event

/-- A car has a passenger bound for a floor. -/
def Fleet.Carries (f : Fleet) (id : CarId) (g : Int) : Prop :=
  ∃ c ∈ f, c.id = id ∧ c.hasCabinStop g = true

/-- The events that a ride answers. -/
def Answer.ridden : Answer → List Event
  | .events es => es
  | _ => []

/-- An operation by which no car rides serves no stop. -/
lemma Op.Comprises.not_served {s : Strategy} {op : Op} {car : CarId} {t : Target}
    (h : op.Comprises s (.served car t)) : op.IsRide := by
  cases op with
  | step | stepCar => trivial
  | _ => cases h

/-- A car that serves a floor in a step stands there afterwards, and nobody inside it is
bound for that floor any more. -/
theorem Car.delivered_of_advance {c : Car} (hw : c.WellFormed) {car : CarId} {g : Int}
    {d : Direction} (hs : .stopServed car g d ∈ c.advance.2) :
    c.id = car ∧ c.advance.1.floor = g ∧ c.advance.1.hasCabinStop g = false := by
  rcases step_cases hw with ⟨-, -, -, hadv⟩ |
    ⟨aim, set, -, -, -, ⟨hin, -, hadv⟩ | ⟨floor, -, -, ⟨hthere, -, hadv⟩ | ⟨-, -, hadv⟩⟩⟩ <;>
    rw [hadv] at hs ⊢
  · cases hs
  · obtain ⟨rfl, rfl, rfl⟩ := Event.stopServed.inj (List.mem_singleton.mp hs)
    refine ⟨rfl, hin ▸ serve_floor _ _ _, Bool.eq_false_iff.mpr fun hc => ?_⟩
    exact ((hasCabinStop_serve hw _ _ _).mp hc).1 rfl
  · obtain hs | hs := List.mem_cons.mp hs
    · cases hs
    · obtain ⟨rfl, rfl, rfl⟩ := Event.stopServed.inj (List.mem_singleton.mp hs)
      have hmoved : ({ c with floor } : Car).WellFormed := ⟨hw.up, hw.down⟩
      refine ⟨rfl, hthere ▸ serve_floor _ _ _, Bool.eq_false_iff.mpr fun hc => ?_⟩
      exact ((hasCabinStop_serve hmoved _ _ _).mp hc).1 rfl
  · cases List.mem_singleton.mp hs

namespace Ledger

variable {P : Deed → Prop} {l m : Ledger} {d : Deed} {id : CarId} {g : Int}

/-- What the deeds since an earlier ledger have published is among the events since. -/
theorem Leads.recorded (h : Leads P l m) :
    Leads (fun d => P d ∧ ∀ event ∈ d.event?, event ∈ l.since m) l m := by
  induction h with
  | refl => exact .refl l
  | @tail m n h hs ih =>
    obtain ⟨d, hp, hf, rfl⟩ := hs
    have hsince := since_after h d
    refine .trans (ih.mono fun e he => ⟨he.1, fun event hm => ?_⟩)
      (.one ⟨hp, fun event hm => ?_⟩ hf)
    · rw [hsince]
      exact List.mem_append_left _ (he.2 event hm)
    · rw [hsince]
      exact List.mem_append_right _ (Option.mem_toList.mpr hm)

lemma carries_after (hl : l.Sound) (hf : d.Fits l) (hc : l.fleet.Carries id g)
    (hd : ¬d.Delivers id g) : (l.after d).fleet.Carries id g := by
  obtain ⟨c, hm, rfl, hs⟩ := hc
  exact ⟨_, List.mem_map_of_mem hm, Deed.act_id _ _ _,
    (Deed.hasCabinStop_act hl hm hf g).mpr (.inr ⟨hs, hd⟩)⟩

/-- A passenger's request stays as long as no deed delivers the passenger. -/
theorem carries_of_leads (h : Leads (¬Deed.Delivers id g ·) l m) (hl : l.Sound)
    (hc : l.fleet.Carries id g) : m.fleet.Carries id g := by
  refine (h.preserves (I := fun m => m.Sound ∧ m.fleet.Carries id g) ?_ ⟨hl, hc⟩).2
  rintro m d hd hf ⟨hm, hc⟩
  exact ⟨hm.after hf, carries_after hm hf hc hd⟩

/-- After a step of a car the fleet has the car as it has advanced. -/
lemma mem_stepCar (hl : l.Sound) {c : Car} (hm : c ∈ l.fleet) :
    c.advance.1 ∈ (l.stepCar c.id).fleet ∧ c.advance.1.id = c.id := by
  have hid : c.id ∈ (l.stepCar c.id).fleet.ids := by
    rw [(leads_stepCar hl c.id).ids]
    exact Fleet.mem_ids.mpr ⟨c, hm, rfl⟩
  obtain ⟨c', hm', hid'⟩ := Fleet.mem_ids.mp hid
  obtain ⟨other, hother, hsame, hadvanced⟩ := advanced_of_stepCar hl (hid' ▸ hm')
  obtain rfl := List.inj_on_of_nodup_map hl.ids hother hm (hsame.symm.trans hid')
  rw [← hadvanced]
  exact ⟨hm', hid'⟩

end Ledger

namespace Bank

/-- The events that the rides of a run answer. -/
def ridden : Bank → List Op → List Event
  | _, [] => []
  | b, op :: rest => (b.perform op).2.ridden ++ ridden (b.perform op).1 rest

variable {b : Bank} {l : Ledger} {s : Strategy} {op : Op} {ops : List Op} {id : CarId} {g : Int}
  {floors : List Int}

/-! ### One operation -/

lemma Shows.perform_open (h : b.Shows l s) (hl : l.Sound) (hop : op.IsOpenService) :
    ∃ m, (b.perform op).1.Shows m (op.strategyAfter s) ∧
      Ledger.Leads (fun d => op.Comprises s d ∨ ∃ event, d = .announced event) l m := by
  obtain hroutine | ⟨event, rfl⟩ := hop
  · obtain ⟨m, hm, hleads⟩ := h.perform hl hroutine
    exact ⟨m, hm, hleads.mono fun d hd => .inl hd⟩
  · exact ⟨_, h.publish (react_passive (b.callbacks + 0)) event, .one (.inr ⟨event, rfl⟩) trivial⟩

/-- What a ride publishes is what it answers. -/
lemma Shows.published_ride (h : b.Shows l s) (hl : l.Sound) (hop : op.IsRide) :
    (b.perform op).1.published = b.published ++ (b.perform op).2.ridden := by
  cases ha : (b.perform op).2 with
  | events es => exact h.published_perform hl hop ha
  | _ =>
    cases op with
    | step times => cases ha
    | stepCar car times =>
      change (onCar b car fun _ => (Bank.repeated (Bank.stepCar _ · car) times b).map _ _).2 = _ at ha
      show (onCar b car fun _ =>
        (Bank.repeated (Bank.stepCar _ · car) times b).map _ _).1.published = _
      unfold onCar at ha ⊢
      split at ha
      · cases ha
      · exact (List.append_nil _).symm
    | _ => cases hop

/-- An operation delivers a passenger only by a ride that answers the stop. -/
lemma Shows.leads_undelivered (h : b.Shows l s) (hl : l.Sound) (hop : op.IsOpenService)
    (hn : ∀ d, .stopServed id g d ∉ (b.perform op).2.ridden) :
    ∃ m, (b.perform op).1.Shows m (op.strategyAfter s) ∧
      Ledger.Leads (¬Deed.Delivers id g ·) l m := by
  obtain ⟨m, hm, hleads⟩ := h.perform_open hl hop
  refine ⟨m, hm, hleads.recorded.mono ?_⟩
  rintro d ⟨hd, hrecorded⟩ hdelivers
  cases d with
  | served car t =>
    obtain ⟨rfl, rfl⟩ := hdelivers
    obtain hd | ⟨event, hd⟩ := hd
    · have hevents := h.published_ride hl hd.not_served
      have hserved := hrecorded _ rfl
      obtain rfl := h.ledger
      obtain rfl := hm.ledger
      rw [Ledger.since, Bank.ledger, Bank.ledger, hevents, List.drop_left] at hserved
      exact hn _ hserved
    · cases hd
  | _ => cases hdelivers

lemma Shows.run_open (h : b.Shows l s) (hl : l.Sound) (hops : ∀ op ∈ ops, op.IsOpenService) :
    ∃ m s', (b.run ops).Shows m s' ∧ m.Sound := by
  induction ops generalizing b l s with
  | nil => exact ⟨l, s, h, hl⟩
  | cons op rest ih =>
    obtain ⟨m, hm, hleads⟩ := h.perform_open hl (hops op List.mem_cons_self)
    exact ih hm (hleads.sound hl) fun op hop => hops op (List.mem_cons_of_mem _ hop)

/-- Over a run, a passenger's request stays until a ride answers the stop. -/
theorem Shows.carries_run (h : b.Shows l s) (hl : l.Sound)
    (hops : ∀ op ∈ ops, op.IsOpenService) (hc : l.fleet.Carries id g)
    (hn : ∀ d, .stopServed id g d ∉ b.ridden ops) : (b.run ops).fleet.Carries id g := by
  induction ops generalizing b l s with
  | nil =>
    obtain rfl := h.ledger
    exact hc
  | cons op rest ih =>
    simp only [ridden, List.mem_append, not_or] at hn
    obtain ⟨m, hm, hleads⟩ := h.leads_undelivered hl (hops op List.mem_cons_self) fun d => (hn d).1
    exact ih hm (hleads.sound hl) (fun op hop => hops op (List.mem_cons_of_mem _ hop))
      (Ledger.carries_of_leads hleads hl hc) fun d => (hn d).2

/-- A passenger whose call is answered as queued is bound for the floor. -/
lemma Shows.carries_of_queued (h : b.Shows l s) (hl : l.Sound) {car : CarId}
    (ha : (b.perform (.carCall car g)).2 = .outcome (.cabinQueued id)) :
    ∃ m, (b.perform (.carCall car g)).1.Shows m s ∧ m.Sound ∧ id = car ∧
      m.fleet.Carries car g := by
  obtain ⟨hanswer, hstands⟩ := h.stands.carCall car g
  have hshow := h.of_stands hstands
  change Answer.ofExcept (Bank.carCall b car g).2 = _ at ha
  rw [hanswer] at ha
  dsimp only [Ledger.carCall] at ha hshow
  split_ifs at ha hshow with hc
  · cases ha
    obtain ⟨c, hc⟩ := Option.isSome_iff_exists.mp hc
    obtain ⟨hm, rfl⟩ := (Fleet.car?_eq_some_iff hl.ids).mp hc
    refine ⟨_, hshow, hl.after (d := .boarded c.id g) trivial, rfl, _, List.mem_map_of_mem hm,
      Deed.act_id _ _ _, ?_⟩
    exact (Deed.hasCabinStop_act hl hm (d := .boarded c.id g) trivial g).mpr (.inl ⟨rfl, rfl⟩)
  · cases ha

/-- A step of a car that serves a floor is a step of the car in whose name the stop is
published. It leaves the car there, without passengers bound for the floor. -/
theorem Shows.delivered_of_served (h : b.Shows l s) (hl : l.Sound) {events : List Event}
    {car : CarId} {d : Direction} (ha : (b.perform (.stepCar id 1)).2 = .events events)
    (hserved : .stopServed car g d ∈ events) :
    id = car ∧ ∃ c ∈ (b.perform (.stepCar id 1)).1.fleet,
      c.id = car ∧ c.floor = g ∧ c.hasCabinStop g = false := by
  have hr := react_passive (b.callbacks + 0)
  change (onCar b id fun _ => (Bank.repeated (Bank.stepCar _ · id) 1 b).map _ _).2 = _ at ha
  have hshow := h.performWith_stepCar hl hr id 1
  unfold onCar at ha
  rw [h.car?] at ha
  cases hc : l.fleet.car? id with
  | none =>
    rw [hc] at ha
    cases ha
  | some c =>
    have hcar : b.car? id = some c := (h.car? id).trans hc
    obtain ⟨hmem, rfl⟩ := (Fleet.car?_eq_some_iff hl.ids).mp hc
    have hevents : events = c.advance.2 := by
      rw [hc] at ha
      simpa [Bank.repeated, Bank.stepCar, hcar] using (Answer.events.inj ha).symm
    rw [hevents] at hserved
    have hw := hl.cars c hmem
    obtain ⟨hcar', hfloor, hcabin⟩ := Car.delivered_of_advance hw hserved
    obtain ⟨hstepped, hid⟩ := Ledger.mem_stepCar hl hmem
    have hfleet : (b.perform (.stepCar c.id 1)).1.fleet = (l.stepCar c.id).fleet :=
      congrArg Ledger.fleet hshow.ledger
    rw [hfleet]
    exact ⟨hcar', _, hstepped, hid.trans hcar', hfloor, hcabin⟩

/-! ### Steps of the fleet -/

/-- A run of rides publishes what it answers. -/
lemma Shows.published_rides (h : b.Shows l s) (hl : l.Sound) (hops : ∀ op ∈ ops, op.IsRide) :
    (b.run ops).published = b.published ++ b.ridden ops := by
  induction ops generalizing b l s with
  | nil => exact (List.append_nil _).symm
  | cons op rest ih =>
    have hride := hops op List.mem_cons_self
    obtain ⟨m, hm, hleads⟩ := h.perform hl hride.isRoutine
    rw [run_cons, ih hm (hleads.sound hl) fun op hop => hops op (List.mem_cons_of_mem _ hop),
      h.published_ride hl hride, ridden, List.append_assoc]

/-- Steps of the fleet are steps of its cars one after another, with the same events. -/
lemma Shows.step_eq_run (h : b.Shows l s) (hl : l.Sound) (n : Nat) :
    let cars := (List.replicate n b.fleet.ids).flatten.map (Op.stepCar · 1)
    (b.perform (.step n)).1.ledger = (b.run cars).ledger ∧
      (b.perform (.step n)).2 = .events (b.ridden cars) := by
  intro cars
  have hledger := h.ledger_step hl n
  refine ⟨hledger, ?_⟩
  have hrides : ∀ op ∈ cars, op.IsRide := by
    intro op hop
    obtain ⟨id, -, rfl⟩ := List.mem_map.mp hop
    trivial
  have hride : (Op.step n).IsRide := trivial
  have hstep := h.published_ride hl hride
  have hsame : (b.perform (.step n)).1.published = (b.run cars).published :=
    congrArg Ledger.history hledger
  rw [hsame, h.published_rides hl hrides] at hstep
  have hevents : b.ridden cars = (b.perform (.step n)).2.ridden := List.append_cancel_left hstep
  rw [hevents]
  rfl

/-- Whatever calls, steps and changes of mode and strategy there are and whatever is published,
a passenger whose call has been queued is carried until a ride answers a stop served for the
floor by that car. The step of a car that answers it is that car's own, and leaves it at the
floor without the passenger; a step of the fleet is made of such steps, one for each car. -/
theorem Fresh.passengers_kept {before : List Op} (hb : b.Fresh floors s)
    (hbefore : ∀ op ∈ before, op.IsOpenService) :
    (∀ car g id after,
      ((b.run before).perform (.carCall car g)).2 = .outcome (.cabinQueued id) →
      (∀ op ∈ after, op.IsOpenService) →
      let boarded := ((b.run before).perform (.carCall car g)).1
      (∀ d, .stopServed car g d ∉ boarded.ridden after) →
      id = car ∧ (boarded.run after).fleet.Carries car g) ∧
    (∀ id events car g d, ((b.run before).perform (.stepCar id 1)).2 = .events events →
      .stopServed car g d ∈ events →
      id = car ∧ ∃ c ∈ ((b.run before).perform (.stepCar id 1)).1.fleet,
        c.id = car ∧ c.floor = g ∧ c.hasCabinStop g = false) ∧
    ∀ n, let cars := (List.replicate n (b.run before).fleet.ids).flatten.map (Op.stepCar · 1)
      ((b.run before).perform (.step n)).1.ledger = ((b.run before).run cars).ledger ∧
        ((b.run before).perform (.step n)).2 = .events ((b.run before).ridden cars) := by
  obtain ⟨l, s', hshow, hl⟩ := hb.shows.run_open (Ledger.opening_sound floors) hbefore
  generalize b.run before = b at hshow
  refine ⟨fun car g id after ha hafter => ?_, fun id events car g d ha hserved => ?_, fun n => ?_⟩
  · intro boarded hn
    obtain ⟨m, hm, hsound, hid, hcarries⟩ := hshow.carries_of_queued hl ha
    exact ⟨hid, hm.carries_run hsound hafter hcarries hn⟩
  · exact hshow.delivered_of_served hl ha hserved
  · exact hshow.step_eq_run hl n

/-- A passenger in car 1 is bound for floor 3, where both cars have been called. A forged event
settles the call in favour of car 2; car 1 goes to the floor all the same. -/
theorem Fresh.passengers_kept_forged : ∃ b, Bank.start {} = .ok b ∧
    ((((b.run [.hallCall 3 .up]).perform (.carCall 1 3)).1.run
        [.publish (.stopServed 2 3 .up), .setMode 1 .maintenance, .step 2]).fleet.Carries 1 3) ∧
      ∃ c ∈ ((b.run [.hallCall 3 .up, .carCall 1 3, .publish (.stopServed 2 3 .up), .step 2]).perform
        (.stepCar 1 1)).1.fleet, c.id = 1 ∧ c.floor = 3 ∧ c.hasCabinStop 3 = false := by
  have hstart : Bank.start {} = .ok _ := rfl
  refine ⟨_, hstart, ?_, ?_⟩
  · have hcalled : ∀ op ∈ [Op.hallCall 3 .up], op.IsOpenService := by
      simp [Op.IsOpenService, Op.IsRoutine]
    obtain ⟨hkept, -, -⟩ := (Fresh.started hstart).passengers_kept hcalled
    refine (hkept 1 3 1 _ rfl (by simp [Op.IsOpenService, Op.IsRoutine]) fun d hm => ?_).2
    change _ ∈ [Event.carMoved 1 0 1 .up, .carMoved 2 0 1 .up, .carMoved 1 1 2 .up,
      .carMoved 2 1 2 .up] at hm
    simp at hm
  · have hridden : ∀ op ∈ [Op.hallCall 3 .up, .carCall 1 3, .publish (.stopServed 2 3 .up),
        .step 2], op.IsOpenService := by
      simp [Op.IsOpenService, Op.IsRoutine]
    obtain ⟨-, hended, -⟩ := (Fresh.started hstart).passengers_kept hridden
    exact (hended 1 [.carMoved 1 2 3 .up, .stopServed 1 3 .up] 1 3 .up rfl (by simp)).2

end Bank
end ElevatorBank
