import ElevatorBank.Proofs.Dispatch
import ElevatorBank.Proofs.Travel

/-!
# Routine service

Runs of calls, steps and changes of mode and strategy, while no handler calls back. What
one operation does to the ledger is said by `Shows.perform`: it consists of deeds that the
operation comprises.
-/
namespace ElevatorBank

/-- The operations of routine service: calls, steps, changes of mode and of strategy, and
subscriptions of handlers that make no calls. -/
def Op.IsRoutine : Op → Prop
  | .hallCall .. | .carCall .. | .step _ | .stepCar .. | .setMode .. | .setStrategy _ => True
  | .subscribe _ _ script => script.calls = []
  | _ => False

/-- The operations by which cars ride. -/
def Op.IsRide : Op → Prop
  | .step _ | .stepCar .. => True
  | _ => False

lemma Op.IsRide.isRoutine {op : Op} (h : op.IsRide) : op.IsRoutine := by
  cases op with
  | step | stepCar => trivial
  | _ => cases h

/-- The deeds that an operation may consist of while a strategy is in force. -/
def Op.Comprises (s : Strategy) : Op → Deed → Prop
  | .hallCall floor direction, .announced event => event = .hallCallRaised floor direction
  | .hallCall floor direction, .raced t _ => t = ⟨floor, direction⟩ ∧ s.isBroadcast = true
  | .hallCall floor direction, .given t _ => t = ⟨floor, direction⟩ ∧ s.isBroadcast = false
  | .carCall car floor, .boarded id g => id = car ∧ g = floor
  | .setMode car mode, .switched id m => id = car ∧ m = mode
  | .step _, d => ∃ id, d.IsRideOf id
  | .stepCar car _, d => d.IsRideOf car
  | _, _ => False

lemma Op.IsRide.rides {s : Strategy} {op : Op} {d : Deed} (h : op.IsRide)
    (hd : op.Comprises s d) : ∃ id, d.IsRideOf id := by
  cases op with
  | step => exact hd
  | stepCar car => exact ⟨car, hd⟩
  | _ => cases h

/-- The strategy in force after an operation. -/
def Op.strategyAfter (s : Strategy) : Op → Strategy
  | .setStrategy s' => s'
  | _ => s

/-- An operation brings no strategy into force but one with a property. -/
def Op.Installs (P : Strategy → Prop) : Op → Prop
  | .setStrategy s => P s
  | _ => True

lemma Op.installs_any (op : Op) : op.Installs fun _ => True := by
  cases op <;> trivial

lemma Op.Installs.strategyAfter {P : Strategy → Prop} {s : Strategy} {op : Op}
    (ho : op.Installs P) (hs : P s) : P (op.strategyAfter s) := by
  cases op with
  | setStrategy s' => exact ho
  | _ => exact hs

namespace Ledger

/-- The ledger after an operation of routine service other than a hall call. -/
def follow (l : Ledger) : Op → Ledger
  | .carCall car floor => (l.carCall car floor).1
  | .step times => step^[times] l
  | .stepCar car times => (stepCar · car)^[times] l
  | .setMode car mode => l.after (.switched car mode)
  | _ => l

lemma after_switched (l : Ledger) (car : CarId) (mode : Mode) :
    l.after (.switched car mode) =
      { l with fleet := l.fleet.change car ({ · with mode }) } := by
  simp only [after, Deed.event?, Option.toList_none, List.append_nil]
  rfl

lemma leads_follow {l : Ledger} (hl : l.Sound) (s : Strategy) (op : Op) :
    Leads (op.Comprises s) l (l.follow op) := by
  cases op with
  | carCall car floor =>
    show Leads _ l (l.carCall car floor).1
    unfold carCall
    split_ifs
    · exact .one ⟨rfl, rfl⟩ trivial
    · exact .refl l
  | step times => exact leads_iterate (fun l hl => leads_step hl) hl times
  | stepCar car times => exact leads_iterate (fun l hl => leads_stepCar hl car) hl times
  | setMode car mode => exact .one ⟨rfl, rfl⟩ trivial
  | _ => exact .refl l

end Ledger

namespace Bank

/-- The bank after a list of operations. -/
def run (b : Bank) (ops : List Op) : Bank := ops.foldl (fun b op => (b.perform op).1) b

@[simp] lemma run_nil (b : Bank) : b.run [] = b := rfl

@[simp] lemma run_cons (b : Bank) (op : Op) (ops : List Op) :
    b.run (op :: ops) = (b.perform op).1.run ops := rfl

variable {b : Bank} {l : Ledger} {s : Strategy} {react : React}

/-! ### One operation -/

lemma Shows.setMode (h : b.Shows l s) (c : Car) (mode : Mode) :
    (b.setMode c mode).Shows (l.after (.switched c.id mode)) s := by
  have hfleet : b.fleet = l.fleet := congrArg Ledger.fleet h.ledger
  have hset := h.with_fleet (l.fleet.change c.id ({ · with mode }))
  unfold Bank.setMode
  rw [Ledger.after_switched, hfleet]
  split_ifs
  · exact hset
  · exact hset.say _ _ _

lemma Shows.performWith_stepCar (h : b.Shows l s) (hl : l.Sound) (hr : Passive react)
    (car : CarId) (times : Nat) :
    (performWith react b (.stepCar car times)).1.Shows ((Ledger.stepCar · car)^[times] l) s := by
  show (onCar b car fun _ =>
    (Bank.repeated (Bank.stepCar react · car) times b).map id Answer.events).1.Shows _ s
  unfold onCar
  rw [h.car?]
  cases hc : l.fleet.car? car with
  | none =>
    rw [Function.iterate_fixed (Ledger.stepCar_of_unknown hc)]
    exact h
  | some c => exact (h.repeated_stepCar hl hr car times).1

lemma Shows.perform_hallCall (h : b.Shows l s) (hl : l.Sound) (hr : Passive react) (floor : Int)
    (direction : Direction) :
    ∃ m, (Bank.hallCall react b floor direction).1.Shows m s ∧
      Ledger.Leads (Op.Comprises s (.hallCall floor direction)) l m := by
  have hraised : Ledger.Leads (Op.Comprises s (.hallCall floor direction)) l
      (l.after (.announced (.hallCallRaised floor direction))) := .one rfl trivial
  rcases h.hallCall_cases hl hr floor direction with ⟨-, he⟩ |
    ⟨-, ⟨_, -, -, hshow⟩ | ⟨chosen, -, hfits, -, hshow⟩⟩
  · rw [he]
    exact ⟨l, h, .refl l⟩
  · exact ⟨_, hshow, hraised⟩
  · refine ⟨_, hshow, hraised.trans (.one ?_ hfits)⟩
    unfold Deed.assigning
    split_ifs with hb
    · exact ⟨rfl, hb⟩
    · exact ⟨rfl, by simpa using hb⟩

lemma Shows.subscribe (h : b.Shows l s) (name : String) (kinds : List EventKind)
    {script : Script Op} (hs : script.calls = []) :
    ({ b with bus := b.bus.subscribeScript name kinds script }.noteSubscription name kinds).Shows
      l s := by
  have hcalm : (b.bus.subscribeScript name kinds script).Calm := by
    obtain ⟨sub, hm, hsub⟩ := h.calm.resolver
    refine ⟨fun other hother => ?_, sub, List.mem_append_left _ hm, hsub⟩
    rcases List.mem_append.mp hother with hother | hother
    · exact h.calm.silent other hother
    · rw [List.mem_singleton.mp hother]
      exact hs
  exact Shows.say (b := { b with bus := b.bus.subscribeScript name kinds script })
    ⟨h.ledger, h.strategy, hcalm⟩ _ _ _

/-- An operation of routine service other than a hall call does what it does on the ledger. -/
theorem Shows.follow (h : b.Shows l s) (hl : l.Sound) {op : Op} (hop : op.IsRoutine)
    (hcall : ∀ floor direction, op ≠ .hallCall floor direction) :
    (b.perform op).1.Shows (l.follow op) (op.strategyAfter s) := by
  have hr := react_passive (b.callbacks + op.callbacks)
  unfold Bank.perform
  generalize Bank.react (b.callbacks + op.callbacks) = react at hr
  cases op with
  | hallCall floor direction => exact absurd rfl (hcall floor direction)
  | carCall car floor => exact h.of_stands (h.stands.carCall car floor).2
  | step times => exact (h.repeated_step hl hr times).1
  | stepCar car times => exact h.performWith_stepCar hl hr car times
  | setMode car mode =>
    show (onCar b car fun c => (b.setMode c mode, .mode c.mode)).1.Shows
      (l.after (.switched car mode)) s
    unfold onCar
    rw [h.car?]
    cases hc : l.fleet.car? car with
    | none =>
      rw [Ledger.after_switched, Fleet.change_of_unknown (Fleet.car?_eq_none_iff.mp hc)]
      exact h
    | some c =>
      obtain rfl : c.id = car := by simpa using List.find?_some hc
      exact h.setMode c mode
  | setStrategy strategy =>
    have hset : { b with strategy }.Shows l strategy := ⟨h.ledger, rfl, h.calm⟩
    exact hset.say _ _ _
  | subscribe name kinds script => exact h.subscribe name kinds hop
  | _ => cases hop

/-- An operation of routine service leaves a quiet bank quiet, and on the ledger it does
nothing but deeds that it comprises. -/
theorem Shows.perform (h : b.Shows l s) (hl : l.Sound) {op : Op} (hop : op.IsRoutine) :
    ∃ m, (b.perform op).1.Shows m (op.strategyAfter s) ∧ Ledger.Leads (op.Comprises s) l m := by
  by_cases hcall : ∃ floor direction, op = .hallCall floor direction
  · obtain ⟨floor, direction, rfl⟩ := hcall
    exact h.perform_hallCall hl (react_passive (b.callbacks + 0)) floor direction
  · have hfollowed := h.follow hl hop fun floor direction he => hcall ⟨floor, direction, he⟩
    exact ⟨_, hfollowed, Ledger.leads_follow hl s op⟩

/-- The events that a ride answers are those it has published. -/
theorem Shows.published_perform (h : b.Shows l s) (hl : l.Sound) {op : Op} (hop : op.IsRide)
    {events : List Event} (ha : (b.perform op).2 = .events events) :
    (b.perform op).1.published = b.published ++ events := by
  have hr := react_passive (b.callbacks + op.callbacks)
  have hpublished : b.published = l.history := congrArg Ledger.history h.ledger
  unfold Bank.perform at ha ⊢
  generalize Bank.react (b.callbacks + op.callbacks) = react at hr ha ⊢
  rw [hpublished]
  cases op with
  | step times =>
    obtain ⟨hshow, -, hevents⟩ := h.repeated_step hl hr times
    cases ha
    exact (congrArg Ledger.history hshow.ledger).trans hevents
  | stepCar car times =>
    change (onCar b car fun _ =>
      (Bank.repeated (Bank.stepCar react · car) times b).map id Answer.events).2 = _ at ha
    show (onCar b car fun _ =>
      (Bank.repeated (Bank.stepCar react · car) times b).map id Answer.events).1.published = _
    unfold onCar at ha ⊢
    split at ha
    · obtain ⟨hshow, -, hevents⟩ := h.repeated_stepCar hl hr car times
      cases ha
      exact (congrArg Ledger.history hshow.ledger).trans hevents
    · cases ha
  | _ => cases hop

/-- A run of routine service leaves a quiet bank quiet, and on the ledger it does nothing
but deeds that its operations comprise under the strategies it has been through. -/
theorem Shows.run {P : Strategy → Prop} {ops : List Op} (h : b.Shows l s) (hl : l.Sound)
    (hs : P s) (hops : ∀ op ∈ ops, op.IsRoutine ∧ op.Installs P) :
    ∃ m s', (b.run ops).Shows m s' ∧ P s' ∧
      Ledger.Leads (fun d => ∃ s, P s ∧ ∃ op ∈ ops, op.Comprises s d) l m := by
  induction ops generalizing b l s with
  | nil => exact ⟨l, s, h, hs, .refl l⟩
  | cons op rest ih =>
    obtain ⟨hroutine, hinstalls⟩ := hops op List.mem_cons_self
    obtain ⟨m, hm, hfirst⟩ := h.perform hl hroutine
    obtain ⟨n, s', hn, hs', hrest⟩ := ih hm (hfirst.sound hl) (hinstalls.strategyAfter hs)
      fun op hop => hops op (List.mem_cons_of_mem _ hop)
    refine ⟨n, s', hn, hs', .trans (hfirst.mono ?_) (hrest.mono ?_)⟩
    · exact fun d hd => ⟨s, hs, op, List.mem_cons_self, hd⟩
    · rintro d ⟨s, hs, op, hop, hd⟩
      exact ⟨s, hs, op, List.mem_cons_of_mem _ hop, hd⟩

/-! ### New banks -/

/-- A bank as it has just been set up: where its cars stand, and its first strategy. -/
inductive Fresh : Bank → List Int → Strategy → Prop
  | started {config : Config} {b : Bank} (h : Bank.start config = .ok b) :
    Fresh b config.startFloors (.ofKind config.strategy)
  | assembled {config : Config} {floors : List Int} {s : Strategy} {capacity workers : Nat}
    {b : Bank} (h : Bank.dispatching { config } floors s capacity workers = .ok b) :
    Fresh b floors s

lemma outline_addFleet (b : Bank) (floors : List Int) :
    (b.addFleet floors).outline = { b with fleet := b.fleet ++ Fleet.start floors }.outline := by
  unfold addFleet
  dsimp only
  rw [outline_say]
  generalize Fleet.start floors = cars
  induction cars generalizing b with
  | nil => simp
  | cons c rest ih =>
    have hadd : (b.addCar c).outline = { b with fleet := b.fleet ++ [c] }.outline :=
      outline_say _ _ _ _
    simp only [outline, ledger, Outline.mk.injEq, Ledger.mk.injEq] at hadd ih ⊢
    obtain ⟨⟨hfleet, hcalls, hpublished⟩, hbus, hstrategy⟩ := hadd
    obtain ⟨⟨ihfleet, ihcalls, ihpublished⟩, ihbus, ihstrategy⟩ := ih (b.addCar c)
    refine ⟨⟨?_, ihcalls.trans hcalls, ihpublished.trans hpublished⟩, ihbus.trans hbus,
      ihstrategy.trans hstrategy⟩
    rw [List.foldl_cons, ihfleet, hfleet, List.append_assoc]
    rfl

end Bank

/-- Cars at rest, with nothing pending and nothing published. -/
def Ledger.opening (floors : List Int) : Ledger := ⟨Fleet.start floors, [], []⟩

theorem Ledger.opening_sound (floors : List Int) : (Ledger.opening floors).Sound where
  ids := Fleet.start_ids_nodup floors
  cars := by
    intro c hm
    obtain ⟨id, floor, -, rfl⟩ := Fleet.mem_start hm
    exact Car.start_wellFormed id floor
  unique := List.nodup_nil
  keys := fun _ ht => by cases ht
  owed := fun _ ht => by cases ht

namespace Bank

variable {b b' : Bank} {floors : List Int} {s : Strategy}

/-- Setting up adds the cars to the fleet and the resolver to the bus. -/
theorem dispatching_outline {capacity workers : Nat}
    (h : b.dispatching floors s capacity workers = .ok b') :
    b'.outline = ⟨⟨b.fleet ++ Fleet.start floors, b.calls, b.published⟩,
      b.bus.subscribe ⟨resolverName, [.stopServed], .resolver⟩, s⟩ := by
  have hcars := outline_addFleet b floors
  unfold dispatching addQueue at h
  generalize b.addFleet floors = staffed at h hcars
  have hready : (staffed.addResolver.addStrategy s).outline =
      { staffed.outline with
        bus := staffed.bus.subscribe ⟨resolverName, [.stopServed], .resolver⟩
        strategy := s } := by
    have hresolved : staffed.addResolver.outline =
        { staffed with bus := staffed.bus.subscribe _ }.outline := outline_say _ _ _ _
    refine (outline_say _ _ _ _).trans ?_
    exact congrArg (fun o : Outline => { o with strategy := s }) hresolved
  cases hq : Queue.start capacity workers with
  | error e =>
    rw [hq] at h
    cases h
  | ok queue =>
    rw [hq] at h
    cases h
    rw [outline_say]
    exact hready.trans (congrArg (fun o : Outline => { o with
      bus := o.bus.subscribe ⟨resolverName, [.stopServed], .resolver⟩
      strategy := s }) hcars)

/-- Setting up starts a queue that has room and a worker. -/
lemma dispatching_queue {capacity workers : Nat}
    (h : b.dispatching floors s capacity workers = .ok b') :
    0 < capacity ∧ 0 < workers ∧ b'.queue = { capacity, workerCount := workers } := by
  unfold dispatching addQueue Queue.start at h
  split_ifs at h with hnone hfits
  · cases h
  · cases h
    exact ⟨by omega, by omega, queue_say _ _ _ _⟩
  · cases h

/-- A new bank has been set up from one on which nothing had happened. -/
lemma Fresh.set_up (h : b.Fresh floors s) : ∃ (base ready : Bank) (capacity workers : Nat),
    base.ledger = ⟨[], [], []⟩ ∧ base.bus.scripts = [] ∧
      base.dispatching floors s capacity workers = .ok ready ∧
      b.outline = ready.outline ∧ b.queue = ready.queue := by
  cases h with
  | @started config b h =>
    unfold Bank.start at h
    cases hv : config.validate with
    | error e =>
      rw [hv] at h
      cases h
    | ok =>
      rw [hv] at h
      generalize hb : Bank.listen { config } loggerName [] .logger = listening at h
      have ho : listening.outline =
          ⟨⟨[], [], []⟩, Bus.empty.subscribe ⟨loggerName, [], .logger⟩, .broadcast⟩ := by
        rw [← hb]
        exact outline_say _ _ _ _
      cases hd : listening.dispatching config.startFloors (.ofKind config.strategy) config.capacity
          config.workerCount with
      | error e =>
        simp [hd, bind, Except.bind] at h
      | ok ready =>
        simp only [hd, bind, Except.bind, pure, Except.pure, Except.ok.injEq] at h
        rw [← h]
        exact ⟨listening, ready, _, _, congrArg Outline.ledger ho,
          congrArg (fun o : Outline => o.bus.scripts) ho, hd, outline_say _ _ _ _,
          queue_say _ _ _ _⟩
  | assembled h => exact ⟨_, b, _, _, rfl, rfl, h, rfl, rfl⟩

/-- A new bank is quiet, and its ledger shows nothing yet. -/
theorem Fresh.shows (h : b.Fresh floors s) : b.Shows (.opening floors) s := by
  obtain ⟨base, ready, capacity, workers, hledger, hscripts, hready, houtline, -⟩ := h.set_up
  obtain ⟨hfleet, hcalls, hpublished⟩ := Ledger.mk.inj hledger
  have ho := dispatching_outline hready
  rw [hfleet, hcalls, hpublished] at ho
  have hcalm : (base.bus.subscribe ⟨resolverName, [.stopServed], .resolver⟩).Calm := by
    refine ⟨fun script hm => ?_, _, List.mem_append_right _ (List.mem_singleton.mpr rfl), rfl, rfl⟩
    have hm : script ∈ base.bus.scripts := hm
    rw [hscripts] at hm
    cases hm
  have hshows : ready.Shows (.opening floors) s :=
    ⟨congrArg Outline.ledger ho, congrArg Outline.strategy ho, by
      rw [show ready.bus = _ from congrArg Outline.bus ho]
      exact hcalm⟩
  exact hshows.of_outline houtline

/-- On a new bank the queue is empty. -/
theorem Fresh.queue (h : b.Fresh floors s) : ∃ capacity workers, 0 < capacity ∧ 0 < workers ∧
    b.queue = { capacity, workerCount := workers } := by
  obtain ⟨base, ready, capacity, workers, -, -, hready, -, hqueue⟩ := h.set_up
  obtain ⟨hcapacity, hworkers, hstarted⟩ := dispatching_queue hready
  exact ⟨capacity, workers, hcapacity, hworkers, hqueue.trans hstarted⟩

/-- Every run of routine service from a new bank is a chain of deeds from its opening ledger. -/
theorem Fresh.run {P : Strategy → Prop} {ops : List Op} (h : b.Fresh floors s) (hs : P s)
    (hops : ∀ op ∈ ops, op.IsRoutine ∧ op.Installs P) :
    ∃ l s', (b.run ops).Shows l s' ∧ P s' ∧ l.Sound ∧
      Ledger.Leads (fun d => ∃ s, P s ∧ ∃ op ∈ ops, op.Comprises s d) (.opening floors) l := by
  have hopening := Ledger.opening_sound floors
  obtain ⟨l, s', hshow, hs', hleads⟩ := h.shows.run hopening hs hops
  exact ⟨l, s', hshow, hs', hleads.sound hopening, hleads⟩

end Bank
end ElevatorBank
