import ElevatorBank.Proofs.Backed
import ElevatorBank.Proofs.Lasting
import ElevatorBank.Proofs.Service

/-!
# Handlers that call back

Between taking a stop off its sets and announcing it as served a car publishes that it has
moved, and the handlers may call back into the bank. A bank is secure as long as its pending
calls are backed, given what is under way: a step of a car puts its stop under way, and the
announcement takes it out again (`Secure.publish`), whatever the handlers in between have
done. At the top nothing is under way, so no pending call is stranded
(`SetUp.no_call_stranded`).
-/
namespace ElevatorBank

mutual

/-- Neither the operation nor a handler it subscribes gives up a pending call or takes the
resolver off the bus. -/
def Op.IsTame : Op → Prop
  | .withdraw .. | .withdrawFromOthers .. | .register .. => False
  | .unsubscribe name => name ≠ Bank.resolverName
  | .subscribe _ _ script => scriptIsTame script
  | _ => True

def scriptIsTame : Script Op → Prop
  | ⟨calls, _, _⟩ => callsAreTame calls

def callsAreTame : List Op → Prop
  | [] => True
  | op :: rest => op.IsTame ∧ callsAreTame rest

end

/-- The served stops reach the resolver, and no script does anything to prevent it. -/
structure Bus.Guarded (bus : Bus Op) : Prop where
  resolver : ∃ sub ∈ bus.subscriptions, sub.name = Bank.resolverName ∧
    sub.subscriber = .resolver ∧ sub.wants .stopServed = true
  tame : ∀ script ∈ bus.scripts, callsAreTame script.calls

/-- Scripts that are tame stay so, and the resolver stays where it is. -/
lemma Bus.Guarded.react {bus : Bus Op} (h : bus.Guarded) (slot : Nat) :
    callsAreTame (bus.react slot).1.calls ∧ (bus.react slot).2.Guarded := by
  obtain ⟨hcalls, htame, hsame⟩ := Bus.calls_react (P := callsAreTame) trivial h.tame slot
  refine ⟨hcalls, ?_, htame⟩
  rw [hsame]
  exact h.resolver

namespace Bank

/-- The pending calls are backed and the bus is guarded. -/
structure Secure (underway : CarId → Target → Prop) (b : Bank) : Prop where
  calls : b.calls.Backed b.fleet underway
  bus : b.bus.Guarded

/-- Whatever is under way, a bank is as secure as it was. -/
def Upholds (a b : Bank) : Prop := ∀ F, a.Secure F → b.Secure F ∧ b.fleet.ids = a.fleet.ids

variable {a b b' : Bank} {F G : CarId → Target → Prop} {react : React}

lemma Secure.of_parts (h : b.Secure F) (hfleet : b'.fleet = b.fleet) (hcalls : b'.calls = b.calls)
    (hsubscriptions : b'.bus.subscriptions = b.bus.subscriptions)
    (hscripts : b'.bus.scripts = b.bus.scripts) : b'.Secure F where
  calls := by
    rw [hfleet, hcalls]
    exact h.calls
  bus := by
    obtain ⟨hresolver, htame⟩ := h.bus
    rw [← hsubscriptions] at hresolver
    rw [← hscripts] at htame
    exact ⟨hresolver, htame⟩

lemma Secure.of_outline (h : b.Secure F) (ho : b'.outline = b.outline) : b'.Secure F :=
  h.of_parts (congrArg (·.ledger.fleet) ho) (congrArg (·.ledger.calls) ho)
    (congrArg (·.bus.subscriptions) ho) (congrArg (·.bus.scripts) ho)

lemma Secure.change (h : b.Secure F) {car : CarId} {c : Car} (hc : b.car? car = some c)
    {g : Car → Car} (hid : (g c).id = c.id) (hw : (g c).WellFormed)
    (hkeep : ∀ u : Target, c.hasHallStop u.floor u.direction = true →
      (g c).hasHallStop u.floor u.direction = true ∨ G c.id u)
    (hFG : ∀ id u, F id u → G id u) : { b with fleet := b.fleet.change c.id g }.Secure G := by
  obtain ⟨hm, rfl⟩ := (Fleet.car?_eq_some_iff h.calls.ids).mp hc
  refine ⟨?_, h.bus⟩
  rw [← Fleet.change_eq_of_car? h.calls.ids hc g]
  exact h.calls.change hm hid hw hkeep hFG

/-- Resolving a call takes its serving out of what is under way. -/
theorem Secure.resolve (h : b.Secure F) (car : CarId) (t : Target)
    (hFG : ∀ id u, u ≠ t → F id u → G id u) : (b.resolve car t).1.Secure G := by
  have hresolved := h.calls.resolve hFG
  cases hpending : b.calls.has t with
  | false =>
    rw [HallCalls.resolve_of_not_has hpending] at hresolved
    rw [resolve_of_not_pending hpending]
    exact ⟨hresolved, h.bus⟩
  | true =>
    refine Secure.of_outline (b := { b with
      fleet := b.fleet.withdrawFromOthers car t
      calls := b.calls.resolve t }) ⟨?_, h.bus⟩ (outline_resolve_of_pending hpending car)
    exact hresolved.withdrawFromOthers (h.calls.keys t hpending)
      (fun hp => ((HallCalls.has_resolve _ _ _).mp hp).1 rfl) car

/-! ### Single changes -/

lemma Upholds.of_parts (hfleet : b'.fleet = b.fleet) (hcalls : b'.calls = b.calls)
    (hsubscriptions : b'.bus.subscriptions = b.bus.subscriptions)
    (hscripts : b'.bus.scripts = b.bus.scripts) : b.Upholds b' := fun _ h =>
  ⟨h.of_parts hfleet hcalls hsubscriptions hscripts, congrArg Fleet.ids hfleet⟩

lemma upholds_of_outline (ho : b'.outline = b.outline) : b.Upholds b' := fun _ h =>
  ⟨h.of_outline ho, congrArg Fleet.ids (fleet_of_outline ho)⟩

lemma Upholds.trans (h : a.Upholds b) (h' : b.Upholds b') : a.Upholds b' := fun F hF =>
  have hb := h F hF
  have hb' := h' F hb.1
  ⟨hb'.1, hb'.2.trans hb.2⟩

/-- A change of one car that takes no request away. -/
lemma upholds_change {car : CarId} {c : Car} (hc : b.car? car = some c) {g : Car → Car}
    (hid : ∀ c, (g c).id = c.id) (hw : c.WellFormed → (g c).WellFormed)
    (hkeep : c.WellFormed → ∀ u : Target, c.hasHallStop u.floor u.direction = true →
      (g c).hasHallStop u.floor u.direction = true) :
    b.Upholds { b with fleet := b.fleet.change c.id g } := by
  intro F h
  have hcar := h.calls.cars c ((Fleet.car?_eq_some_iff h.calls.ids).mp hc).1
  refine ⟨h.change hc (hid c) (hw hcar) (fun u hs => .inl (hkeep hcar u hs)) fun _ _ hu => hu, ?_⟩
  exact Fleet.ids_map fun other => by split_ifs <;> simp [hid]

lemma upholds_enqueue {car : CarId} {c : Car} (hc : b.car? car = some c) (t : Target) :
    b.Upholds (b.enqueue c t) := by
  refine (upholds_change hc (fun c => Car.enqueue_id c t) (·.enqueue t) fun hw u hs => ?_).trans
    (upholds_of_outline (outline_enqueue b c t))
  by_cases ht : t.direction.isHall = true
  · exact (Car.hasHallStop_enqueue hw ht u).mpr (.inr hs)
  · obtain ⟨floor, direction⟩ := t
    cases direction with
    | idle => exact (Car.hasHallStop_enqueueCabin hw floor _ _).trans hs
    | _ => exact absurd rfl ht

lemma upholds_setMode {car : CarId} {c : Car} (hc : b.car? car = some c) (mode : Mode) :
    b.Upholds (b.setMode c mode) := by
  have hset : b.Upholds { b with fleet := b.fleet.change c.id ({ · with mode }) } :=
    upholds_change hc (fun _ => rfl) (fun hw => ⟨hw.up, hw.down⟩) fun _ u hs => by simpa using hs
  exact hset.trans (upholds_of_outline (outline_setMode b c mode))

lemma upholds_resolve (b : Bank) (car : CarId) (t : Target) : b.Upholds (b.resolve car t).1 := by
  refine fun F h => ⟨h.resolve car t fun _ _ _ hu => hu, ?_⟩
  have hfleet := congrArg (·.ledger.fleet.ids) (outline_resolve b car t)
  exact hfleet.trans (Ledger.after_ids b.ledger _)

/-- An announced assignment can be carried out. -/
lemma upholds_assign (s : Strategy) {t : Target} {cars : List CarId}
    (ht : t.direction.isHall = true) (hne : cars ≠ []) (hknown : a.fleet.unknown? cars = none)
    (h : a.Upholds b) : a.Upholds (assign b s t cars) := by
  intro F ha
  obtain ⟨hb, hids⟩ := h F ha
  have hknown : ∀ id ∈ cars, id ∈ b.fleet.ids := by
    rw [hids]
    exact Fleet.unknown?_eq_none_iff.mp hknown
  have hqueued := hb.calls.enqueue ht cars
  have hsame := Fleet.ids_map (f := b.fleet) (g := fun c => if c.id ∈ cars then c.enqueue t else c)
    fun c => by split_ifs <;> simp
  rw [← Fleet.foldl_enqueue hb.calls.cars ht] at hqueued hsame
  unfold assign
  split_ifs
  · have hregistered := hqueued.register ht hne fun id hid => by
      rw [Fleet.foldl_enqueue hb.calls.cars ht]
      exact Fleet.owes_enqueue hb.calls.cars ht hid (hknown id hid)
    have hafter := outline_foldl_enqueueOn t cars { b with calls := b.calls.register t cars }
    unfold register
    refine ⟨(Secure.of_outline (b := { b with
      fleet := cars.foldl (fun f id => f.change id (·.enqueue t)) b.fleet
      calls := b.calls.register t cars }) ⟨hregistered, hb.bus⟩ hafter).of_outline
        (outline_say _ _ _ _), ?_⟩
    rw [fleet_of_outline (outline_say _ _ _ _), fleet_of_outline hafter]
    exact hsame.trans hids
  · have hafter := outline_foldl_enqueueOn t cars b
    refine ⟨Secure.of_outline (b := { b with
      fleet := cars.foldl (fun f id => f.change id (·.enqueue t)) b.fleet }) ⟨hqueued, hb.bus⟩
        hafter, ?_⟩
    rw [fleet_of_outline hafter]
    exact hsame.trans hids

lemma upholds_subscribe (b : Bank) {name : String} {kinds : List EventKind} {script : Script Op}
    (hs : callsAreTame script.calls) :
    b.Upholds { b with bus := b.bus.subscribeScript name kinds script } := by
  refine fun F h => ⟨⟨h.calls, ?_, fun other hother => ?_⟩, rfl⟩
  · obtain ⟨sub, hm, hsub⟩ := h.bus.resolver
    exact ⟨sub, List.mem_append_left _ hm, hsub⟩
  · rcases List.mem_append.mp hother with hother | hother
    · exact h.bus.tame other hother
    · rw [List.mem_singleton.mp hother]
      exact hs

lemma upholds_unsubscribe (b : Bank) {name : String} (hn : name ≠ resolverName) :
    b.Upholds { b with bus := b.bus.unsubscribe name } := by
  refine fun F h => ⟨⟨h.calls, ?_, h.bus.tame⟩, rfl⟩
  obtain ⟨sub, hm, hname, hsub⟩ := h.bus.resolver
  refine ⟨sub, List.mem_filter.mpr ⟨hm, ?_⟩, hname, hsub⟩
  simpa [hname] using hn.symm

theorem lasting_upholds : Lasting Op.IsTame Upholds where
  refl b := upholds_of_outline rfl
  trans h h' := h.trans h'
  apart hfleet hcalls _ hsubscriptions hscripts := .of_parts hfleet hcalls hsubscriptions hscripts
  queue _ _ _ _ := .of_parts rfl rfl rfl rfl
  enqueue t hc := upholds_enqueue hc t
  setMode mode hc := upholds_setMode hc mode
  resolve := upholds_resolve
  assign s _ _ ht hne hknown h := upholds_assign s ht hne hknown h
  withdraw hop := hop.elim
  withdrawFromOthers hop := hop.elim
  register hop := hop.elim
  subscribe {_ _ _ script} hop := upholds_subscribe _ (by cases script; exact hop)
  unsubscribe hop := upholds_unsubscribe _ hop

/-! ### Publishing and stepping -/

/-- The resolver takes the stop that it is told of out of what is under way. -/
lemma Secure.deliverCounted {r : Bank × Delivery} (h : r.1.Secure F) {event : Event}
    {sub : Subscription} (hsub : sub.subscriber = .resolver)
    (hFG : ∀ id u, F id u → G id u ∨ event = .stopServed id u.floor u.direction) :
    (deliverCounted react event r sub).1.Secure G := by
  have htold : (r.1.note (.invoked sub event)).Secure F := h.of_parts rfl rfl rfl rfl
  have hdelivered : (deliver react r.1 event sub).1.Secure G := by
    unfold deliver
    rw [hsub]
    cases event with
    | stopServed car floor direction =>
      refine htold.resolve car ⟨floor, direction⟩ fun id u hne hu => (hFG id u hu).resolve_right ?_
      rintro he
      cases he
      exact hne rfl
    | _ =>
      refine ⟨htold.calls.mono fun u id _ hu => .inr ((hFG id u hu).resolve_right ?_), htold.bus⟩
      simp
  have hreturned := lasting_upholds.noteFailure
    ((deliver react r.1 event sub).1.note (.returned sub (deliver react r.1 event sub).2)) event
    sub (deliver react r.1 event sub).2
  exact (hreturned G (hdelivered.of_parts rfl rfl rfl rfl)).1

lemma Secure.foldl_deliverCounted {r : Bank × Delivery} (h : r.1.Secure F)
    (hr : HandlersKeep Upholds react) {event : Event} {subs : List Subscription}
    (hsubs : ∃ sub ∈ subs, sub.subscriber = .resolver)
    (hFG : ∀ id u, F id u → G id u ∨ event = .stopServed id u.floor u.direction) :
    (subs.foldl (Bank.deliverCounted react event) r).1.Secure G := by
  induction subs generalizing r with
  | nil => simp at hsubs
  | cons sub rest ih =>
    rw [List.foldl_cons]
    by_cases hsub : sub.subscriber = .resolver
    · have hrest := lasting_upholds.foldl_fst (lasting_upholds.deliverCounted hr event) rest
      exact (hrest _ G (h.deliverCounted hsub hFG)).1
    · refine ih (lasting_upholds.deliverCounted hr event r sub F h).1 ?_
      obtain ⟨other, hother, hresolver⟩ := hsubs
      rcases List.mem_cons.mp hother with rfl | hother
      · exact absurd hresolver hsub
      · exact ⟨other, hother, hresolver⟩

/-- Once a stop has been announced as served it is not under way any more, whatever the
handlers have done meanwhile. -/
theorem Secure.publish (h : b.Secure F) (hr : HandlersKeep Upholds react) {event : Event}
    (hFG : ∀ id u, F id u → G id u ∨ event = .stopServed id u.floor u.direction) :
    (publish react b event).1.Secure G := by
  by_cases hk : event.kind = .stopServed
  · have hcounted : (b.opened event).Secure F := h.of_parts rfl rfl rfl rfl
    have hopened := hcounted.of_outline (outline_say _ .trace "Publishing event"
      [("event_type", .text event.kind.dotted),
        ("subscribers", .nat (b.bus.matching event.kind).length)])
    obtain ⟨sub, hm, -, hsub, hwants⟩ := h.bus.resolver
    have hresolver : ∃ sub ∈ b.bus.matching event.kind, sub.subscriber = .resolver :=
      ⟨sub, List.mem_filter.mpr ⟨hm, hk ▸ hwants⟩, hsub⟩
    have hall := hopened.foldl_deliverCounted (r := (_, .none)) (G := G) hr hresolver hFG
    exact hall.of_parts rfl rfl rfl rfl
  · have hmono : b.Secure G := by
      refine ⟨h.calls.mono fun u id _ hu => .inr ((hFG id u hu).resolve_right ?_), h.bus⟩
      rintro rfl
      exact hk rfl
    exact (lasting_upholds.publish hr b event G hmono).1

lemma Secure.publishAll {events : List Event} (hr : HandlersKeep Upholds react)
    (h : b.Secure fun id u => F id u ∨ .stopServed id u.floor u.direction ∈ events) :
    (publishAll react b events).Secure F := by
  induction events generalizing b with
  | nil => exact ⟨h.calls.mono fun u id _ hu => .inr (hu.resolve_right (by simp)), h.bus⟩
  | cons event rest ih =>
    refine ih (h.publish hr fun id u hu => ?_)
    rcases hu with hu | hu
    · exact .inl (.inl hu)
    · rcases List.mem_cons.mp hu with rfl | hu
      · exact .inr rfl
      · exact .inl (.inr hu)

/-- A step of a car puts its stop under way and then announces it. -/
theorem upholds_stepCar (hr : HandlersKeep Upholds react) : CarsKeep Upholds react := by
  intro b id F h
  unfold stepCar
  cases hc : b.car? id with
  | none => exact ⟨h, rfl⟩
  | some c =>
    obtain ⟨hm, rfl⟩ := (Fleet.car?_eq_some_iff h.calls.ids).mp hc
    have hw := h.calls.cars c hm
    have hstepped := h.change hc (g := fun _ => c.advance.1)
      (G := fun id u => F id u ∨ .stopServed id u.floor u.direction ∈ c.advance.2)
      (Car.advance_id c) (Car.advance_wellFormed hw)
      (fun u hs => (Car.hasHallStop_advance hw hs).imp_right .inr) fun _ _ => .inl
    refine ⟨hstepped.publishAll hr, ?_⟩
    refine (lasting_upholds.publishAll hr _ _ _ hstepped).2.trans ?_
    rw [Fleet.change_eq_of_car? h.calls.ids hc (·.advance.1)]
    exact Fleet.ids_map fun other => by split_ifs <;> simp

/-! ### Runs -/

/-- Handlers that do no more than upholds security, whatever they are called for. -/
lemma handlersKeep_of_tame
    (hr : ∀ c sub calls, callsAreTame calls → Upholds c (react c sub calls)) :
    HandlersKeep Upholds react := by
  intro b slot sub F h
  obtain ⟨hcalls, hguarded⟩ := h.bus.react slot
  exact hr _ sub _ hcalls F ⟨h.calls, hguarded⟩

/-- What can become of a bank by tame operations, while handlers do more of the same. What a
handler does may depend on all of the bank, in whose trace the event and its subscription
stand. -/
inductive Becomes : Bank → Bank → Prop
  | refl (b : Bank) : Becomes b b
  | perform {a b : Bank} {react : React} {op : Op} (h : Becomes a b)
    (hr : ∀ c sub calls, callsAreTame calls → Becomes c (react c sub calls)) (hop : op.IsTame) :
    Becomes a (performWith react b op).1
  | answered {a b : Bank} (h : Becomes a b) (sub : Subscription) (answer : Answer) :
    Becomes a (b.note (.answered sub answer))

theorem Becomes.upholds (h : a.Becomes b) : a.Upholds b := by
  induction h with
  | refl b => exact lasting_upholds.refl b
  | perform _ _ hop ih ihr =>
    have hkept := handlersKeep_of_tame ihr
    exact ih.trans (lasting_upholds.performWith hkept (upholds_stepCar hkept) _ hop)
  | answered _ sub answer ih => exact ih.trans (lasting_upholds.note _ _)

/-- The handlers that follow scripts do no more than their scripts say. -/
lemma react_becomes (depth : Nat) (c : Bank) (sub : Subscription) (calls : List Op)
    (hcalls : callsAreTame calls) : Becomes c (Bank.react depth c sub calls) := by
  induction depth generalizing c sub calls with
  | zero => exact .refl c
  | succ depth ih =>
    have hmade : ∀ b, Becomes c b → Becomes c (calls.foldl (fun b op =>
        (performWith (Bank.react depth) b op).1.note
          (.answered sub (performWith (Bank.react depth) b op).2)) b) := by
      induction calls with
      | nil => exact fun b hb => hb
      | cons op rest ihcalls =>
        intro b hb
        exact ihcalls hcalls.2 _ ((hb.perform ih hcalls.1).answered sub _)
    exact hmade c (.refl c)

lemma run_becomes {ops : List Op} (hops : ∀ op ∈ ops, op.IsTame) (h : a.Becomes b) :
    a.Becomes (b.run ops) := by
  induction ops generalizing b with
  | nil => exact h
  | cons op rest ih =>
    refine ih (fun op hop => hops op (List.mem_cons_of_mem _ hop)) ?_
    exact h.perform (react_becomes _) (hops op List.mem_cons_self)

/-- A bank as it has been set up, perhaps on a bus that had handlers before. -/
inductive SetUp : Bank → Prop
  | fresh {b : Bank} {floors : List Int} {s : Strategy} (h : b.Fresh floors s) : SetUp b
  | onBus {config : Config} {bus : Bus Op} {floors : List Int} {s : Strategy}
    {capacity workers : Nat} {b : Bank}
    (htame : ∀ script ∈ bus.scripts, callsAreTame script.calls)
    (h : Bank.dispatching { config, bus } floors s capacity workers = .ok b) : SetUp b

lemma secure_of_dispatching {base : Bank} {floors : List Int} {s : Strategy}
    {capacity workers : Nat} (hledger : base.ledger = ⟨[], [], []⟩)
    (htame : ∀ script ∈ base.bus.scripts, callsAreTame script.calls)
    (h : base.dispatching floors s capacity workers = .ok b) : b.Secure fun _ _ => False := by
  obtain ⟨hfleet, hcalls, -⟩ := Ledger.mk.inj hledger
  have ho := dispatching_outline h
  rw [hfleet, hcalls] at ho
  have hopening := Ledger.opening_sound floors
  have hbacked : HallCalls.Backed [] (Fleet.start floors) fun _ _ => False :=
    HallCalls.backed_nil hopening.ids hopening.cars
  have hguarded : (base.bus.subscribe ⟨resolverName, [.stopServed], .resolver⟩).Guarded :=
    ⟨⟨_, List.mem_append_right _ (List.mem_singleton.mpr rfl), rfl, rfl, rfl⟩, htame⟩
  have hsecure : ({ base with
      fleet := Fleet.start floors
      calls := []
      bus := base.bus.subscribe ⟨resolverName, [.stopServed], .resolver⟩ } : Bank).Secure
        fun _ _ => False := ⟨hbacked, hguarded⟩
  exact hsecure.of_parts (congrArg (·.ledger.fleet) ho) (congrArg (·.ledger.calls) ho)
    (congrArg (·.bus.subscriptions) ho) (congrArg (·.bus.scripts) ho)

lemma SetUp.secure (h : b.SetUp) : b.Secure fun _ _ => False := by
  cases h with
  | fresh h =>
    obtain ⟨base, ready, _, _, hledger, hscripts, hready, houtline, -⟩ := h.set_up
    refine (secure_of_dispatching hledger (fun script hm => ?_) hready).of_outline houtline
    rw [hscripts] at hm
    cases hm
  | onBus htame h => exact secure_of_dispatching rfl htame h

/-- Every pending call is held by cars of the fleet, all of which have its request. -/
def Unstranded (b : Bank) : Prop := ∀ t holders, b.calls.holders? t = some holders →
  holders ≠ [] ∧ ∀ id ∈ holders, b.fleet.Owes id t

/-- Where nothing is under way no call is stranded. -/
lemma Secure.unstranded (h : b.Secure fun _ _ => False) : b.Unstranded := by
  intro t holders hh
  have hmem := HallCalls.mem_holders_iff h.calls.unique hh
  have hpending : b.calls.has t = true := by
    rw [← HallCalls.isSome_holders?, hh]
    rfl
  obtain ⟨id, hid⟩ := h.calls.held t hpending
  refine ⟨List.ne_nil_of_mem ((hmem id).mpr hid), fun id hid => ?_⟩
  exact (h.calls.backed t id ((hmem id).mp hid)).resolve_right not_false

/-- However handlers call back, fail or panic, as long as nobody withdraws a call or takes the
resolver off the bus, every pending call is with cars that have its request. The handlers may
follow scripts or do as they like. -/
theorem SetUp.no_call_stranded (hb : b.SetUp) :
    (∀ b', b.Becomes b' → b'.Unstranded) ∧
      ∀ ops : List Op, (∀ op ∈ ops, op.IsTame) → (b.run ops).Unstranded := by
  have hall : ∀ b', b.Becomes b' → b'.Unstranded := fun b' h => (h.upholds _ hb.secure).1.unstranded
  exact ⟨hall, fun ops hops => hall _ (run_becomes hops (.refl b))⟩

/-- A handler calls again for floor 2 whenever a car moves or stops, also when car 1 has just
taken that stop off its set and is still to announce it. Its script ends in a panic; the
second handler does the same without a script. -/
theorem SetUp.no_call_stranded_recalled : ∃ b, Bank.start {} = .ok b ∧
    (∃ caller, (b.run [.subscribe "caller" [.carMoved, .stopServed] caller, .hallCall 2 .up,
        .step 2]).calls.holders? ⟨2, .up⟩ = some [1, 2] ∧
      ∀ id ∈ [1, 2], (b.run [.subscribe "caller" [.carMoved, .stopServed] caller, .hallCall 2 .up,
        .step 2]).fleet.Owes id ⟨2, .up⟩) ∧
    (performWith (fun c _ _ => (performWith (Bank.react 0) c (.hallCall 2 .up)).1)
      (b.run [.subscribe "caller" [.carMoved, .stopServed] ⟨[], 0, .succeed⟩, .hallCall 2 .up])
      (.step 2)).1.Unstranded := by
  have hstart : Bank.start {} = .ok _ := rfl
  obtain ⟨hall, hrun⟩ := (SetUp.fresh (Fresh.started hstart)).no_call_stranded
  refine ⟨_, hstart, ⟨⟨[.hallCall 2 .up], 9, .panic none⟩, rfl, ?_⟩, ?_⟩
  · exact (hrun _ (by simp [Op.IsTame, scriptIsTame, callsAreTame]) ⟨2, .up⟩ [1, 2] rfl).2
  · refine hall _ (.perform (run_becomes ?_ (.refl _)) (fun c _ _ _ => ?_) trivial)
    · simp [Op.IsTame, scriptIsTame, callsAreTame]
    · exact .perform (.refl c) (react_becomes 0) trivial

end Bank
end ElevatorBank
