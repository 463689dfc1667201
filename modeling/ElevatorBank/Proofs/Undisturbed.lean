import ElevatorBank.Proofs.Itinerary

/-!
# Undisturbed cars

Once no handler calls back any more, publishing what a car does leaves that car as it is
(`Spares.publish`). So to step it through the bank is to let it ride (`repeated_stepCar`), and
the events published are those of its itinerary (`Fresh.itinerary_served`).
-/
namespace ElevatorBank

/-- No handler calls back any more. -/
def Bus.Still (bus : Bus Op) : Prop :=
  ∀ script ∈ bus.scripts, script.times = 0 ∨ script.calls = []

lemma Bus.Still.react {bus : Bus Op} (h : bus.Still) (slot : Nat) :
    (bus.react slot).1.calls = [] ∧ (bus.react slot).2.Still := by
  unfold Bus.react
  cases hs : bus.scripts[slot]? with
  | none => exact ⟨rfl, h⟩
  | some script =>
    have hnext : script.next.1.calls = [] ∧
        (script.next.2.times = 0 ∨ script.next.2.calls = []) := by
      have hscript := h script (List.mem_of_getElem? hs)
      unfold Script.next
      split
      · exact ⟨rfl, hscript⟩
      · next hn =>
        have hcalls := hscript.resolve_left (by omega)
        exact ⟨hcalls, .inr hcalls⟩
    refine ⟨hnext.1, fun other hm => ?_⟩
    rcases List.mem_or_eq_of_mem_set hm with hm | rfl
    · exact h other hm
    · exact hnext.2

/-- The event does not tell of a stop that another car has served. -/
def Event.Concerns (id : CarId) (event : Event) : Prop :=
  ∀ {car floor direction}, event = .stopServed car floor direction → car = id

lemma Car.advance_concerns (c : Car) : ∀ event ∈ c.advance.2, event.Concerns c.id := by
  have htold : ∀ event ∈ c.advance.2, (∃ source target route,
      event = .carMoved c.id source target route) ∨ ∃ floor set,
      event = .stopServed c.id floor set := by
    unfold advance
    split
    · simp
    · dsimp only
      split_ifs <;> simp
  intro event hm car floor direction hserved
  rcases htold event hm with ⟨_, _, _, rfl⟩ | ⟨_, _, rfl⟩ <;> cases hserved
  rfl

namespace Bank

/-- Some events have been published, and a car is as it was. -/
structure Spares (id : CarId) (b b' : Bank) (events : List Event) : Prop where
  still : b'.bus.Still
  car : b'.car? id = b.car? id
  published : b'.published = b.published ++ events

variable {b b' b'' : Bank} {id : CarId} {events later : List Event} {react : React}

lemma Spares.trans (h : Spares id b b' events) (h' : Spares id b' b'' later) :
    Spares id b b'' (events ++ later) where
  still := h'.still
  car := h'.car.trans h.car
  published := by rw [h'.published, h.published, List.append_assoc]

/-- As `trans`, where nothing more has been published. -/
lemma Spares.trans_nil (h : Spares id b b' events) (h' : Spares id b' b'' []) :
    Spares id b b'' events := List.append_nil events ▸ h.trans h'

lemma spares_of_outline (hb : b.bus.Still) (ho : b'.outline = b.outline) :
    Spares id b b' [] where
  still := by
    have hbus : b'.bus = b.bus := congrArg Outline.bus ho
    rw [hbus]
    exact hb
  car := congrArg (fun o : Outline => o.ledger.fleet.car? id) ho
  published := (congrArg (·.ledger.history) ho).trans (List.append_nil _).symm

lemma spares_resolve (hb : b.bus.Still) (id : CarId) (t : Target) :
    Spares id b (b.resolve id t).1 [] := by
  have hothers := outline_withdrawFromOthers b id t
  have hwithdrawn : Spares id b (b.withdrawFromOthers id t).1 [] := by
    have hspared : Spares id b { b with fleet := b.fleet.withdrawFromOthers id t } [] :=
      ⟨hb, Fleet.car?_withdrawFromOthers _ _ _, (List.append_nil _).symm⟩
    exact hspared.trans_nil (spares_of_outline hspared.still hothers)
  unfold resolve
  split
  · exact spares_of_outline hb rfl
  · have hresolved : Spares id b { (b.withdrawFromOthers id t).1 with
        calls := (b.withdrawFromOthers id t).1.calls.resolve t } [] :=
      ⟨hwithdrawn.still, hwithdrawn.car, hwithdrawn.published⟩
    exact hresolved.trans_nil (spares_of_outline hresolved.still (outline_say _ _ _ _))

lemma spares_noteFailure (hb : b.bus.Still) (event : Event) (sub : Subscription)
    (error : Option HandlerError) : Spares id b (b.noteFailure event sub error) [] := by
  cases error with
  | none => exact spares_of_outline hb rfl
  | some e =>
    have hcounted : Spares id b
        { b with bus := { b.bus with failures := b.bus.failures + 1 } } [] :=
      ⟨hb, rfl, (List.append_nil _).symm⟩
    exact hcounted.trans_nil (spares_of_outline hcounted.still (outline_say _ _ _ _))

section
variable (hr : Passive react) {event : Event} (hevent : event.Concerns id)
include hr hevent

lemma spares_deliver (hb : b.bus.Still) (sub : Subscription) :
    Spares id b (deliver react b event sub).1 [] := by
  have hinvoked : Spares id b (b.note (.invoked sub event)) [] :=
    spares_of_outline hb (outline_note b (by simp))
  unfold deliver
  cases sub.subscriber with
  | logger => exact hinvoked.trans_nil (spares_of_outline hinvoked.still (outline_log _ _))
  | recorder => exact hinvoked
  | resolver =>
    cases event with
    | stopServed car floor direction =>
      obtain rfl := hevent rfl
      exact hinvoked.trans_nil (spares_resolve hinvoked.still car ⟨floor, direction⟩)
    | _ => exact hinvoked
  | scripted slot =>
    obtain ⟨hcalls, hstill⟩ := hinvoked.still.react slot
    dsimp only
    rw [hcalls, hr]
    exact ⟨hstill, hinvoked.car, hinvoked.published⟩

lemma spares_deliverCounted {r : Bank × Delivery} (hb : r.1.bus.Still) (sub : Subscription) :
    Spares id r.1 (deliverCounted react event r sub).1 [] := by
  have hdelivered := spares_deliver hr hevent hb sub
  have hreturned := hdelivered.trans_nil (spares_of_outline hdelivered.still
    (outline_note _ (n := .returned sub (deliver react r.1 event sub).2) (by simp)))
  exact hreturned.trans_nil (spares_noteFailure hreturned.still event sub _)

theorem spares_publish (hb : b.bus.Still) : Spares id b (publish react b event).1 [event] := by
  have hopened : Spares id b (b.opened event) [event] := ⟨hb, rfl, published_opened b event⟩
  have hsaid := hopened.trans_nil (spares_of_outline hopened.still (outline_say _ .trace
    "Publishing event" [("event_type", .text event.kind.dotted),
      ("subscribers", .nat (b.bus.matching event.kind).length)]))
  have hall : ∀ (subs : List Subscription) (r : Bank × Delivery), Spares id b r.1 [event] →
      Spares id b (subs.foldl (deliverCounted react event) r).1 [event] := by
    intro subs
    induction subs with
    | nil => exact fun _ h => h
    | cons sub rest ih =>
      exact fun r h => ih _ (h.trans_nil (spares_deliverCounted hr hevent h.still sub))
  have hafter := hall (b.bus.matching event.kind) (_, .none) hsaid
  exact hafter.trans_nil (spares_of_outline hafter.still (outline_note _ (by simp)))

end

lemma spares_publishAll (hr : Passive react) (hevents : ∀ event ∈ events, event.Concerns id)
    (hb : b.bus.Still) : Spares id b (publishAll react b events) events := by
  induction events generalizing b with
  | nil => exact spares_of_outline hb rfl
  | cons event rest ih =>
    have hfirst := spares_publish hr (hevents event List.mem_cons_self) hb
    exact hfirst.trans (ih (fun other hm => hevents other (List.mem_cons_of_mem _ hm)) hfirst.still)

/-! ### Steps -/

/-- The answer of a step, or of several, in which a car has ridden: the events of the ride
have been published, and no handler has called back. -/
structure Rode (id : CarId) (ride : Car × List Event) (b : Bank) (r : Bank × List Event) :
    Prop where
  still : r.1.bus.Still
  car : r.1.car? id = some ride.1
  published : r.1.published = b.published ++ ride.2
  events : r.2 = ride.2

theorem rode_stepCar (hr : Passive react) {c : Car} (hb : b.bus.Still) (hc : b.car? id = some c) :
    Rode id c.advance b (stepCar react b id) := by
  obtain rfl : c.id = id := by simpa using List.find?_some hc
  have hmoved : { b with fleet := b.fleet.change c.id fun _ => c.advance.1 }.car? c.id =
      some c.advance.1 := Fleet.car?_change hc (Car.advance_id c)
  have hspared := spares_publishAll hr c.advance_concerns
    (b := { b with fleet := b.fleet.change c.id fun _ => c.advance.1 }) hb
  unfold stepCar
  rw [hc]
  exact ⟨hspared.still, hspared.car.trans hmoved, hspared.published, rfl⟩

/-- To step a car through the bank is to let it ride. -/
theorem rode_repeated (hr : Passive react) (n : Nat) {c : Car} (hb : b.bus.Still)
    (hc : b.car? id = some c) : Rode id (c.ride n) b (repeated (stepCar react · id) n b) := by
  induction n generalizing b c with
  | zero => exact ⟨hb, hc, (List.append_nil _).symm, rfl⟩
  | succ n ih =>
    have hfirst := rode_stepCar hr hb hc
    have hrest := ih hfirst.still hfirst.car
    refine ⟨hrest.still, hrest.car, ?_, congrArg₂ (· ++ ·) hfirst.events hrest.events⟩
    calc (repeated (stepCar react · id) n (stepCar react b id).1).1.published
        = b.published ++ c.advance.2 ++ (c.advance.1.ride n).2 := by
          rw [hrest.published, hfirst.published]
      _ = b.published ++ (c.ride (n + 1)).2 := List.append_assoc ..

lemma onCar_of_car? {c : Car} (hc : b.car? id = some c) (work : Car → Bank × Answer) :
    onCar b id work = work c := by
  unfold onCar
  rw [hc]

/-- To step a car of a bank on which no handler calls back is to let it ride. -/
lemma rode_perform {c : Car} (hb : b.bus.Still) (hc : b.car? id = some c) (n : Nat) :
    ∃ r, b.perform (.stepCar id n) = (r.1, .events r.2) ∧ Rode id (c.ride n) b r := by
  have hrode := rode_repeated (react_passive (b.callbacks + (Op.stepCar id n).callbacks)) n hb hc
  exact ⟨_, onCar_of_car? hc _, hrode⟩

/-- A car that is stepped until it has no stop left, with no handler calling back, serves just
the stops of its itinerary, in this order and each once, and moves as many floors as there are
on the way. It does so as long as all of them lie within a span. -/
theorem Fresh.itinerary_served {floors : List Int} {s : Strategy} (hb : b.Fresh floors s)
    (ops : List Op) (hstill : (b.run ops).bus.Still) {c : Car}
    (hc : (b.run ops).car? id = some c) {lo hi : Int} (hspan : Floor.Span lo hi)
    (hin : c.Within lo hi) :
    c.itinerary.Nodup ∧
    (∃ n c', ((b.run ops).perform (.stepCar id n)).1.car? id = some c' ∧ c'.isEmpty = true) ∧
    ∀ n c', ((b.run ops).perform (.stepCar id n)).1.car? id = some c' → c'.isEmpty = true →
      ∃ events, ((b.run ops).perform (.stepCar id n)).2 = .events events ∧
        ((b.run ops).perform (.stepCar id n)).1.published = (b.run ops).published ++ events ∧
        Event.served events = c.itinerary.map (Car.stopServed id) ∧
        Event.moves events = Car.distance c.floor c.itinerary := by
  have hshaped := hb.shaped.run ops
  have hrode := rode_perform hstill hc
  obtain ⟨hm, rfl⟩ := (Fleet.car?_eq_some_iff hshaped.ids).mp hc
  have hw := hshaped.cars c hm
  refine ⟨c.itinerary_nodup hw, ?_, ?_⟩
  · obtain ⟨n, hn⟩ := Car.exists_ride_isEmpty hspan hw hin
    obtain ⟨r, hr, hrode⟩ := hrode n
    exact ⟨n, _, hr ▸ hrode.car, hn⟩
  · intro n c' hc' hn
    obtain ⟨r, hr, hrode⟩ := hrode n
    rw [hr] at hc' ⊢
    obtain rfl : (c.ride n).1 = c' := Option.some.inj (hrode.car.symm.trans hc')
    obtain ⟨hstops, hway⟩ := Car.itinerary_ride hspan hw hin n
    rw [Car.itinerary_of_isEmpty hn] at hstops hway
    refine ⟨r.2, rfl, ?_, ?_, ?_⟩
    · rw [hrode.events]
      exact hrode.published
    · rw [hrode.events]
      simpa using hstops.symm
    · rw [hrode.events]
      exact hway.symm

/-- At floor 3 a handler has sent car 1 to floor 2, which lies below it, and calls back no more.
Then up-stops and down-stops come on both sides of the car, at its own floor, and at floor 2. -/
theorem Fresh.itinerary_served_both_sides : ∃ b, Bank.start {} = .ok b ∧ ∃ caller,
    let called := b.run [.subscribe "caller" [.stopServed] caller, .carCall 1 3, .stepCar 1 3,
      .enqueue 1 ⟨3, .up⟩, .enqueue 1 ⟨6, .up⟩, .enqueue 1 ⟨2, .up⟩, .enqueue 1 ⟨1, .up⟩,
      .enqueue 1 ⟨8, .down⟩, .enqueue 1 ⟨4, .down⟩, .enqueue 1 ⟨0, .down⟩]
    called.bus.Still ∧ ∃ n events, (called.perform (.stepCar 1 n)).2 = .events events ∧
      Event.served events = [(3, .up), (6, .up), (2, .up), (1, .up), (0, .down), (4, .down),
        (8, .down)].map (Car.stopServed 1) ∧ Event.moves events = 17 := by
  have hstart : Bank.start {} = .ok _ := rfl
  refine ⟨_, hstart, ⟨[.carCall 1 2], 1, .panic none⟩, ?_⟩
  intro called
  have hcar : called.car? 1 = some ⟨1, 3, .normal,
      [⟨1, ⟨true, false⟩⟩, ⟨2, ⟨true, false⟩⟩, ⟨3, ⟨true, false⟩⟩, ⟨6, ⟨true, false⟩⟩],
      [⟨0, ⟨true, false⟩⟩, ⟨2, ⟨false, true⟩⟩, ⟨4, ⟨true, false⟩⟩, ⟨8, ⟨true, false⟩⟩]⟩ := rfl
  have hscripts : called.bus.scripts = [⟨[.carCall 1 2], 0, .panic none⟩] := rfl
  have hstill : called.bus.Still := by
    intro script hm
    rw [hscripts] at hm
    rw [List.mem_singleton.mp hm]
    exact .inl rfl
  have hspan : Floor.Span 0 8 := ⟨by decide, by decide, by decide⟩
  have hfleet : called.fleet.span = (0, 8) := rfl
  have hin := Fleet.within_span (List.mem_of_find?_eq_some hcar)
  rw [hfleet] at hin
  obtain ⟨-, ⟨n, c', hc', hn⟩, hserved⟩ :=
    (Fresh.started hstart).itinerary_served _ hstill hcar hspan hin
  obtain ⟨events, hevents, -, hstops, hmoves⟩ := hserved n c' hc' hn
  exact ⟨hstill, n, events, hevents, hstops, hmoves⟩

/-- Car 1 at floor -1 has up-stops at the highest floor that there is and at floor -3. To the first
one, which it heads for, the way leads down, so floor -3 is served before. -/
theorem itinerary_missed : ∃ b, Bank.start { startFloors := [-1] } = .ok b ∧
    let called := b.run [.enqueue 1 ⟨-3, .up⟩, .carCall 1 0x7FFFFFFF]
    called.bus.Still ∧ ∃ c, called.car? 1 = some c ∧
      c.itinerary = [(0x7FFFFFFF, .up), (-3, .up)] ∧
      ¬∃ n c' events, (called.perform (.stepCar 1 n)).2 = .events events ∧
        (called.perform (.stepCar 1 n)).1.car? 1 = some c' ∧ c'.isEmpty = true ∧
        Event.served events = c.itinerary.map (Car.stopServed 1) := by
  refine ⟨_, rfl, ?_⟩
  intro called
  have hstill : called.bus.Still := fun script hm => nomatch hm
  have hcar : called.car? 1 = some ⟨1, -1, .normal,
      [⟨-3, ⟨true, false⟩⟩, ⟨0x7FFFFFFF, ⟨false, true⟩⟩], []⟩ := rfl
  refine ⟨hstill, _, hcar, by decide, ?_⟩
  rintro ⟨n, c', events, hevents, hc', hn, hserved⟩
  obtain ⟨r, hr, hrode⟩ := rode_perform hstill hcar n
  rw [hr] at hevents hc'
  obtain rfl := Answer.events.inj hevents
  obtain rfl := Option.some.inj (hrode.car.symm.trans hc')
  rw [hrode.events] at hserved
  -- Floor -3 is reached with the second step and served by the third.
  match n, hn, hserved with
  | 0, hn, _ => exact absurd hn (by decide)
  | 1, hn, _ => exact absurd hn (by decide)
  | 2, hn, _ => exact absurd hn (by decide)
  | n + 3, _, hserved =>
    have hfirst : (Event.served (Car.ride (n + 3) ⟨1, -1, .normal,
        [⟨-3, ⟨true, false⟩⟩, ⟨0x7FFFFFFF, ⟨false, true⟩⟩], []⟩).2).head? =
          some (.stopServed 1 (-3) .up) := rfl
    rw [hserved] at hfirst
    exact absurd hfirst (by decide)

end Bank
end ElevatorBank
