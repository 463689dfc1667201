import ElevatorBank.Proofs.Enduring

/-!
# Lasting relations

A relation in which the trace has no part lasts through publishing if it lasts through what
the handlers do (`Lasting.publish`), and then through every operation
(`Lasting.performWith`).
-/
namespace ElevatorBank

namespace Bank

/-- A relation that lasts through every single change, where only operations of a kind are
carried out. -/
structure Lasting (A : Op → Prop) (R : Bank → Bank → Prop) : Prop where
  refl : ∀ b, R b b
  trans : ∀ {a b c}, R a b → R b c → R a c
  /-- The trace, the counts of the bus, the strategy and the driver have no part in it. -/
  apart : ∀ {b b' : Bank}, b'.fleet = b.fleet → b'.calls = b.calls → b'.queue = b.queue →
    b'.bus.subscriptions = b.bus.subscriptions → b'.bus.scripts = b.bus.scripts → R b b'
  queue : ∀ {op}, A op → op.UsesQueue → ∀ b queue, R b { b with queue }
  enqueue : ∀ {b : Bank} {car c} (t), b.car? car = some c → R b (b.enqueue c t)
  setMode : ∀ {b : Bank} {car c} (mode), b.car? car = some c → R b (b.setMode c mode)
  resolve : ∀ b car t, R b (b.resolve car t).1
  /-- The cars of an assignment have been looked up before it is announced. -/
  assign : ∀ {a b : Bank} (s) {t cars}, t.direction.isHall = true → cars ≠ [] →
    a.fleet.unknown? cars = none → R a b → R a (assign b s t cars)
  withdraw : ∀ {b : Bank} {car c t}, A (.withdraw car t) → b.car? car = some c →
    R b (b.withdraw c t)
  withdrawFromOthers : ∀ {b : Bank} {car t}, A (.withdrawFromOthers car t) →
    R b (b.withdrawFromOthers car t).1
  register : ∀ {b : Bank} {t cars}, A (.register t cars) → b.fleet.unknown? cars = none →
    R b (b.register t cars).1
  subscribe : ∀ {b : Bank} {name kinds script}, A (.subscribe name kinds script) →
    R b { b with bus := b.bus.subscribeScript name kinds script }
  unsubscribe : ∀ {b : Bank} {name}, A (.unsubscribe name) →
    R b { b with bus := b.bus.unsubscribe name }

variable {A : Op → Prop} {R : Bank → Bank → Prop} {react : React}

namespace Lasting

lemma note (h : Lasting A R) (b : Bank) (n : Note) : R b (b.note n) := h.apart rfl rfl rfl rfl rfl

lemma log (h : Lasting A R) (b : Bank) (r : Log.Record) : R b (b.log r) := by
  unfold Bank.log
  split
  · exact h.note b _
  · exact h.refl b

lemma enduring (h : Lasting A R) : Enduring A R where
  refl := h.refl
  trans := h.trans
  apart hfleet hcalls hqueue hbus _ :=
    h.apart hfleet hcalls hqueue (congrArg (·.subscriptions) hbus) (congrArg (·.scripts) hbus)
  log := h.log
  queue := h.queue
  enqueue _ _ := h.enqueue _
  setMode := h.setMode
  resolve := h.resolve
  assign s _ _ _ _ := h.assign s
  withdraw := h.withdraw
  withdrawFromOthers := h.withdrawFromOthers
  register := h.register
  subscribe := h.subscribe
  unsubscribe := h.unsubscribe

lemma count (h : Lasting A R) (b : Bank) :
    R b { b with bus := { b.bus with failures := b.bus.failures + 1 } } :=
  h.apart rfl rfl rfl rfl rfl

lemma noteFailure (h : Lasting A R) (b : Bank) (event : Event) (sub : Subscription)
    (error : Option HandlerError) : R b (b.noteFailure event sub error) :=
  h.enduring.noteFailure h.count b event sub error

lemma foldl (h : Lasting A R) {α : Type} {f : Bank → α → Bank} (hf : ∀ b a, R b (f b a))
    (as : List α) (b : Bank) : R b (as.foldl f b) := h.enduring.foldl hf as b

lemma foldl_fst (h : Lasting A R) {α γ : Type} {f : Bank × γ → α → Bank × γ}
    (hf : ∀ r a, R r.1 (f r a).1) (as : List α) (r : Bank × γ) : R r.1 (as.foldl f r).1 :=
  h.enduring.foldl_fst hf as r

/-! ### Publishing -/

section
variable (h : Lasting A R) (hr : HandlersKeep R react)
include h hr

lemma deliverCounted (event : Event) (r : Bank × Delivery) (sub : Subscription) :
    R r.1 (deliverCounted react event r sub).1 :=
  h.enduring.deliverCounted (fun b n _ => h.note b n) h.count hr event r sub

theorem publish (b : Bank) (event : Event) : R b (publish react b event).1 := by
  have hopened : R b (b.opened event) := h.apart rfl rfl rfl rfl rfl
  exact h.trans hopened (h.enduring.publish_opened (fun b n _ => h.note b n) h.count hr b event)

lemma publishAll (b : Bank) (events : List Event) : R b (publishAll react b events) :=
  h.enduring.publishAll (fun b event _ => h.publish hr b event) b

lemma execute (b : Bank) {command : Command} (ha : A command.op) :
    R b (execute react b command).1 :=
  h.enduring.execute (fun b event _ => h.publish hr b event) ha b fun _ hop => hop

/-- Through any operation of the kind a lasting relation lasts. -/
theorem performWith (hc : CarsKeep R react) (b : Bank) {op : Op} (ha : A op) :
    R b (performWith react b op).1 :=
  h.enduring.performWith (fun b event _ => h.publish hr b event)
    (fun b event _ => h.publish hr b event) hc b ha

end

end Lasting
end Bank
end ElevatorBank
