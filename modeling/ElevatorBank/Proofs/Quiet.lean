import ElevatorBank.Bank.Start
import ElevatorBank.Proofs.Enduring
import ElevatorBank.Proofs.Ledger

/-!
# Quiet banks

Where no handler calls back, publishing an event comes to one deed on the ledger,
whatever else is subscribed and however its handlers end (`Shows.publish`).
-/
namespace ElevatorBank

/-- No script calls back, and the served stops reach the resolver. -/
structure Bus.Calm (bus : Bus Op) : Prop where
  silent : ∀ s ∈ bus.scripts, s.calls = []
  resolver : ∃ s ∈ bus.subscriptions, s.subscriber = .resolver ∧ s.wants .stopServed = true

/-- What a handler calls is what its script says or nothing, and all scripts stay. -/
lemma Bus.calls_react {α : Type} {bus : Bus α} {P : List α → Prop} (hnil : P [])
    (h : ∀ s ∈ bus.scripts, P s.calls) (slot : Nat) :
    P (bus.react slot).1.calls ∧ (∀ s ∈ (bus.react slot).2.scripts, P s.calls) ∧
      (bus.react slot).2.subscriptions = bus.subscriptions := by
  unfold Bus.react
  cases hs : bus.scripts[slot]? with
  | none => exact ⟨hnil, h, rfl⟩
  | some script =>
    have hcalls := h script (List.mem_of_getElem? hs)
    have hnext : P script.next.1.calls ∧ P script.next.2.calls := by
      unfold Script.next
      split
      · exact ⟨hnil, hcalls⟩
      · exact ⟨hcalls, hcalls⟩
    refine ⟨hnext.1, fun other hm => ?_, rfl⟩
    rcases List.mem_or_eq_of_mem_set hm with hm | rfl
    · exact h other hm
    · exact hnext.2

/-- Scripts that make no calls go on making none. -/
lemma Bus.Calm.react {bus : Bus Op} (h : bus.Calm) (slot : Nat) :
    (bus.react slot).1.calls = [] ∧ (bus.react slot).2.Calm := by
  obtain ⟨hcalls, hsilent, hsame⟩ := Bus.calls_react (P := (· = [])) rfl h.silent slot
  refine ⟨hcalls, hsilent, ?_⟩
  rw [hsame]
  exact h.resolver

/-- What matters of a bank apart from its log and its queue. -/
structure Outline where
  ledger : Ledger
  bus : Bus Op
  strategy : Strategy

namespace Ledger

variable (l : Ledger) (event : Event)

lemma settle_of_not_pending {car : CarId} {t : Target} (ht : l.calls.has t = false) :
    l.settle (.stopServed car t.floor t.direction) = l := by
  have hact : ∀ c ∈ l.fleet, (Deed.announced (.stopServed car t.floor t.direction)).act l.calls c
      = c := fun c _ => if_neg fun h => by simp [ht] at h
  have hbook : l.calls.resolve t = l.calls := HallCalls.resolve_of_not_has ht
  simp only [settle, after, Deed.book, hbook, List.map_congr_left hact, List.map_id']

lemma settle_of_kind_ne (hk : event.kind ≠ .stopServed) : l.settle event = l := by
  cases event with
  | stopServed => exact absurd rfl hk
  | _ => simp [settle, after, Deed.book, Deed.act]

lemma after_announced_of_kind_ne (hk : event.kind ≠ .stopServed) :
    l.after (.announced event) = { l with history := l.history ++ [event] } := by
  cases event with
  | stopServed => exact absurd rfl hk
  | _ => simp [after, Deed.book, Deed.act, Deed.event?]

/-- An event is settled once and for all. -/
theorem settle_settle : (l.settle event).settle event = l.settle event := by
  by_cases hk : event.kind = .stopServed
  · cases event with
    | stopServed car floor direction =>
      apply settle_of_not_pending _ (t := ⟨floor, direction⟩)
      have h := HallCalls.has_resolve l.calls ⟨floor, direction⟩ ⟨floor, direction⟩
      exact Bool.eq_false_iff.mpr fun hp => (h.mp hp).1 rfl
    | _ => cases hk
  · rw [settle_of_kind_ne l event hk, settle_of_kind_ne l event hk]

end Ledger

namespace Bank

def ledger (b : Bank) : Ledger := ⟨b.fleet, b.calls, b.published⟩

def outline (b : Bank) : Outline := ⟨b.ledger, b.bus, b.strategy⟩

lemma fleet_of_outline {b b' : Bank} (ho : b'.outline = b.outline) : b'.fleet = b.fleet :=
  congrArg (·.ledger.fleet) ho

lemma published_opened (b : Bank) (event : Event) :
    (b.opened event).published = b.published ++ [event] := by
  simp [published, opened, note]

/-- Only a publication is a note of an event. -/
lemma outline_note (b : Bank) {n : Note}
    (hn : ∀ event subscriptions, n ≠ .opened event subscriptions) :
    (b.note n).outline = b.outline := by
  have hp : (b.note n).published = b.published := by
    cases n <;> simp [published, note] at hn ⊢
  simp only [outline, ledger, hp]
  rfl

@[simp] lemma outline_log (b : Bank) (r : Log.Record) : (b.log r).outline = b.outline := by
  unfold log
  split_ifs
  · exact outline_note b (by simp)
  · rfl

@[simp] lemma outline_say (b : Bank) (level : Log.Level) (message : String)
    (fields : List (String × Log.Field)) : (b.say level message fields).outline = b.outline :=
  outline_log b _

@[simp] lemma queue_log (b : Bank) (r : Log.Record) : (b.log r).queue = b.queue := by
  unfold log
  split_ifs <;> rfl

@[simp] lemma queue_say (b : Bank) (level : Log.Level) (message : String)
    (fields : List (String × Log.Field)) : (b.say level message fields).queue = b.queue :=
  queue_log b _

lemma outline_foldl {α : Type} {f : Bank → α → Bank} (hf : ∀ b a, (f b a).outline = b.outline)
    (as : List α) (b : Bank) : (as.foldl f b).outline = b.outline := by
  induction as generalizing b with
  | nil => rfl
  | cons a rest ih => rw [List.foldl_cons, ih, hf]

@[simp] lemma outline_noteWithdrawal (t : Target) (b : Bank) (id : CarId) :
    (noteWithdrawal t b id).outline = b.outline := outline_say b _ _ _

lemma outline_withdrawFromOthers (b : Bank) (id : CarId) (t : Target) :
    (b.withdrawFromOthers id t).1.outline =
      { b with fleet := b.fleet.withdrawFromOthers id t }.outline := by
  unfold withdrawFromOthers
  rw [outline_say, outline_foldl (outline_noteWithdrawal t)]

/-- What is not pending is not resolved. -/
lemma resolve_of_not_pending {b : Bank} {t : Target} (ht : b.calls.has t = false) (id : CarId) :
    b.resolve id t = (b, none) := by
  have hnone : b.calls.holders? t = none := by
    rwa [← HallCalls.isSome_holders?, Option.isSome_eq_false_iff, Option.isNone_iff_eq_none] at ht
  rw [resolve, hnone]

/-- A pending call that is resolved leaves the other cars without it and the other calls as they
are. -/
lemma outline_resolve_of_pending {b : Bank} {t : Target} (ht : b.calls.has t = true) (id : CarId) :
    (b.resolve id t).1.outline = { b with
      fleet := b.fleet.withdrawFromOthers id t
      calls := b.calls.resolve t }.outline := by
  rw [← HallCalls.isSome_holders?] at ht
  obtain ⟨holders, hh⟩ := Option.isSome_iff_exists.mp ht
  have hothers := outline_withdrawFromOthers b id t
  simp only [outline, ledger, Outline.mk.injEq, Ledger.mk.injEq] at hothers
  obtain ⟨⟨hfleet, hcalls, hpublished⟩, hbus, hstrategy⟩ := hothers
  rw [resolve, hh]
  dsimp only
  rw [outline_say]
  simp only [outline, ledger, hfleet, hcalls, hbus, hstrategy]
  congr 2

/-- To resolve a call is to settle that it has been served. -/
theorem outline_resolve (b : Bank) (id : CarId) (t : Target) :
    (b.resolve id t).1.outline =
      { b.outline with ledger := b.ledger.settle (.stopServed id t.floor t.direction) } := by
  cases hpending : b.calls.has t with
  | false =>
    rw [resolve_of_not_pending hpending, Ledger.settle_of_not_pending b.ledger hpending]
    rfl
  | true =>
    have hcars : (b.fleet.map fun c => (Deed.announced (.stopServed id t.floor t.direction)).act
        b.calls c) = b.fleet.withdrawFromOthers id t := by
      apply List.map_congr_left
      intro c _
      by_cases hid : c.id = id <;> simp [Deed.act, Deed.yield, hid, hpending]
    rw [outline_resolve_of_pending hpending, Ledger.settle, Ledger.after]
    simp only [outline, ledger, hcars]
    rfl

/-- A bank with a calm bus, this ledger and this strategy. -/
structure Shows (b : Bank) (l : Ledger) (s : Strategy) : Prop where
  ledger : b.ledger = l
  strategy : b.strategy = s
  calm : b.bus.Calm

variable {b b' : Bank} {l : Ledger} {s : Strategy}

lemma Shows.of_outline (h : b.Shows l s) (ho : b'.outline = b.outline) : b'.Shows l s where
  ledger := (congrArg Outline.ledger ho).trans h.ledger
  strategy := (congrArg Outline.strategy ho).trans h.strategy
  calm := by
    have hbus : b'.bus = b.bus := congrArg Outline.bus ho
    rw [hbus]
    exact h.calm

lemma Shows.car? (h : b.Shows l s) (id : CarId) : b.car? id = l.fleet.car? id :=
  congrArg (fun l : Ledger => l.fleet.car? id) h.ledger

lemma Shows.with_fleet (h : b.Shows l s) (fleet : Fleet) :
    { b with fleet }.Shows { l with fleet } s where
  ledger := congrArg (fun l : Ledger => { l with fleet }) h.ledger
  strategy := h.strategy
  calm := h.calm

lemma Shows.note (h : b.Shows l s) {n : Note}
    (hn : ∀ event subscriptions, n ≠ .opened event subscriptions) : (b.note n).Shows l s :=
  h.of_outline (outline_note b hn)

lemma Shows.say (h : b.Shows l s) (level : Log.Level) (message : String)
    (fields : List (String × Log.Field)) : (b.say level message fields).Shows l s :=
  h.of_outline (outline_say b level message fields)

theorem Shows.resolve (h : b.Shows l s) (id : CarId) (t : Target) :
    (b.resolve id t).1.Shows (l.settle (.stopServed id t.floor t.direction)) s where
  ledger := by
    rw [← h.ledger]
    exact congrArg Outline.ledger (outline_resolve b id t)
  strategy := (congrArg Outline.strategy (outline_resolve b id t)).trans h.strategy
  calm := by
    have hbus : (b.resolve id t).1.bus = b.bus := congrArg Outline.bus (outline_resolve b id t)
    rw [hbus]
    exact h.calm

/-! ### Publishing -/

/-- A handler that makes no calls has no effect. -/
def Passive (react : React) : Prop := ∀ b s, react b s [] = b

lemma react_passive (depth : Nat) : Passive (Bank.react depth) := by
  intro b s
  cases depth <;> rfl

variable {react : React}

/-- A subscription has an effect on the ledger only if it is the resolver's. -/
theorem Shows.deliver (h : b.Shows l s) (hr : Passive react) (event : Event)
    (sub : Subscription) :
    (deliver react b event sub).1.Shows
      (if sub.subscriber = .resolver then l.settle event else l) s := by
  have hn : (b.note (.invoked sub event)).Shows l s := h.note (by simp)
  unfold Bank.deliver
  cases hsub : sub.subscriber with
  | logger => exact hn.of_outline (outline_log _ _)
  | recorder => exact hn
  | resolver =>
    cases event with
    | stopServed car floor direction => exact hn.resolve car ⟨floor, direction⟩
    | _ =>
      rw [if_pos rfl, Ledger.settle_of_kind_ne _ _ (by simp [Event.kind])]
      exact hn
  | scripted slot =>
    obtain ⟨hcalls, hcalm⟩ := hn.calm.react slot
    dsimp only
    rw [hcalls, hr]
    exact ⟨hn.ledger, hn.strategy, hcalm⟩

lemma Shows.noteFailure (h : b.Shows l s) (event : Event) (sub : Subscription)
    (error : Option HandlerError) : (b.noteFailure event sub error).Shows l s := by
  cases error with
  | none => exact h
  | some e =>
    have hcount : { b with bus := { b.bus with failures := b.bus.failures + 1 } }.Shows l s :=
      ⟨h.ledger, h.strategy, h.calm.silent, h.calm.resolver⟩
    exact hcount.say _ _ _

lemma Shows.deliverCounted {r : Bank × Delivery} (h : r.1.Shows l s) (hr : Passive react)
    (event : Event) (sub : Subscription) :
    (deliverCounted react event r sub).1.Shows
      (if sub.subscriber = .resolver then l.settle event else l) s :=
  ((h.deliver hr event sub).note (by simp)).noteFailure event sub _

/-- However many subscriptions an event goes to, what it sets right is set right once. -/
theorem Shows.foldl_deliverCounted {r : Bank × Delivery} (h : r.1.Shows l s)
    (hr : Passive react) (event : Event) (subs : List Subscription) :
    (subs.foldl (Bank.deliverCounted react event) r).1.Shows
      (if ∃ sub ∈ subs, sub.subscriber = .resolver then l.settle event else l) s := by
  induction subs generalizing r l with
  | nil => simpa using h
  | cons sub rest ih =>
    have hrest := ih (h.deliverCounted hr event sub)
    rw [List.foldl_cons]
    by_cases hsub : sub.subscriber = .resolver
    · rw [if_pos ⟨sub, List.mem_cons_self, hsub⟩]
      simpa only [hsub, if_true, Ledger.settle_settle, ite_self] using hrest
    · simpa [hsub] using hrest

lemma Shows.opened (h : b.Shows l s) (event : Event) :
    (b.opened event).Shows { l with history := l.history ++ [event] } s where
  ledger := by
    rw [← h.ledger]
    simp only [Bank.ledger, published_opened]
    rfl
  strategy := h.strategy
  calm := ⟨h.calm.silent, h.calm.resolver⟩

/-- On a calm bus publishing an event is a deed by itself. -/
theorem Shows.publish (h : b.Shows l s) (hr : Passive react) (event : Event) :
    (publish react b event).1.Shows (l.after (.announced event)) s := by
  have hopened := (h.opened event).say .trace "Publishing event"
    [("event_type", .text event.kind.dotted),
      ("subscribers", .nat (b.bus.matching event.kind).length)]
  have hall := Shows.foldl_deliverCounted (r := (_, .none)) hopened hr event
    (b.bus.matching event.kind)
  have hsettled : (if ∃ sub ∈ b.bus.matching event.kind, sub.subscriber = .resolver
      then ({ l with history := l.history ++ [event] } : Ledger).settle event
      else { l with history := l.history ++ [event] }) = l.after (.announced event) := by
    have hsame : l.after (.announced event) =
        ({ l with history := l.history ++ [event] } : Ledger).settle event := rfl
    by_cases hk : event.kind = .stopServed
    · obtain ⟨sub, hm, hsub, hwants⟩ := h.calm.resolver
      rw [if_pos ⟨sub, List.mem_filter.mpr ⟨hm, hk ▸ hwants⟩, hsub⟩, hsame]
    · rw [hsame, Ledger.settle_of_kind_ne _ _ hk, ite_self]
  rw [hsettled] at hall
  exact hall.note (by simp)

lemma Shows.publishAll (h : b.Shows l s) (hr : Passive react) (events : List Event) :
    (publishAll react b events).Shows
      (events.foldl (fun l event => l.after (.announced event)) l) s := by
  induction events generalizing b l with
  | nil => exact h
  | cons event rest ih => exact ih (h.publish hr event)

end Bank
end ElevatorBank
