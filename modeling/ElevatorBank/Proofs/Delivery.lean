import ElevatorBank.Bank.Start
import ElevatorBank.Proofs.Enduring

/-!
# Delivery

What publishing leaves in the trace, however the handlers behave and whatever they do to the
bus while they are called (`Handled`). A publication goes to the subscriptions that matched
when it began, one after the other; all that a handler publishes is published in full before
the handler has returned (`Session`, `Deliveries`).
-/
namespace ElevatorBank

namespace Note

def IsLog (n : Note) : Prop := ∃ r, n = .logged r

/-- A publication begins. -/
def isOpened : Note → Bool
  | .opened .. => true
  | _ => false

/-- The failures that a publication reports. -/
def failed : Note → Nat
  | .closed _ delivery => delivery.failed
  | _ => 0

section
variable (event : Event) (sub : Subscription)

@[simp] lemma isOpened_opened (subs : List Subscription) :
    (opened event subs).isOpened = true := rfl

@[simp] lemma isOpened_invoked : (invoked sub event).isOpened = false := rfl

@[simp] lemma isOpened_returned (error : Option HandlerError) :
    (returned sub error).isOpened = false := rfl

@[simp] lemma isOpened_closed (delivery : Delivery) :
    (closed event delivery).isOpened = false := rfl

@[simp] lemma failed_opened (subs : List Subscription) : (opened event subs).failed = 0 := rfl

@[simp] lemma failed_invoked : (invoked sub event).failed = 0 := rfl

@[simp] lemma failed_returned (error : Option HandlerError) : (returned sub error).failed = 0 := rfl

@[simp] lemma failed_closed (delivery : Delivery) :
    (closed event delivery).failed = delivery.failed := rfl

end

/-- The failures that all publications among some notes report. -/
def failures : List Note → Nat
  | [] => 0
  | n :: rest => n.failed + failures rest

@[simp] lemma failures_nil : failures [] = 0 := rfl

@[simp] lemma failures_cons (n : Note) (rest : List Note) :
    failures (n :: rest) = n.failed + failures rest := rfl

@[simp] lemma failures_append (notes more : List Note) :
    failures (notes ++ more) = failures notes + failures more := by
  induction notes with
  | nil => simp
  | cons n rest ih => simp [ih, Nat.add_assoc]

end Note

/-- The report on handlers that have ended with these errors. -/
def Delivery.of (errors : List (Option HandlerError)) : Delivery :=
  ⟨errors.countP (·.isNone), errors.countP (·.isSome)⟩

/-- The notes of one publication. The log may tell of it before the first handler is called. -/
def publication (event : Event) (subs : List Subscription) (errors : List (Option HandlerError))
    (logs deliveries : List Note) : List Note :=
  .opened event subs :: (logs ++ deliveries) ++ [.closed event (.of errors)]

mutual

/-- The notes of what has happened between two moments at which the bus had these
subscriptions, with no publication under way at either. -/
inductive Session : List Subscription → List Note → List Subscription → Prop
  | nil (subs : List Subscription) : Session subs [] subs
  | subscribe {before after : List Subscription} {notes : List Note}
    (h : Session before notes after) (sub : Subscription) : Session before notes (after ++ [sub])
  | unsubscribe {before after : List Subscription} {notes : List Note}
    (h : Session before notes after) (name : String) :
    Session before notes (after.filter (·.name != name))
  | logged {before after : List Subscription} {notes : List Note}
    (h : Session before notes after) (r : Log.Record) :
    Session before (notes ++ [.logged r]) after
  | answered {before after : List Subscription} {notes : List Note}
    (h : Session before notes after) (sub : Subscription) (answer : Answer) :
    Session before (notes ++ [.answered sub answer]) after
  /-- The publication goes to the subscriptions that want the event when it begins. -/
  | published {before between after : List Subscription} {notes logs deliveries : List Note}
    {event : Event} {errors : List (Option HandlerError)} (h : Session before notes between)
    (hlogs : ∀ n ∈ logs, n.IsLog)
    (hdeliveries : Deliveries event between (between.filter (·.wants event.kind)) errors
      deliveries after) :
    Session before
      (notes ++ publication event (between.filter (·.wants event.kind)) errors logs deliveries)
      after

/-- The notes of an event being delivered to some subscriptions one after the other, with the
errors that their handlers have ended with. -/
inductive Deliveries : Event → List Subscription → List Subscription →
    List (Option HandlerError) → List Note → List Subscription → Prop
  | nil (event : Event) (subs : List Subscription) : Deliveries event subs [] [] [] subs
  /-- Whatever the handler does is done when it has returned. A failure is logged then. -/
  | delivered {event : Event} {before between after subs : List Subscription}
    {errors : List (Option HandlerError)} {notes inner logs : List Note}
    (h : Deliveries event before subs errors notes between) (sub : Subscription)
    (error : Option HandlerError) (hinner : Session between inner after)
    (hlogs : ∀ n ∈ logs, n.IsLog) :
    Deliveries event before (subs ++ [sub]) (errors ++ [error])
      (notes ++ .invoked sub event :: (inner ++ .returned sub error :: logs)) after

end

namespace Bank

/-- The bus has the subscriptions and the counts that it had, and nothing has been noted but the
log. The scripts of the handlers may have changed. -/
structure LogsOnly (b b' : Bank) : Prop where
  subscriptions : b'.bus.subscriptions = b.bus.subscriptions
  published : b'.bus.published = b.bus.published
  failures : b'.bus.failures = b.bus.failures
  trace : ∃ logs : List Note, b'.trace = logs.reverse ++ b.trace ∧ ∀ n ∈ logs, n.IsLog

/-- What can become of a bank while handlers subscribe and unsubscribe others and publish,
with handlers that do the same, and do as they like with all that is no matter of the bus: to
what end a handler comes the next time is up to them. -/
inductive Handled : Bank → Bank → Prop
  | refl (b : Bank) : Handled b b
  | subscribe {a b : Bank} (h : Handled a b) (sub : Subscription) :
    Handled a { b with bus := b.bus.subscribe sub }
  | unsubscribe {a b : Bank} (h : Handled a b) (name : String) :
    Handled a { b with bus := b.bus.unsubscribe name }
  | publish {a b : Bank} (h : Handled a b) {react : React}
    (hr : ∀ c sub calls, Handled c (react c sub calls)) (event : Event) :
    Handled a (Bank.publish react b event).1
  | answered {a b : Bank} (h : Handled a b) (sub : Subscription) (answer : Answer) :
    Handled a (b.note (.answered sub answer))
  | logsOnly {a b c : Bank} (h : Handled a b) (hc : b.LogsOnly c) : Handled a c

/-- What has been noted between two moments, and how much the counts of the bus have grown. -/
structure Grows (b b' : Bank) (notes : List Note) : Prop where
  trace : b'.trace = notes.reverse ++ b.trace
  session : Session b.bus.subscriptions notes b'.bus.subscriptions
  published : b'.bus.published = b.bus.published + notes.countP (·.isOpened)
  failures : b'.bus.failures = b.bus.failures + Note.failures notes

variable {b b' c : Bank} {react : React} {event : Event}

/-! ### What leaves only a log -/

lemma logsOnly_of_trace (hbus : b'.bus = b.bus) (htrace : b'.trace = b.trace) : b.LogsOnly b' :=
  ⟨by rw [hbus], by rw [hbus], by rw [hbus], [], htrace, by simp⟩

lemma LogsOnly.trans (h : b.LogsOnly b') (h' : b'.LogsOnly c) : b.LogsOnly c := by
  obtain ⟨logs, htrace, hlogs⟩ := h.trace
  obtain ⟨logs', htrace', hlogs'⟩ := h'.trace
  refine ⟨h'.subscriptions.trans h.subscriptions, h'.published.trans h.published,
    h'.failures.trans h.failures, logs ++ logs', ?_, fun n hn => ?_⟩
  · rw [htrace', htrace, List.reverse_append, List.append_assoc]
  · exact (List.mem_append.mp hn).elim (hlogs n) (hlogs' n)

lemma logsOnly_log (b : Bank) (r : Log.Record) : b.LogsOnly (b.log r) := by
  unfold log
  split_ifs
  · exact ⟨rfl, rfl, rfl, [.logged r], rfl, fun n hn => ⟨r, List.mem_singleton.mp hn⟩⟩
  · exact logsOnly_of_trace rfl rfl

lemma logsOnly_say (b : Bank) (level : Log.Level) (message : String)
    (fields : List (String × Log.Field)) : b.LogsOnly (b.say level message fields) :=
  logsOnly_log b _

lemma logsOnly_foldl {α : Type} {f : Bank → α → Bank} (hf : ∀ (b : Bank) a, b.LogsOnly (f b a))
    (as : List α) (b : Bank) : b.LogsOnly (as.foldl f b) := by
  induction as generalizing b with
  | nil => exact logsOnly_of_trace rfl rfl
  | cons a rest ih => exact (hf b a).trans (ih _)

lemma logsOnly_withdrawFromOthers (b : Bank) (id : CarId) (t : Target) :
    b.LogsOnly (b.withdrawFromOthers id t).1 := by
  have hchanged : b.LogsOnly { b with fleet := b.fleet.withdrawFromOthers id t } :=
    logsOnly_of_trace rfl rfl
  have hnoted := logsOnly_foldl (fun (b : Bank) id => logsOnly_say b .debug "Stop removed"
    [("unit_id", .nat id), ("floor", .int t.floor), ("direction", .text t.direction.name)])
    (b.fleet.others id t) { b with fleet := b.fleet.withdrawFromOthers id t }
  exact (hchanged.trans hnoted).trans (logsOnly_say _ _ _ _)

lemma logsOnly_resolve (b : Bank) (id : CarId) (t : Target) : b.LogsOnly (b.resolve id t).1 := by
  unfold resolve
  split
  · exact logsOnly_of_trace rfl rfl
  · have hresolved : (b.withdrawFromOthers id t).1.LogsOnly { (b.withdrawFromOthers id t).1 with
        calls := (b.withdrawFromOthers id t).1.calls.resolve t } := logsOnly_of_trace rfl rfl
    exact ((logsOnly_withdrawFromOthers b id t).trans hresolved).trans (logsOnly_say _ _ _ _)

/-! ### Growing -/

lemma countP_isOpened_logs {logs : List Note} (hlogs : ∀ n ∈ logs, n.IsLog) :
    logs.countP (·.isOpened) = 0 := by
  refine List.countP_eq_zero.mpr fun n hn => ?_
  obtain ⟨r, rfl⟩ := hlogs n hn
  simp [Note.isOpened]

lemma failures_logs {logs : List Note} (hlogs : ∀ n ∈ logs, n.IsLog) :
    Note.failures logs = 0 := by
  induction logs with
  | nil => rfl
  | cons n rest ih =>
    obtain ⟨⟨r, rfl⟩, hrest⟩ := List.forall_mem_cons.mp hlogs
    exact (Nat.zero_add _).trans (ih hrest)

lemma countP_isOpened_publication {subs : List Subscription} {errors : List (Option HandlerError)}
    {logs deliveries : List Note} (hlogs : ∀ n ∈ logs, n.IsLog) :
    (publication event subs errors logs deliveries).countP (·.isOpened) =
      deliveries.countP (·.isOpened) + 1 := by
  simp [publication, List.countP_append, List.countP_cons, countP_isOpened_logs hlogs]

lemma failures_publication {subs : List Subscription} {errors : List (Option HandlerError)}
    {logs deliveries : List Note} (hlogs : ∀ n ∈ logs, n.IsLog) :
    Note.failures (publication event subs errors logs deliveries) =
      Note.failures deliveries + errors.countP (·.isSome) := by
  simp [publication, failures_logs hlogs, Delivery.of]

lemma session_logs {before after : List Subscription} {notes logs : List Note}
    (h : Session before notes after) (hlogs : ∀ n ∈ logs, n.IsLog) :
    Session before (notes ++ logs) after := by
  induction logs generalizing notes with
  | nil => rwa [List.append_nil]
  | cons n rest ih =>
    obtain ⟨r, rfl⟩ := hlogs n List.mem_cons_self
    have hrest := ih (h.logged r) fun n hn => hlogs n (List.mem_cons_of_mem _ hn)
    rwa [List.append_assoc] at hrest

lemma Grows.refl (b : Bank) : b.Grows b [] where
  trace := rfl
  session := .nil _
  published := rfl
  failures := rfl

lemma Grows.logsOnly {notes : List Note} (h : b.Grows b' notes) (h' : b'.LogsOnly c) :
    ∃ logs, b.Grows c (notes ++ logs) := by
  obtain ⟨logs, htrace, hlogs⟩ := h'.trace
  refine ⟨logs, ?_, ?_, ?_, ?_⟩
  · rw [htrace, h.trace, List.reverse_append, List.append_assoc]
  · rw [h'.subscriptions]
    exact session_logs h.session hlogs
  · rw [h'.published, h.published, List.countP_append, countP_isOpened_logs hlogs, Nat.add_zero]
  · rw [h'.failures, h.failures, Note.failures_append, failures_logs hlogs,
      Nat.add_zero]

lemma Grows.of_start {notes : List Note} (h : b'.Grows c notes) (htrace : b'.trace = b.trace)
    (hsubs : b'.bus.subscriptions = b.bus.subscriptions)
    (hpublished : b'.bus.published = b.bus.published)
    (hfailures : b'.bus.failures = b.bus.failures) : b.Grows c notes where
  trace := htrace ▸ h.trace
  session := hsubs ▸ h.session
  published := hpublished ▸ h.published
  failures := hfailures ▸ h.failures

/-! ### Publishing -/

/-- One handler is called for each subscription, and it is counted either way. -/
lemma count_deliveries {before subs after : List Subscription} {errors : List (Option HandlerError)}
    {notes : List Note} : Deliveries event before subs errors notes after →
      (Delivery.of errors).delivered + (Delivery.of errors).failed = subs.length
  | .nil _ _ => rfl
  | .delivered h sub error _ _ => by
    have ih := count_deliveries h
    cases error <;> simp [Delivery.of] at ih ⊢ <;> omega

/-- The event has gone to some subscriptions. A failure counts as soon as its handler has
ended. -/
structure Delivers (event : Event) (b : Bank) (r : Bank × Delivery) (subs : List Subscription)
    (errors : List (Option HandlerError)) (notes : List Note) : Prop where
  trace : r.1.trace = notes.reverse ++ b.trace
  deliveries : Deliveries event b.bus.subscriptions subs errors notes r.1.bus.subscriptions
  delivery : r.2 = .of errors
  published : r.1.bus.published = b.bus.published + notes.countP (·.isOpened)
  failures : r.1.bus.failures =
    b.bus.failures + Note.failures notes + errors.countP (·.isSome)

lemma count_of (errors : List (Option HandlerError)) (error : Option HandlerError) :
    (Delivery.of errors).count error = .of (errors ++ [error]) := by
  cases error <;> simp [Delivery.count, Delivery.of]

lemma bus_react {α : Type} (bus : Bus α) (slot : Nat) :
    (bus.react slot).2.subscriptions = bus.subscriptions ∧
      (bus.react slot).2.published = bus.published ∧
      (bus.react slot).2.failures = bus.failures := by
  unfold Bus.react
  split <;> exact ⟨rfl, rfl, rfl⟩

/-- A failure is counted, and then it is logged. -/
lemma exists_counted_noteFailure (b : Bank) (event : Event) (sub : Subscription)
    (error : Option HandlerError) : ∃ counted : Bank, counted.trace = b.trace ∧
      counted.bus = { b.bus with failures := b.bus.failures + [error].countP (·.isSome) } ∧
      counted.LogsOnly (b.noteFailure event sub error) := by
  cases error with
  | none => exact ⟨b, rfl, rfl, logsOnly_of_trace rfl rfl⟩
  | some e =>
    let counted := { b with bus := { b.bus with failures := b.bus.failures + 1 } }
    exact ⟨counted, rfl, rfl, logsOnly_say counted _ _ _⟩

section
variable (hr : ∀ (c : Bank) sub calls, ∃ notes, c.Grows (react c sub calls) notes)
include hr

/-- What a handler does stands in the trace after its call. -/
lemma exists_grows_deliver (b : Bank) (event : Event) (sub : Subscription) :
    ∃ notes, (b.note (.invoked sub event)).Grows (deliver react b event sub).1 notes := by
  have hstart := Grows.refl (b.note (.invoked sub event))
  unfold deliver
  cases sub.subscriber with
  | logger => exact (hstart.logsOnly (logsOnly_log _ _)).imp fun _ h => h
  | recorder => exact ⟨[], hstart⟩
  | resolver =>
    cases event with
    | stopServed car floor direction =>
      exact (hstart.logsOnly (logsOnly_resolve _ car ⟨floor, direction⟩)).imp fun _ h => h
    | _ => exact ⟨[], hstart⟩
  | scripted slot =>
    obtain ⟨hsubs, hpublished, hfailures⟩ := bus_react b.bus slot
    obtain ⟨notes, h⟩ := hr { b.note (.invoked sub event) with bus := (b.bus.react slot).2 } sub
      (b.bus.react slot).1.calls
    exact ⟨notes, h.of_start rfl hsubs hpublished hfailures⟩

/-- One more handler is called and ends. -/
lemma Delivers.deliverCounted {r : Bank × Delivery} {subs : List Subscription}
    {errors : List (Option HandlerError)} {notes : List Note}
    (h : Delivers event b r subs errors notes) (sub : Subscription) : ∃ errors notes,
    Delivers event b (deliverCounted react event r sub) (subs ++ [sub]) errors notes := by
  obtain ⟨inner, hinner⟩ := exists_grows_deliver hr r.1 event sub
  unfold Bank.deliverCounted
  generalize deliver react r.1 event sub = called at hinner ⊢
  obtain ⟨after, error⟩ := called
  obtain ⟨counted, htrace, hbus, hlogged⟩ :=
    exists_counted_noteFailure (after.note (.returned sub error)) event sub error
  obtain ⟨logs, htold, hlogs⟩ := hlogged.trace
  have hcalled : after.trace = inner.reverse ++ .invoked sub event :: r.1.trace := hinner.trace
  have hpublished : after.bus.published = r.1.bus.published + inner.countP (·.isOpened) :=
    hinner.published
  have hfailures : after.bus.failures = r.1.bus.failures + Note.failures inner :=
    hinner.failures
  refine ⟨errors ++ [error], notes ++ .invoked sub event :: (inner ++ .returned sub error :: logs),
    ?_, ?_, ?_, ?_, ?_⟩ <;> dsimp only
  · rw [htold, htrace, note, hcalled, h.trace]
    simp
  · rw [hlogged.subscriptions, hbus]
    exact h.deliveries.delivered sub error hinner.session hlogs
  · rw [h.delivery]
    exact count_of errors error
  · rw [hlogged.published, hbus]
    show after.bus.published = _
    rw [hpublished, h.published]
    simp [List.countP_append, countP_isOpened_logs hlogs, Nat.add_assoc]
  · rw [hlogged.failures, hbus]
    show after.bus.failures + _ = _
    rw [hfailures, h.failures]
    simp [List.countP_append, failures_logs hlogs]
    omega

lemma Delivers.foldl (todo : List Subscription) {r : Bank × Delivery} {subs : List Subscription}
    {errors : List (Option HandlerError)} {notes : List Note}
    (h : Delivers event b r subs errors notes) : ∃ errors notes,
    Delivers event b (todo.foldl (Bank.deliverCounted react event) r) (subs ++ todo) errors
      notes := by
  induction todo generalizing r subs errors notes with
  | nil => exact ⟨errors, notes, by rwa [List.append_nil]⟩
  | cons sub rest ih =>
    obtain ⟨errors', notes', h'⟩ := h.deliverCounted hr sub
    obtain ⟨errors'', notes'', h''⟩ := ih h'
    exact ⟨errors'', notes'', by simpa using h''⟩

/-- The notes of a publication, from its opening to its closing. -/
structure Publishes (b : Bank) (event : Event) (r : Bank × Delivery)
    (errors : List (Option HandlerError)) (logs deliveries : List Note) : Prop where
  trace : r.1.trace =
    (publication event (b.bus.matching event.kind) errors logs deliveries).reverse ++ b.trace
  logs : ∀ n ∈ logs, n.IsLog
  deliveries : Deliveries event b.bus.subscriptions (b.bus.matching event.kind) errors deliveries
    r.1.bus.subscriptions
  report : r.2 = .of errors

theorem exists_publishes (b : Bank) (event : Event) : ∃ errors logs deliveries,
    Publishes b event (publish react b event) errors logs deliveries ∧
      b.Grows (publish react b event).1
        (publication event (b.bus.matching event.kind) errors logs deliveries) := by
  unfold publish
  dsimp only
  generalize hopened : ({ b with bus := { b.bus with published := b.bus.published + 1 } }.note
    (.opened event (b.bus.matching event.kind))) = opened
  have htold := logsOnly_say opened .trace "Publishing event"
    [("event_type", .text event.kind.dotted),
      ("subscribers", .nat (b.bus.matching event.kind).length)]
  generalize opened.say .trace _ _ = told at htold ⊢
  subst hopened
  obtain ⟨logs, htrace, hlogs⟩ := htold.trace
  have hstart : Delivers event told (told, .none) [] [] [] := ⟨rfl, .nil event _, rfl, rfl, rfl⟩
  obtain ⟨errors, deliveries, h⟩ := hstart.foldl hr (b.bus.matching event.kind)
  obtain ⟨htraced, hdeliveries, hreport, hpublished, hfailures⟩ := h
  generalize List.foldl _ _ _ = r at htraced hdeliveries hreport hpublished hfailures ⊢
  have hnotes : (r.1.note (.closed event r.2)).trace =
      (publication event (b.bus.matching event.kind) errors logs deliveries).reverse ++
        b.trace := by
    rw [note, htraced, htrace, hreport, publication]
    simp [note]
  rw [htold.subscriptions] at hdeliveries
  rw [htold.published] at hpublished
  rw [htold.failures] at hfailures
  refine ⟨errors, logs, deliveries, ⟨hnotes, hlogs, hdeliveries, hreport⟩, hnotes, ?_, ?_, ?_⟩
  · exact (Session.nil _).published hlogs hdeliveries
  · rw [countP_isOpened_publication hlogs, Nat.add_comm _ 1, ← Nat.add_assoc]
    exact hpublished
  · rw [failures_publication hlogs, ← Nat.add_assoc]
    exact hfailures

end

/-! ### Handlers -/

lemma Handled.exists_grows (h : Handled b b') : ∃ notes, b.Grows b' notes := by
  induction h with
  | refl b => exact ⟨[], .refl b⟩
  | subscribe _ sub ih =>
    obtain ⟨notes, h⟩ := ih
    exact ⟨notes, h.trace, h.session.subscribe sub, h.published, h.failures⟩
  | unsubscribe _ name ih =>
    obtain ⟨notes, h⟩ := ih
    exact ⟨notes, h.trace, h.session.unsubscribe name, h.published, h.failures⟩
  | @publish a b _ react _ event ih ihr =>
    obtain ⟨notes, h⟩ := ih
    obtain ⟨errors, logs, deliveries, hp, hgrows⟩ := exists_publishes ihr b event
    refine ⟨notes ++ publication event (b.bus.matching event.kind) errors logs deliveries,
      ?_, h.session.published hp.logs hp.deliveries, ?_, ?_⟩
    · rw [hp.trace, h.trace, List.reverse_append, List.append_assoc]
    · rw [hgrows.published, h.published, List.countP_append, Nat.add_assoc]
    · rw [hgrows.failures, h.failures, Note.failures_append, Nat.add_assoc]
  | @answered a b _ sub answer ih =>
    obtain ⟨notes, h⟩ := ih
    refine ⟨notes ++ [.answered sub answer], ?_, h.session.answered sub answer, ?_, ?_⟩
    · rw [note, h.trace, List.reverse_concat, List.cons_append]
    · rw [List.countP_append]
      exact h.published
    · rw [Note.failures_append]
      exact h.failures
  | logsOnly _ hc ih =>
    obtain ⟨notes, h⟩ := ih
    obtain ⟨logs, h'⟩ := h.logsOnly hc
    exact ⟨notes ++ logs, h'⟩

lemma Handled.trans (h : Handled b b') (h' : Handled b' c) : Handled b c := by
  induction h' with
  | refl => exact h
  | subscribe _ sub ih => exact (ih h).subscribe sub
  | unsubscribe _ name ih => exact (ih h).unsubscribe name
  | publish _ hr event ih => exact (ih h).publish hr event
  | answered _ sub answer ih => exact (ih h).answered sub answer
  | logsOnly _ hc ih => exact (ih h).logsOnly hc

lemma LogsOnly.handled (h : b.LogsOnly b') : Handled b b' := (Handled.refl b).logsOnly h

lemma logsOnly_enqueue (b : Bank) (car : Car) (t : Target) : b.LogsOnly (b.enqueue car t) :=
  have hchanged : b.LogsOnly { b with fleet := b.fleet.change car.id (·.enqueue t) } :=
    logsOnly_of_trace rfl rfl
  hchanged.trans (logsOnly_say _ _ _ _)

lemma logsOnly_enqueueOn (t : Target) (b : Bank) (id : CarId) : b.LogsOnly (enqueueOn t b id) := by
  unfold enqueueOn
  split
  · exact logsOnly_enqueue b _ t
  · exact logsOnly_of_trace rfl rfl

lemma logsOnly_register (b : Bank) (t : Target) (cars : List CarId) :
    b.LogsOnly (b.register t cars).1 := by
  have hcalled : b.LogsOnly { b with calls := b.calls.register t cars } := logsOnly_of_trace rfl rfl
  exact (hcalled.trans (logsOnly_foldl (logsOnly_enqueueOn t) cars _)).trans (logsOnly_say _ _ _ _)

lemma logsOnly_assign (b : Bank) (s : Strategy) (t : Target) (cars : List CarId) :
    b.LogsOnly (assign b s t cars) := by
  unfold assign
  split
  · exact logsOnly_register b t cars
  · exact logsOnly_foldl (logsOnly_enqueueOn t) cars b

lemma logsOnly_setMode (b : Bank) (car : Car) (mode : Mode) : b.LogsOnly (b.setMode car mode) := by
  have hchanged : b.LogsOnly { b with fleet := b.fleet.change car.id ({ · with mode }) } :=
    logsOnly_of_trace rfl rfl
  unfold setMode
  dsimp only
  split
  · exact hchanged
  · exact hchanged.trans (logsOnly_say _ _ _ _)

lemma logsOnly_withdraw (b : Bank) (car : Car) (t : Target) : b.LogsOnly (b.withdraw car t) := by
  have hchanged : b.LogsOnly { b with fleet := b.fleet.change car.id (·.withdraw t) } :=
    logsOnly_of_trace rfl rfl
  unfold withdraw
  dsimp only
  split
  · exact hchanged.trans (logsOnly_say _ _ _ _)
  · exact hchanged

lemma Handled.enduring : Enduring (fun _ => True) Handled where
  refl := .refl
  trans := .trans
  apart _ _ _ hbus htrace := (logsOnly_of_trace hbus htrace).handled
  log b r := (logsOnly_log b r).handled
  queue _ _ b queue :=
    have hqueued : b.LogsOnly { b with queue } := logsOnly_of_trace rfl rfl
    hqueued.handled
  enqueue {_ b _ c t} _ _ _ := (logsOnly_enqueue b c t).handled
  setMode {b} _ c mode _ := (logsOnly_setMode b c mode).handled
  resolve b car t := (logsOnly_resolve b car t).handled
  assign {_ _ _} s {t cars} _ _ _ _ _ h := h.logsOnly (logsOnly_assign _ s t cars)
  withdraw {b} _ c t _ _ := (logsOnly_withdraw b c t).handled
  withdrawFromOthers {b car t} _ := (logsOnly_withdrawFromOthers b car t).handled
  register {b t cars} _ _ := (logsOnly_register b t cars).handled
  subscribe {b name kinds script} _ :=
    ((Handled.refl b).subscribe ⟨name, kinds, .scripted b.bus.scripts.length⟩).logsOnly
      ⟨rfl, rfl, rfl, [], rfl, by simp⟩
  unsubscribe {b name} _ := (Handled.refl b).unsubscribe name

/-- An operation is one of the things that a handler may do, when all handlers do no more. -/
lemma Handled.performWith (hr : ∀ c sub calls, Handled c (react c sub calls)) (b : Bank) (op : Op) :
    Handled b (performWith react b op).1 := by
  have hp : ∀ b event, Handled b (Bank.publish react b event).1 :=
    fun b event => (Handled.refl b).publish hr event
  have hc : CarsKeep Handled react := by
    intro b id
    unfold stepCar
    split
    · exact .refl b
    · have hchanged (car : Car) : b.LogsOnly { b with fleet := b.fleet.change id fun _ => car } :=
        logsOnly_of_trace rfl rfl
      exact (hchanged _).handled.trans (Handled.enduring.publishAll (fun b event _ => hp b event) _)
  exact Handled.enduring.performWith (fun b event _ => hp b event) (fun b event _ => hp b event)
    hc b trivial

/-- However deep the calls of handlers nest. -/
lemma handled_react (depth : Nat) (b : Bank) (sub : Subscription) (calls : List Op) :
    Handled b (Bank.react depth b sub calls) := by
  induction depth generalizing b sub calls with
  | zero => exact .refl b
  | succ depth ih =>
    refine Handled.enduring.foldl (fun b op => ?_) calls b
    exact (Handled.performWith ih b op).answered sub _

lemma handled_perform (b : Bank) (op : Op) : Handled b (b.perform op).1 :=
  Handled.performWith (handled_react _) b op

lemma isSome_deliver_iff (react : React) (b : Bank) (event : Event) (sub : Subscription) :
    (deliver react b event sub).2.isSome = true ↔
      ∃ slot, sub.subscriber = .scripted slot ∧ (b.bus.react slot).1.verdict ≠ .succeed := by
  unfold deliver
  cases sub.subscriber with
  | logger => simp
  | recorder => simp
  | resolver => cases event <;> simp
  | scripted slot =>
    simp only [Subscriber.scripted.injEq, exists_eq_left']
    show ((b.bus.react slot).1.verdict.error? sub.name event.kind).isSome = true ↔ _
    cases (b.bus.react slot).1.verdict <;> simp [Verdict.error?]

/-- However the handlers behave, all that is noted between two moments outside of any
publication makes up a session, in which the bus counts the publications and the failures that
they report. A publication, whether a handler begins it or not, goes to the subscriptions that
match at that moment, and its report counts one handler for each of them. It counts as a failure
that a scripted handler does not succeed. Handlers that call back into the bank are among those
that this holds for, however deep their calls nest, and so is all that happens outside of
handlers. -/
theorem delivered_in_order (hr : ∀ c sub calls, Handled c (react c sub calls))
    (h : Handled b b') (event : Event) :
    (∃ notes, b.Grows b' notes) ∧
    (∃ errors logs deliveries,
      Publishes b' event (publish react b' event) errors logs deliveries) ∧
    (∀ event before subs errors notes after, Deliveries event before subs errors notes after →
      (Delivery.of errors).delivered + (Delivery.of errors).failed = subs.length) ∧
    (∀ c event sub, (deliver react c event sub).2.isSome = true ↔
      ∃ slot, sub.subscriber = .scripted slot ∧ (c.bus.react slot).1.verdict ≠ .succeed) ∧
    (∀ depth c sub calls, Handled c (Bank.react depth c sub calls)) ∧
    ∀ c op, Handled c (c.perform op).1 := by
  obtain ⟨errors, logs, deliveries, hpublishes, -⟩ :=
    exists_publishes (fun c sub calls => (hr c sub calls).exists_grows) b' event
  exact ⟨h.exists_grows, ⟨errors, logs, deliveries, hpublishes⟩,
    fun _ _ _ _ _ _ => count_deliveries, isSome_deliver_iff react, handled_react, handled_perform⟩

/-- The relay publishes another event, takes a handler off the bus that is still to come for the
first one, puts a new one on the bus and fails. The handler taken off is called once more, and
panics as it did for the other event; the new one is not called. -/
theorem delivered_in_order_relay : ∃ b, Bank.start {} = .ok b ∧
    let relay : Script Op := ⟨[.publish (.stopServed 1 3 .up), .unsubscribe "gone",
      .subscribe "late" [] ⟨[], 0, .succeed⟩], 1, .failed "broken"⟩
    let c := [Op.subscribe "relay" [.hallCallRaised] relay,
      .subscribe "gone" [] ⟨[], 0, .panic none⟩].foldl (fun c op => (c.perform op).1) b
    let r := publish (Bank.react 1) c (.hallCallRaised 3 .up)
    (∃ errors logs deliveries, Publishes c (.hallCallRaised 3 .up) r errors logs deliveries) ∧
      r.2 = ⟨1, 2⟩ ∧ (∃ notes, b.Grows r.1 notes) ∧ r.1.bus.stats = ⟨2, 3, 4⟩ := by
  have hstart : Bank.start {} = .ok _ := rfl
  refine ⟨_, hstart, ?_⟩
  intro relay c r
  have hready : Handled _ c := Handled.enduring.foldl handled_perform _ _
  obtain ⟨-, hpublishes, -⟩ :=
    delivered_in_order (handled_react 1) hready (.hallCallRaised 3 .up)
  obtain ⟨hgrows, -⟩ := delivered_in_order (handled_react 1)
    (hready.publish (handled_react 1) (.hallCallRaised 3 .up)) (.hallCallRaised 3 .up)
  exact ⟨hpublishes, by decide +kernel, hgrows, by decide +kernel⟩

end Bank
end ElevatorBank
