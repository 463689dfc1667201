import ElevatorBank.Bank.Perform
import Mathlib.Tactic.Common

/-!
# Enduring relations

A relation between a bank and what becomes of it that lasts through every single change lasts
through every operation (`Enduring.performWith`). What it comes to that an event is published
or that a car makes a step are not single changes: of them it has to be shown apart.
-/
namespace ElevatorBank

/-- The operations that go through the command queue. -/
def Op.UsesQueue : Op → Prop
  | .submit _ | .shutdown => True
  | _ => False

/-- The operation may queue the stop on a car. What waits in the command queue may queue any. -/
def Op.MayQueue (t : Target) : Op → Prop
  | .hallCall floor direction => t = ⟨floor, direction⟩
  | .carCall _ floor => t = .cabin floor
  | .submit _ | .shutdown => True
  | .enqueue _ target | .register target _ => t = target
  | _ => False

lemma Op.UsesQueue.mayQueue {op : Op} (h : op.UsesQueue) (t : Target) : op.MayQueue t := by
  cases op with
  | submit command => trivial
  | shutdown => trivial
  | _ => cases h

mutual

/-- The operation is of a kind, and so is all that a handler it subscribes may ever do. -/
def Op.Throughout (P : Op → Prop) : Op → Prop
  | .subscribe name kinds script => P (.subscribe name kinds script) ∧ scriptThroughout P script
  | op => P op

def scriptThroughout (P : Op → Prop) : Script Op → Prop
  | ⟨calls, _, _⟩ => callsThroughout P calls

def callsThroughout (P : Op → Prop) : List Op → Prop
  | [] => True
  | op :: rest => op.Throughout P ∧ callsThroughout P rest

end

namespace Bank

/-- A relation that lasts through every single change but publishing, where only operations of
a kind are carried out. -/
structure Enduring (A : Op → Prop) (R : Bank → Bank → Prop) : Prop where
  refl : ∀ b, R b b
  trans : ∀ {a b c}, R a b → R b c → R a c
  /-- The strategy and the driver have no part in it. -/
  apart : ∀ {b b' : Bank}, b'.fleet = b.fleet → b'.calls = b.calls → b'.queue = b.queue →
    b'.bus = b.bus → b'.trace = b.trace → R b b'
  log : ∀ b r, R b (b.log r)
  queue : ∀ {op}, A op → op.UsesQueue → ∀ b queue, R b { b with queue }
  enqueue : ∀ {op} {b : Bank} {car c t}, A op → op.MayQueue t → b.car? car = some c →
    R b (b.enqueue c t)
  setMode : ∀ {b : Bank} {car c} (mode), b.car? car = some c → R b (b.setMode c mode)
  resolve : ∀ b car t, R b (b.resolve car t).1
  /-- The cars of an assignment have been looked up before it is announced. -/
  assign : ∀ {op} {a b : Bank} (s) {t cars}, A op → op.MayQueue t → t.direction.isHall = true →
    cars ≠ [] → a.fleet.unknown? cars = none → R a b → R a (assign b s t cars)
  withdraw : ∀ {b : Bank} {car c t}, A (.withdraw car t) → b.car? car = some c →
    R b (b.withdraw c t)
  withdrawFromOthers : ∀ {b : Bank} {car t}, A (.withdrawFromOthers car t) →
    R b (b.withdrawFromOthers car t).1
  register : ∀ {b : Bank} {t cars}, A (.register t cars) → b.fleet.unknown? cars = none →
    R b (b.register t cars).1
  subscribe : ∀ {b : Bank} {name kinds script}, A (.subscribe name kinds script) →
    R b { b with bus := b.bus.subscribeScript name kinds script }
  unsubscribe : ∀ {b : Bank} {name}, A (.unsubscribe name) →
    R b { b with bus := b.bus.unsubscribe name }

/-- A relation lasts through the publishing of what dispatching announces, which is no deed of
a car. -/
def AnnouncingKeeps (R : Bank → Bank → Prop) (react : React) : Prop :=
  ∀ b event, event.car? = none → R b (publish react b event).1

/-- A relation lasts through every step of a car. -/
def CarsKeep (R : Bank → Bank → Prop) (react : React) : Prop := ∀ b id, R b (stepCar react b id).1

/-- A relation lasts through whatever the handlers on a bus do when they are called. -/
def HandlersKeep (R : Bank → Bank → Prop) (react : React) : Prop :=
  ∀ b slot sub, R b (react { b with bus := (b.bus.react slot).2 } sub (b.bus.react slot).1.calls)

/-- The bank once an event is published, before anybody has been told of it. -/
def opened (b : Bank) (event : Event) : Bank :=
  { b with bus := { b.bus with published := b.bus.published + 1 } }.note
    (.opened event (b.bus.matching event.kind))

variable {A : Op → Prop} {R : Bank → Bank → Prop} {react : React} {b : Bank}

namespace Enduring

lemma say (h : Enduring A R) (b : Bank) (level : Log.Level) (message : String)
    (fields : List (String × Log.Field)) : R b (b.say level message fields) := h.log b _

lemma foldl (h : Enduring A R) {α : Type} {f : Bank → α → Bank} (hf : ∀ b a, R b (f b a))
    (as : List α) (b : Bank) : R b (as.foldl f b) := by
  induction as generalizing b with
  | nil => exact h.refl b
  | cons a rest ih => exact h.trans (hf b a) (ih _)

/-- As `foldl`, where something else is carried along. -/
lemma foldl_fst (h : Enduring A R) {α γ : Type} {f : Bank × γ → α → Bank × γ}
    (hf : ∀ r a, R r.1 (f r a).1) (as : List α) (r : Bank × γ) : R r.1 (as.foldl f r).1 := by
  induction as generalizing r with
  | nil => exact h.refl r.1
  | cons a rest ih => exact h.trans (hf r a) (ih _)

/-! ### Publishing -/

section
variable (h : Enduring A R)
  (hnote : ∀ (b : Bank) {n : Note}, (∀ event subs, n ≠ .opened event subs) → R b (b.note n))
  (hcount : ∀ b : Bank, R b { b with bus := { b.bus with failures := b.bus.failures + 1 } })
include h hcount

lemma noteFailure (b : Bank) (event : Event) (sub : Subscription) (error : Option HandlerError) :
    R b (b.noteFailure event sub error) := by
  cases error with
  | none => exact h.refl b
  | some e => exact h.trans (hcount b) (h.say _ _ _ _)

variable (hr : HandlersKeep R react)
include hnote hr

lemma deliverCounted (event : Event) (r : Bank × Delivery) (sub : Subscription) :
    R r.1 (deliverCounted react event r sub).1 := by
  have hinvoked := hnote r.1 (n := .invoked sub event) (by simp)
  have hdelivered : R r.1 (deliver react r.1 event sub).1 := by
    unfold deliver
    cases sub.subscriber with
    | logger => exact h.trans hinvoked (h.log _ _)
    | recorder => exact hinvoked
    | resolver =>
      cases event with
      | stopServed car floor direction => exact h.trans hinvoked (h.resolve _ car _)
      | _ => exact hinvoked
    | scripted slot => exact h.trans hinvoked (hr _ slot sub)
  have hreturned := hnote (deliver react r.1 event sub).1
    (n := .returned sub (deliver react r.1 event sub).2) (by simp)
  exact h.trans (h.trans hdelivered hreturned) (h.noteFailure hcount _ event sub _)

/-- Whoever is told of an event, and whatever they do, once it has been published. -/
theorem publish_opened (b : Bank) (event : Event) :
    R (b.opened event) (publish react b event).1 := by
  have htold := h.say (b.opened event) .trace "Publishing event"
    [("event_type", .text event.kind.dotted),
      ("subscribers", .nat (b.bus.matching event.kind).length)]
  unfold publish
  refine h.trans ?_ (hnote _ (by simp))
  exact h.trans htold (h.foldl_fst (h.deliverCounted hnote hcount hr event) _ (_, .none))

end

lemma publishAll (h : Enduring A R) {events : List Event}
    (hp : ∀ b, ∀ event ∈ events, R b (publish react b event).1) (b : Bank) :
    R b (publishAll react b events) := by
  induction events generalizing b with
  | nil => exact h.refl b
  | cons event rest ih =>
    have hrest := ih fun b other hm => hp b other (List.mem_cons_of_mem _ hm)
    exact h.trans (hp b event List.mem_cons_self) (hrest _)

/-! ### Dispatching -/

section
variable (h : Enduring A R) (hp : AnnouncingKeeps R react) {op : Op} (ha : A op)
include h hp ha

lemma dispatch (b : Bank) {t : Target} (hop : op.MayQueue t) (ht : t.direction.isHall = true) :
    R b (dispatch react b t).1 := by
  have hlogged := h.foldl h.log (b.strategy.remarks t.floor t.direction b.fleet.snapshots) b
  unfold Bank.dispatch
  dsimp only
  cases b.strategy.select t.floor t.direction b.fleet.snapshots with
  | error reason => exact hlogged
  | ok chosen =>
    cases chosen with
    | nil => exact h.trans hlogged (h.trans (h.log _ _) (h.say _ _ _ _))
    | cons first rest =>
      dsimp only
      split
      · exact hlogged
      · next hu =>
        have hne : kept b.strategy (first :: rest) ≠ [] := by
          unfold kept
          split <;> simp
        have htold := hp ((b.strategy.remarks t.floor t.direction
          b.fleet.snapshots).foldl Bank.log b)
          (.assignmentMade t.floor t.direction (kept b.strategy (first :: rest))) rfl
        exact h.trans hlogged (h.trans (h.assign b.strategy ha hop ht hne hu htold) (h.log _ _))

theorem hallCall (b : Bank) {floor : Int} {direction : Direction}
    (hop : op.MayQueue ⟨floor, direction⟩) : R b (hallCall react b floor direction).1 := by
  unfold Bank.hallCall
  split
  · next hd => exact h.trans (hp b _ rfl) (h.dispatch hp ha _ hop hd)
  · exact h.refl b

omit hp in
theorem carCall (b : Bank) (car : CarId) {floor : Int} (hop : op.MayQueue (.cabin floor)) :
    R b (carCall b car floor).1 := by
  unfold Bank.carCall
  split
  · exact h.refl b
  · next hc => exact h.trans (h.enqueue ha hop hc) (h.log _ _)

lemma execute (b : Bank) {command : Command}
    (hop : ∀ t, command.op.MayQueue t → op.MayQueue t) : R b (execute react b command).1 := by
  cases command with
  | hallCall floor direction => exact h.hallCall hp ha b (hop _ rfl)
  | carCall car floor => exact h.carCall ha b car (hop _ rfl)

end

lemma aside (h : Enduring A R) {α : Type} {work : Bank → Bank × α} (hw : ∀ b, R b (work b).1)
    (b : Bank) : R b (b.aside work).1 := by
  have hsilent : R b { b with audible := false } := h.apart rfl rfl rfl rfl rfl
  exact h.trans (h.trans hsilent (hw _)) (h.apart rfl rfl rfl rfl rfl)

/-! ### Steps and drivers -/

lemma repeated (h : Enduring A R) {once : Bank → Bank × List Event} (honce : ∀ b, R b (once b).1)
    (n : Nat) (b : Bank) : R b (repeated once n b).1 := by
  induction n generalizing b with
  | zero => exact h.refl b
  | succ n ih => exact h.trans (honce b) (ih _)

section
variable (h : Enduring A R) (hc : CarsKeep R react)
include h hc

lemma step (b : Bank) : R b (step react b).1 := by
  unfold Bank.step stepCars
  refine h.foldl_fst (fun r id => ?_) b.fleet.ids (b, [])
  exact hc r.1 id

lemma stepUntilIdle (n : Nat) (b : Bank) : R b (stepUntilIdle react n b) := by
  induction n generalizing b with
  | zero => exact h.refl b
  | succ n ih =>
    unfold Bank.stepUntilIdle
    split
    · exact h.refl b
    · exact h.trans (h.step hc b) (ih _)

lemma settle (n : Nat) (b : Bank) : R b (settle react n b) := by
  induction n generalizing b with
  | zero => exact h.refl b
  | succ n ih =>
    unfold Bank.settle
    split
    · exact h.refl b
    · exact h.trans (h.stepUntilIdle hc _ b) (ih _)

lemma drive (b : Bank) : R b (drive react b) := by
  have hstarted : R b b.startDriver := by
    have hdriven : R b { b with driver := some (.start b.config.stepIntervalMs) } :=
      h.apart rfl rfl rfl rfl rfl
    unfold startDriver
    split
    · exact h.refl b
    · exact h.trans hdriven (h.say _ _ _ _)
  have hsettled : R b.startDriver (b.startDriver.aside fun b =>
      (Bank.settle react (b.callbacks + 1) b, ())).1 := h.aside (fun b => h.settle hc _ b) _
  exact h.trans (h.trans hstarted hsettled) (h.apart rfl rfl rfl rfl rfl)

lemma driveFor (b : Bank) (intervalMs steps : Nat) : R b (driveFor react b intervalMs steps).1 :=
  h.trans (h.say _ _ _ _) (h.aside (fun b => h.repeated (h.step hc) steps b) _)

end

/-! ### Workers -/

section
variable (h : Enduring A R) (hp : AnnouncingKeeps R react) {op : Op} (ha : A op)
  (hop : op.UsesQueue)
include h hp ha hop

lemma finish (b : Bank) (job : Job) : R b (finish react b job) := by
  have hexecuted (b : Bank) : R b (Bank.execute react b job.command).1 :=
    h.execute hp ha b fun t _ => hop.mayQueue t
  have hcarried := h.aside hexecuted b
  unfold Bank.finish
  dsimp only
  split
  · exact hcarried
  · exact h.trans hcarried (h.queue ha hop _ _)

lemma finishRunning (b : Bank) : R b (finishRunning react b) := h.foldl (h.finish hp ha hop) _ b

lemma work (b : Bank) : R b (work react b) := by
  unfold Bank.work
  split
  · exact h.trans (h.queue ha hop b _) (h.finish hp ha hop _ _)
  · exact h.refl b

lemma workFor (n : Nat) (b : Bank) : R b (workFor react n b) := by
  induction n generalizing b with
  | zero => exact h.refl b
  | succ n ih => exact h.trans (h.work hp ha hop b) (ih _)

lemma call (b : Bank) (command : Command) : R b (call react b command).1 := by
  unfold Bank.call submit submitFrom admission
  cases b.queue.submit command with
  | error e => exact h.refl b
  | ok submitted =>
    have hsubmitted : R b (noteSubmission { b with queue := submitted.2 } command) :=
      h.trans (h.queue ha hop b submitted.2) (h.say _ _ _ _)
    exact h.trans hsubmitted (h.trans (h.workFor hp ha hop _ _) (h.queue ha hop _ _))

omit hp ha hop in
lemma noteShutdown (b : Bank) (abandoned : List Job) : R b (b.noteShutdown abandoned) := by
  have htold := h.foldl (fun b (job : Job) => h.say b .debug "Command abandoned at shutdown"
    [("command", .text job.command.text)]) abandoned b
  unfold Bank.noteShutdown
  refine h.trans ?_ (h.say _ _ _ _)
  split
  · exact htold
  · exact h.trans htold (h.say _ _ _ _)

lemma shutdown (b : Bank) : R b (shutdown react b) := by
  have hfinished : R b (Bank.finishRunning react
      { b with queue := b.queue.close.bar.dismiss.refuse }) :=
    h.trans (h.queue ha hop b _) (h.finishRunning hp ha hop _)
  unfold Bank.shutdown
  split
  · exact h.refl b
  · refine h.trans hfinished ?_
    generalize Bank.finishRunning react _ = b
    have hended := h.queue ha hop b b.queue.abandon
    dsimp only
    split
    · exact h.trans hended (h.noteShutdown _ _)
    · exact hended

end

/-! ### Operations -/

lemma onCar (h : Enduring A R) {id : CarId} {work : Car → Bank × Answer}
    (hw : ∀ c, b.car? id = some c → R b (work c).1) : R b (onCar b id work).1 := by
  unfold Bank.onCar
  split
  · next hc => exact hw _ hc
  · exact h.refl b

/-- Through any operation of the kind a lasting relation lasts. -/
theorem performWith (h : Enduring A R) (hp : AnnouncingKeeps R react)
    (hpublished : ∀ b event, A (.publish event) → R b (publish react b event).1)
    (hc : CarsKeep R react) (b : Bank) {op : Op} (ha : A op) : R b (performWith react b op).1 := by
  cases op with
  | hallCall floor direction => exact h.hallCall hp ha b rfl
  | carCall car floor => exact h.carCall ha b car rfl
  | submit command => exact h.call hp ha trivial b command
  | step times => exact h.repeated (h.step hc) times b
  | stepCar car times => exact h.onCar fun _ _ => h.repeated (fun b => hc b car) times b
  | enqueue car target => exact h.onCar fun _ hcar => h.enqueue ha rfl hcar
  | withdraw car target => exact h.onCar fun _ hcar => h.withdraw ha hcar
  | withdrawFromOthers car target => exact h.withdrawFromOthers ha
  | setMode car mode => exact h.onCar fun _ hcar => h.setMode mode hcar
  | setStrategy strategy =>
    have hset : R b { b with strategy } := h.apart rfl rfl rfl rfl rfl
    exact h.trans hset (h.say _ _ _ _)
  | register target cars =>
    unfold Bank.performWith
    dsimp only
    split
    · exact h.refl b
    · next hu => exact h.register ha hu
  | resolve car target => exact h.resolve b car target
  | subscribe name kinds script => exact h.trans (h.subscribe ha) (h.say _ _ _ _)
  | unsubscribe name => exact h.unsubscribe ha
  | publish event => exact hpublished b event ha
  | busStats => exact h.refl b
  | busText => exact h.refl b
  | drive => exact h.drive hc b
  | driveFor intervalMs steps => exact h.driveFor hc b intervalMs steps
  | shutdown =>
    have hstopped : R b b.stopDriver := h.apart rfl rfl rfl rfl rfl
    exact h.trans hstopped (h.shutdown hp ha trivial b.stopDriver)

end Enduring
end Bank
end ElevatorBank
