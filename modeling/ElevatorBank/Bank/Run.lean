import ElevatorBank.Bank.Stops

/-!
# Publishing, dispatching and stepping

An event goes to the subscriptions that want it at the moment it is published,
in their order and on the publisher's time, so every handler has ended before
the publisher goes on. Handlers may call back, which is left open here: `react`
says what becomes of the bank when a handler makes its calls. `perform` then
carries out one operation.
-/
namespace ElevatorBank.Bank
open Log.Field

/-- What becomes of the bank when the handler of a subscription makes its calls. -/
abbrev React := Bank → Subscription → List Op → Bank

variable (react : React)

/-- Calls one handler; answers the error it ends with, if any. -/
def deliver (b : Bank) (event : Event) (s : Subscription) : Bank × Option HandlerError :=
  let b := b.note (.invoked s event)
  match s.subscriber with
  | .logger => (b.log (Log.ofEvent event), none)
  | .resolver =>
    match event with
    | .stopServed car floor direction => ((b.resolve car ⟨floor, direction⟩).1, none)
    | _ => (b, none)
  | .recorder => (b, none)
  | .scripted slot =>
    let (reaction, bus) := b.bus.react slot
    (react { b with bus } s reaction.calls, reaction.verdict.error? s.name event.kind)

def noteFailure (b : Bank) (event : Event) (s : Subscription) : Option HandlerError → Bank
  | none => b
  | some e =>
    { b with bus := { b.bus with failures := b.bus.failures + 1 } }.say .error
      "Event subscriber failed"
      [("subscriber", text s.name), ("event_type", text event.kind.dotted),
        ("error", text e.message)]

/-- Delivers an event to one subscription and counts the result. -/
def deliverCounted (event : Event) (r : Bank × Delivery) (s : Subscription) : Bank × Delivery :=
  let (b, error) := deliver react r.1 event s
  ((b.note (.returned s error)).noteFailure event s error, r.2.count error)

def publish (b : Bank) (event : Event) : Bank × Delivery :=
  let subscriptions := b.bus.matching event.kind
  let opened :=
    { b with bus := { b.bus with published := b.bus.published + 1 } }.note
      (.opened event subscriptions)
  let (after, delivery) :=
    subscriptions.foldl (deliverCounted react event)
      (opened.say .trace "Publishing event"
        [("event_type", text event.kind.dotted), ("subscribers", nat subscriptions.length)],
        .none)
  (after.note (.closed event delivery), delivery)

def publishAll (b : Bank) (events : List Event) : Bank :=
  events.foldl (fun b e => (publish react b e).1) b

/-- The cars a strategy's choice goes to: all of them race for a broadcast call,
any other goes to the first. -/
def kept (s : Strategy) (chosen : List CarId) : List CarId :=
  if s.isBroadcast then chosen else chosen.take 1

/-- Queues an assigned hall call: a broadcast call becomes pending on its cars. -/
def assign (b : Bank) (s : Strategy) (t : Target) (cars : List CarId) : Bank :=
  if s.isBroadcast then (b.register t cars).1 else cars.foldl (enqueueOn t) b

/-- Asks the strategy for cars and gives them the call. Nothing is queued unless
every car that the call goes to is known. -/
def dispatch (b : Bank) (t : Target) : Bank × Except Refusal Outcome :=
  let s := b.strategy
  let snapshots := b.fleet.snapshots
  let b := (s.remarks t.floor t.direction snapshots).foldl log b
  match s.select t.floor t.direction snapshots with
  | .error reason => (b, .error (.panic reason))
  | .ok [] =>
    let b := b.log (Log.ofOperation
      { operation := "hall_call", floor := t.floor, direction := t.direction, status := "dropped" })
    (b.say .warn "No eligible elevator, hall call dropped"
      [("floor", int t.floor), ("direction", text t.direction.name), ("strategy", text s.name)],
      .ok .dropped)
  | .ok chosen =>
    let cars := kept s chosen
    match b.fleet.unknown? cars with
    | some car => (b, .error (.error (.unknownElevator car)))
    | none =>
      let (b, _) := publish react b (.assignmentMade t.floor t.direction cars)
      (assign b s t cars |>.log (Log.ofOperation
        { operation := "hall_call", floor := t.floor, direction := t.direction,
          status := "assigned", details := s!"units {Log.idList cars} via {s.name}" }),
        .ok (.assigned cars))

/-- A hall call: only a landing's two directions are accepted. -/
def hallCall (b : Bank) (floor : Int) (direction : Direction) : Bank × Except Refusal Outcome :=
  if direction.isHall then
    dispatch react (publish react b (.hallCallRaised floor direction)).1 ⟨floor, direction⟩
  else (b, .error (.error (.invalidDirection floor direction)))

/-- A call from inside a car goes to that car. -/
def carCall (b : Bank) (car : CarId) (floor : Int) : Bank × Except Refusal Outcome :=
  match b.car? car with
  | none => (b, .error (.error (.unknownElevator car)))
  | some c =>
    ((b.enqueue c (.cabin floor)).log (Log.ofOperation
      { operation := "car_call", car := car, floor := floor, status := "queued" }),
      .ok (.cabinQueued car))

def execute (b : Bank) : Command → Bank × Except Refusal Outcome
  | .hallCall floor direction => hallCall react b floor direction
  | .carCall car floor => carCall b car floor

/-- Steps the car of a number and publishes what happened, once the car has changed. -/
def stepCar (b : Bank) (id : CarId) : Bank × List Event :=
  match b.car? id with
  | none => (b, [])
  | some c =>
    let (c', events) := c.advance
    (publishAll react { b with fleet := b.fleet.change id fun _ => c' } events, events)

def stepCars (b : Bank) (ids : List CarId) : Bank × List Event :=
  ids.foldl (fun r id =>
    let (b, events) := stepCar react r.1 id
    (b, r.2 ++ events)) (b, [])

/-- Steps every car once, in the order of their numbers. -/
def step (b : Bank) : Bank × List Event := stepCars react b b.fleet.ids

/-- Repeats a step and joins the events. -/
def repeated (once : Bank → Bank × List Event) : Nat → Bank → Bank × List Event
  | 0, b => (b, [])
  | n + 1, b =>
    let (b, first) := once b
    let (b, later) := repeated once n b
    (b, first ++ later)

/-- Steps until no car has a stop, but at most the given number of times. -/
def stepUntilIdle : Nat → Bank → Bank
  | 0, b => b
  | n + 1, b => if b.fleet.isEmpty then b else stepUntilIdle n (step react b).1

/-- So many steps let a fleet that nobody calls back come to rest. Bound for floors that are too far
from one another, a car still takes no more than half the way round all floors for each stop. -/
def restTime (f : Fleet) : Nat :=
  if Floor.Span f.span.1 f.span.2 then 4 * (f.span.2 - f.span.1 + 1).toNat
  else (f.flatMap fun c => c.up ++ c.down).length * (floorLimit + 1)

/-- Steps until the fleet is at rest. Each round outlasts a fleet that is left
alone, so only a callback can make a further round necessary. -/
def settle : Nat → Bank → Bank
  | 0, b => b
  | n + 1, b =>
    if b.fleet.isEmpty then b else settle n (stepUntilIdle react (restTime b.fleet) b)

def noteDriver (b : Bank) (intervalMs : Nat) : Bank :=
  b.say .info "Stepping driver running" [("interval_ms", nat intervalMs)]

/-- Starts the background driver, unless there is one already. -/
def startDriver (b : Bank) : Bank :=
  if b.driver.isSome then b
  else { b with driver := some (.start b.config.stepIntervalMs) }.noteDriver b.config.stepIntervalMs

def stopDriver (b : Bank) : Bank := { b with driver := none }

/-- Lets the background driver run until no car has a stop. -/
def drive (b : Bank) : Bank :=
  ((startDriver b).aside fun b => (settle react (b.callbacks + 1) b, ())).1.stopDriver

/-- Lets a driver of its own make a number of steps. -/
def driveFor (b : Bank) (intervalMs steps : Nat) : Bank × Answer :=
  (b.noteDriver intervalMs).aside fun b =>
    let driver := (StepDriver.start intervalMs).tick steps
    ((repeated (step react) steps b).1, .driven driver driver.stop)

end ElevatorBank.Bank
