import ElevatorBank.Bank.Workers

/-!
# Performing operations

`performWith` carries out one operation when the callbacks of handlers are
given, and `perform` when handlers call back into the bank itself. A script makes
its calls on so many invocations and no more, so `Bank.callbacks` bounds how deep
they can nest.
-/
namespace ElevatorBank.Bank

section
variable (react : React)

/-- An operation on the car of a number, or the refusal of an unknown number. -/
def onCar (b : Bank) (id : CarId) (work : Car → Bank × Answer) : Bank × Answer :=
  match b.car? id with
  | some c => work c
  | none => (b, .error (.unknownElevator id))

def performWith (b : Bank) : Op → Bank × Answer
  | .hallCall floor direction => (hallCall react b floor direction).map id .ofExcept
  | .carCall car floor => (carCall b car floor).map id .ofExcept
  | .submit command => (call react b command).map id fun r => .ofExcept (r.mapError .error)
  | .step times => (repeated (step react) times b).map id .events
  | .stepCar car times =>
    onCar b car fun _ => (repeated (stepCar react · car) times b).map id .events
  | .enqueue car target => onCar b car fun c => (b.enqueue c target, .flag (c.lacks target))
  | .withdraw car target => onCar b car fun c => (b.withdraw c target, .flag (c.canWithdraw target))
  | .withdrawFromOthers car target => (b.withdrawFromOthers car target).map id .count
  | .setMode car mode => onCar b car fun c => (b.setMode c mode, .mode c.mode)
  | .setStrategy strategy => (b.setStrategy strategy, .replaced b.strategy.kind)
  | .register target cars =>
    match b.fleet.unknown? cars with
    | some car => (b, .error (.unknownElevator car))
    | none => (b.register target cars).map id .flag
  | .resolve car target => (b.resolve car target).map id .countIfAny
  | .subscribe name kinds script =>
    let b := { b with bus := b.bus.subscribeScript name kinds script }.noteSubscription name kinds
    (b, .count b.bus.subscriptions.length)
  | .unsubscribe name =>
    ({ b with bus := b.bus.unsubscribe name }, .count (b.bus.countNamed name))
  | .publish event => (publish react b event).map id .delivery
  | .busStats => (b, .stats b.bus.stats)
  | .busText => (b, .text b.bus.text)
  | .drive => (drive react b, .done)
  | .driveFor intervalMs steps => driveFor react b intervalMs steps
  | .shutdown => ((shutdown react b.stopDriver), .done)

end

/-- The calls of a handler, each answered before the next. With no depth left
the calls are passed over. -/
def react : Nat → React
  | 0, b, _, _ => b
  | depth + 1, b, s, calls =>
    calls.foldl (fun b op =>
      let (b, answer) := performWith (react depth) b op
      b.note (.answered s answer)) b

/-- Handlers that call back into the bank, as deep as those on its bus can. -/
def callback (b : Bank) : React := react b.callbacks

/-- Carries out one operation, callbacks included. -/
def perform (b : Bank) (op : Op) : Bank × Answer :=
  performWith (react (b.callbacks + op.callbacks)) b op

end ElevatorBank.Bank
