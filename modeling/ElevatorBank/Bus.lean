import ElevatorBank.Error
import ElevatorBank.Event
import ElevatorBank.Text.Layout
import ElevatorBank.Text.Quoted

/-!
# The event bus

Subscriptions in the order they were made, each for certain kinds of events (no
kinds means all), and the counts of published events and failed handlers. A
subscriber is one of the bank's own, or follows a script: on each of its first
invocations it calls back into the bank, and on every one it then succeeds, fails
or panics. Scripts are kept in slots of their own, since a handler that
unsubscribes while an event is being delivered is still called for that event.
-/
namespace ElevatorBank

/-- How a handler ends. -/
inductive Verdict
  | succeed
  | executionFailed (reason : String)
  | failed (text : String)
  /-- A panic may carry no text. -/
  | panic (text : Option String)
  deriving DecidableEq, Repr, Inhabited

namespace Verdict

/-- What a panic without a text is reported as. -/
def wordless : String := "non-string panic payload"

/-- The error a handler of the given name ends with on an event. -/
def error? (subscriber : String) (kind : EventKind) : Verdict → Option HandlerError
  | succeed => none
  | executionFailed reason => some (.executionFailed subscriber kind.dotted reason)
  | failed text => some (.generic text)
  | panic text => some (.handlerPanicked subscriber kind.dotted (text.getD wordless))

end Verdict

/-- One invocation of a scripted handler. -/
structure Reaction (α : Type) where
  calls : List α
  verdict : Verdict

/-- What a scripted handler does. It always ends in the same way. -/
structure Script (α : Type) where
  calls : List α
  /-- On how many more invocations it makes its calls. -/
  times : Nat
  verdict : Verdict

namespace Script

/-- The next invocation, and the script after it. -/
def next {α : Type} (s : Script α) : Reaction α × Script α :=
  match s.times with
  | 0 => (⟨[], s.verdict⟩, s)
  | times + 1 => (⟨s.calls, s.verdict⟩, { s with times })

end Script

inductive Subscriber
  /-- Writes every event to the log. -/
  | logger
  /-- Resolves pending hall calls when their stop is served. -/
  | resolver
  /-- Only listens. -/
  | recorder
  /-- Follows the script in a slot. -/
  | scripted (slot : Nat)
  deriving DecidableEq, Repr, Inhabited

structure Subscription where
  name : String
  kinds : List EventKind
  subscriber : Subscriber
  deriving DecidableEq, Repr, Inhabited

namespace Subscription

def wants (s : Subscription) (k : EventKind) : Bool := s.kinds.isEmpty || s.kinds.contains k

end Subscription

/-- How many handlers of one event succeeded and how many failed. -/
structure Delivery where
  delivered : Nat
  failed : Nat
  deriving DecidableEq, Repr, Inhabited

namespace Delivery

def none : Delivery := ⟨0, 0⟩

/-- Counts one more handler. -/
def count (d : Delivery) (error : Option HandlerError) : Delivery :=
  if error.isSome then { d with failed := d.failed + 1 }
  else { d with delivered := d.delivered + 1 }

end Delivery

structure Bus.Stats where
  published : Nat
  failures : Nat
  subscribers : Nat
  deriving DecidableEq, Repr, Inhabited

structure Bus (α : Type) where
  subscriptions : List Subscription
  scripts : List (Script α)
  published : Nat
  failures : Nat

namespace Bus
variable {α : Type}

def empty : Bus α := ⟨[], [], 0, 0⟩

instance : Inhabited (Bus α) := ⟨empty⟩

def subscribe (b : Bus α) (s : Subscription) : Bus α :=
  { b with subscriptions := b.subscriptions ++ [s] }

/-- Subscribes a handler that follows a script, in a slot of its own. -/
def subscribeScript (b : Bus α) (name : String) (kinds : List EventKind) (script : Script α) :
    Bus α :=
  { b.subscribe ⟨name, kinds, .scripted b.scripts.length⟩ with scripts := b.scripts ++ [script] }

/-- Removes every subscription of a name. -/
def unsubscribe (b : Bus α) (name : String) : Bus α :=
  { b with subscriptions := b.subscriptions.filter (·.name != name) }

/-- How many subscriptions have a name. -/
def countNamed (b : Bus α) (name : String) : Nat :=
  b.subscriptions.countP (·.name == name)

/-- The subscriptions that an event of a kind goes to. -/
def matching (b : Bus α) (k : EventKind) : List Subscription := b.subscriptions.filter (·.wants k)

/-- The next reaction of the script in a slot, and the bus after it. -/
def react (b : Bus α) (slot : Nat) : Reaction α × Bus α :=
  match b.scripts[slot]? with
  | some script => (script.next.1, { b with scripts := b.scripts.set slot script.next.2 })
  | none => (⟨[], .succeed⟩, b)

def stats (b : Bus α) : Stats := ⟨b.published, b.failures, b.subscriptions.length⟩

/-- One line about the bus. -/
def text (b : Bus α) : String :=
  Text.recordText "EventBus"
    [("subscribers", Text.listText (b.subscriptions.map fun s => Text.quoted s.name)),
      ("events_published", toString b.published)]

end Bus
end ElevatorBank
