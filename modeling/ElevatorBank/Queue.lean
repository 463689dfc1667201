import ElevatorBank.Command
import ElevatorBank.Memory
import ElevatorBank.Text.Layout

/-!
# The command queue

A bounded queue between the callers and the workers that carry commands out.
Every submission has a ticket. A command waits, is taken by a worker and is
finished with a reply; a submission that finds the queue full is held back until
there is room. A worker looks whether the queue is open before it waits for a
command, so a worker that was busy when a shutdown began takes none any more.

A shutdown refuses new submissions from its first moment on. Next it bars the
gate that every submission goes through, and whoever comes after that has to
wait. In the end, once no worker and no submission held back is left, it abandons
what still waits and opens the gate again. A worker that comes to the gate itself
keeps a shutdown from its end for ever.

Reading a reply takes it off its ticket. A ticket with nothing left to come
answers that the queue has been shut down.
-/
namespace ElevatorBank

abbrev Ticket := Nat

/-- The result of a command as its ticket gives it. -/
abbrev Result := Except DispatchError Outcome

structure Job where
  ticket : Ticket
  command : Command
  /-- The command in the course of which a handler has submitted this one. -/
  within : Option Ticket := none
  deriving DecidableEq, Repr, Inhabited

inductive Queue.Phase
  | accepting
  | closing
  | barred
  | closed
  deriving DecidableEq, Repr, Inhabited

/-- What there is on a ticket once its command no longer waits. -/
inductive Reply
  | result (r : Result)
  /-- The result has been read. -/
  | taken
  /-- The command was never started. -/
  | abandoned

structure Queue.Stats where
  submitted : Nat
  completed : Nat
  failed : Nat
  /-- Hall calls that no car could take. -/
  droppedCalls : Nat
  /-- Commands given up at shutdown. -/
  abandoned : Nat
  /-- Commands waiting now. -/
  queued : Nat
  deriving DecidableEq, Repr, Inhabited

structure Queue where
  capacity : Nat
  workerCount : Nat
  phase : Queue.Phase := .accepting
  /-- Submissions held back, oldest first. -/
  heldBack : List Job := []
  /-- Submissions that wait at the gate. -/
  atGate : List Job := []
  /-- Commands waiting, oldest first. -/
  waiting : List Job := []
  /-- How many workers have found the queue open and wait for a command. -/
  ready : Nat := 0
  /-- Commands being carried out. -/
  running : List Job := []
  replies : List (Ticket × Reply) := []
  nextTicket : Ticket := 0
  submitted : Nat := 0
  completed : Nat := 0
  failed : Nat := 0
  droppedCalls : Nat := 0
  abandoned : Nat := 0

namespace Queue

instance : Inhabited Queue := ⟨{ capacity := 1, workerCount := 1 }⟩

/-- The size of a place in a queue. -/
def placeSize : Nat := 40

def workerSize : Nat := 24

/-- A queue needs room for one command and one worker at least. -/
def start (capacity workerCount : Nat) : Except Refusal Queue :=
  if capacity = 0 ∨ workerCount = 0 then
    .error (.error (.configuration ("command queue needs positive capacity and worker count "
      ++ s!"(capacity {capacity}, workers {workerCount})")))
  else if Memory.fits capacity placeSize && Memory.fits workerCount workerSize then
    .ok { capacity, workerCount }
  else .error Memory.overflow

def isShutdown (q : Queue) : Bool := q.phase != .accepting

def isFull (q : Queue) : Bool := q.capacity ≤ q.waiting.length

def stats (q : Queue) : Stats :=
  ⟨q.submitted, q.completed, q.failed, q.droppedCalls, q.abandoned, q.waiting.length⟩

/-- Puts a job behind those that wait. -/
def accept (q : Queue) (job : Job) : Queue :=
  { q with waiting := q.waiting ++ [job], submitted := q.submitted + 1 }

/-- Gives out the next ticket. -/
def issue (q : Queue) : Queue := { q with nextTicket := q.nextTicket + 1 }

/-- Submits a command, which is held back while the queue is full. -/
def submit (q : Queue) (command : Command) (within : Option Ticket := none) :
    Except DispatchError (Ticket × Queue) :=
  let job : Job := ⟨q.nextTicket, command, within⟩
  match q.phase with
  | .accepting =>
    .ok (job.ticket,
      if q.isFull then { q.issue with heldBack := q.heldBack ++ [job] } else q.issue.accept job)
  | .barred => .ok (job.ticket, { q.issue with atGate := q.atGate ++ [job] })
  | _ => .error .queueShutdown

/-- Submits a command only if there is room for it. -/
def trySubmit (q : Queue) (command : Command) (within : Option Ticket := none) :
    Except DispatchError (Ticket × Queue) :=
  let job : Job := ⟨q.nextTicket, command, within⟩
  match q.phase with
  | .accepting =>
    if q.isFull then .error (.queueFull q.capacity) else .ok (job.ticket, q.issue.accept job)
  | .barred => .ok (job.ticket, { q.issue with atGate := q.atGate ++ [job] })
  | _ => .error .queueShutdown

/-- Lets the oldest submission held back into the queue, if there is room. -/
def letIn (q : Queue) : Queue :=
  match q.heldBack with
  | job :: heldBack => if q.isFull then q else { q with heldBack }.accept job
  | [] => q

/-- A worker that is free looks whether the queue is open, and if so waits for a command. -/
def look (q : Queue) : Queue :=
  if q.phase = .accepting ∧ q.ready + q.running.length < q.workerCount then
    { q with ready := q.ready + 1 }
  else q

/-- A worker has waited long enough in vain, and will have to look again. -/
def lapse (q : Queue) : Queue := { q with ready := q.ready - 1 }

/-- The oldest waiting command, once a worker that is ready has taken it. -/
def take? (q : Queue) : Option (Job × Queue) :=
  match q.waiting with
  | job :: waiting =>
    if 0 < q.ready then
      some (job, { q with waiting, ready := q.ready - 1, running := q.running ++ [job] })
    else none
  | [] => none

/-- Counts a command that has been carried out. -/
def count (q : Queue) : Result → Queue
  | .ok outcome =>
    { q with
      completed := q.completed + 1
      droppedCalls := q.droppedCalls + if outcome.isDropped then 1 else 0 }
  | .error _ => { q with failed := q.failed + 1 }

/-- Puts the result of a running command on its ticket. -/
def finish (q : Queue) (ticket : Ticket) (r : Result) : Queue :=
  { q with
    running := q.running.filter (·.ticket != ticket)
    replies := (ticket, .result r) :: q.replies }.count r

/-- Stops accepting commands. -/
def close (q : Queue) : Queue :=
  if q.phase = .accepting then { q with phase := .closing } else q

/-- Bars the gate, once the queue is closing. -/
def bar (q : Queue) : Queue := if q.phase = .closing then { q with phase := .barred } else q

/-- No worker waits for a command any more. -/
def dismiss (q : Queue) : Queue := { q with ready := 0 }

/-- Puts on the tickets of commands that they have not been started. -/
def giveUp (q : Queue) (jobs : List Job) : List (Ticket × Reply) :=
  jobs.map (fun job => (job.ticket, .abandoned)) ++ q.replies

/-- Sends away the submissions held back. -/
def refuse (q : Queue) : Queue := { q with heldBack := [], replies := q.giveUp q.heldBack }

/-- Abandons what waits and sends away who is at the gate, once the gate is barred and no worker
and no submission held back is left. -/
def abandon (q : Queue) : Queue :=
  if q.phase = .barred ∧ q.ready = 0 ∧ q.running = [] ∧ q.heldBack = [] then
    { q with
      phase := .closed
      waiting := []
      atGate := []
      replies := q.giveUp (q.waiting ++ q.atGate)
      abandoned := q.abandoned + q.waiting.length }
  else q

/-- What a ticket answers now, and the queue after the answer: nothing while its
command waits or runs, else its result, which is thereby taken. -/
def poll (q : Queue) (ticket : Ticket) : Option Result × Queue :=
  match q.replies.lookup ticket with
  | none => (none, q)
  | some (.result r) =>
    (some r, { q with replies := (ticket, .taken) :: q.replies.filter (·.1 != ticket) })
  | some _ => (some (.error .queueShutdown), q)

def Stats.text (s : Stats) : String :=
  Text.recordText "CommandQueueStats"
    [("submitted", toString s.submitted), ("completed", toString s.completed),
      ("failed", toString s.failed), ("dropped_calls", toString s.droppedCalls),
      ("abandoned", toString s.abandoned), ("queued", toString s.queued)]

/-- One line about the queue. -/
def text (q : Queue) : String :=
  Text.recordText "CommandQueue"
    [("capacity", toString q.capacity), ("worker_count", toString q.workerCount),
      ("shutdown", Text.boolText q.isShutdown), ("stats", q.stats.text)]

end Queue
end ElevatorBank
