import ElevatorBank.Bank.Run

/-!
# Workers

How the bank's workers carry out the commands of its queue. A worker runs on a
thread of its own, so nothing it does is logged here. A panic of the strategy
stops at the worker and becomes the error on the command's ticket.
-/
namespace ElevatorBank.Bank
open Log.Field

variable (react : React)

def noteSubmission (b : Bank) (command : Command) : Bank :=
  b.say .debug "Command submitted" [("command", text command.text)]

/-- What comes of a submission of a command. It is logged once it is in the queue. -/
def admission (b : Bank) (command : Command) (r : Except DispatchError (Ticket × Queue)) :
    Except DispatchError (Ticket × Bank) :=
  r.map fun (ticket, queue) => (ticket, noteSubmission { b with queue } command)

/-- Submits a command, which a handler may do from inside another one. -/
def submitFrom (within : Option Ticket) (b : Bank) (command : Command) :
    Except DispatchError (Ticket × Bank) :=
  b.admission command (b.queue.submit command within)

def trySubmitFrom (within : Option Ticket) (b : Bank) (command : Command) :
    Except DispatchError (Ticket × Bank) :=
  b.admission command (b.queue.trySubmit command within)

def submit (b : Bank) (command : Command) : Except DispatchError (Ticket × Bank) :=
  b.submitFrom none command

def trySubmit (b : Bank) (command : Command) : Except DispatchError (Ticket × Bank) :=
  b.trySubmitFrom none command

/-- Carries a command out and puts its result on its ticket. If a handler has come
to wait at the gate the worker stays inside the command. -/
def finish (b : Bank) (job : Job) : Bank :=
  let (after, r) := b.aside (execute react · job.command)
  if b.queue.atGate.length < after.queue.atGate.length then after
  else { after with queue := after.queue.finish job.ticket (r.mapError (·.toError job.command)) }

/-- As long as no handler has anything to do with the queue. -/
theorem finish_of_queue_eq {b : Bank} {job : Job}
    (h : (execute react { b with audible := false } job.command).1.queue = b.queue) :
    finish react b job = { (b.aside (execute react · job.command)).1 with
      queue := b.queue.finish job.ticket
        ((execute react { b with audible := false } job.command).2.mapError
          (·.toError job.command)) } := by
  unfold finish aside
  dsimp only
  rw [h, if_neg (Nat.lt_irrefl _)]

/-- A worker that is free takes the next command and carries it out; the queue
moves up as soon as the command is taken. -/
def work (b : Bank) : Bank :=
  match b.queue.look.take? with
  | some (job, queue) => finish react { b with queue := queue.letIn } job
  | none => b

def workFor : Nat → Bank → Bank
  | 0, b => b
  | n + 1, b => workFor n (work react b)

/-- Works until nothing waits. -/
def drain (b : Bank) : Bank := workFor react (b.queue.waiting.length + b.queue.heldBack.length) b

/-- A worker takes the next command and stays inside it. -/
def hold (b : Bank) : Bank :=
  match b.queue.look.take? with
  | some (_, queue) => { b with queue := queue.letIn }
  | none => b

/-- Finishes the commands that workers are inside. -/
def finishRunning (b : Bank) : Bank := b.queue.running.foldl (finish react) b

/-- Lets the workers go on with all they have. -/
def release (b : Bank) : Bank := drain react (finishRunning react b)

/-- Reads a ticket. -/
def poll (b : Bank) (ticket : Ticket) : Option Result × Bank :=
  let (r, queue) := b.queue.poll ticket
  (r, { b with queue })

/-- Submits a command and lets the workers go on until it has its result. -/
def call (b : Bank) (command : Command) : Bank × Result :=
  match b.submit command with
  | .error e => (b, .error e)
  | .ok (ticket, b) =>
    let (r, b) := (drain react b).poll ticket
    (b, r.getD (.error .queueShutdown))

def noteShutdown (b : Bank) (abandoned : List Job) : Bank :=
  let b := abandoned.foldl (fun b job =>
    b.say .debug "Command abandoned at shutdown" [("command", text job.command.text)]) b
  let b := if abandoned.isEmpty then b
    else b.say .warn "Command queue shut down with pending commands"
      [("abandoned", nat abandoned.length)]
  b.say .info "Command queue shut down" []

/-- Closes the queue, sends the submissions held back away, lets the workers finish
what they have started and abandons what still waits. If a worker comes to wait at
the gate the shutdown has no end. -/
def shutdown (b : Bank) : Bank :=
  if b.queue.isShutdown then b
  else
    let b := finishRunning react { b with queue := b.queue.close.bar.dismiss.refuse }
    let abandoned := b.queue.waiting
    let b := { b with queue := b.queue.abandon }
    if b.queue.phase = .closed then b.noteShutdown abandoned else b

end ElevatorBank.Bank
