import ElevatorBank.Proofs.Accounts
import ElevatorBank.Proofs.Orderly

/-!
# Moves

Callers that submit, read and drop tickets, workers that look whether the queue is open, take
commands, stay inside them and finish them, and a shutdown, one thing at a time and in any order
(`Move`, `play`). A command's handlers may submit others before it is finished; such a submission
is a move of its own, so that anything may come between. A move is one act on the queue at most
(`move_step`), and only to finish a command has an effect outside the queue (`outline_move`).
-/
namespace ElevatorBank.Bank

/-- What handlers do while a command is carried out leaves the queue alone. -/
def SparesQueue (react : React) : Prop := ∀ c sub calls, (react c sub calls).queue = c.queue

/-- What the callers, the workers or a shutdown may do next. -/
inductive Move
  /-- A caller submits a command, or a handler does, in the course of another command. -/
  | submit (command : Command) (within : Option Ticket := none)
  | trySubmit (command : Command) (within : Option Ticket := none)
  /-- A worker that is free finds the queue open, and waits for a command. -/
  | look
  /-- A worker has waited in vain. -/
  | lapse
  /-- A worker takes the next command and stays inside it. -/
  | take
  /-- The worker that is inside a command carries it out. -/
  | finish (job : Job)
  /-- A submission held back gets in, if there is room. -/
  | receive (job : Job)
  /-- A submission held back finds the queue shut down and gives up. -/
  | sendAway (job : Job)
  | poll (ticket : Ticket)
  /-- A caller gives a ticket up. -/
  | drop (ticket : Ticket)
  /-- A shutdown begins. -/
  | close
  /-- The shutdown bars the gate. -/
  | bar
  /-- The shutdown ends, if no worker and no submission held back is left. -/
  | settle

/-- The bank after a submission. -/
def entered (b : Bank) : Except DispatchError (Ticket × Bank) → Bank
  | .ok (_, after) => after
  | .error _ => b

def move (react : React) (b : Bank) : Move → Bank
  | .submit command within =>
    if within.all b.queue.isActive then b.entered (b.submitFrom within command) else b
  | .trySubmit command within =>
    if within.all b.queue.isActive then b.entered (b.trySubmitFrom within command) else b
  | .look => { b with queue := b.queue.look }
  | .lapse => { b with queue := b.queue.lapse }
  | .take =>
    match b.queue.take? with
    | some (_, queue) => { b with queue }
    | none => b
  | .finish job =>
    if job ∈ b.queue.running ∧ b.queue.isActive job.ticket then b.finish react job else b
  | .receive job => { b with queue := b.queue.receive job }
  | .sendAway job => { b with queue := b.queue.sendAway job }
  | .poll ticket => (b.poll ticket).2
  | .drop _ => b
  | .close => { b with queue := b.queue.close }
  | .bar => { b with queue := b.queue.bar }
  | .settle => { b with queue := b.queue.abandon }

def play (react : React) (b : Bank) (moves : List Move) : Bank := moves.foldl (move react) b

/-- What a worker that carries a command out now puts on its ticket. -/
def resultOf (react : React) (b : Bank) (job : Job) : Result :=
  (execute react { b with audible := false } job.command).2.mapError (·.toError job.command)

/-- The acts that a move can consist of. -/
def Move.Allows : Move → Queue.Act → Prop
  | .submit _ _, .hold _ | .submit _ _, .accept _ | .submit _ _, .await _ => True
  | .trySubmit _ _, .accept _ | .trySubmit _ _, .await _ => True
  | .look, .look | .lapse, .lapse | .take, .take _ => True
  | .finish job, .finish other _ => other = job
  | .receive job, .receive other => other = job
  | .sendAway job, .sendAway other => other = job
  | .poll ticket, .read other => other = ticket
  | .close, .close | .bar, .bar | .settle, .settle => True
  | _, _ => False

variable {b : Bank} {react : React}

@[simp] lemma play_nil (react : React) (b : Bank) : b.play react [] = b := rfl

@[simp] lemma play_cons (react : React) (b : Bank) (m : Move) (moves : List Move) :
    b.play react (m :: moves) = (b.move react m).play react moves := rfl

@[simp] lemma play_append (react : React) (b : Bank) (before after : List Move) :
    b.play react (before ++ after) = (b.play react before).play react after := List.foldl_append

/-! ### Submissions -/

/-- A submission is refused, and nothing changes, or it is taken in and noted. -/
lemma entered_cases (b : Bank) (command : Command) (within : Option Ticket)
    (r : Except DispatchError (Ticket × Queue)) :
    let after := if within.all b.queue.isActive then b.entered (b.admission command r) else b
    after = b ∨ within.all b.queue.isActive = true ∧ ∃ ticket queue,
      r = .ok (ticket, queue) ∧ after = { b with queue }.noteSubmission command := by
  intro after
  by_cases hwithin : within.all b.queue.isActive = true
  · cases r with
    | error e => exact .inl (if_pos hwithin)
    | ok taken => exact .inr ⟨hwithin, taken.1, taken.2, rfl, if_pos hwithin⟩
  · exact .inl (if_neg hwithin)

lemma move_submit (react : React) (b : Bank) (command : Command) (within : Option Ticket) :
    b.move react (.submit command within) = b ∨
      within.all b.queue.isActive = true ∧ ∃ ticket queue,
        b.queue.submit command within = .ok (ticket, queue) ∧
          b.move react (.submit command within) = { b with queue }.noteSubmission command :=
  entered_cases b command within _

lemma move_trySubmit (react : React) (b : Bank) (command : Command) (within : Option Ticket) :
    b.move react (.trySubmit command within) = b ∨
      within.all b.queue.isActive = true ∧ ∃ ticket queue,
        b.queue.trySubmit command within = .ok (ticket, queue) ∧
          b.move react (.trySubmit command within) = { b with queue }.noteSubmission command :=
  entered_cases b command within _

/-! ### One move -/

lemma queue_register (b : Bank) (t : Target) (cars : List CarId) :
    (b.register t cars).1.queue = b.queue :=
  (queue_say _ _ _ _).trans (queue_foldl_enqueueOn t cars _)

/-- To carry out a command leaves the queue alone if the handlers do. -/
theorem lasting_queue :
    Lasting (∃ command : Command, · = command.op) fun b b' => b'.queue = b.queue where
  refl _ := rfl
  trans h h' := h'.trans h
  apart _ _ hqueue _ _ := hqueue
  queue hop huses := by
    obtain ⟨command, rfl⟩ := hop
    cases command <;> cases huses
  enqueue _ _ := queue_say _ _ _ _
  setMode mode _ := by unfold setMode; split_ifs <;> simp
  resolve b car t := queue_resolve b car t
  assign s t cars _ _ _ h := by
    refine Eq.trans ?_ h
    unfold assign
    split_ifs
    · exact queue_register _ t cars
    · exact queue_foldl_enqueueOn t cars _
  withdraw hop := by obtain ⟨command | command, h⟩ := hop <;> cases h
  withdrawFromOthers hop := by obtain ⟨command | command, h⟩ := hop <;> cases h
  register hop := by obtain ⟨command | command, h⟩ := hop <;> cases h
  subscribe hop := by obtain ⟨command | command, h⟩ := hop <;> cases h
  unsubscribe hop := by obtain ⟨command | command, h⟩ := hop <;> cases h

lemma move_take (react : React) (b : Bank) :
    b.queue.take? = none ∧ b.move react .take = b ∨
      ∃ job queue, b.queue.take? = some (job, queue) ∧ b.move react .take = { b with queue } := by
  unfold move
  cases b.queue.take? with
  | none => exact .inl ⟨rfl, rfl⟩
  | some taken => exact .inr ⟨taken.1, taken.2, rfl, rfl⟩

lemma move_finish (react : React) {job : Job} (hm : job ∈ b.queue.running)
    (hactive : b.queue.isActive job.ticket = true) :
    b.move react (.finish job) = b.finish react job := if_pos ⟨hm, hactive⟩

lemma move_finish_of_not (react : React) {job : Job}
    (hm : ¬(job ∈ b.queue.running ∧ b.queue.isActive job.ticket = true)) :
    b.move react (.finish job) = b := if_neg hm

/-- Nothing but to carry out a command that a worker is inside has an effect outside the queue. -/
lemma outline_move (react : React) (b : Bank) {m : Move}
    (hm : ∀ job ∈ b.queue.running, m ≠ .finish job) : (b.move react m).outline = b.outline := by
  cases m with
  | submit command within =>
    obtain hsame | ⟨-, ticket, queue, -, hnoted⟩ := move_submit react b command within
    · rw [hsame]
    · rw [hnoted]
      exact outline_say _ _ _ _
  | trySubmit command within =>
    obtain hsame | ⟨-, ticket, queue, -, hnoted⟩ := move_trySubmit react b command within
    · rw [hsame]
    · rw [hnoted]
      exact outline_say _ _ _ _
  | take =>
    obtain ⟨-, hsame⟩ | ⟨job, queue, -, htaken⟩ := move_take react b
    · rw [hsame]
    · rw [htaken]
      rfl
  | finish job => rw [move_finish_of_not react fun h => hm job h.1 rfl]
  | _ => rfl

section
variable (hr : SparesQueue react)
include hr

lemma queue_execute (b : Bank) (command : Command) :
    (execute react { b with audible := false } command).1.queue = b.queue :=
  lasting_queue.execute (fun b slot sub => hr { b with bus := (b.bus.react slot).2 } sub _)
    { b with audible := false } ⟨command, rfl⟩

/-- To carry out a command puts its result on its ticket. -/
lemma queue_finish (b : Bank) (job : Job) :
    (b.finish react job).queue = b.queue.finish job.ticket (b.resultOf react job) := by
  rw [finish_of_queue_eq react (queue_execute hr b job.command)]
  rfl

/-- A move is one act on the queue at most. -/
theorem move_step (m : Move) (hq : b.queue.Accounts) : (b.move react m).queue = b.queue ∨
    ∃ a, m.Allows a ∧ Queue.Step a b.queue (b.move react m).queue := by
  cases m with
  | submit command within =>
    obtain hsame | ⟨hwithin, ticket, queue, hs, hnoted⟩ := move_submit react b command within
    · exact .inl (by rw [hsame])
    · rw [hnoted, noteSubmission, queue_say]
      obtain hstep | hstep | hstep := (Queue.submit_step hwithin hs).1
      · exact .inr ⟨.hold command, trivial, hstep⟩
      · exact .inr ⟨.accept command, trivial, hstep⟩
      · exact .inr ⟨.await command, trivial, hstep⟩
  | trySubmit command within =>
    obtain hsame | ⟨hwithin, ticket, queue, hs, hnoted⟩ := move_trySubmit react b command within
    · exact .inl (by rw [hsame])
    · rw [hnoted, noteSubmission, queue_say]
      obtain hstep | hstep := (Queue.trySubmit_step hwithin hs).1
      · exact .inr ⟨.accept command, trivial, hstep⟩
      · exact .inr ⟨.await command, trivial, hstep⟩
  | look => exact (Queue.look_step _).imp_right fun hs => ⟨.look, trivial, hs⟩
  | lapse => exact .inr ⟨.lapse, trivial, .lapse⟩
  | take =>
    obtain ⟨-, hsame⟩ | ⟨job, queue, hs, htaken⟩ := move_take react b
    · exact .inl (by rw [hsame])
    · rw [htaken]
      exact .inr ⟨.take job, trivial, Queue.take_step hs⟩
  | finish job =>
    by_cases hm : job ∈ b.queue.running ∧ b.queue.isActive job.ticket = true
    · rw [move_finish react hm.1 hm.2, queue_finish hr]
      exact .inr ⟨.finish job _, rfl, hq.finish_step hm.1 hm.2 _⟩
    · exact .inl (by rw [move_finish_of_not react hm])
  | receive job => exact (Queue.receive_step _ job).imp_right fun hs => ⟨.receive job, rfl, hs⟩
  | sendAway job => exact (Queue.sendAway_step _ job).imp_right fun hs => ⟨.sendAway job, rfl, hs⟩
  | poll ticket => exact (Queue.poll_step _ ticket).imp_right fun hs => ⟨.read ticket, rfl, hs⟩
  | drop ticket => exact .inl rfl
  | close => exact (Queue.close_step _).imp_right fun hs => ⟨.close, trivial, hs⟩
  | bar => exact (Queue.bar_step _).imp_right fun hs => ⟨.bar, trivial, hs⟩
  | settle => exact (Queue.abandon_step _).imp_right fun hs => ⟨.settle, trivial, hs⟩

/-! ### Any moves -/

lemma move_accounts (m : Move) (hq : b.queue.Accounts) : (b.move react m).queue.Accounts := by
  obtain hsame | ⟨a, -, hs⟩ := move_step hr m hq
  · rw [hsame]
    exact hq
  · exact hs.accounts hq

/-- What every act of some moves keeps lasts through them. -/
theorem play_keeps {P : Queue → Prop} (moves : List Move)
    (hP : ∀ m ∈ moves, ∀ {a q q'}, m.Allows a → q.Accounts → Queue.Step a q q' → P q → P q')
    (hq : b.queue.Accounts) (hp : P b.queue) :
    (b.play react moves).queue.Accounts ∧ P (b.play react moves).queue := by
  induction moves generalizing b with
  | nil => exact ⟨hq, hp⟩
  | cons m rest ih =>
    refine ih (fun m hm => hP m (List.mem_cons_of_mem _ hm)) (move_accounts hr m hq) ?_
    obtain hsame | ⟨a, ha, hs⟩ := move_step hr m hq
    · rw [hsame]
      exact hp
    · exact hP m List.mem_cons_self ha hq hs hp

lemma play_accounts (moves : List Move) (hq : b.queue.Accounts) :
    (b.play react moves).queue.Accounts :=
  (play_keeps hr (P := fun _ => True) moves (fun _ _ _ _ _ _ _ _ h => h) hq trivial).1

end

/-- From a queue as it is made, the accounts are in order after any moves, and the size of the
queue and the number of its workers are what they were. -/
lemma play_of_start (hr : SparesQueue react) {capacity workers : Nat}
    (hstart : Queue.start capacity workers = .ok b.queue) (moves : List Move) :
    (b.play react moves).queue.Accounts ∧ (b.play react moves).queue.capacity = capacity ∧
      (b.play react moves).queue.workerCount = workers := by
  have hqueue : b.queue = { capacity, workerCount := workers } := by
    unfold Queue.start at hstart
    split_ifs at hstart
    exact (Except.ok.inj hstart).symm
  refine play_keeps hr (P := fun q => q.capacity = capacity ∧ q.workerCount = workers) moves
    (fun _ _ _ _ _ _ _ hs h => ⟨hs.size.1.trans h.1, hs.size.2.trans h.2⟩) ?_ ?_
  · rw [hqueue]
    exact Queue.accounts_start
  · rw [hqueue]
    exact ⟨rfl, rfl⟩

end ElevatorBank.Bank
