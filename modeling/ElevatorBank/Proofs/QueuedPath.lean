import ElevatorBank.Proofs.Orderly
import ElevatorBank.Proofs.Tickets

/-!
# The queued path

What callers are answered who carry commands out themselves (`Stands.run_ops`), and what a
worker does with the same commands when they come from the queue: it carries them out in the
order of their submission, with the same results (`Serves`). A command that fails makes no
difference to later ones (`Ledger.executeAll_isolated`).
-/
namespace ElevatorBank

namespace Ledger

/-- Commands carried out one after the other, each with what came of it. -/
def executeAll (l : Ledger) (s : Strategy) :
    List Command → Ledger × List (Command × Except Refusal Outcome)
  | [] => (l, [])
  | command :: rest =>
    let after := executeAll (l.execute s command).1 s rest
    (after.1, (command, (l.execute s command).2) :: after.2)

/-- What the tickets of commands have to say. -/
def told (l : Ledger) (s : Strategy) (commands : List Command) : List Result :=
  (l.executeAll s commands).2.map fun done => done.2.mapError (·.toError done.1)

variable {l : Ledger} {s : Strategy}

lemma executeAll_append (l : Ledger) (s : Strategy) (earlier later : List Command) :
    l.executeAll s (earlier ++ later) =
      (((l.executeAll s earlier).1.executeAll s later).1,
        (l.executeAll s earlier).2 ++ ((l.executeAll s earlier).1.executeAll s later).2) := by
  induction earlier generalizing l with
  | nil => rfl
  | cons first rest ih => simp only [List.cons_append, executeAll, ih]

lemma told_append (l : Ledger) (s : Strategy) (earlier later : List Command) :
    l.told s (earlier ++ later) =
      l.told s earlier ++ (l.executeAll s earlier).1.told s later := by
  simp [told, executeAll_append]

lemma told_concat (l : Ledger) (s : Strategy) (done : List Command) (command : Command) :
    l.told s (done ++ [command]) = l.told s done ++
      [((l.executeAll s done).1.execute s command).2.mapError (·.toError command)] :=
  told_append l s done [command]

@[simp] lemma length_told (l : Ledger) (s : Strategy) (commands : List Command) :
    (l.told s commands).length = commands.length := by
  induction commands generalizing l with
  | nil => rfl
  | cons first rest ih =>
    simp only [told, List.length_map] at ih ⊢
    simp [executeAll, ih]

lemma after_wellFormed (hw : ∀ c ∈ l.fleet, c.WellFormed) (d : Deed) :
    ∀ c ∈ (l.after d).fleet, c.WellFormed := by
  intro c' hm'
  obtain ⟨c, hm, rfl⟩ := List.mem_map.mp hm'
  exact Deed.act_wellFormed (hw c hm) _ d

lemma execute_wellFormed (hw : ∀ c ∈ l.fleet, c.WellFormed) (command : Command) :
    ∀ c ∈ (l.execute s command).1.fleet, c.WellFormed := by
  cases command with
  | hallCall floor direction =>
    have hraised := after_wellFormed hw (.announced (.hallCallRaised floor direction))
    simp only [execute, hallCall]
    split_ifs
    · rcases dispatch_cases (l.after (.announced (.hallCallRaised floor direction))) s
        ⟨floor, direction⟩ with ⟨r, hd⟩ | ⟨cars, hd⟩ <;> rw [hd]
      · exact hraised
      · exact after_wellFormed hraised _
    · exact hw
  | carCall car floor =>
    simp only [execute, carCall]
    split_ifs
    · exact after_wellFormed hw _
    · exact hw

lemma executeAll_wellFormed (hw : ∀ c ∈ l.fleet, c.WellFormed) (commands : List Command) :
    ∀ c ∈ (l.executeAll s commands).1.fleet, c.WellFormed := by
  induction commands generalizing l with
  | nil => exact hw
  | cons first rest ih => exact ih (execute_wellFormed hw first)

/-! ### What failures leave behind -/

/-- What has been published before has no part in a command. -/
lemma execute_with_history (l : Ledger) (s : Strategy) (history : List Event) (command : Command) :
    ∃ history', ({ l with history } : Ledger).execute s command =
      ({ (l.execute s command).1 with history := history' }, (l.execute s command).2) := by
  cases command with
  | hallCall floor direction =>
    simp only [execute, hallCall, dispatch, raised_fleet]
    split
    · split
      · exact ⟨_, rfl⟩
      · exact ⟨_, rfl⟩
      · split
        · exact ⟨_, rfl⟩
        · exact ⟨_, rfl⟩
    · exact ⟨_, rfl⟩
  | carCall car floor =>
    simp only [execute, carCall]
    split <;> exact ⟨_, rfl⟩

lemma executeAll_with_history (l : Ledger) (s : Strategy) (history : List Event)
    (commands : List Command) :
    ∃ history', ({ l with history } : Ledger).executeAll s commands =
      ({ (l.executeAll s commands).1 with history := history' },
        (l.executeAll s commands).2) := by
  induction commands generalizing l history with
  | nil => exact ⟨history, rfl⟩
  | cons first rest ih =>
    obtain ⟨between, hfirst⟩ := execute_with_history l s history first
    obtain ⟨history', hrest⟩ := ih (l.execute s first).1 between
    exact ⟨history', by simp only [executeAll, hfirst, hrest]⟩

/-- A command that fails leaves no more than the event that raised it. -/
lemma execute_of_error {command : Command} {refusal : Refusal}
    (h : (l.execute s command).2 = .error refusal) :
    ∃ history, (l.execute s command).1 = { l with history } := by
  have hraised : ∀ floor direction, l.after (.announced (.hallCallRaised floor direction)) =
      { l with history := l.history ++ [.hallCallRaised floor direction] } := fun _ _ =>
    after_announced_of_kind_ne l _ (by simp [Event.kind])
  cases command with
  | hallCall floor direction =>
    simp only [execute, hallCall] at h ⊢
    split_ifs at h ⊢
    · rcases dispatch_cases (l.after (.announced (.hallCallRaised floor direction))) s
        ⟨floor, direction⟩ with ⟨r, hd⟩ | ⟨cars, hd⟩ <;> rw [hd] at h ⊢
      · exact ⟨_, hraised floor direction⟩
      · cases h
    · exact ⟨l.history, rfl⟩
  | carCall car floor =>
    simp only [execute, carCall] at h ⊢
    split_ifs at h ⊢
    exact ⟨l.history, rfl⟩

/-- A command that fails makes no difference to those after it. -/
theorem executeAll_isolated {earlier later : List Command} {failing : Command} {e : DispatchError}
    (h : (l.told s (earlier ++ failing :: later))[earlier.length]? = some (.error e)) :
    l.told s (earlier ++ later) =
        (l.told s (earlier ++ failing :: later)).eraseIdx earlier.length ∧
      ∃ history, (l.executeAll s (earlier ++ later)).1 =
        { (l.executeAll s (earlier ++ failing :: later)).1 with history } := by
  have hlength := length_told (l := l) (s := s) earlier
  simp only [told_append, executeAll_append] at h ⊢
  generalize (l.executeAll s earlier).1 = m at h ⊢
  rw [← hlength, List.getElem?_append_right Nat.le.refl, Nat.sub_self] at h
  rw [← hlength, List.eraseIdx_append_of_length_le Nat.le.refl, Nat.sub_self]
  cases hr : (m.execute s failing).2 with
  | ok outcome => simp [told, executeAll, hr, Except.mapError] at h
  | error refusal =>
    obtain ⟨history, hsame⟩ := execute_of_error hr
    obtain ⟨history', hlater⟩ := executeAll_with_history m s history later
    simp only [told, executeAll, hsame, hlater]
    exact ⟨rfl, _, rfl⟩

end Ledger

/-- The ticket of a command says what a caller who carries it out is answered; a panic has
become an error with the command and the panic's text. -/
inductive Command.Tells (command : Command) : Answer → Result → Prop
  | ok (outcome : Outcome) : Tells command (.outcome outcome) (.ok outcome)
  | error (e : DispatchError) : Tells command (.error e) (.error e)
  | panic (reason : String) :
    Tells command (.refused (.panic reason)) (.error (.commandPanicked command.text reason))

lemma Command.tells_of_executed (command : Command) (r : Except Refusal Outcome) :
    command.Tells (.ofExcept r) (r.mapError (·.toError command)) := by
  cases r with
  | ok outcome => exact .ok outcome
  | error refusal =>
    cases refusal with
    | error e => exact .error e
    | panic reason => exact .panic reason

namespace Bank

/-- What the operations of a run are answered. -/
def answers : Bank → List Op → List Answer
  | _, [] => []
  | b, op :: rest => (b.perform op).2 :: answers (b.perform op).1 rest

variable {b : Bank} {x : Standing} {react : React}

/-! ### The direct path -/

lemma Stands.perform_op (h : b.Stands x) (hw : ∀ c ∈ x.ledger.fleet, c.WellFormed)
    (command : Command) :
    (b.perform command.op).2 = .ofExcept (x.ledger.execute x.strategy command).2 ∧
      (b.perform command.op).1.Stands
        { x with ledger := (x.ledger.execute x.strategy command).1 } := by
  have hr := react_passive (b.callbacks + command.op.callbacks)
  cases command with
  | hallCall floor direction =>
    obtain ⟨hanswer, hstands⟩ := h.hallCall hw hr floor direction
    exact ⟨congrArg Answer.ofExcept hanswer, hstands⟩
  | carCall car floor =>
    obtain ⟨hanswer, hstands⟩ := h.carCall car floor
    exact ⟨congrArg Answer.ofExcept hanswer, hstands⟩

theorem Stands.run_ops (h : b.Stands x) (hw : ∀ c ∈ x.ledger.fleet, c.WellFormed)
    (commands : List Command) :
    b.answers (commands.map Command.op) =
        (x.ledger.executeAll x.strategy commands).2.map (fun done => .ofExcept done.2) ∧
      (b.run (commands.map Command.op)).Stands
        { x with ledger := (x.ledger.executeAll x.strategy commands).1 } := by
  induction commands generalizing b x with
  | nil => exact ⟨rfl, h⟩
  | cons first rest ih =>
    obtain ⟨hanswer, hnext⟩ := h.perform_op hw first
    obtain ⟨hanswers, hlast⟩ := ih hnext (Ledger.execute_wellFormed hw first)
    exact ⟨congrArg₂ List.cons hanswer hanswers, hlast⟩

/-- The tickets of commands tell what their direct execution answers. -/
lemma Stands.tells (h : b.Stands x) (hw : ∀ c ∈ x.ledger.fleet, c.WellFormed)
    (commands : List Command) :
    List.Forall₂ (fun asked result => asked.1.Tells asked.2 result)
      (commands.zip (b.answers (commands.map Command.op)))
      (x.ledger.told x.strategy commands) := by
  induction commands generalizing b x with
  | nil => exact .nil
  | cons first rest ih =>
    obtain ⟨hanswer, hnext⟩ := h.perform_op hw first
    refine .cons ?_ (ih hnext (Ledger.execute_wellFormed hw first))
    show first.Tells (b.perform first.op).2 _
    rw [hanswer]
    exact first.tells_of_executed _

/-! ### Workers -/

/-- A worker that finishes a command has carried it out and puts its result on its ticket. -/
theorem Stands.finish (h : b.Stands x) (hw : ∀ c ∈ x.ledger.fleet, c.WellFormed)
    (hr : Passive react) (job : Job) :
    (finish react b job).Stands { x with
      ledger := (x.ledger.execute x.strategy job.command).1
      queue := x.queue.finish job.ticket
        ((x.ledger.execute x.strategy job.command).2.mapError (·.toError job.command)) } := by
  have haside : { b with audible := false }.Stands x := ⟨h.standing, h.silent⟩
  obtain ⟨hresult, hstands⟩ := haside.execute hw hr job.command
  have hqueue : (Bank.execute react { b with audible := false } job.command).1.queue = b.queue :=
    (congrArg (·.queue) hstands.standing).trans (congrArg (·.queue) h.standing).symm
  have hfinished := hstands.with_queue (x.queue.finish job.ticket
    ((x.ledger.execute x.strategy job.command).2.mapError (·.toError job.command)))
  have hsame : b.queue = x.queue := congrArg (·.queue) h.standing
  rw [finish_of_queue_eq react hqueue, hresult, hsame]
  exact ⟨hfinished.standing, hfinished.silent⟩

/-- The bank has come from a standing by commands that were submitted to its queue: the first
of them have been carried out and the others are still to be; some tickets have been read. -/
structure Serves (x : Standing) (done pending : List Command) (read : List Nat) (b : Bank) :
    Prop where
  stands : b.Stands { x with
    ledger := (x.ledger.executeAll x.strategy done).1
    queue := b.queue }
  tracks : Queue.Tracks x.queue (x.ledger.told x.strategy done) pending read b.queue

variable {done pending : List Command} {read : List Nat}

namespace Serves

lemma of_stands {queue : Queue}
    (h : b.Stands { x with ledger := (x.ledger.executeAll x.strategy done).1, queue })
    (ht : Queue.Tracks x.queue (x.ledger.told x.strategy done) pending read queue) :
    b.Serves x done pending read ∧ b.queue = queue := by
  obtain rfl : b.queue = queue := congrArg (·.queue) h.standing
  exact ⟨⟨h, ht⟩, rfl⟩

lemma of_idle (h : b.Stands x) (hidle : x.queue.Idle) : b.Serves x [] [] [] :=
  have hserves : b.Serves x [] [] [] ∧ b.queue = x.queue := of_stands h hidle
  hserves.1

theorem submit (h : b.Serves x done pending read) (command : Command) :
    ∃ b', b.submit command = .ok (x.queue.nextTicket + (done.length + pending.length), b') ∧
      b'.Serves x done (pending ++ [command]) read ∧ b'.queue.load = b.queue.load + 2 := by
  obtain ⟨queue, hsubmit, htracks, hload⟩ := h.tracks.submit command
  obtain ⟨hserves, hqueue⟩ := of_stands
    ((h.stands.with_queue queue).say .debug "Command submitted" [("command", .text command.text)])
    htracks
  rw [Ledger.length_told] at hsubmit
  exact ⟨noteSubmission { b with queue } command, by rw [Bank.submit, submitFrom, hsubmit]; rfl,
    hserves, by rw [noteSubmission, hqueue, hload]⟩

/-- The worker takes the oldest command that waits, unless it is still inside another one. -/
theorem hold (h : b.Serves x done pending read) :
    (b.hold = b ∧ (b.queue.running = [] → b.queue.load = 0)) ∨
      b.hold.Serves x done pending read ∧ b.hold.queue.load + 1 = b.queue.load := by
  unfold Bank.hold
  obtain ⟨htake, hempty⟩ | ⟨job, queue, htake, htracks, hrun, hload⟩ := h.tracks.take
  · rw [htake]
    exact .inl ⟨rfl, hempty⟩
  · rw [htake]
    exact .inr ⟨⟨h.stands.with_queue queue.letIn, htracks⟩, hload⟩

/-- The worker finishes the command that it is inside. -/
theorem finishRunning (h : b.Serves x done pending read) (hw : ∀ c ∈ x.ledger.fleet, c.WellFormed)
    (hr : Passive react) :
    (finishRunning react b = b ∧ b.queue.running = []) ∨
      ∃ command later, pending = command :: later ∧
        (Bank.finishRunning react b).Serves x (done ++ [command]) later read ∧
        (Bank.finishRunning react b).queue.load + 1 = b.queue.load := by
  unfold Bank.finishRunning
  cases hrun : b.queue.running with
  | nil => exact .inl ⟨rfl, rfl⟩
  | cons job rest =>
    have hfinished := h.stands.finish (Ledger.executeAll_wellFormed hw done) hr job
    obtain ⟨rfl, later, rfl, htracks, hload⟩ := h.tracks.finish hrun
      (((x.ledger.executeAll x.strategy done).1.execute x.strategy job.command).2.mapError
        (·.toError job.command))
    rw [← Ledger.told_concat] at htracks
    obtain ⟨hserves, hqueue⟩ := of_stands (b := finish react b job)
      (by rw [Ledger.executeAll_append]; exact hfinished) htracks
    exact .inr ⟨job.command, later, rfl, hserves, hqueue ▸ hload⟩

/-- A ticket that has not been read yet gives its result once its command has been carried
out. -/
theorem poll (h : b.Serves x done pending read) {n : Nat} (hn : n ∉ read) :
    ((x.ledger.told x.strategy done)[n]? = none ∧
        b.poll (x.queue.nextTicket + n) = (none, b)) ∨
      ∃ r b', (x.ledger.told x.strategy done)[n]? = some r ∧
        b.poll (x.queue.nextTicket + n) = (some r, b') ∧
        b'.Serves x done pending (n :: read) ∧ b'.queue.load = b.queue.load := by
  unfold Bank.poll
  obtain ⟨htold, hpoll⟩ | ⟨r, queue, htold, hpoll, htracks, hload⟩ := h.tracks.poll hn
  · rw [hpoll]
    exact .inl ⟨htold, rfl⟩
  · rw [hpoll]
    exact .inr ⟨r, _, htold, rfl, ⟨h.stands.with_queue queue, htracks⟩, hload⟩

/-- A worker with nothing in hand takes the oldest command and finishes it. -/
lemma work {command : Command} {later : List Command}
    (h : b.Serves x done (command :: later) read) (hw : ∀ c ∈ x.ledger.fleet, c.WellFormed)
    (hr : Passive react) (hrun : b.queue.running = []) :
    (work react b).Serves x (done ++ [command]) later read := by
  have hlength := h.tracks.pending_length
  unfold Bank.work
  obtain ⟨htake, hempty⟩ | ⟨job, queue, htake, htracks, hjob, -⟩ := h.tracks.take
  · have hload := hempty hrun
    simp only [Queue.load, hrun, List.length_cons, List.length_nil] at hload hlength
    omega
  · have htaken : ({ b with queue := queue.letIn } : Bank).Serves x done (command :: later) read :=
      ⟨h.stands.with_queue queue.letIn, htracks⟩
    rw [htake]
    obtain ⟨-, hnone⟩ | ⟨oldest, rest, heq, hfinished, -⟩ := htaken.finishRunning hw hr
    · rw [hjob] at hnone
      cases hnone
    · obtain ⟨rfl, rfl⟩ := List.cons.inj heq
      rw [Bank.finishRunning, hjob] at hfinished
      exact hfinished

end Serves

/-- A command that is submitted while the queue is idle is carried out at once, and then the
queue is idle again. -/
lemma Stands.idle_call (h : b.Stands x) (hw : ∀ c ∈ x.ledger.fleet, c.WellFormed)
    (hr : Passive react) (hidle : x.queue.Idle) (command : Command) :
    (call react b command).1.queue.Idle := by
  obtain ⟨b', hsubmit, hserves, hload⟩ := (Serves.of_idle h hidle).submit command
  have hqueue : b.queue = x.queue := congrArg (·.queue) h.standing
  have hempty := hidle.pending_length
  have hlength := hserves.tracks.pending_length
  simp only [Queue.load, hqueue, List.length_append, List.length_singleton, List.length_nil]
    at hload hempty hlength
  have hrun : b'.queue.running = [] := List.eq_nil_of_length_eq_zero (by omega)
  have hround : b'.queue.waiting.length + b'.queue.heldBack.length = 1 := by omega
  have hworked := hserves.work hw hr hrun
  unfold call
  rw [hsubmit]
  dsimp only
  unfold drain
  rw [hround]
  obtain ⟨hnone, -⟩ | ⟨r, after, -, hpoll, hread, -⟩ := hworked.poll (n := 0) List.not_mem_nil
  · rw [List.getElem?_eq_none_iff, Ledger.length_told] at hnone
    simp at hnone
  · show (poll (work react b') _).2.queue.Idle
    rw [List.length_nil, hpoll]
    exact hread.tracks.idle

/-- Only a shutdown or a handler that calls back leaves an idle queue other than idle. -/
theorem Orderly.idle_perform (h : b.Orderly) (hidle : b.queue.Idle) {op : Op} (hop : op.IsSilent)
    (hn : op ≠ .shutdown) : (b.perform op).1.queue.Idle := by
  by_cases hq : op.UsesQueue
  · cases op with
    | submit command => exact h.stands.idle_call h.cars (react_passive _) hidle command
    | shutdown => exact absurd rfl hn
    | _ => cases hq
  · rw [h.queue_perform hop hq]
    exact hidle

theorem Orderly.idle_run {ops : List Op} (h : b.Orderly) (hidle : b.queue.Idle)
    (hops : ∀ op ∈ ops, op.IsSilent ∧ op ≠ .shutdown) : (b.run ops).queue.Idle := by
  induction ops generalizing b with
  | nil => exact hidle
  | cons op rest ih =>
    obtain ⟨hop, hn⟩ := hops op List.mem_cons_self
    exact ih (h.perform hop) (h.idle_perform hidle hop hn)
      fun op hop => hops op (List.mem_cons_of_mem _ hop)

lemma Fresh.idle {floors : List Int} {s : Strategy} (h : b.Fresh floors s)
    (hworker : b.queue.workerCount = 1) : b.queue.Idle := by
  obtain ⟨capacity, workers, hcapacity, -, hqueue⟩ := h.queue
  rw [hqueue] at hworker ⊢
  subst hworker
  exact Queue.idle_start hcapacity

end Bank
end ElevatorBank
