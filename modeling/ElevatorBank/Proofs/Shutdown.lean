import ElevatorBank.Proofs.Moves

/-!
# Shutdown

Whatever the callers and the workers do around it, a shutdown leaves every command either carried
out or given up (`Fulfilled`, `GivenUp`). Once it has begun no worker looks for a command any
more, so at most one is carried out for each worker that was waiting for one then (`few_started`).
It comes to its end unless a worker waits at the gate, which is for ever (`windUp_spec`,
`barred_forever`).
-/
namespace ElevatorBank

namespace Queue

variable {q q' : Queue} {a : Act}

/-- Once a shutdown has begun no worker comes to wait for a command, and one that takes a command
waits no more. -/
lemma Step.ready_of_isShutdown (hs : Step a q q') (hshut : q.isShutdown = true) :
    q'.isShutdown = true ∧ q'.ready ≤ q.ready ∧ ∀ job, a = .take job → q'.ready + 1 = q.ready := by
  have hclosed : q.phase ≠ .accepting := by simpa [isShutdown] using hshut
  cases hs with
  | look hopen | close hopen => exact absurd hopen hclosed
  | lapse => exact ⟨hshut, Nat.sub_le _ _, by simp⟩
  | take hwaiting hready => exact ⟨hshut, Nat.sub_le _ _, fun _ _ => Nat.sub_add_cancel hready⟩
  | bar | settle => exact ⟨by simp [isShutdown], Nat.le_refl _, by simp⟩
  | _ => exact ⟨hshut, Nat.le_refl _, by simp⟩

/-- Whoever waits at the gate is not let in before the shutdown has come to its end. -/
lemma Step.mem_atGate (hs : Step a q q') {job : Job} (hm : job ∈ q.atGate) :
    job ∈ q'.atGate ∨ q'.phase = .closed := by
  cases hs with
  | await => exact .inl (List.mem_append_left _ hm)
  | settle => exact .inr rfl
  | _ => exact .inl hm

lemma Step.mem_running_of_take {job : Job} (hs : Step (.take job) q q') : job ∈ q'.running := by
  cases hs
  simp

/-- A worker can only take the command that has waited longest. -/
lemma Step.take_unique {job other : Job} {q'' : Queue} (hs : Step (.take job) q q')
    (hs' : Step (.take other) q q'') : job = other := by
  cases hs with
  | take hwaiting =>
    cases hs' with
    | take hwaiting' => exact (List.cons.inj (hwaiting.symm.trans hwaiting')).1

/-- As long as a worker waits at the gate the shutdown does not come to its end. -/
lemma Step.barred (hs : Step a q q') (h : q.Accounts) {job : Job} {ticket : Ticket}
    (hwithin : job.within = some ticket) (hm : q.phase = .barred ∧ job ∈ q.atGate) :
    q'.phase = .barred ∧ job ∈ q'.atGate := by
  obtain ⟨hbarred, hgate⟩ := hm
  cases hs with
  | hold hopen | accept hopen | look hopen | close hopen => simp [hbarred] at hopen
  | bar hclosing => simp [hbarred] at hclosing
  | await => exact ⟨hbarred, List.mem_append_left _ hgate⟩
  | settle _ _ hrunning =>
    have hworker := h.inside job (List.mem_append_right _ hgate) ticket hwithin
    simp [hrunning] at hworker
  | _ => exact ⟨hbarred, hgate⟩

lemma bar_close (hphase : q.phase ≠ .closed) : q.close.bar = { q with phase := .barred } := by
  obtain ⟨capacity, workerCount, phase⟩ := q
  cases phase with
  | closed => exact absurd rfl hphase
  | _ => rfl

lemma lapse_of_ready (hready : q.ready = 0) : q.lapse = q := by
  obtain ⟨⟩ := q
  subst hready
  rfl

/-- A worker does not wait to submit anything if nobody who waits to is inside a command. -/
lemma isActive_of_mem {job : Job} (hm : job ∈ q.running)
    (hout : ∀ other ∈ q.heldBack ++ q.atGate, other.within = none) :
    q.isActive job.ticket = true := by
  unfold isActive
  rw [Bool.and_eq_true, List.any_eq_true, List.all_eq_true]
  refine ⟨⟨job, hm, beq_self_eq_true _⟩, fun other hother => ?_⟩
  rw [hout other hother]
  rfl

end Queue

namespace Bank

variable {b : Bank} {react : React}

/-! ### What becomes of a command -/

/-- A worker has carried the command out after some of the moves. From then on its ticket
answers with the result, until it is read. -/
def Fulfilled (react : React) (b : Bank) (moves : List Move) (job : Job) : Prop :=
  ∃ before after, moves = before ++ .finish job :: after ∧
    job ∈ (b.play react before).queue.running ∧
    ∀ earlier later, after = earlier ++ later → .poll job.ticket ∉ earlier →
      ((b.play react (before ++ .finish job :: earlier)).poll job.ticket).1 =
        some ((b.play react before).resultOf react job)

/-- No worker has been inside the command. Its submission has been sent away, which is not
counted, or the shutdown has come to its end, which counts what waited in the queue. From then on
its ticket answers that the queue has been shut down. -/
def GivenUp (react : React) (b : Bank) (moves : List Move) (job : Job) : Prop :=
  ∃ before m after, moves = before ++ m :: after ∧
    (m = .sendAway job ∧ job ∈ (b.play react before).queue.heldBack ∧
        (b.play react (before ++ [m])).queue.stats = (b.play react before).queue.stats ∨
      m = .settle ∧ (job ∈ (b.play react before).queue.waiting ∨
          job ∈ (b.play react before).queue.atGate) ∧
        (b.play react (before ++ [m])).queue.abandoned =
          (b.play react before).queue.abandoned + (b.play react before).queue.waiting.length) ∧
    (∀ earlier later, moves = earlier ++ later → job ∉ (b.play react earlier).queue.running) ∧
    ∀ earlier later, after = earlier ++ later →
      ((b.play react (before ++ m :: earlier)).poll job.ticket).1 = some (.error .queueShutdown)

lemma Fulfilled.cons {m : Move} {rest : List Move} {job : Job}
    (h : Fulfilled react (b.move react m) rest job) : Fulfilled react b (m :: rest) job := by
  obtain ⟨before, after, rfl, h⟩ := h
  exact ⟨m :: before, after, rfl, h⟩

lemma GivenUp.cons {m : Move} {rest : List Move} {job : Job}
    (h : GivenUp react (b.move react m) rest job) (hn : job ∉ b.queue.running) :
    GivenUp react b (m :: rest) job := by
  obtain ⟨before, other, after, rfl, hother, hnever, hpoll⟩ := h
  refine ⟨m :: before, other, after, rfl, hother, fun earlier later hsplit => ?_, hpoll⟩
  cases earlier with
  | nil => exact hn
  | cons first earlier =>
    rw [List.cons_append, List.cons.injEq] at hsplit
    rw [← hsplit.1]
    exact hnever earlier later hsplit.2

lemma Move.eq_of_allows_finish {m : Move} {job : Job} {r : Result} (h : m.Allows (.finish job r)) :
    m = .finish job := by
  cases m with
  | finish other => rw [show job = other from h]
  | _ => exact h.elim

lemma poll_of_result {ticket : Ticket} {r : Result}
    (hreply : b.queue.replies.lookup ticket = some (.result r)) : (b.poll ticket).1 = some r := by
  unfold poll Queue.poll
  rw [hreply]

lemma poll_of_spent {ticket : Ticket} {reply : Reply} (hspent : ∀ r, reply ≠ .result r)
    (hreply : b.queue.replies.lookup ticket = some reply) :
    (b.poll ticket).1 = some (.error .queueShutdown) := by
  unfold poll Queue.poll
  rw [hreply]
  cases reply with
  | result r => exact absurd rfl (hspent r)
  | _ => rfl

/-- No worker is inside a command that none has started. -/
lemma notMem_running {job : Job} (hq : b.queue.Accounts) (hm : job ∈ b.queue.unstarted) :
    job ∉ b.queue.running :=
  fun hrunning => (List.nodup_append.mp hq.inHand_nodup).2.2 job hrunning job hm rfl

section
variable (hr : SparesQueue react) {job : Job} {ticket : Ticket}
include hr

lemma lookup_move_finish (hm : job ∈ b.queue.running)
    (hactive : b.queue.isActive job.ticket = true) :
    (b.move react (.finish job)).queue.replies.lookup job.ticket =
      some (.result (b.resultOf react job)) := by
  rw [move_finish react hm hactive, queue_finish hr, Queue.finish_eq]
  exact List.lookup_cons_self

/-- A reply stays on its ticket until it is read. -/
lemma play_lookup_reply {reply : Reply} (moves : List Move) (hq : b.queue.Accounts)
    (hreply : b.queue.replies.lookup ticket = some reply) (hread : .poll ticket ∉ moves) :
    (b.play react moves).queue.replies.lookup ticket = some reply := by
  refine (play_keeps hr (P := fun q => q.replies.lookup ticket = some reply) moves
    (fun m hm a q q' ha hq hs h => hs.lookup_reply hq h ?_) hq hreply).2
  rintro rfl
  cases m with
  | poll other =>
    obtain rfl : ticket = other := ha
    exact hread hm
  | _ => exact ha.elim

/-- A reply that is no result is never read off its ticket. -/
lemma play_lookup_spent {reply : Reply} (hspent : ∀ r, reply ≠ .result r) (moves : List Move)
    (hq : b.queue.Accounts) (hreply : b.queue.replies.lookup ticket = some reply) :
    (b.play react moves).queue.replies.lookup ticket = some reply := by
  refine (play_keeps hr (P := fun q => q.replies.lookup ticket = some reply) moves
    (fun m hm a q q' ha hq hs h => hs.lookup_reply hq h ?_) hq hreply).2
  rintro rfl
  cases hs with
  | read hresult => exact hspent _ (Option.some.inj (h.symm.trans hresult))

/-- A worker stays inside a command through every move but its own end. -/
lemma mem_running_move {m : Move} (hq : b.queue.Accounts) (hm : job ∈ b.queue.running)
    (hne : ¬(m = .finish job ∧ b.queue.isActive job.ticket = true)) :
    job ∈ (b.move react m).queue.running := by
  by_cases hfinish : m = .finish job
  · subst hfinish
    rw [move_finish_of_not react fun h => hne ⟨rfl, h.2⟩]
    exact hm
  · obtain hsame | ⟨a, ha, hs⟩ := move_step hr m hq
    · rw [hsame]
      exact hm
    · exact hs.mem_running hm fun r he => hfinish (Move.eq_of_allows_finish (he ▸ ha))

/-- What a worker has started has been carried out once the worker is not inside it any more. -/
theorem fulfilled_of_running (moves : List Move) (hq : b.queue.Accounts)
    (hm : job ∈ b.queue.running) (hend : job ∉ (b.play react moves).queue.running) :
    Fulfilled react b moves job := by
  induction moves generalizing b with
  | nil => exact absurd hm hend
  | cons m rest ih =>
    have hq' := move_accounts hr m hq
    by_cases hfinish : m = .finish job ∧ b.queue.isActive job.ticket = true
    · obtain ⟨rfl, hactive⟩ := hfinish
      exact ⟨[], rest, rfl, hm, fun earlier later _ hread => poll_of_result
        (play_lookup_reply hr earlier hq' (lookup_move_finish hr hm hactive) hread)⟩
    · exact (ih hq' (mem_running_move hr hq hm hfinish) hend).cons

/-- After a move a command that no worker had started is still to be started, or a worker has
taken it, or it has been given up. -/
lemma move_unstarted (m : Move) (hq : b.queue.Accounts) (hm : job ∈ b.queue.unstarted) :
    job ∈ (b.move react m).queue.unstarted ∨
      Queue.Step (.take job) b.queue (b.move react m).queue ∨
      (b.move react m).queue.replies.lookup job.ticket = some .abandoned ∧
        (m = .sendAway job ∧ job ∈ b.queue.heldBack ∧
            (b.move react m).queue.stats = b.queue.stats ∨
          m = .settle ∧ (job ∈ b.queue.waiting ∨ job ∈ b.queue.atGate) ∧
            (b.move react m).queue.abandoned = b.queue.abandoned + b.queue.waiting.length) := by
  obtain hsame | ⟨a, ha, hs⟩ := move_step hr m hq
  · rw [hsame]
    exact .inl hm
  · obtain hstill | ⟨rfl, -⟩ | ⟨hreply, hgiven⟩ := hs.mem_unstarted hm
    · exact .inl hstill
    · exact .inr (.inl hs)
    · refine .inr (.inr ⟨hreply, hgiven.imp ?_ ?_⟩)
      · rintro ⟨rfl, h⟩
        cases m with
        | sendAway other => exact ⟨by rw [show job = other from ha], h⟩
        | _ => exact ha.elim
      · rintro ⟨rfl, h⟩
        cases m with
        | settle => exact ⟨rfl, h⟩
        | _ => exact ha.elim

/-- A command that is given up now. -/
lemma givenUp_of_move {m : Move} (rest : List Move) (hq : b.queue.Accounts)
    (hm : job ∈ b.queue.unstarted)
    (hreply : (b.move react m).queue.replies.lookup job.ticket = some .abandoned)
    (hgiven : m = .sendAway job ∧ job ∈ b.queue.heldBack ∧
        (b.move react m).queue.stats = b.queue.stats ∨
      m = .settle ∧ (job ∈ b.queue.waiting ∨ job ∈ b.queue.atGate) ∧
        (b.move react m).queue.abandoned = b.queue.abandoned + b.queue.waiting.length) :
    GivenUp react b (m :: rest) job := by
  have hq' := move_accounts hr m hq
  refine ⟨[], m, rest, rfl, hgiven, fun earlier later hsplit => ?_, fun earlier _ _ =>
    poll_of_spent (by simp) (play_lookup_spent hr (by simp) earlier hq' hreply)⟩
  cases earlier with
  | nil => exact notMem_running hq hm
  | cons first earlier =>
    rw [List.cons_append, List.cons.injEq] at hsplit
    rw [← hsplit.1]
    intro hrunning
    have hnone := (play_accounts hr earlier hq').lookup_of_mem (List.mem_append_left _ hrunning)
    rw [play_lookup_spent hr (by simp) earlier hq' hreply] at hnone
    cases hnone

/-- A command that no worker has started is carried out or given up if it does not stay in hand. -/
theorem fulfilled_or_givenUp (moves : List Move) (hq : b.queue.Accounts)
    (hm : job ∈ b.queue.unstarted) (hend : (b.play react moves).queue.inHand = []) :
    Fulfilled react b moves job ∨ GivenUp react b moves job := by
  induction moves generalizing b with
  | nil => simp [Queue.inHand, List.ne_nil_of_mem hm] at hend
  | cons m rest ih =>
    have hq' := move_accounts hr m hq
    obtain hstill | hs | ⟨hreply, hgiven⟩ := move_unstarted hr m hq hm
    · exact (ih hq' hstill hend).imp .cons (.cons · (notMem_running hq hm))
    · have hnone : (b.play react (m :: rest)).queue.running = [] :=
        (List.append_eq_nil_iff.mp hend).1
      refine .inl (fulfilled_of_running hr rest hq' hs.mem_running_of_take ?_).cons
      rw [← play_cons, hnone]
      exact List.not_mem_nil
    · exact .inr (givenUp_of_move hr rest hq hm hreply hgiven)

/-- Whoever is at the gate is given up with the end of the shutdown. -/
theorem givenUp_of_atGate (moves : List Move) (hq : b.queue.Accounts)
    (hm : job ∈ b.queue.atGate) (hend : (b.play react moves).queue.inHand = []) :
    GivenUp react b moves job := by
  have hwaits : ∀ {q : Queue}, job ∈ q.atGate → job ∈ q.unstarted :=
    fun h => List.mem_append_right _ h
  induction moves generalizing b with
  | nil => simp [Queue.inHand, List.ne_nil_of_mem (hwaits hm)] at hend
  | cons m rest ih =>
    have hq' := move_accounts hr m hq
    have hstep : job ∈ (b.move react m).queue.atGate ∨
        (b.move react m).queue.unstarted = [] := by
      obtain hsame | ⟨a, -, hs⟩ := move_step hr m hq
      · rw [hsame]
        exact .inl hm
      · refine (hs.mem_atGate hm).imp_right fun hclosed => ?_
        exact (List.append_eq_nil_iff.mp (hq'.closed hclosed).2).2
    obtain hstill | hnone := hstep
    · exact (ih hq' hstill hend).cons (notMem_running hq (hwaits hm))
    · obtain hstill | hs | ⟨hreply, hgiven⟩ := move_unstarted hr m hq (hwaits hm)
      · rw [hnone] at hstill
        cases hstill
      · obtain hstill | hclosed := hs.mem_atGate hm
        · exact absurd (hwaits hstill) (by rw [hnone]; exact List.not_mem_nil)
        · have hrunning := (List.append_eq_nil_iff.mp (hq'.closed hclosed).2).1
          have htaken := hs.mem_running_of_take
          rw [hrunning] at htaken
          cases htaken
      · exact givenUp_of_move hr rest hq (hwaits hm) hreply hgiven

lemma move_isShutdown (m : Move) (hq : b.queue.Accounts) (hshut : b.queue.isShutdown = true) :
    (b.move react m).queue.isShutdown = true ∧ (b.move react m).queue.ready ≤ b.queue.ready := by
  obtain hsame | ⟨a, -, hs⟩ := move_step hr m hq
  · rw [hsame]
    exact ⟨hshut, Nat.le_refl _⟩
  · have hkept := hs.ready_of_isShutdown hshut
    exact ⟨hkept.1, hkept.2.1⟩

/-- Once a shutdown has begun no more commands are started than workers wait for one; all others
are given up. -/
theorem few_started (moves : List Move) (hq : b.queue.Accounts)
    (hshut : b.queue.isShutdown = true) (hend : (b.play react moves).queue.inHand = []) :
    ∃ started : List Job, started.length ≤ b.queue.ready ∧
      ∀ job ∈ b.queue.unstarted, job ∉ started → GivenUp react b moves job := by
  induction moves generalizing b with
  | nil =>
    refine ⟨[], Nat.zero_le _, fun job hm => ?_⟩
    simp [Queue.inHand, List.ne_nil_of_mem hm] at hend
  | cons m rest ih =>
    have hq' := move_accounts hr m hq
    obtain ⟨hshut', hready⟩ := move_isShutdown hr m hq hshut
    obtain ⟨started, hlength, hgiven⟩ := ih hq' hshut' hend
    have hothers : ∀ job ∈ b.queue.unstarted, job ∉ started →
        ¬Queue.Step (.take job) b.queue (b.move react m).queue →
          GivenUp react b (m :: rest) job := by
      intro job hm hn hnot
      obtain hstill | hs | ⟨hreply, hgone⟩ := move_unstarted hr m hq hm
      · exact (hgiven job hstill hn).cons (notMem_running hq hm)
      · exact absurd hs hnot
      · exact givenUp_of_move hr rest hq hm hreply hgone
    by_cases htaken : ∃ job, Queue.Step (.take job) b.queue (b.move react m).queue
    · obtain ⟨taken, hs⟩ := htaken
      refine ⟨taken :: started, ?_, fun job hm hn => ?_⟩
      · rw [List.length_cons, ← (hs.ready_of_isShutdown hshut).2.2 taken rfl]
        exact Nat.succ_le_succ hlength
      · rw [List.mem_cons, not_or] at hn
        exact hothers job hm hn.2 fun hs' => hn.1 (hs'.take_unique hs)
    · exact ⟨started, Nat.le_trans hlength hready, fun job hm hn =>
        hothers job hm hn fun hs => htaken ⟨job, hs⟩⟩

end

/-! ### The end of a shutdown -/

/-- A shutdown by itself: no worker waits any more, the submissions held back are sent away and
every command that a worker is inside is carried out. -/
def windUp (b : Bank) : List Move :=
  [.close, .bar] ++ List.replicate b.queue.ready .lapse ++
    b.queue.heldBack.reverse.map .sendAway ++ b.queue.running.map .finish ++ [.settle]

lemma play_lapse (react : React) (n : Nat) (b : Bank) : b.play react (List.replicate n .lapse) =
    { b with queue := { b.queue with ready := b.queue.ready - n } } := by
  induction n generalizing b with
  | zero => rfl
  | succ n ih =>
    rw [List.replicate_succ, play_cons, ih, Nat.add_comm, ← Nat.sub_sub]
    rfl

lemma play_sendAway (react : React) (jobs : List Job) (b : Bank) :
    b.play react (jobs.map .sendAway) = { b with queue := jobs.foldl Queue.sendAway b.queue } := by
  induction jobs generalizing b with
  | nil => rfl
  | cons job rest ih => exact ih _

/-- Once nobody is left that waits to be let in. -/
lemma play_emptied (react : React) (hq : b.queue.Accounts) (hphase : b.queue.phase ≠ .closed) :
    b.play react ([.close, .bar] ++ List.replicate b.queue.ready .lapse ++
      b.queue.heldBack.reverse.map .sendAway) =
        { b with queue := b.queue.close.bar.dismiss.refuse } := by
  have hclosing := Queue.bar_close hphase
  have hn : b.queue.heldBack.Nodup :=
    (hq.inHand_nodup.sublist (List.sublist_append_right _ _)).sublist
      ((List.sublist_append_right _ _).trans (List.sublist_append_left _ _))
  rw [play_append, play_append, play_lapse, play_sendAway, Queue.refuse_eq_foldl]
  · simp [move, hclosing, Queue.dismiss]
  · simp [hclosing, Queue.dismiss, Queue.isShutdown]
  · simpa [hclosing, Queue.dismiss] using hn

/-- Whatever is said only adds to the trace. -/
lemma say_eq (b : Bank) (level : Log.Level) (message : String)
    (fields : List (String × Log.Field)) :
    ∃ trace, b.say level message fields = { b with trace } := by
  unfold say log
  split_ifs
  · exact ⟨_, rfl⟩
  · exact ⟨b.trace, rfl⟩

lemma noteShutdown_eq (b : Bank) (abandoned : List Job) :
    ∃ trace, b.noteShutdown abandoned = { b with trace } := by
  have htold : ∀ (jobs : List Job) (c : Bank), ∃ trace, jobs.foldl (fun b job =>
      b.say .debug "Command abandoned at shutdown" [("command", .text job.command.text)]) c =
        { c with trace } := by
    intro jobs
    induction jobs with
    | nil => exact fun c => ⟨c.trace, rfl⟩
    | cons job rest ih =>
      intro c
      obtain ⟨trace, hfirst⟩ := say_eq c .debug "Command abandoned at shutdown"
        [("command", .text job.command.text)]
      obtain ⟨trace', hrest⟩ := ih { c with trace }
      exact ⟨trace', by rw [List.foldl_cons, hfirst, hrest]⟩
  obtain ⟨trace, htold⟩ := htold abandoned b
  unfold noteShutdown
  dsimp only
  rw [htold]
  split_ifs
  · exact say_eq { b with trace } .info "Command queue shut down" []
  · obtain ⟨trace', hwarned⟩ := say_eq { b with trace } .warn
      "Command queue shut down with pending commands" [("abandoned", .nat abandoned.length)]
    rw [hwarned]
    exact say_eq { b with trace := trace' } .info "Command queue shut down" []

section
variable (hr : SparesQueue react)
include hr

/-- As long as nobody waits to submit anything, to finish all commands that workers are inside
leaves none of them and touches nothing else in hand. -/
lemma play_finish (hq : b.queue.Accounts)
    (hout : ∀ job ∈ b.queue.heldBack ++ b.queue.atGate, job.within = none) :
    b.play react (b.queue.running.map .finish) = b.finishRunning react ∧
      (b.finishRunning react).queue.running = [] ∧
      (b.finishRunning react).queue.heldBack = b.queue.heldBack ∧
      (b.finishRunning react).queue.ready = b.queue.ready ∧
      (b.finishRunning react).queue.phase = b.queue.phase := by
  unfold finishRunning
  generalize hrunning : b.queue.running = jobs
  induction jobs generalizing b with
  | nil => exact ⟨rfl, hrunning, rfl, rfl, rfl⟩
  | cons job rest ih =>
    have hm : job ∈ b.queue.running := by rw [hrunning]; exact List.mem_cons_self
    have hmove := move_finish react hm (Queue.isActive_of_mem hm hout)
    have hqueue := queue_finish hr b job
    have hq' := move_accounts hr (.finish job) hq
    rw [hmove] at hq'
    rw [Queue.finish_eq, hq.filter_ticket hm, hrunning, List.erase_cons_head] at hqueue
    obtain ⟨hplay, hnone, hheld, hready, hphase⟩ := ih hq'
      (by rw [hqueue]; exact hout) (by rw [hqueue])
    rw [List.map_cons, play_cons, hmove]
    refine ⟨hplay, hnone, hheld.trans ?_, hready.trans ?_, hphase.trans ?_⟩
    all_goals rw [hqueue]

/-- Unless a worker waits at the gate a shutdown can come to its end from wherever it is. -/
lemma windUp_spec (hq : b.queue.Accounts) (hphase : b.queue.phase ≠ .closed)
    (hout : ∀ job ∈ b.queue.atGate, job.within = none) :
    let ended := finishRunning react { b with queue := b.queue.close.bar.dismiss.refuse }
    b.play react b.windUp = { ended with queue := ended.queue.abandon } ∧
      ended.queue.abandon.phase = .closed := by
  intro ended
  have hemptied : b.queue.close.bar.dismiss.refuse = { b.queue with
      phase := .barred
      ready := 0
      heldBack := []
      replies := b.queue.giveUp b.queue.heldBack } := by
    rw [Queue.bar_close hphase]
    rfl
  have hq' := play_accounts hr ([.close, .bar] ++ List.replicate b.queue.ready .lapse ++
    b.queue.heldBack.reverse.map .sendAway) hq
  rw [play_emptied react hq hphase] at hq'
  obtain ⟨hplay, hnone, hheld, hready, hbarred⟩ := play_finish hr hq' (by
    rw [hemptied]
    exact hout)
  have hrunning : b.queue.close.bar.dismiss.refuse.running = b.queue.running := by rw [hemptied]
  refine ⟨?_, ?_⟩
  · unfold windUp
    rw [play_append, play_append, play_emptied react hq hphase, ← hrunning, hplay]
    rfl
  · unfold Queue.abandon
    rw [if_pos ⟨hbarred.trans (by rw [hemptied]), hready.trans (by rw [hemptied]), hnone,
      hheld.trans (by rw [hemptied])⟩]

/-- As long as a worker waits at the gate a shutdown does not come to its end. -/
lemma barred_forever (hq : b.queue.Accounts) {job : Job} (hm : job ∈ b.queue.atGate)
    (hwithin : job.within ≠ none) (moves : List Move) :
    (b.play react moves).queue.phase = .barred := by
  obtain ⟨ticket, hticket⟩ := Option.ne_none_iff_exists'.mp hwithin
  have hbarred : b.queue.phase = .barred := by
    by_contra hn
    rw [hq.gate hn] at hm
    cases hm
  exact (play_keeps hr (P := fun q => q.phase = .barred ∧ job ∈ q.atGate) moves
    (fun _ _ _ _ _ _ hq hs h => hs.barred hq hticket h) hq ⟨hbarred, hm⟩).2.1

/-- To shut down a bank that is open is to wind it up, and to note it. -/
theorem shutdown_eq (hq : b.queue.Accounts) (hopen : b.queue.isShutdown = false) :
    (b.shutdown react).queue.phase = .closed ∧
      ∃ trace, b.shutdown react = { b.play react b.windUp with trace } := by
  have hphase : b.queue.phase = .accepting := by simpa [Queue.isShutdown] using hopen
  have hout : ∀ job ∈ b.queue.atGate, job.within = none := by
    rw [hq.gate (by simp [hphase])]
    exact fun job hm => absurd hm List.not_mem_nil
  obtain ⟨hplay, hclosed⟩ := windUp_spec hr hq (by simp [hphase]) hout
  unfold shutdown
  rw [if_neg (by simp [hopen]), hplay, if_pos hclosed]
  obtain ⟨trace, hnoted⟩ := noteShutdown_eq _ _
  rw [hnoted]
  exact ⟨hclosed, trace, rfl⟩

end

/-! ### Any moves at all -/

lemma admission_eq_error {command : Command} {r : Except DispatchError (Ticket × Queue)}
    {e : DispatchError} : b.admission command r = .error e ↔ r = .error e := by
  cases r <;> simp [admission, Except.map]

/-- A submission for which there is no room is refused while the queue is open, and only then. -/
lemma trySubmitFrom_eq_queueFull (hq : b.queue.Accounts) (within : Option Ticket)
    (command : Command) :
    b.trySubmitFrom within command = .error (.queueFull b.queue.capacity) ↔
      b.queue.isShutdown = false ∧ b.queue.stats.queued = b.queue.capacity := by
  rw [trySubmitFrom, admission_eq_error, Queue.trySubmit_eq_queueFull]
  exact and_congr_right fun _ => ⟨fun hle => Nat.le_antisymm hq.room hle, Nat.le_of_eq ∘ Eq.symm⟩

lemma move_of_refused {command : Command} {within : Option Ticket} {e : DispatchError}
    (he : b.trySubmitFrom within command = .error e) :
    b.move react (.trySubmit command within) = b := by
  simp only [move, he]
  split_ifs <;> rfl

/-- A submission that is taken in has yet to be started; if a shutdown has begun it waits at
the gate. -/
lemma mem_of_submitFrom {command : Command} {within : Option Ticket} {ticket : Ticket} {c : Bank}
    (hwithin : within.all b.queue.isActive = true)
    (hs : b.submitFrom within command = .ok (ticket, c) ∨
      b.trySubmitFrom within command = .ok (ticket, c)) :
    ⟨ticket, command, within⟩ ∈ c.queue.unstarted ∧
      (b.queue.isShutdown = true → ⟨ticket, command, within⟩ ∈ c.queue.atGate) := by
  have hqueue : ∀ {r : Except DispatchError (Ticket × Queue)},
      b.admission command r = .ok (ticket, c) → r = .ok (ticket, c.queue) := by
    intro r hr
    cases r with
    | error e => simp [admission, Except.map] at hr
    | ok taken =>
      obtain ⟨rfl, rfl⟩ :
          taken.1 = ticket ∧ noteSubmission { b with queue := taken.2 } command = c := by
        simpa [admission, Except.map] using hr
      rw [noteSubmission, queue_say]
  refine ⟨?_, fun hshut => ?_⟩
  · obtain hs | hs := hs
    · exact (Queue.submit_step hwithin (hqueue hs)).2
    · exact (Queue.trySubmit_step hwithin (hqueue hs)).2
  · cases hphase : b.queue.phase with
    | accepting => simp [Queue.isShutdown, hphase] at hshut
    | barred =>
      obtain hs | hs := hs
      · have hgate := hqueue hs
        simp only [Queue.submit, hphase, Except.ok.injEq, Prod.mk.injEq] at hgate
        simp [← hgate.1, ← hgate.2]
      · have hgate := hqueue hs
        simp only [Queue.trySubmit, hphase, Except.ok.injEq, Prod.mk.injEq] at hgate
        simp [← hgate.1, ← hgate.2]
    | closing | closed =>
      obtain hs | hs := hs
      · simpa [Queue.submit, hphase] using hqueue hs
      · simpa [Queue.trySubmit, hphase] using hqueue hs

lemma refused_of_isShutdown (hshut : b.queue.isShutdown = true)
    (hbarred : b.queue.phase ≠ .barred) (within : Option Ticket) (command : Command) :
    b.submitFrom within command = .error .queueShutdown ∧
      b.trySubmitFrom within command = .error .queueShutdown := by
  unfold submitFrom trySubmitFrom
  rw [admission_eq_error, admission_eq_error]
  cases hphase : b.queue.phase with
  | accepting => simp [Queue.isShutdown, hphase] at hshut
  | barred => exact absurd hphase hbarred
  | closing | closed => simp [Queue.submit, Queue.trySubmit, hphase]

/-- Once the queue is closed a move changes nothing, apart from reading a ticket. -/
lemma move_of_closed (react : React) (hq : b.queue.Accounts) (hclosed : b.queue.phase = .closed)
    {m : Move} (hm : ∀ ticket, m ≠ .poll ticket) : b.move react m = b := by
  obtain ⟨hready, hnone⟩ := hq.closed hclosed
  have hempty : b.queue.running = [] ∧ b.queue.waiting = [] ∧ b.queue.heldBack = [] ∧
      b.queue.atGate = [] := by simpa [Queue.inHand, Queue.unstarted] using hnone
  have hrefused := refused_of_isShutdown (b := b) (by simp [Queue.isShutdown, hclosed])
    (by simp [hclosed])
  cases m with
  | submit command within => simp [move, (hrefused within command).1, entered]
  | trySubmit command within => simp [move, (hrefused within command).2, entered]
  | look => simp [move, Queue.look, hclosed]
  | lapse => simp [move, Queue.lapse_of_ready hready]
  | take => simp [move, Queue.take?, hempty]
  | finish job => exact move_finish_of_not react (by simp [hempty])
  | receive job => simp [move, Queue.receive, hempty]
  | sendAway job => simp [move, Queue.sendAway, hempty]
  | poll ticket => exact absurd rfl (hm ticket)
  | drop ticket => rfl
  | close => simp [move, Queue.close, hclosed]
  | bar => simp [move, Queue.bar, hclosed]
  | settle => simp [move, Queue.abandon, hclosed]

/-- Whatever the callers and the workers do, and in whatever order, the accounts of the queue
agree after every move, only a full queue refuses a submission while it is open, and only to
carry out a command that a worker is inside has an effect outside the queue. Once a shutdown has
begun nothing more gets into the queue than what was held back, and another one changes nothing.
It can come to its end unless a handler waits at the gate, and has the worker that carries its
command out wait with it. In the end every command that a worker had started has its result on
its ticket and every other one has been given up, all of them if no worker was waiting for a
command when the shutdown began, and only reading a ticket changes anything any more. -/
theorem closes_in_order {capacity workers : Nat}
    (hstart : Queue.start capacity workers = .ok b.queue) (hr : SparesQueue react)
    (moves : List Move) :
    let after := b.play react moves
    let stats := after.queue.stats
    (stats.submitted = stats.completed + stats.failed + stats.abandoned + stats.queued +
        after.queue.running.length ∧
      stats.queued ≤ capacity ∧ stats.droppedCalls ≤ stats.completed) ∧
    (∀ within : Option Ticket, within.all after.queue.isActive = true → ∀ command,
      (after.trySubmitFrom within command = .error (.queueFull capacity) ↔
        after.queue.isShutdown = false ∧ stats.queued = capacity) ∧
      (∀ e, after.trySubmitFrom within command = .error e →
        after.move react (.trySubmit command within) = after) ∧
      ∀ ticket c, after.submitFrom within command = .ok (ticket, c) ∨
          after.trySubmitFrom within command = .ok (ticket, c) →
        ⟨ticket, command, within⟩ ∈ c.queue.unstarted ∧
          (after.queue.isShutdown = true → ⟨ticket, command, within⟩ ∈ c.queue.atGate)) ∧
    (∀ m, (after.move react m).outline = after.outline ∨
      ∃ job ∈ after.queue.running, m = .finish job ∧ (after.move react m).outline =
        (execute react { after with audible := false } job.command).1.outline) ∧
    (after.queue.isShutdown = false → (after.shutdown react).queue.phase = .closed ∧
      ∃ more trace, after.shutdown react = { b.play react (moves ++ more) with trace }) ∧
    (after.queue.isShutdown = true →
      after.shutdown react = after ∧ after.move react .close = after ∧
      (after.queue.phase ≠ .barred → ∀ within command,
        after.submitFrom within command = .error .queueShutdown ∧
          after.trySubmitFrom within command = .error .queueShutdown)) ∧
    ((∃ more, (after.play react more).queue.phase = .closed) ↔
      ∀ job ∈ after.queue.atGate, job.within = none) ∧
    (after.queue.phase = .closed →
      (stats.queued = 0 ∧ after.queue.running = [] ∧
        stats.submitted = stats.completed + stats.failed + stats.abandoned) ∧
      (∀ earlier later, moves = earlier ++ later →
        let before := b.play react earlier
        (∀ job ∈ before.queue.running, Fulfilled react before later job) ∧
        (∀ job ∈ before.queue.unstarted,
          Fulfilled react before later job ∨ GivenUp react before later job) ∧
        (∀ job ∈ before.queue.atGate, GivenUp react before later job) ∧
        (before.queue.isShutdown = true → ∃ started : List Job,
          started.length + before.queue.running.length ≤ workers ∧
            started.length ≤ before.queue.ready ∧
            ∀ job ∈ before.queue.unstarted, job ∉ started → GivenUp react before later job)) ∧
      ∀ m, (∀ ticket, m ≠ .poll ticket) → after.move react m = after) := by
  intro after stats
  obtain ⟨hq, hcapacity, -⟩ := play_of_start hr hstart moves
  refine ⟨⟨hq.balance, hcapacity ▸ hq.room, hq.dropped⟩, fun within hwithin command => ?_,
    fun m => ?_, fun hopen => ?_, fun hshut => ?_, ?_, fun hclosed => ?_⟩
  · exact ⟨hcapacity ▸ trySubmitFrom_eq_queueFull hq within command,
      fun _ => move_of_refused, fun _ _ => mem_of_submitFrom hwithin⟩
  · by_cases hfinish : ∃ job ∈ after.queue.running, m = .finish job
    · obtain ⟨job, hm, rfl⟩ := hfinish
      by_cases hactive : after.queue.isActive job.ticket = true
      · refine .inr ⟨job, hm, rfl, ?_⟩
        rw [move_finish react hm hactive,
          finish_of_queue_eq react (queue_execute hr after job.command)]
        rfl
      · exact .inl (by rw [move_finish_of_not react fun h => hactive h.2])
    · exact .inl (outline_move react after fun job hm he => hfinish ⟨job, hm, he⟩)
  · obtain ⟨hclosed, trace, hshutdown⟩ := shutdown_eq hr hq hopen
    refine ⟨hclosed, after.windUp, trace, ?_⟩
    rw [hshutdown, play_append]
  · refine ⟨if_pos hshut, ?_, refused_of_isShutdown hshut⟩
    have hphase : after.queue.phase ≠ .accepting := by simpa [Queue.isShutdown] using hshut
    show { after with queue := after.queue.close } = after
    rw [Queue.close, if_neg hphase]
  · refine ⟨fun hmore job hm => ?_, fun hout => ?_⟩
    · obtain ⟨more, hclosed⟩ := hmore
      by_contra hwithin
      rw [barred_forever hr hq hm hwithin more] at hclosed
      cases hclosed
    · by_cases hclosed : after.queue.phase = .closed
      · exact ⟨[], hclosed⟩
      · obtain ⟨hplay, hend⟩ := windUp_spec hr hq hclosed hout
        exact ⟨after.windUp, by rw [hplay]; exact hend⟩
  · obtain ⟨-, hnone⟩ := hq.closed hclosed
    obtain ⟨hidle, hwaiting, -⟩ : after.queue.running = [] ∧ after.queue.waiting = [] ∧
        after.queue.heldBack = [] ∧ after.queue.atGate = [] := by
      simpa [Queue.inHand, Queue.unstarted] using hnone
    have hbalance := hq.balance
    rw [hwaiting, hidle] at hbalance
    refine ⟨⟨congrArg List.length hwaiting, hidle, hbalance⟩, ?_,
      fun m hm => move_of_closed react hq hclosed hm⟩
    rintro earlier later rfl
    obtain ⟨hbefore, -, hworkers⟩ := play_of_start hr hstart earlier
    rw [play_append] at hnone
    have hrunning := (List.append_eq_nil_iff.mp hnone).1
    refine ⟨fun job hm => ?_, fun job hm => ?_, fun job hm => ?_, fun hshut => ?_⟩
    · exact fulfilled_of_running hr later hbefore hm (by simp [hrunning])
    · exact fulfilled_or_givenUp hr later hbefore hm hnone
    · exact givenUp_of_atGate hr later hbefore hm hnone
    · obtain ⟨started, hlength, hgiven⟩ := few_started hr later hbefore hshut hnone
      have hbusy := hbefore.workers
      exact ⟨started, by omega, hlength, hgiven⟩

/-- One place and two workers. When the shutdown begins one worker is inside a command, and waits
for a place for another one that a handler has submitted there; the other worker still takes a
command. Of the rest the nested one is sent away, one gets in only to be abandoned, and the last
comes too late and waits at the gate. -/
theorem closes_in_order_one_place : ∃ b,
    Bank.start { capacity := 1, workerCount := 2 } = .ok b ∧
    let react : React := fun c _ _ => { c.run [.setMode 2 .maintenance] with queue := c.queue }
    let gated := b.run [.subscribe "gate" [.hallCallRaised] ⟨[], 0, .panic none⟩]
    let nested : Job := ⟨3, .carCall 1 6, some 0⟩
    let earlier : List Move := [.look, .look, .trySubmit (.hallCall 3 .up), .take,
      .submit (.carCall 1 5), .submit (.carCall 2 4), .submit (.carCall 1 6) (some 0),
      .trySubmit (.carCall 1 9), .close]
    let later : List Move := [.bar, .submit (.carCall 1 8), .finish ⟨0, .hallCall 3 .up, none⟩,
      .sendAway nested, .take, .receive ⟨2, .carCall 2 4, none⟩,
      .finish ⟨0, .hallCall 3 .up, none⟩, .finish ⟨1, .carCall 1 5, none⟩, .settle]
    let before := gated.play react earlier
    let after := gated.play react (earlier ++ later)
    (after.queue.phase = .closed ∧ after.queue.stats = ⟨3, 2, 0, 0, 1, 0⟩) ∧
      Fulfilled react before later ⟨0, .hallCall 3 .up, none⟩ ∧
      (∀ job ∈ before.queue.unstarted,
        Fulfilled react before later job ∨ GivenUp react before later job) ∧
      (∃ started : List Job, started.length ≤ 1 ∧
        ∀ job ∈ before.queue.unstarted, job ∉ started → GivenUp react before later job) ∧
      after.move react (.submit (.carCall 1 2)) = after := by
  have hstart : Bank.start { capacity := 1, workerCount := 2 } = .ok _ := rfl
  refine ⟨_, hstart, ?_⟩
  intro react gated nested earlier later before after
  have hqueue : Queue.start 1 2 = .ok gated.queue := rfl
  have hr : SparesQueue react := fun _ _ _ => rfl
  have hphase : after.queue.phase = .closed := by decide +kernel
  obtain ⟨-, -, -, -, -, -, hclosed⟩ := closes_in_order hqueue hr (earlier ++ later)
  obtain ⟨-, hfates, hsame⟩ := hclosed hphase
  obtain ⟨hfulfilled, hunstarted, -, hfew⟩ := hfates earlier later rfl
  obtain ⟨started, -, hlength, hgiven⟩ := hfew (by decide +kernel)
  have hready : (gated.play react earlier).queue.ready = 1 := by decide +kernel
  rw [hready] at hlength
  refine ⟨⟨hphase, by decide +kernel⟩, hfulfilled _ (by decide +kernel), hunstarted,
    ⟨started, hlength, hgiven⟩, hsame _ ?_⟩
  simp

end Bank
end ElevatorBank
