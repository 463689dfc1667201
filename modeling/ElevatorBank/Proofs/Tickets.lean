import ElevatorBank.Queue
import Mathlib.Data.List.Basic

/-!
# Tickets

A queue with one worker keeps its commands in the order they were submitted, whether they are
being carried out, wait or are held back, and each ticket has the result of its command and of
no other. `Tracks` says so of a queue by what has been submitted to it since it was idle; each
of the things that can happen to a queue keeps it.
-/
namespace ElevatorBank

/-- A result that reports a hall call that no car could take. -/
def Result.isDropped : Result → Bool
  | .ok outcome => outcome.isDropped
  | .error _ => false

/-- Commands under consecutive tickets. -/
def Job.numbered : Ticket → List Command → List Job
  | _, [] => []
  | ticket, command :: rest => { ticket, command } :: numbered (ticket + 1) rest

@[simp] lemma Job.length_numbered (ticket : Ticket) (commands : List Command) :
    (numbered ticket commands).length = commands.length := by
  induction commands generalizing ticket with
  | nil => rfl
  | cons command rest ih => simp [numbered, ih]

lemma Job.numbered_concat (ticket : Ticket) (commands : List Command) (command : Command) :
    numbered ticket (commands ++ [command]) =
      numbered ticket commands ++ [{ ticket := ticket + commands.length, command }] := by
  induction commands generalizing ticket with
  | nil => rfl
  | cons first rest ih =>
    simp only [List.cons_append, numbered, ih, List.length_cons, Nat.add_assoc, Nat.add_comm 1]

/-- Forgetting all that is under one key leaves what is under the others. -/
lemma lookup_filter_of_ne {β : Type} (entries : List (Ticket × β)) {ticket other : Ticket}
    (hne : other ≠ ticket) :
    (entries.filter (·.1 != ticket)).lookup other = entries.lookup other := by
  induction entries with
  | nil => rfl
  | cons entry rest ih =>
    obtain ⟨key, value⟩ := entry
    by_cases hk : key = ticket
    · subst hk
      simp [List.lookup_cons, ih, beq_false_of_ne hne]
    · simp [List.lookup_cons, ih, hk]

namespace Queue

/-- The queue has come from another one by submitting commands. The first of them have been
carried out, with these results, and the others are still to be; the tickets of some of them
have been read. -/
structure Tracks (q₀ : Queue) (told : List Result) (pending : List Command) (read : List Nat)
    (q : Queue) : Prop where
  accepting : q.phase = .accepting
  room : 0 < q.capacity
  worker : q.workerCount = 1
  ready : q.ready = 0
  busy : q.running.length ≤ 1
  full : q.heldBack ≠ [] → q.isFull = true
  jobs : q.running ++ q.waiting ++ q.heldBack =
    Job.numbered (q₀.nextTicket + told.length) pending
  next : q.nextTicket = q₀.nextTicket + (told.length + pending.length)
  replies : ∀ i, i ∉ read → q.replies.lookup (q₀.nextTicket + i) = told[i]?.map .result
  read : ∀ i ∈ read, i < told.length
  completed : q.completed = q₀.completed + told.countP (·.isOk)
  failed : q.failed = q₀.failed + told.countP (!·.isOk)
  dropped : q.droppedCalls = q₀.droppedCalls + told.countP Result.isDropped

/-- A queue of one worker with nothing in hand. -/
def Idle (q : Queue) : Prop := Tracks q [] [] [] q

/-- What a worker has still to do for the commands in the queue: to take and to finish each. -/
def load (q : Queue) : Nat := 2 * (q.waiting.length + q.heldBack.length) + q.running.length

variable {q₀ q : Queue} {told : List Result} {pending : List Command} {read : List Nat}

lemma idle_start {capacity : Nat} (hc : 0 < capacity) :
    Idle { capacity, workerCount := 1 } where
  accepting := rfl
  room := hc
  worker := rfl
  ready := rfl
  busy := Nat.zero_le 1
  full h := absurd rfl h
  jobs := rfl
  next := rfl
  replies _ _ := rfl
  read _ h := by cases h
  completed := rfl
  failed := rfl
  dropped := rfl

/-- Once every command has been carried out the queue is idle again. -/
lemma Tracks.idle (h : Tracks q₀ told [] read q) : q.Idle where
  accepting := h.accepting
  room := h.room
  worker := h.worker
  ready := h.ready
  busy := h.busy
  full := h.full
  jobs := h.jobs
  next := rfl
  replies i _ := by
    have hunread : told.length + i ∉ read := fun hm => by
      have := h.read _ hm
      omega
    rw [h.next, List.length_nil, Nat.add_zero, Nat.add_assoc, h.replies _ hunread,
      List.getElem?_eq_none (by omega)]
    rfl
  read _ h := by cases h
  completed := rfl
  failed := rfl
  dropped := rfl

lemma Tracks.pending_length (h : Tracks q₀ told pending read q) :
    q.running.length + (q.waiting.length + q.heldBack.length) = pending.length := by
  simpa using congrArg List.length h.jobs

/-! ### Submitting -/

/-- As long as there is no shutdown a submission is accepted or held back. -/
lemma submit_of_accepting (h : q.phase = .accepting) (command : Command) (within : Option Ticket) :
    q.submit command within = .ok (q.nextTicket,
      if q.isFull then
        { q with
          nextTicket := q.nextTicket + 1
          heldBack := q.heldBack ++ [⟨q.nextTicket, command, within⟩] }
      else
        { q with
          nextTicket := q.nextTicket + 1
          waiting := q.waiting ++ [⟨q.nextTicket, command, within⟩]
          submitted := q.submitted + 1 }) := by
  cases q
  subst h
  rfl

theorem Tracks.submit (h : Tracks q₀ told pending read q) (command : Command) :
    ∃ q', q.submit command = .ok (q₀.nextTicket + (told.length + pending.length), q') ∧
      Tracks q₀ told (pending ++ [command]) read q' ∧ q'.load = q.load + 2 := by
  have hnext : q.nextTicket + 1 =
      q₀.nextTicket + (told.length + (pending ++ [command]).length) := by
    rw [h.next, List.length_append, List.length_singleton, Nat.add_assoc, Nat.add_assoc]
  have hjobs := Job.numbered_concat (q₀.nextTicket + told.length) pending command
  rw [← h.jobs, Nat.add_assoc, ← h.next] at hjobs
  rw [← h.next]
  refine ⟨_, submit_of_accepting h.accepting command none, ?_⟩
  split_ifs with hfull
  · refine ⟨{ h with full := fun _ => hfull, jobs := ?_, next := hnext }, ?_⟩
    · rw [hjobs]
      simp
    · simp only [load, List.length_append, List.length_singleton]
      omega
  · have hempty : q.heldBack = [] := by
      by_contra hne
      exact hfull (h.full hne)
    refine ⟨{ h with full := fun hne => absurd hempty hne, jobs := ?_, next := hnext }, ?_⟩
    · rw [hjobs]
      simp [hempty]
    · simp only [load, List.length_append, List.length_singleton]
      omega

/-! ### Taking and finishing -/

/-- Letting a submission in keeps the order, and leaves none held back while there is room. -/
lemma letIn_spec (q : Queue) (hfull : q.heldBack ≠ [] → q.capacity ≤ q.waiting.length + 1) :
    q.letIn.waiting ++ q.letIn.heldBack = q.waiting ++ q.heldBack ∧
      (q.letIn.heldBack ≠ [] → q.letIn.isFull = true) ∧
      ∃ waiting heldBack submitted, q.letIn = { q with waiting, heldBack, submitted } := by
  unfold letIn
  cases hheld : q.heldBack with
  | nil =>
    refine ⟨by simp [hheld], fun hne => absurd hheld hne, q.waiting, q.heldBack, q.submitted, rfl⟩
  | cons job rest =>
    dsimp only
    split_ifs with hf
    · exact ⟨by simp [hheld], fun _ => hf, q.waiting, q.heldBack, q.submitted, rfl⟩
    · refine ⟨by simp [accept], fun _ => ?_, _, _, _, rfl⟩
      have := hfull (by simp [hheld])
      simpa [isFull, accept] using this

/-- The worker takes the command that was submitted first, unless it is still inside another
one or none is left. -/
theorem Tracks.take (h : Tracks q₀ told pending read q) :
    (q.look.take? = none ∧ (q.running = [] → q.load = 0)) ∨
      ∃ job q', q.look.take? = some (job, q') ∧ Tracks q₀ told pending read q'.letIn ∧
        q'.letIn.running = [job] ∧ q'.letIn.load + 1 = q.load := by
  have hlook : q.look = { q with ready := if q.running = [] then 1 else 0 } := by
    have hready := h.ready
    have hworker := h.worker
    unfold look
    by_cases hrun : q.running = []
    · rw [if_pos ⟨h.accepting, by simp [hrun, hready, hworker]⟩, if_pos hrun, hready]
    · have := List.length_pos_iff.mpr hrun
      rw [if_neg (by omega), if_neg hrun, ← hready]
  rw [hlook, take?]
  cases hwaiting : q.waiting with
  | nil =>
    refine .inl ⟨rfl, fun hrun => ?_⟩
    have hempty : q.heldBack = [] := by
      by_contra hne
      have hfull := h.full hne
      have hroom := h.room
      simp [isFull, hwaiting] at hfull
      omega
    simp [load, hwaiting, hempty, hrun]
  | cons job waiting =>
    by_cases hrun : q.running = []
    · simp only [if_pos hrun, Nat.one_pos, if_true, Nat.sub_self]
      refine .inr ⟨job, _, rfl, ?_⟩
      obtain ⟨horder, hfull, waiting', heldBack, submitted, heq⟩ := letIn_spec
        { q with waiting, ready := 0, running := q.running ++ [job] } fun hne => by
          have hfull := h.full hne
          simpa [isFull, hwaiting] using hfull
      rw [heq] at horder hfull ⊢
      have hjobs := h.jobs
      rw [hrun, hwaiting] at hjobs
      refine ⟨{ h with ready := rfl, busy := by simp [hrun], full := hfull, jobs := ?_ },
        by simp [hrun], ?_⟩
      · rw [← hjobs]
        simpa [hrun] using horder
      · have hlength := congrArg List.length horder
        simp only [List.length_append] at hlength
        simp only [load, hrun, hwaiting, List.nil_append, List.length_cons, List.length_nil]
        omega
    · exact .inl ⟨by simp [hrun], fun h => absurd h hrun⟩

lemma finish_eq (q : Queue) (ticket : Ticket) (r : Result) :
    q.finish ticket r =
      { q with
        running := q.running.filter (·.ticket != ticket)
        replies := (ticket, .result r) :: q.replies
        completed := q.completed + if r.isOk then 1 else 0
        failed := q.failed + if r.isOk then 0 else 1
        droppedCalls := q.droppedCalls + if r.isDropped then 1 else 0 } := by
  cases r <;> rfl

/-- The command that the worker finishes is the oldest of those not carried out yet, and its
result is the next one. -/
theorem Tracks.finish (h : Tracks q₀ told pending read q) {job : Job} {rest : List Job}
    (hrun : q.running = job :: rest) (r : Result) :
    rest = [] ∧ ∃ later, pending = job.command :: later ∧
      Tracks q₀ (told ++ [r]) later read (q.finish job.ticket r) ∧
      (q.finish job.ticket r).load + 1 = q.load := by
  have hrest : rest = [] := by
    have hbusy := h.busy
    rw [hrun, List.length_cons] at hbusy
    exact List.eq_nil_of_length_eq_zero (by omega)
  subst hrest
  refine ⟨rfl, ?_⟩
  have hjobs := h.jobs
  have hnext := h.next
  have hread := h.read
  rw [hrun] at hjobs
  cases pending with
  | nil => cases hjobs
  | cons command later =>
    obtain ⟨hjob, hlater⟩ := List.cons.inj hjobs
    subst hjob
    refine ⟨later, rfl, ?_, ?_⟩
    · rw [finish_eq]
      have htold : (told ++ [r]).length = told.length + 1 := by simp
      refine { h with
        busy := by simp [hrun]
        jobs := ?_
        next := ?_
        replies := fun i hi => ?_
        read := fun i hi => ?_
        completed := ?_
        failed := ?_
        dropped := ?_ }
      · rw [htold, ← Nat.add_assoc, ← hlater]
        simp [hrun]
      · rw [htold, hnext, List.length_cons, Nat.add_right_comm told.length 1, Nat.add_assoc]
      · by_cases hlast : i = told.length
        · subst hlast
          simp
        · have hne : (q₀.nextTicket + i == q₀.nextTicket + told.length) = false := by
            simpa using hlast
          rw [List.lookup_cons, hne, h.replies i hi]
          rcases Nat.lt_or_gt_of_ne hlast with hlt | hgt
          · rw [List.getElem?_append_left hlt]
          · rw [List.getElem?_eq_none (by omega), List.getElem?_eq_none (by rw [htold]; omega)]
      · rw [htold]
        exact Nat.lt_succ_of_lt (hread i hi)
      · rw [h.completed, List.countP_append, List.countP_singleton, Nat.add_assoc]
      · rw [h.failed, List.countP_append, List.countP_singleton, Nat.add_assoc]
        cases r.isOk <;> rfl
      · rw [h.dropped, List.countP_append, List.countP_singleton, Nat.add_assoc]
    · simp [finish_eq, load, hrun]

/-! ### Reading tickets -/

/-- A ticket that has not been read yet answers the result of its command once there is one. -/
theorem Tracks.poll (h : Tracks q₀ told pending read q) {i : Nat} (hi : i ∉ read) :
    (told[i]? = none ∧ q.poll (q₀.nextTicket + i) = (none, q)) ∨
      ∃ r q', told[i]? = some r ∧ q.poll (q₀.nextTicket + i) = (some r, q') ∧
        Tracks q₀ told pending (i :: read) q' ∧ q'.load = q.load := by
  have hreply := h.replies i hi
  unfold Queue.poll
  cases htold : told[i]? with
  | none =>
    rw [htold] at hreply
    exact .inl ⟨rfl, by rw [hreply]; rfl⟩
  | some r =>
    rw [htold] at hreply
    refine .inr ⟨r, { q with replies :=
      (q₀.nextTicket + i, .taken) :: q.replies.filter (·.1 != q₀.nextTicket + i) }, rfl,
      by rw [hreply]; rfl, { h with replies := fun j hj => ?_, read := fun j hj => ?_ }, rfl⟩
    · simp only [List.mem_cons, not_or] at hj
      obtain ⟨hne, hj⟩ := hj
      have hother : q₀.nextTicket + j ≠ q₀.nextTicket + i := by simpa using hne
      rw [List.lookup_cons, beq_false_of_ne hother, lookup_filter_of_ne _ hother]
      exact h.replies j hj
    · obtain rfl | hj := List.mem_cons.mp hj
      · exact (List.getElem?_eq_some_iff.mp htold).1
      · exact h.read j hj

end Queue
end ElevatorBank
