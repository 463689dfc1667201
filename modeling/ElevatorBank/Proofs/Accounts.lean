import ElevatorBank.Proofs.Tickets
import Mathlib.Data.List.Induction
import Mathlib.Data.List.Nodup
import Mathlib.Data.List.Perm.Basic

/-!
# Accounts

What can happen to a queue one thing at a time (`Act`, `Step`), for any number of workers and
in any order. A queue in order has counted every command once, every ticket it has issued is that
of one command in hand or has one reply, and whoever waits to submit something from inside a
command has a worker in it (`Accounts`). What is said here of a command through one act is carried
through whatever the callers and the workers do to the bank.
-/
namespace ElevatorBank

/-- What is on the tickets of some commands that all have the same reply. -/
lemma Job.lookup_map_reply (jobs : List Job) (reply : Reply) (ticket : Ticket) :
    (jobs.map fun job => (job.ticket, reply)).lookup ticket =
      if ticket ∈ jobs.map (·.ticket) then some reply else none := by
  induction jobs with
  | nil => rfl
  | cons job rest ih =>
    by_cases hj : ticket = job.ticket
    · simp [hj]
    · simp [List.lookup_cons, hj, beq_false_of_ne hj, ih]

namespace Queue

/-- The commands that no worker has started, whether or not they are in the queue yet. -/
def unstarted (q : Queue) : List Job := q.waiting ++ q.heldBack ++ q.atGate

/-- The commands that have come to no end yet. -/
def inHand (q : Queue) : List Job := q.running ++ q.unstarted

/-- A worker is inside the command of a ticket, and does not wait to submit another one. -/
def isActive (q : Queue) (ticket : Ticket) : Bool :=
  q.running.any (·.ticket == ticket) && (q.heldBack ++ q.atGate).all (·.within != some ticket)

/-- A submission held back gets into the queue, if there is room. -/
def receive (q : Queue) (job : Job) : Queue :=
  if job ∈ q.heldBack ∧ q.isFull = false then
    { q with heldBack := q.heldBack.erase job }.accept job
  else q

/-- A submission held back is sent away, once the queue has been shut down. -/
def sendAway (q : Queue) (job : Job) : Queue :=
  if job ∈ q.heldBack ∧ q.isShutdown = true then
    { q with
      heldBack := q.heldBack.erase job
      replies := (job.ticket, .abandoned) :: q.replies }
  else q

/-- To refuse the submissions held back is to send each of them away. -/
lemma refuse_eq_foldl (q : Queue) (hshut : q.isShutdown = true) (hn : q.heldBack.Nodup) :
    q.refuse = q.heldBack.reverse.foldl sendAway q := by
  have hall : ∀ (held : List Job) (q : Queue), q.isShutdown = true → held.Nodup →
      q.heldBack = held → held.reverse.foldl sendAway q =
        { q with heldBack := [], replies := q.giveUp held } := by
    intro held
    induction held using List.reverseRecOn with
    | nil =>
      intro q _ _ hheld
      simp only [List.reverse_nil, List.foldl_nil, giveUp, List.map_nil, List.nil_append]
      rw [← hheld]
    | append_singleton held job ih =>
      intro q hshut hn hheld
      obtain ⟨hrest, -, hnew⟩ := List.nodup_append.mp hn
      have hsent : q.sendAway job = { q with
          heldBack := held
          replies := (job.ticket, .abandoned) :: q.replies } := by
        have hnot : job ∉ held := fun hm => hnew job hm job (List.mem_singleton.mpr rfl) rfl
        unfold sendAway
        rw [if_pos ⟨by simp [hheld], hshut⟩, hheld, List.erase_append_right _ hnot]
        simp
      have hlast := ih (q.sendAway job) (by rw [hsent]; exact hshut) hrest (by rw [hsent])
      rw [List.reverse_append, List.reverse_singleton, List.singleton_append, List.foldl_cons,
        hlast, hsent]
      simp [giveUp]
  exact (hall _ q hshut hn rfl).symm

/-! ### Acts -/

inductive Act
  /-- A submission is held back. -/
  | hold (command : Command)
  | accept (command : Command)
  /-- A submission has to wait at the gate. -/
  | await (command : Command)
  | look
  | lapse
  | take (job : Job)
  | finish (job : Job) (r : Result)
  | receive (job : Job)
  | sendAway (job : Job)
  | read (ticket : Ticket)
  | close
  | bar
  | settle

/-- An act on a queue that allows it, and what it makes of the queue. -/
inductive Step : Act → Queue → Queue → Prop
  | hold {q : Queue} {command : Command} {within : Option Ticket} (hopen : q.phase = .accepting)
    (hfull : q.isFull = true) (hwithin : within.all q.isActive = true) :
    Step (.hold command) q
      { q with
        nextTicket := q.nextTicket + 1
        heldBack := q.heldBack ++ [⟨q.nextTicket, command, within⟩] }
  | accept {q : Queue} {command : Command} {within : Option Ticket}
    (hopen : q.phase = .accepting) (hroom : q.isFull = false) :
    Step (.accept command) q
      { q with
        nextTicket := q.nextTicket + 1
        waiting := q.waiting ++ [⟨q.nextTicket, command, within⟩]
        submitted := q.submitted + 1 }
  | await {q : Queue} {command : Command} {within : Option Ticket} (hbarred : q.phase = .barred)
    (hwithin : within.all q.isActive = true) :
    Step (.await command) q
      { q with
        nextTicket := q.nextTicket + 1
        atGate := q.atGate ++ [⟨q.nextTicket, command, within⟩] }
  | look {q : Queue} (hopen : q.phase = .accepting)
    (hfree : q.ready + q.running.length < q.workerCount) :
    Step .look q { q with ready := q.ready + 1 }
  | lapse {q : Queue} : Step .lapse q { q with ready := q.ready - 1 }
  | take {q : Queue} {job : Job} {rest : List Job} (hwaiting : q.waiting = job :: rest)
    (hready : 0 < q.ready) :
    Step (.take job) q
      { q with waiting := rest, ready := q.ready - 1, running := q.running ++ [job] }
  | finish {q : Queue} {job : Job} {r : Result} (hm : job ∈ q.running)
    (hactive : q.isActive job.ticket = true) :
    Step (.finish job r) q
      { q with
        running := q.running.erase job
        replies := (job.ticket, .result r) :: q.replies
        completed := q.completed + if r.isOk then 1 else 0
        failed := q.failed + if r.isOk then 0 else 1
        droppedCalls := q.droppedCalls + if r.isDropped then 1 else 0 }
  | receive {q : Queue} {job : Job} (hm : job ∈ q.heldBack) (hroom : q.isFull = false) :
    Step (.receive job) q
      { q with
        heldBack := q.heldBack.erase job
        waiting := q.waiting ++ [job]
        submitted := q.submitted + 1 }
  | sendAway {q : Queue} {job : Job} (hm : job ∈ q.heldBack) (hshut : q.isShutdown = true) :
    Step (.sendAway job) q
      { q with
        heldBack := q.heldBack.erase job
        replies := (job.ticket, .abandoned) :: q.replies }
  | read {q : Queue} {ticket : Ticket} {r : Result}
    (hreply : q.replies.lookup ticket = some (.result r)) :
    Step (.read ticket) q
      { q with replies := (ticket, .taken) :: q.replies.filter (·.1 != ticket) }
  | close {q : Queue} (hopen : q.phase = .accepting) : Step .close q { q with phase := .closing }
  | bar {q : Queue} (hclosing : q.phase = .closing) : Step .bar q { q with phase := .barred }
  | settle {q : Queue} (hbarred : q.phase = .barred) (hready : q.ready = 0)
    (hrunning : q.running = []) (hheld : q.heldBack = []) :
    Step .settle q
      { q with
        phase := .closed
        waiting := []
        atGate := []
        replies := q.giveUp (q.waiting ++ q.atGate)
        abandoned := q.abandoned + q.waiting.length }

/-- The counts agree with what is in hand, and so do the tickets: each that has been issued
either is that of one command in hand or has a reply. -/
structure Accounts (q : Queue) : Prop where
  balance : q.submitted =
    q.completed + q.failed + q.abandoned + q.waiting.length + q.running.length
  room : q.waiting.length ≤ q.capacity
  dropped : q.droppedCalls ≤ q.completed
  workers : q.ready + q.running.length ≤ q.workerCount
  tickets : ∀ ticket, q.inHand.countP (·.ticket = ticket) +
    (if (q.replies.lookup ticket).isSome then 1 else 0) = if ticket < q.nextTicket then 1 else 0
  /-- Whoever waits to submit something from inside a command has a worker in it. -/
  inside : ∀ job ∈ q.heldBack ++ q.atGate, ∀ ticket, job.within = some ticket →
    ticket ∈ q.running.map (·.ticket)
  gate : q.phase ≠ .barred → q.atGate = []
  closed : q.phase = .closed → q.ready = 0 ∧ q.inHand = []

variable {q q' : Queue} {a : Act} {job : Job} {ticket : Ticket}

lemma accounts_start {capacity workerCount : Nat} :
    Accounts { capacity, workerCount } where
  balance := rfl
  room := Nat.zero_le _
  dropped := Nat.le_refl _
  workers := Nat.zero_le _
  tickets _ := rfl
  inside _ hm := by cases hm
  gate _ := rfl
  closed _ := ⟨rfl, rfl⟩

lemma Accounts.tickets_nodup (h : q.Accounts) : (q.inHand.map (·.ticket)).Nodup := by
  refine List.nodup_iff_count_le_one.mpr fun ticket => ?_
  have htickets := h.tickets ticket
  rw [List.count_eq_countP, List.countP_map]
  have hle : q.inHand.countP (·.ticket = ticket) ≤ 1 := by
    split_ifs at htickets <;> omega
  exact hle

lemma Accounts.inHand_nodup (h : q.Accounts) : q.inHand.Nodup := h.tickets_nodup.of_map _

/-- A command in hand has no reply yet. -/
lemma Accounts.lookup_of_mem (h : q.Accounts) (hm : job ∈ q.inHand) :
    q.replies.lookup job.ticket = none := by
  have hcount : 0 < q.inHand.countP (·.ticket = job.ticket) :=
    List.countP_pos_iff.mpr ⟨job, hm, by simp⟩
  have htickets := h.tickets job.ticket
  cases hreply : q.replies.lookup job.ticket with
  | none => rfl
  | some reply =>
    rw [hreply] at htickets
    simp only [Option.isSome_some, if_true] at htickets
    split_ifs at htickets
    all_goals omega

/-! ### What an act keeps -/

/-- How often a ticket stands among commands of which one is taken out. -/
lemma countP_erase {jobs : List Job} (hm : job ∈ jobs) (ticket : Ticket) :
    jobs.countP (·.ticket = ticket) =
      (jobs.erase job).countP (·.ticket = ticket) + if job.ticket = ticket then 1 else 0 := by
  rw [(List.perm_cons_erase hm).countP_eq, List.countP_cons]
  simp

/-- The next ticket is issued with those before it. -/
lemma issued_succ (next ticket : Nat) : (if ticket < next + 1 then 1 else 0) =
    (if ticket < next then 1 else 0) + if next = ticket then 1 else 0 := by
  split_ifs <;> omega

/-- A reply is put on a ticket that had none. -/
lemma answered_cons {replies : List (Ticket × Reply)} (hnone : replies.lookup job.ticket = none)
    (reply : Reply) (ticket : Ticket) :
    (if (((job.ticket, reply) :: replies).lookup ticket).isSome then 1 else 0) =
      (if (replies.lookup ticket).isSome then 1 else 0) + if job.ticket = ticket then 1 else 0 := by
  by_cases hj : ticket = job.ticket
  · simp [hj, hnone]
  · rw [List.lookup_cons, beq_false_of_ne hj, if_neg (Ne.symm hj)]
    rfl

/-- Only a command that has come to an end well can have been dropped. -/
lemma isDropped_le (r : Result) :
    (if r.isDropped then 1 else 0) ≤ if r.isOk then 1 else 0 := by
  cases r with
  | ok outcome =>
    simp only [Except.isOk, Except.toBool, if_true]
    split_ifs <;> omega
  | error e => simp [Result.isDropped]

lemma isFull_eq_false : q.isFull = false ↔ q.waiting.length < q.capacity := by simp [isFull]

lemma Step.size (hs : Step a q q') :
    q'.capacity = q.capacity ∧ q'.workerCount = q.workerCount := by
  cases hs <;> exact ⟨rfl, rfl⟩

/-- Every command has been counted once, and none too many wait. -/
lemma Step.balance (hs : Step a q q') (h : q.Accounts) :
    (q'.submitted = q'.completed + q'.failed + q'.abandoned + q'.waiting.length +
      q'.running.length ∧ q'.waiting.length ≤ q'.capacity) ∧ q'.droppedCalls ≤ q'.completed := by
  have hbalance := h.balance
  have hroom := h.room
  have hdropped := h.dropped
  cases hs with
  | accept hopen hfree | receive hm hfree =>
    have hfree := isFull_eq_false.mp hfree
    refine ⟨?_, hdropped⟩
    simp only [List.length_append, List.length_singleton]
    omega
  | take hwaiting hready =>
    rw [hwaiting, List.length_cons] at hbalance hroom
    refine ⟨?_, hdropped⟩
    simp only [List.length_append, List.length_singleton]
    omega
  | @finish _ job r hm hactive =>
    have hlength := List.length_erase_add_one hm
    refine ⟨⟨?_, hroom⟩, Nat.add_le_add hdropped (isDropped_le r)⟩
    cases r.isOk
    all_goals simp only [if_true, Bool.false_eq_true, if_false]
    all_goals omega
  | settle hbarred hready hrunning hheld =>
    refine ⟨?_, hdropped⟩
    simp only [List.length_nil]
    omega
  | _ => exact ⟨⟨hbalance, hroom⟩, hdropped⟩

lemma Step.workers (hs : Step a q q') (h : q.Accounts) :
    q'.ready + q'.running.length ≤ q'.workerCount := by
  have hworkers := h.workers
  cases hs with
  | look hopen hfree =>
    dsimp only
    omega
  | lapse =>
    dsimp only
    omega
  | take hwaiting hready =>
    simp only [List.length_append, List.length_singleton]
    omega
  | finish hm hactive =>
    have hlength := List.length_erase_add_one hm
    dsimp only
    omega
  | _ => exact hworkers

/-- Whoever submits something from inside a command has a worker in it. -/
lemma mem_of_isActive {within : Option Ticket} (h : within.all q.isActive = true)
    (hwithin : within = some ticket) : ticket ∈ q.running.map (·.ticket) := by
  subst hwithin
  simp only [Option.all_some, isActive, Bool.and_eq_true, List.any_eq_true, beq_iff_eq] at h
  exact List.mem_map.mpr h.1

lemma ne_of_isActive (h : q.isActive ticket = true) (hm : job ∈ q.heldBack ++ q.atGate) :
    job.within ≠ some ticket := by
  simp only [isActive, Bool.and_eq_true, List.all_eq_true, bne_iff_ne] at h
  exact h.2 job hm

lemma Step.inside (hs : Step a q q') (h : q.Accounts) : ∀ job ∈ q'.heldBack ++ q'.atGate,
    ∀ ticket, job.within = some ticket → ticket ∈ q'.running.map (·.ticket) := by
  have hinside := h.inside
  cases hs with
  | hold hopen hfull hwithin =>
    intro job hm ticket ht
    rw [List.append_assoc, List.mem_append, List.mem_append, List.mem_singleton] at hm
    obtain hm | rfl | hm := hm
    · exact hinside job (List.mem_append_left _ hm) ticket ht
    · exact mem_of_isActive (q := q) hwithin ht
    · exact hinside job (List.mem_append_right _ hm) ticket ht
  | await hbarred hwithin =>
    intro job hm ticket ht
    rw [← List.append_assoc, List.mem_append, List.mem_singleton] at hm
    obtain hm | rfl := hm
    · exact hinside job hm ticket ht
    · exact mem_of_isActive (q := q) hwithin ht
  | take hwaiting hready =>
    intro job hm ticket ht
    rw [List.map_append]
    exact List.mem_append_left _ (hinside job hm ticket ht)
  | @finish _ job r hm hactive =>
    intro other hother ticket ht
    obtain ⟨outer, houter, rfl⟩ := List.mem_map.mp (hinside other hother ticket ht)
    refine List.mem_map_of_mem ((List.mem_erase_of_ne ?_).mpr houter)
    rintro rfl
    exact ne_of_isActive hactive hother ht
  | receive hm | sendAway hm =>
    intro job hjob
    refine hinside job (List.mem_append.mpr ((List.mem_append.mp hjob).imp_left ?_))
    exact List.mem_of_mem_erase
  | settle hbarred hready hrunning hheld =>
    intro job hm
    simp [hheld] at hm
  | _ => exact hinside

lemma Step.gate (hs : Step a q q') (h : q.Accounts) : q'.phase ≠ .barred → q'.atGate = [] := by
  have hgate := h.gate
  cases hs with
  | await hbarred => exact fun hn => absurd hbarred hn
  | close hopen => exact fun _ => hgate (by simp [hopen])
  | bar hclosing => exact fun hn => absurd rfl hn
  | settle => exact fun _ => rfl
  | _ => exact hgate

/-- Of a queue that has been closed nothing is in hand any more. -/
lemma Step.closed (hs : Step a q q') (h : q.Accounts) :
    q'.phase = .closed → q'.ready = 0 ∧ q'.inHand = [] := by
  have hclosed := h.closed
  simp only [inHand, unstarted, List.append_eq_nil_iff] at hclosed ⊢
  cases hs with
  | hold hopen | accept hopen | look hopen | await hopen => simp [hopen]
  | lapse => exact fun hc => ⟨by simp [hclosed hc], (hclosed hc).2⟩
  | take hwaiting =>
    intro hc
    simp [hclosed hc] at hwaiting
  | finish hm | receive hm | sendAway hm =>
    intro hc
    simp [hclosed hc] at hm
  | close | bar => simp
  | settle hbarred hready hrunning hheld => exact fun _ => ⟨hready, hrunning, ⟨rfl, hheld⟩, rfl⟩
  | read => exact hclosed

/-- A ticket that is issued is that of one command in hand or has a reply. -/
lemma Step.tickets (hs : Step a q q') (h : q.Accounts) (ticket : Ticket) :
    q'.inHand.countP (·.ticket = ticket) +
      (if (q'.replies.lookup ticket).isSome then 1 else 0) =
        if ticket < q'.nextTicket then 1 else 0 := by
  have htickets := h.tickets ticket
  simp only [inHand, unstarted, List.countP_append] at htickets ⊢
  cases hs with
  | hold | accept | await =>
    simp only [List.countP_append, List.countP_singleton, decide_eq_true_eq, issued_succ]
    omega
  | take hwaiting =>
    simp only [hwaiting, List.countP_append, List.countP_cons, List.countP_nil] at htickets ⊢
    omega
  | @finish _ job r hm =>
    have hcount := countP_erase hm ticket
    have hnone := h.lookup_of_mem (show job ∈ q.inHand by simp [inHand, hm])
    simp only [answered_cons hnone]
    omega
  | receive hm =>
    have hcount := countP_erase hm ticket
    simp only [List.countP_append, List.countP_singleton, decide_eq_true_eq]
    omega
  | @sendAway _ job hm =>
    have hcount := countP_erase hm ticket
    have hnone := h.lookup_of_mem (show job ∈ q.inHand by simp [inHand, unstarted, hm])
    simp only [answered_cons hnone]
    omega
  | @read _ other r hreply =>
    by_cases hother : ticket = other
    · subst hother
      rw [hreply] at htickets
      simpa using htickets
    · rw [List.lookup_cons, beq_false_of_ne hother, lookup_filter_of_ne _ hother]
      exact htickets
  | settle hbarred hready hrunning hheld =>
    simp only [hrunning, hheld, List.countP_nil, giveUp, List.lookup_append,
      Job.lookup_map_reply] at htickets ⊢
    by_cases hw : ticket ∈ (q.waiting ++ q.atGate).map (·.ticket)
    · obtain ⟨job, hm, ht⟩ := List.mem_map.mp hw
      have hcount : 0 < (q.waiting ++ q.atGate).countP (·.ticket = ticket) :=
        List.countP_pos_iff.mpr ⟨job, hm, by simpa using ht⟩
      rw [List.countP_append] at hcount
      rw [if_pos hw]
      simp only [Option.some_or, Option.isSome_some, if_true]
      split_ifs at htickets ⊢
      all_goals omega
    · have hcount : (q.waiting ++ q.atGate).countP (·.ticket = ticket) = 0 := by
        refine List.countP_eq_zero.mpr fun job hm ht => hw ?_
        exact List.mem_map.mpr ⟨job, hm, by simpa using ht⟩
      rw [List.countP_append] at hcount
      rw [if_neg hw, Option.none_or]
      omega
  | _ => exact htickets

/-- Whatever happens to a queue, its accounts stay in order. -/
theorem Step.accounts (hs : Step a q q') (h : q.Accounts) : q'.Accounts where
  balance := (hs.balance h).1.1
  room := (hs.balance h).1.2
  dropped := (hs.balance h).2
  workers := hs.workers h
  tickets := hs.tickets h
  inside := hs.inside h
  gate := hs.gate h
  closed := hs.closed h

/-! ### What becomes of a command -/

/-- A worker stays inside a command until it has finished it. -/
lemma Step.mem_running (hs : Step a q q') (hm : job ∈ q.running)
    (hne : ∀ r, a ≠ .finish job r) : job ∈ q'.running := by
  cases hs with
  | take => exact List.mem_append_left _ hm
  | @finish _ other r hother =>
    refine (List.mem_erase_of_ne fun he => ?_).mpr hm
    subst he
    exact hne r rfl
  | settle hbarred hready hrunning =>
    rw [hrunning] at hm
    cases hm
  | _ => exact hm

/-- A reply stays on its ticket until it is read. -/
lemma Step.lookup_reply (hs : Step a q q') (h : q.Accounts) {reply : Reply}
    (hreply : q.replies.lookup ticket = some reply) (hne : a ≠ .read ticket) :
    q'.replies.lookup ticket = some reply := by
  have hother : ∀ {job reply'}, job ∈ q.inHand →
      ((job.ticket, reply') :: q.replies).lookup ticket = some reply := by
    intro job reply' hm
    have hticket : ticket ≠ job.ticket := by
      rintro rfl
      simp [h.lookup_of_mem hm] at hreply
    rw [List.lookup_cons, beq_false_of_ne hticket]
    exact hreply
  cases hs with
  | finish hm => exact hother (by simp [inHand, hm])
  | sendAway hm => exact hother (by simp [inHand, unstarted, hm])
  | @read _ other r hread =>
    have hticket : ticket ≠ other := by
      rintro rfl
      exact hne rfl
    rw [List.lookup_cons, beq_false_of_ne hticket, lookup_filter_of_ne _ hticket]
    exact hreply
  | settle =>
    have hnot : ticket ∉ (q.waiting ++ q.atGate).map (·.ticket) := by
      intro hw
      obtain ⟨job, hm, rfl⟩ := List.mem_map.mp hw
      have hmem : job ∈ q.inHand := by
        simp only [inHand, unstarted, List.mem_append] at hm ⊢
        tauto
      simp [h.lookup_of_mem hmem] at hreply
    rw [giveUp, List.lookup_append, Job.lookup_map_reply, if_neg hnot, Option.none_or]
    exact hreply
  | _ => exact hreply

/-- A command that no worker has started stays so until one starts it, or it is sent away,
which is not counted, or the shutdown ends, which counts those that waited in the queue. -/
lemma Step.mem_unstarted (hs : Step a q q') (hm : job ∈ q.unstarted) :
    job ∈ q'.unstarted ∨ (a = .take job ∧ job ∈ q'.running) ∨
      q'.replies.lookup job.ticket = some .abandoned ∧
        (a = .sendAway job ∧ job ∈ q.heldBack ∧ q'.stats = q.stats ∨
          a = .settle ∧ (job ∈ q.waiting ∨ job ∈ q.atGate) ∧
            q'.abandoned = q.abandoned + q.waiting.length) := by
  simp only [unstarted, List.mem_append] at hm ⊢
  cases hs with
  | hold => exact .inl (hm.imp_left (.imp_right (List.mem_append_left _)))
  | accept => exact .inl (hm.imp_left (.imp_left (List.mem_append_left _)))
  | await => exact .inl (hm.imp_right (List.mem_append_left _))
  | @take _ first rest hwaiting hready =>
    rw [hwaiting, List.mem_cons] at hm
    obtain ((rfl | hm) | hm) | hm := hm
    · exact .inr (.inl ⟨rfl, List.mem_append_right _ (List.mem_singleton.mpr rfl)⟩)
    · exact .inl (.inl (.inl hm))
    · exact .inl (.inl (.inr hm))
    · exact .inl (.inr hm)
  | @receive _ other hother hfree =>
    by_cases he : job = other
    · subst he
      exact .inl (.inl (.inl (List.mem_append_right _ (List.mem_singleton.mpr rfl))))
    · exact .inl (hm.imp_left (.imp (List.mem_append_left _) (List.mem_erase_of_ne he).mpr))
  | @sendAway _ other hother hshut =>
    by_cases he : job = other
    · subst he
      exact .inr (.inr ⟨by simp, .inl ⟨rfl, hother, rfl⟩⟩)
    · exact .inl (hm.imp_left (.imp_right (List.mem_erase_of_ne he).mpr))
  | settle hbarred hready hrunning hheld =>
    have hm : job ∈ q.waiting ∨ job ∈ q.atGate :=
      hm.imp_left fun h => h.resolve_right (by simp [hheld])
    refine .inr (.inr ⟨?_, .inr ⟨rfl, hm, rfl⟩⟩)
    rw [giveUp, List.lookup_append, Job.lookup_map_reply,
      if_pos (List.mem_map_of_mem (List.mem_append.mpr hm))]
    rfl
  | _ => exact .inl hm

/-! ### The operations of a queue as acts -/

lemma submit_step {command : Command} {within : Option Ticket}
    (hwithin : within.all q.isActive = true) (hs : q.submit command within = .ok (ticket, q')) :
    (Step (.hold command) q q' ∨ Step (.accept command) q q' ∨ Step (.await command) q q') ∧
      ⟨ticket, command, within⟩ ∈ q'.unstarted := by
  cases hphase : q.phase with
  | accepting =>
    rw [submit_of_accepting hphase] at hs
    obtain ⟨rfl, rfl⟩ : q.nextTicket = ticket ∧ _ = q' := by simpa using hs
    split_ifs with hfull
    · exact ⟨.inl (.hold hphase hfull hwithin), by simp [unstarted]⟩
    · exact ⟨.inr (.inl (.accept hphase (by simpa using hfull))), by simp [unstarted]⟩
  | barred =>
    simp only [submit, hphase] at hs
    obtain ⟨rfl, rfl⟩ : q.nextTicket = ticket ∧ _ = q' := by simpa using hs
    exact ⟨.inr (.inr (.await hphase hwithin)), by simp [unstarted]⟩
  | closing | closed => simp [submit, hphase] at hs

lemma trySubmit_step {command : Command} {within : Option Ticket}
    (hwithin : within.all q.isActive = true) (hs : q.trySubmit command within = .ok (ticket, q')) :
    (Step (.accept command) q q' ∨ Step (.await command) q q') ∧
      ⟨ticket, command, within⟩ ∈ q'.unstarted := by
  cases hphase : q.phase with
  | accepting =>
    simp only [trySubmit, hphase] at hs
    split_ifs at hs with hfull
    obtain ⟨rfl, rfl⟩ : q.nextTicket = ticket ∧ _ = q' := by simpa using hs
    exact ⟨.inl (.accept hphase (by simpa using hfull)), by simp [unstarted, accept]⟩
  | barred =>
    simp only [trySubmit, hphase] at hs
    obtain ⟨rfl, rfl⟩ : q.nextTicket = ticket ∧ _ = q' := by simpa using hs
    exact ⟨.inr (.await hphase hwithin), by simp [unstarted]⟩
  | closing | closed => simp [trySubmit, hphase] at hs

/-- A queue says that it is full as long as it is open and has no room. -/
lemma trySubmit_eq_queueFull {command : Command} {within : Option Ticket} :
    q.trySubmit command within = .error (.queueFull q.capacity) ↔
      q.isShutdown = false ∧ q.capacity ≤ q.waiting.length := by
  cases hphase : q.phase with
  | accepting =>
    simp only [trySubmit, hphase, isShutdown]
    split_ifs with hfull
    · simpa [isFull] using hfull
    · simpa [isFull] using hfull
  | _ => simp [trySubmit, hphase, isShutdown]

lemma look_step (q : Queue) : q.look = q ∨ Step .look q q.look := by
  unfold look
  split_ifs with h
  · exact .inr (.look h.1 h.2)
  · exact .inl rfl

lemma take_step (hs : q.take? = some (job, q')) : Step (.take job) q q' := by
  unfold take? at hs
  cases hwaiting : q.waiting with
  | nil => simp [hwaiting] at hs
  | cons first rest =>
    simp only [hwaiting] at hs
    split_ifs at hs with hready
    obtain ⟨rfl, rfl⟩ : first = job ∧ _ = q' := by simpa using hs
    exact .take hwaiting hready

/-- No other command that is being carried out has the ticket of this one. -/
lemma Accounts.filter_ticket (h : q.Accounts) (hm : job ∈ q.running) :
    q.running.filter (·.ticket != job.ticket) = q.running.erase job := by
  have hsub : q.running.Sublist q.inHand := List.sublist_append_left _ _
  have hn := h.tickets_nodup.sublist (hsub.map _)
  rw [(h.inHand_nodup.sublist hsub).erase_eq_filter]
  refine List.filter_congr fun other hother => ?_
  by_cases he : other = job
  · rw [he, bne_self_eq_false, bne_self_eq_false]
  · have hticket : other.ticket ≠ job.ticket :=
      fun ht => he (List.inj_on_of_nodup_map hn hother hm ht)
    rw [bne_iff_ne.mpr he, bne_iff_ne.mpr hticket]

lemma Accounts.finish_step (h : q.Accounts) (hm : job ∈ q.running)
    (hactive : q.isActive job.ticket = true) (r : Result) :
    Step (.finish job r) q (q.finish job.ticket r) := by
  rw [finish_eq, h.filter_ticket hm]
  exact .finish hm hactive

lemma receive_step (q : Queue) (job : Job) :
    q.receive job = q ∨ Step (.receive job) q (q.receive job) := by
  unfold receive
  split_ifs with h
  · exact .inr (.receive h.1 h.2)
  · exact .inl rfl

lemma sendAway_step (q : Queue) (job : Job) :
    q.sendAway job = q ∨ Step (.sendAway job) q (q.sendAway job) := by
  unfold sendAway
  split_ifs with h
  · exact .inr (.sendAway h.1 h.2)
  · exact .inl rfl

lemma poll_step (q : Queue) (ticket : Ticket) :
    (q.poll ticket).2 = q ∨ Step (.read ticket) q (q.poll ticket).2 := by
  unfold poll
  split
  · exact .inl rfl
  · next r hreply => exact .inr (.read hreply)
  · exact .inl rfl

lemma close_step (q : Queue) : q.close = q ∨ Step .close q q.close := by
  unfold close
  split_ifs with h
  · exact .inr (.close h)
  · exact .inl rfl

lemma bar_step (q : Queue) : q.bar = q ∨ Step .bar q q.bar := by
  unfold bar
  split_ifs with h
  · exact .inr (.bar h)
  · exact .inl rfl

lemma abandon_step (q : Queue) : q.abandon = q ∨ Step .settle q q.abandon := by
  unfold abandon
  split_ifs with h
  · exact .inr (.settle h.1 h.2.1 h.2.2.1 h.2.2.2)
  · exact .inl rfl

end Queue
end ElevatorBank
