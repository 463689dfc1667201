import ElevatorBank.Proofs.QueuedPath

/-!
# Desks

A desk is a caller with commands to submit and tickets to read, beside a bank whose worker
takes and finishes commands. The turns of the caller and of the worker come in any order, and
whatever the order is, the commands come to the same as if the caller had carried them out one
after the other (`Fresh.queued_as_direct`).
-/
namespace ElevatorBank

structure Desk where
  bank : Bank
  /-- The commands still to be submitted. -/
  unsent : List Command
  /-- The tickets, oldest first, each with its answer once it has been read. -/
  tickets : List (Ticket × Option Result) := []

namespace Desk

inductive Turn
  /-- The caller submits the next command. -/
  | submit
  /-- The worker takes a command, if it is not inside one. -/
  | take
  /-- The worker finishes the command it is inside. -/
  | finish
  /-- The caller looks for an answer on a ticket that has not given one yet. -/
  | wait (n : Nat)

def turn (d : Desk) : Turn → Desk
  | .submit =>
    match d.unsent with
    | [] => d
    | command :: unsent =>
      match d.bank.submit command with
      | .ok (ticket, bank) => { bank, unsent, tickets := d.tickets ++ [(ticket, none)] }
      -- Only a queue that has been shut down refuses a command.
      | .error _ => d
  | .take => { d with bank := d.bank.hold }
  | .finish => { d with bank := d.bank.finishRunning d.bank.callback }
  | .wait n =>
    match d.tickets[n]? with
    | some (ticket, none) =>
      let (answer, bank) := d.bank.poll ticket
      { d with bank, tickets := d.tickets.set n (ticket, answer) }
    | _ => d

def play (d : Desk) (turns : List Turn) : Desk := turns.foldl turn d

/-- Every command has been submitted and every ticket has given its answer. -/
def IsServed (d : Desk) : Prop := d.unsent = [] ∧ ∀ entry ∈ d.tickets, entry.2.isSome

/-- How many turns the commands still take: each is submitted, taken, finished and read. -/
def left (d : Desk) : Nat :=
  4 * d.unsent.length + d.bank.queue.load + d.tickets.countP (·.2.isNone)

/-- The desk has come by some turns from commands and a bank of a standing. -/
structure Serves (x : Standing) (commands done pending : List Command) (read : List Nat)
    (d : Desk) : Prop where
  split : done ++ pending ++ d.unsent = commands
  bank : d.bank.Serves x done pending read
  count : d.tickets.length = done.length + pending.length
  ticket : ∀ (n : Nat) ticket answer, d.tickets[n]? = some (ticket, answer) →
    ticket = x.queue.nextTicket + n ∧ (answer = none → n ∉ read) ∧
      ∀ r, answer = some r → (x.ledger.told x.strategy done)[n]? = some r

variable {x : Standing} {commands done pending : List Command} {read : List Nat} {d : Desk}

namespace Serves

lemma start {b : Bank} (h : b.Stands x) (hidle : x.queue.Idle) (commands : List Command) :
    Serves x commands [] [] [] { bank := b, unsent := commands } where
  split := rfl
  bank := .of_idle h hidle
  count := rfl
  ticket _ _ _ h := by simp at h

/-- The turn of a caller who has a command to submit. -/
lemma submit (h : d.Serves x commands done pending read) {command : Command}
    {unsent : List Command} (hunsent : d.unsent = command :: unsent) :
    (d.turn .submit).Serves x commands done (pending ++ [command]) read ∧
      (d.turn .submit).left + 1 = d.left := by
  obtain ⟨bank, hsubmit, hbank, hload⟩ := h.bank.submit command
  have hturn : d.turn .submit = { bank, unsent, tickets :=
      d.tickets ++ [(x.queue.nextTicket + (done.length + pending.length), none)] } := by
    simp only [turn, hunsent, hsubmit]
  rw [hturn]
  refine ⟨⟨?_, hbank, ?_, fun n ticket answer hn => ?_⟩, ?_⟩
  · rw [← h.split, hunsent]
    simp
  · simp [h.count, Nat.add_assoc]
  · rcases Nat.lt_or_ge n d.tickets.length with hlt | hge
    · rw [List.getElem?_append_left hlt] at hn
      exact h.ticket n ticket answer hn
    · have hlast : n = d.tickets.length := by
        have := (List.getElem?_eq_some_iff.mp hn).1
        simp only [List.length_append, List.length_singleton] at this
        omega
      subst hlast
      simp only [List.getElem?_concat_length, Option.some.injEq, Prod.mk.injEq] at hn
      obtain ⟨rfl, rfl⟩ := hn
      refine ⟨by rw [h.count], fun _ hread => ?_, fun r hr => by cases hr⟩
      have hbound := h.bank.tracks.read _ hread
      rw [Ledger.length_told, h.count] at hbound
      omega
  · simp only [left, hunsent, hload, List.length_cons, List.countP_append, List.countP_singleton,
      Option.isNone_none, if_true]
    omega

/-- A ticket whose command has been carried out gives its answer. -/
lemma wait (h : d.Serves x commands done pending read) {n : Nat} {ticket : Ticket}
    (hn : d.tickets[n]? = some (ticket, none)) :
    (done.length ≤ n ∧ d.turn (.wait n) = d) ∨
      (d.turn (.wait n)).Serves x commands done pending (n :: read) ∧
        (d.turn (.wait n)).left + 1 = d.left := by
  obtain ⟨rfl, hunread, -⟩ := h.ticket n ticket none hn
  obtain ⟨hlt, hget⟩ := List.getElem?_eq_some_iff.mp hn
  obtain ⟨htold, hpoll⟩ | ⟨r, bank, htold, hpoll, hbank, hload⟩ := h.bank.poll (hunread rfl)
  · have hsame : d.tickets.set n (x.queue.nextTicket + n, none) = d.tickets := by
      rw [← hget]
      exact List.set_getElem_self hlt
    refine .inl ⟨?_, ?_⟩
    · simpa using htold
    · simp only [turn, hn, hpoll, hsame]
  · have hturn : d.turn (.wait n) = { d with
        bank, tickets := d.tickets.set n (x.queue.nextTicket + n, some r) } := by
      simp only [turn, hn, hpoll]
    rw [hturn]
    refine .inr ⟨{ h with
      bank := hbank
      count := by simp [h.count]
      ticket := fun m ticket answer hm => ?_ }, ?_⟩
    · rw [List.getElem?_set] at hm
      split_ifs at hm with heq
      · subst heq
        obtain ⟨rfl, rfl⟩ : x.queue.nextTicket + n = ticket ∧ some r = answer := by simpa using hm
        exact ⟨rfl, fun hnone => absurd hnone (by simp), fun _ hr => hr ▸ htold⟩
      · obtain ⟨hticket, hm', hanswer⟩ := h.ticket m ticket answer hm
        exact ⟨hticket, fun hnone => by simp [Ne.symm heq, hm' hnone], hanswer⟩
    · have hpos : 0 < d.tickets.countP (·.2.isNone) :=
        List.countP_pos_iff.mpr ⟨_, List.mem_of_getElem? hn, rfl⟩
      simp only [left, hload, List.countP_set hlt, hget, Option.isNone_none, Option.isNone_some,
        if_true, Bool.false_eq_true, if_false]
      omega

/-- The answers that have been read stay right when one more command has been carried out. -/
lemma finish (h : d.Serves x commands done pending read) (hw : ∀ c ∈ x.ledger.fleet, c.WellFormed) :
    (d.turn .finish = d ∧ d.bank.queue.running = []) ∨
      ∃ command later, pending = command :: later ∧
        (d.turn .finish).Serves x commands (done ++ [command]) later read ∧
        (d.turn .finish).left + 1 = d.left := by
  have hr : Bank.Passive d.bank.callback := Bank.react_passive d.bank.callbacks
  obtain ⟨hsame, hrun⟩ | ⟨command, later, rfl, hbank, hload⟩ := h.bank.finishRunning hw hr
  · exact .inl ⟨congrArg (Desk.mk · d.unsent d.tickets) hsame, hrun⟩
  · refine .inr ⟨command, later, rfl, ⟨?_, hbank, ?_, fun n ticket answer hn => ?_⟩, ?_⟩
    · rw [← h.split]
      simp [Desk.turn]
    · have hcount := h.count
      rw [List.length_cons] at hcount
      rw [List.length_append, List.length_singleton, Nat.add_assoc, Nat.add_comm 1]
      exact hcount
    · obtain ⟨hticket, hunread, hanswer⟩ := h.ticket n ticket answer hn
      refine ⟨hticket, hunread, fun r hr => ?_⟩
      have htold := hanswer r hr
      rwa [Ledger.told_concat, List.getElem?_append_left (List.getElem?_eq_some_iff.mp htold).1]
    · show 4 * d.unsent.length + (d.bank.finishRunning d.bank.callback).queue.load +
        d.tickets.countP (·.2.isNone) + 1 = d.left
      rw [left, ← hload]
      omega

lemma take (h : d.Serves x commands done pending read) :
    (d.turn .take = d ∧ (d.bank.queue.running = [] → d.bank.queue.load = 0)) ∨
      (d.turn .take).Serves x commands done pending read ∧ (d.turn .take).left + 1 = d.left := by
  obtain ⟨hsame, hempty⟩ | ⟨hbank, hload⟩ := h.bank.hold
  · exact .inl ⟨congrArg (Desk.mk · d.unsent d.tickets) hsame, hempty⟩
  · refine .inr ⟨{ h with bank := hbank }, ?_⟩
    show 4 * d.unsent.length + d.bank.hold.queue.load + d.tickets.countP (·.2.isNone) + 1 = d.left
    rw [left, ← hload]
    omega

/-- A turn brings the commands on by one step, or there is nothing for it to do. -/
theorem turn (h : d.Serves x commands done pending read) (hw : ∀ c ∈ x.ledger.fleet, c.WellFormed)
    (t : Turn) : d.turn t = d ∨
      (∃ done pending read, (d.turn t).Serves x commands done pending read) ∧
        (d.turn t).left + 1 = d.left := by
  cases t with
  | submit =>
    cases hunsent : d.unsent with
    | nil => exact .inl (by simp [Desk.turn, hunsent])
    | cons command unsent =>
      obtain ⟨hserves, hleft⟩ := h.submit hunsent
      exact .inr ⟨⟨_, _, _, hserves⟩, hleft⟩
  | take =>
    obtain ⟨hsame, -⟩ | ⟨hserves, hleft⟩ := h.take
    · exact .inl hsame
    · exact .inr ⟨⟨_, _, _, hserves⟩, hleft⟩
  | finish =>
    obtain ⟨hsame, -⟩ | ⟨_, _, -, hserves, hleft⟩ := h.finish hw
    · exact .inl hsame
    · exact .inr ⟨⟨_, _, _, hserves⟩, hleft⟩
  | wait n =>
    cases hn : d.tickets[n]? with
    | none => exact .inl (by simp [Desk.turn, hn])
    | some entry =>
      obtain ⟨ticket, _ | answer⟩ := entry
      · obtain ⟨-, hsame⟩ | ⟨hserves, hleft⟩ := h.wait hn
        · exact .inl hsame
        · exact .inr ⟨⟨_, _, _, hserves⟩, hleft⟩
      · exact .inl (by simp [Desk.turn, hn])

/-- As long as an answer is missing there is something to do. -/
theorem exists_turn (h : d.Serves x commands done pending read)
    (hw : ∀ c ∈ x.ledger.fleet, c.WellFormed) (hn : ¬d.IsServed) :
    ∃ t, (d.turn t).left + 1 = d.left := by
  cases hunsent : d.unsent with
  | cons command unsent => exact ⟨.submit, (h.submit hunsent).2⟩
  | nil =>
    obtain ⟨-, hempty⟩ | ⟨-, htaken⟩ := h.take
    · obtain ⟨-, hrun⟩ | ⟨_, _, -, -, hfinished⟩ := h.finish hw
      · -- The worker has nothing to do, so it is the caller who has a ticket to read.
        have hload := hempty hrun
        have hpending := h.bank.tracks.pending_length
        have hcount := h.count
        simp only [IsServed, hunsent, true_and, not_forall] at hn
        obtain ⟨⟨ticket, answer⟩, hm, hnone⟩ := hn
        obtain rfl : answer = none := by simpa using hnone
        obtain ⟨n, hn⟩ := List.mem_iff_getElem?.mp hm
        obtain ⟨hlate, -⟩ | ⟨-, hread⟩ := h.wait hn
        · have := (List.getElem?_eq_some_iff.mp hn).1
          simp only [Queue.load] at hload
          omega
        · exact ⟨.wait n, hread⟩
      · exact ⟨.finish, hfinished⟩
    · exact ⟨.take, htaken⟩

/-- An answer that has been read is that of the command of its ticket. -/
lemma answer (h : d.Serves x commands done pending read) {n : Nat} {ticket : Ticket} {r : Result}
    (hn : d.tickets[n]? = some (ticket, some r)) :
    (x.ledger.told x.strategy commands)[n]? = some r := by
  have htold := (h.ticket n ticket (some r) hn).2.2 r rfl
  rwa [← h.split, List.append_assoc, Ledger.told_append,
    List.getElem?_append_left (List.getElem?_eq_some_iff.mp htold).1]

/-- When every answer has been read every command has been carried out. -/
lemma of_isServed (h : d.Serves x commands done pending read) (hd : d.IsServed) :
    d.bank.Serves x commands [] read := by
  obtain ⟨hunsent, hanswered⟩ := hd
  have hcount := h.count
  have hsplit := h.split
  cases pending with
  | nil =>
    rw [hunsent, List.append_nil, List.append_nil] at hsplit
    exact hsplit ▸ h.bank
  | cons command later =>
    rw [List.length_cons] at hcount
    have hlt : done.length < d.tickets.length := by omega
    obtain ⟨r, hr⟩ := Option.isSome_iff_exists.mp (hanswered _ (List.getElem_mem hlt))
    have hget := List.getElem?_eq_getElem hlt
    have htold := (h.ticket done.length _ (some r) (by rw [hget, ← hr])).2.2 r rfl
    have := (List.getElem?_eq_some_iff.mp htold).1
    simp at this

lemma answers (h : d.Serves x commands done pending read) (hd : d.IsServed) :
    d.tickets.map (·.2) = (x.ledger.told x.strategy commands).map some := by
  have hcount := congrArg List.length h.split
  refine List.ext_getElem? fun n => ?_
  rw [List.getElem?_map, List.getElem?_map]
  cases hn : d.tickets[n]? with
  | none =>
    simp only [List.length_append, hd.1, List.length_nil, ← h.count] at hcount
    rw [List.getElem?_eq_none_iff] at hn
    rw [List.getElem?_eq_none (by rw [Ledger.length_told]; omega)]
    rfl
  | some entry =>
    obtain ⟨ticket, answer⟩ := entry
    obtain ⟨r, rfl⟩ := Option.isSome_iff_exists.mp (hd.2 _ (List.mem_of_getElem? hn))
    rw [h.answer hn]
    rfl

theorem play (h : d.Serves x commands done pending read) (hw : ∀ c ∈ x.ledger.fleet, c.WellFormed)
    (turns : List Turn) :
    ∃ done pending read, (d.play turns).Serves x commands done pending read := by
  induction turns generalizing d done pending read with
  | nil => exact ⟨_, _, _, h⟩
  | cons t rest ih =>
    obtain hsame | ⟨⟨_, _, _, hserves⟩, -⟩ := h.turn hw t
    · rw [Desk.play, List.foldl_cons, hsame]
      exact ih h
    · exact ih hserves

/-- From wherever the desk has come to, all the answers can be had. -/
theorem exists_served (h : d.Serves x commands done pending read)
    (hw : ∀ c ∈ x.ledger.fleet, c.WellFormed) : ∃ more, (d.play more).IsServed := by
  induction hleft : d.left using Nat.strongRecOn generalizing d done pending read with
  | ind left ih =>
    by_cases hserved : d.IsServed
    · exact ⟨[], hserved⟩
    · obtain ⟨t, ht⟩ := h.exists_turn hw hserved
      obtain hsame | ⟨⟨_, _, _, hserves⟩, -⟩ := h.turn hw t
      · rw [hsame] at ht
        omega
      · obtain ⟨more, hmore⟩ := ih (d.turn t).left (by omega) hserves rfl
        exact ⟨t :: more, hmore⟩

end Serves

/-- What is left of commands once they have been carried out from the queue of a bank: on the
tickets these results, in its counts what they add up to, and for the rest what there is in
another bank. -/
structure Settled (before after : Bank) (results : List Result) (d : Desk) : Prop where
  answers : d.tickets.map (·.2) = results.map some
  fleet : d.bank.fleet = after.fleet
  calls : d.bank.calls = after.calls
  published : d.bank.published = after.published
  completed : d.bank.queue.completed = before.queue.completed + results.countP (·.isOk)
  failed : d.bank.queue.failed = before.queue.failed + results.countP (!·.isOk)
  dropped : d.bank.queue.droppedCalls =
    before.queue.droppedCalls + results.countP Result.isDropped

theorem Serves.settled {before : Bank} (hb : before.Orderly)
    (h : d.Serves before.standing commands done pending read) (hd : d.IsServed) :
    d.Settled before (before.run (commands.map Command.op))
      (before.standing.ledger.told before.standing.strategy commands) := by
  have hlast := h.of_isServed hd
  have hsame := congrArg (·.ledger) hlast.stands.standing
  have hdirect := congrArg (·.ledger) (hb.stands.run_ops hb.cars commands).2.standing
  obtain ⟨hfleet, hcalls, hpublished⟩ := Ledger.mk.inj (hsame.trans hdirect.symm)
  exact {
    answers := h.answers hd
    fleet := hfleet
    calls := hcalls
    published := hpublished
    completed := hlast.tracks.completed
    failed := hlast.tracks.failed
    dropped := hlast.tracks.dropped }

/-- The tickets fix the results. -/
lemma Settled.of_answers {before after : Bank} {results results' : List Result}
    (h : d.Settled before after results) (ha : d.tickets.map (·.2) = results'.map some) :
    d.Settled before after results' := by
  have hinj : (some : Result → Option Result).Injective := fun _ _ => Option.some.inj
  obtain rfl := List.map_injective_iff.mpr hinj (h.answers.symm.trans ha)
  exact h

end Desk

namespace Bank

variable {b : Bank} {floors : List Int} {s : Strategy}

/-- Whatever the order is in which a caller and the one worker of the queue have their turns,
the tickets of commands say what a caller is answered who carries out the same commands, and
the bank comes to the same; no schedule gets stuck. A command that fails makes no difference to
the others. -/
theorem Fresh.queued_as_direct (h : b.Fresh floors s) (hworker : b.queue.workerCount = 1)
    {before : List Op} (hbefore : ∀ op ∈ before, op.IsSilent ∧ op ≠ .shutdown) :
    ∃ results : List Command → List Result,
      (∀ commands, List.Forall₂ (fun asked result => asked.1.Tells asked.2 result)
        (commands.zip ((b.run before).answers (commands.map Command.op))) (results commands)) ∧
      (∀ (commands : List Command) (turns : List Desk.Turn) (d : Desk),
        Desk.play ⟨b.run before, commands, []⟩ turns = d →
          (∀ t, d.turn t = d ∨ (d.turn t).left + 1 = d.left) ∧
          (¬d.IsServed → ∃ t, (d.turn t).left + 1 = d.left) ∧
          (∃ more, (d.play more).IsServed) ∧
          (∀ (n : Nat) ticket r, d.tickets[n]? = some (ticket, some r) →
            (results commands)[n]? = some r) ∧
          (d.IsServed → d.Settled (b.run before) ((b.run before).run (commands.map Command.op))
            (results commands))) ∧
      ∀ (earlier later : List Command) (failing : Command) (e : DispatchError),
        (results (earlier ++ failing :: later))[earlier.length]? = some (.error e) →
          results (earlier ++ later) =
            (results (earlier ++ failing :: later)).eraseIdx earlier.length ∧
          ((b.run before).run ((earlier ++ later).map Command.op)).fleet =
            ((b.run before).run ((earlier ++ failing :: later).map Command.op)).fleet ∧
          ((b.run before).run ((earlier ++ later).map Command.op)).calls =
            ((b.run before).run ((earlier ++ failing :: later).map Command.op)).calls := by
  have horderly := h.orderly.run fun op hop => (hbefore op hop).1
  have hidle := h.orderly.idle_run (h.idle hworker) hbefore
  generalize b.run before = state at horderly hidle ⊢
  have hstands := horderly.stands
  have hw := horderly.cars
  refine ⟨state.standing.ledger.told state.standing.strategy, fun commands =>
    hstands.tells hw commands, ?_, ?_⟩
  · rintro commands turns d rfl
    obtain ⟨done, pending, read, hserves⟩ :=
      (Desk.Serves.start hstands hidle commands).play hw turns
    exact ⟨fun t => (hserves.turn hw t).imp_right And.right, hserves.exists_turn hw,
      hserves.exists_served hw, fun n ticket r => hserves.answer, hserves.settled horderly⟩
  · intro earlier later failing e hfails
    obtain ⟨htold, history, hsame⟩ := Ledger.executeAll_isolated hfails
    have hwith := congrArg (·.ledger) (hstands.run_ops hw (earlier ++ failing :: later)).2.standing
    have hwithout := congrArg (·.ledger) (hstands.run_ops hw (earlier ++ later)).2.standing
    obtain ⟨hfleet, hcalls, -⟩ := Ledger.mk.inj hwith
    obtain ⟨hfleet', hcalls', -⟩ := Ledger.mk.inj (hwithout.trans hsame)
    exact ⟨htold, hfleet'.trans hfleet.symm, hcalls'.trans hcalls.symm⟩

/-- The queue has room for one command, so that the next two are held back at first. The
strategy panics on the first command and chooses nobody for the second, and car 9 of the third
is not there. The last ticket is looked at before its command has been taken. -/
theorem Fresh.queued_as_direct_held_back : ∃ b,
    Bank.start { capacity := 1, workerCount := 1 } = .ok b ∧
    ∃ state commands d,
      state = b.run [.submit (.carCall 1 2), .step 1, .setStrategy ⟨.broadcast,
        fun floor _ _ => if floor = 5 then .error "stuck" else .ok [], fun _ _ _ => [], "picky",
        true⟩] ∧
      commands = [.hallCall 5 .up, .hallCall 7 .down, .carCall 9 3, .carCall 1 4] ∧
      d = Desk.play ⟨state, commands, []⟩ [.submit, .submit, .submit, .take, .submit, .wait 3,
        .finish, .take, .wait 0, .finish, .take, .finish, .wait 2, .take, .finish, .wait 3,
        .wait 1] ∧
      d.IsServed ∧ d.Settled state (state.run (commands.map Command.op))
        [.error (.commandPanicked (Command.hallCall 5 .up).text "stuck"), .ok .dropped,
          .error (.unknownElevator 9), .ok (.cabinQueued 1)] := by
  have hstart : Bank.start { capacity := 1, workerCount := 1 } = .ok _ := rfl
  refine ⟨_, hstart, _, _, _, rfl, rfl, rfl, ⟨rfl, by decide +kernel⟩, ?_⟩
  have hbefore : ∀ op ∈ [Op.submit (.carCall 1 2), .step 1, .setStrategy ⟨.broadcast,
      fun floor _ _ => if floor = 5 then .error "stuck" else .ok [], fun _ _ _ => [], "picky",
      true⟩], op.IsSilent ∧ op ≠ .shutdown := by simp [Op.IsSilent]
  obtain ⟨results, -, hdesk, -⟩ := (Fresh.started hstart).queued_as_direct rfl hbefore
  refine Desk.Settled.of_answers ((hdesk _ _ _ rfl).2.2.2.2 ⟨rfl, ?_⟩) ?_ <;> decide +kernel

end Bank
end ElevatorBank
