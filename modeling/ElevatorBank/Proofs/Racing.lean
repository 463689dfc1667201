import ElevatorBank.Proofs.Service

/-!
# Racing calls

While every strategy in force lets its cars race, three records of a hall call agree: the
pending key, the requests on the cars and the published events (`Ledger.Racing`).
-/
namespace ElevatorBank

/-- By the events published, a hall call has been assigned and not been served since. -/
def Awaits (history : List Event) (t : Target) : Prop :=
  ∃ before cars after,
    history = before ++ .assignmentMade t.floor t.direction cars :: after ∧
      ∀ car, .stopServed car t.floor t.direction ∉ after

/-- A new event makes a call awaited, or leaves it so unless it serves the call. -/
theorem awaits_concat (history : List Event) (event : Event) (t : Target) :
    Awaits (history ++ [event]) t ↔
      (∃ cars, event = .assignmentMade t.floor t.direction cars) ∨
        Awaits history t ∧ ∀ car, event ≠ .stopServed car t.floor t.direction := by
  constructor
  · rintro ⟨before, cars, after, he, hn⟩
    rcases List.eq_nil_or_concat after with rfl | ⟨init, last, rfl⟩
    · obtain ⟨-, hlast⟩ := List.append_inj' he rfl
      exact .inl ⟨cars, List.singleton_inj.mp hlast⟩
    · have he' : history ++ [event] =
          (before ++ .assignmentMade t.floor t.direction cars :: init) ++ [last] := by
        simpa using he
      obtain ⟨rfl, hlast⟩ := List.append_inj' he' rfl
      obtain rfl := List.singleton_inj.mp hlast
      refine .inr ⟨⟨before, cars, init, rfl, fun car hm => hn car (by simp [hm])⟩, ?_⟩
      rintro car rfl
      exact hn car (by simp)
  · rintro (⟨cars, rfl⟩ | ⟨⟨before, cars, after, rfl, hn⟩, hne⟩)
    · exact ⟨history, cars, [], rfl, by simp⟩
    · refine ⟨before, cars, after ++ [event], by simp, fun car hm => ?_⟩
      rcases List.mem_append.mp hm with hm | hm
      · exact hn car hm
      · exact hne car (List.mem_singleton.mp hm).symm

/-- The deeds of a bank whose strategies let their cars race. -/
def Deed.IsRacing : Deed → Prop
  | announced (.hallCallRaised ..) => True
  | announced _ | given .. => False
  | _ => True

lemma Op.Comprises.isRacing {s : Strategy} {op : Op} {d : Deed} (h : op.Comprises s d)
    (hs : s.isBroadcast = true) : d.IsRacing := by
  cases d with
  | announced event =>
    cases op with
    | hallCall floor direction =>
      obtain rfl : event = _ := h
      trivial
    | step times => exact h.elim fun _ hd => False.elim hd
    | _ => cases h
  | given t cars =>
    cases op with
    | hallCall floor direction => exact absurd h.2 (by simp [hs])
    | step times => exact h.elim fun _ hd => hd
    | _ => cases h
  | _ => trivial

namespace Ledger

/-- The pending calls, the requests on the cars and the history agree. -/
structure Racing (l : Ledger) : Prop where
  sound : l.Sound
  /-- A car holds a key exactly if it has the request. -/
  holders : ∀ t id, l.calls.Holds t id ↔ l.fleet.Owes id t
  awaited : ∀ t, l.calls.has t = true ↔ Awaits l.history t

variable {l : Ledger} {d : Deed}

theorem opening_racing (floors : List Int) : (opening floors).Racing where
  sound := opening_sound floors
  holders := by
    intro t id
    constructor
    · rintro ⟨call, hm, -⟩
      cases hm
    · rintro ⟨c, hm, -, hs⟩
      obtain ⟨id, floor, -, rfl⟩ := Fleet.mem_start hm
      cases ht : t.direction <;> rw [ht] at hs <;> cases hs
  awaited := by
    intro t
    constructor
    · intro ht
      cases ht
    · rintro ⟨before, cars, after, he, -⟩
      simp [opening] at he

/-- The holders of a key change exactly as the requests on the cars do. -/
lemma Racing.holders_after (h : l.Racing) (hf : d.Fits l) (hd : d.IsRacing) (t : Target)
    (id : CarId) : (l.after d).calls.Holds t id ↔ (l.after d).fleet.Owes id t := by
  rw [owes_after h.sound hf, ← h.holders]
  cases d with
  | announced event =>
    cases event with
    | hallCallRaised => simp [after, Deed.book, Deed.Queues, Deed.Ends]
    | _ => cases hd
  | raced u cars => simp [after, Deed.book, Deed.Queues, Deed.Ends]
  | given => cases hd
  | served car u =>
    -- A car that holds the key makes it pending, so the stop ends the request on every holder.
    simp only [after, Deed.book, HallCalls.holds_resolve, Deed.Queues, Deed.Ends, false_or]
    constructor
    · rintro ⟨hne, hh⟩
      exact ⟨hh, fun he => hne he.1⟩
    · rintro ⟨hh, hn⟩
      exact ⟨fun he => hn ⟨he, .inr hh.has⟩, hh⟩
  | _ => simp [after, Deed.book, Deed.Queues, Deed.Ends]

/-- A key becomes pending with the event that assigns it, and ceases to be with the event
that serves it. -/
lemma Racing.awaited_after (h : l.Racing) (hd : d.IsRacing) (t : Target) :
    (l.after d).calls.has t = true ↔ Awaits (l.after d).history t := by
  cases d with
  | announced event =>
    cases event with
    | hallCallRaised =>
      simp [after, Deed.book, Deed.event?, awaits_concat, h.awaited]
    | _ => cases hd
  | raced u cars =>
    simp only [after, Deed.book, HallCalls.has_register, Deed.event?, Option.toList_some,
      awaits_concat, h.awaited]
    rw [Target.eq_iff]
    simp
  | given => cases hd
  | moved => simp [after, Deed.book, Deed.event?, awaits_concat, h.awaited]
  | served car u =>
    simp only [after, Deed.book, HallCalls.has_resolve, Deed.event?, Option.toList_some,
      awaits_concat, h.awaited]
    rw [ne_eq, Target.eq_iff]
    simp [and_comm]
  | _ => simp [after, Deed.book, Deed.event?, h.awaited]

theorem Racing.after (h : l.Racing) (hf : d.Fits l) (hd : d.IsRacing) : (l.after d).Racing where
  sound := h.sound.after hf
  holders := h.holders_after hf hd
  awaited := h.awaited_after hd

end Ledger

namespace Bank

variable {b : Bank} {floors : List Int} {s : Strategy} {ops : List Op}

lemma Fresh.racing (hb : b.Fresh floors s) (hs : s.isBroadcast = true)
    (hops : ∀ op ∈ ops, op.IsRoutine ∧ op.Installs (·.isBroadcast = true)) :
    ∃ l s', (b.run ops).Shows l s' ∧ s'.isBroadcast = true ∧ l.Racing := by
  obtain ⟨l, s', hshow, hs', -, hleads⟩ := hb.run (P := (·.isBroadcast = true)) hs hops
  refine ⟨l, s', hshow, hs', hleads.preserves (fun l d hd hf hr => ?_) (Ledger.opening_racing _)⟩
  obtain ⟨s, hs, op, -, hop⟩ := hd
  exact hr.after hf (hop.isRacing hs)

/-- In every state of routine service under racing strategies, a key is pending exactly if
some car has the request, and exactly if it has been assigned and not served since. The
holders of a key are the cars that have its request, and keys are for landing buttons. -/
theorem Fresh.records_agree (hb : b.Fresh floors s) (hs : s.isBroadcast = true)
    (hops : ∀ op ∈ ops, op.IsRoutine ∧ op.Installs (·.isBroadcast = true)) :
    (∀ t, ((b.run ops).calls.has t = true ↔ ∃ id, (b.run ops).fleet.Owes id t) ∧
        ((b.run ops).calls.has t = true ↔ Awaits (b.run ops).published t)) ∧
      (∀ t holders, (b.run ops).calls.holders? t = some holders →
        ∀ id, id ∈ holders ↔ (b.run ops).fleet.Owes id t) ∧
      ∀ t, (b.run ops).calls.has t = true → t.direction ≠ .idle := by
  obtain ⟨l, s', hshow, -, hracing⟩ := hb.racing hs hops
  obtain rfl := hshow.ledger
  refine ⟨fun t => ⟨⟨hracing.sound.owed t, ?_⟩, hracing.awaited t⟩, fun t holders hh id => ?_, ?_⟩
  · rintro ⟨id, hid⟩
    exact ((hracing.holders t id).mpr hid).has
  · rw [HallCalls.mem_holders_iff hracing.sound.unique hh]
    exact hracing.holders t id
  · intro t ht hidle
    have hkey := hracing.sound.keys t ht
    rw [hidle] at hkey
    cases hkey

/-- Two cars race for a call at floor 3, and one of them has a passenger for it too. -/
theorem Fresh.records_agree_joined : ∃ b, Bank.start {} = .ok b ∧
    ∃ id, (b.run [.hallCall 3 .up, .carCall 1 3, .setMode 2 .maintenance, .step 2]).fleet.Owes id
      ⟨3, .up⟩ := by
  have hstart : Bank.start {} = .ok _ := rfl
  refine ⟨_, hstart, ?_⟩
  have hops : ∀ op ∈ [Op.hallCall 3 .up, .carCall 1 3, .setMode 2 .maintenance, .step 2],
      op.IsRoutine ∧ op.Installs (·.isBroadcast = true) := by simp [Op.IsRoutine, Op.Installs]
  have hagree := (Fresh.started hstart).records_agree rfl hops
  exact (hagree.1 ⟨3, .up⟩).1.mp (by decide)

end Bank
end ElevatorBank
