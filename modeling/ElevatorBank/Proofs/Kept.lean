import ElevatorBank.Proofs.Service

/-!
# Calls kept

Whatever the strategies, a landing's request stays on a car until a stop is served for it
(`owes_of_leads`), and a stop served for a pending key leaves no car with the request
(`not_owes_of_served`).
-/
namespace ElevatorBank

/-- A request ends with the event that a stop has been served for it. -/
lemma Deed.Ends.event? {calls : HallCalls} {id : CarId} {u : Target} {d : Deed}
    (h : d.Ends calls id u) : ∃ car, d.event? = some (.stopServed car u.floor u.direction) := by
  cases d with
  | announced event =>
    cases event with
    | stopServed car floor direction =>
      obtain ⟨rfl, -⟩ := h
      exact ⟨car, rfl⟩
    | _ => cases h
  | served car t =>
    obtain ⟨rfl, -⟩ := h
    exact ⟨car, rfl⟩
  | _ => cases h

/-- A ride queues nothing. -/
lemma Deed.IsRideOf.not_queues {rider id : CarId} {u : Target} {d : Deed} (h : d.IsRideOf rider) :
    ¬d.Queues id u := by
  cases d with
  | raced => cases h
  | given => cases h
  | _ => exact fun hq => hq

namespace Ledger

variable {P : Deed → Prop} {l m : Ledger} {t : Target}

/-- The events published since an earlier ledger. -/
def since (l m : Ledger) : List Event := m.history.drop l.history.length

lemma since_after (h : Leads P l m) (d : Deed) :
    l.since (m.after d) = l.since m ++ d.event?.toList :=
  List.drop_append_of_le_length h.history_prefix.length_le

/-- A landing's request stays until a stop is served for it. -/
theorem owes_of_leads (h : Leads P l m) (hl : l.Sound) {id : CarId} (ho : l.fleet.Owes id t)
    (hn : ∀ car, .stopServed car t.floor t.direction ∉ l.since m) : m.fleet.Owes id t := by
  induction h with
  | refl => exact ho
  | @tail m n h hs ih =>
    obtain ⟨d, -, hf, rfl⟩ := hs
    rw [since_after h] at hn
    have hkept := ih fun car hm => hn car (List.mem_append_left _ hm)
    -- Had the deed ended the request, its event would be among those published since.
    refine (owes_after (Leads.sound h hl) hf id t).mpr (.inr ⟨hkept, fun he => ?_⟩)
    obtain ⟨car, hevent⟩ := he.event?
    exact hn car (List.mem_append_right _ (by simp [hevent]))

/-- No stop has been served for a pending key since an earlier ledger, or no car has its
request any more. -/
def UnservedOrClear (l : Ledger) (t : Target) (m : Ledger) : Prop :=
  (m.calls.has t = true ∧ ∀ car, .stopServed car t.floor t.direction ∉ l.since m) ∨
    ∀ id, ¬m.fleet.Owes id t

lemma UnservedOrClear.after (hu : l.UnservedOrClear t m) (h : Leads P l m) (hm : m.Sound)
    {d : Deed} {rider : CarId} (hd : d.IsRideOf rider) (hf : d.Fits m) :
    l.UnservedOrClear t (m.after d) := by
  have hclear : (∀ id, ¬m.fleet.Owes id t) → ∀ id, ¬(m.after d).fleet.Owes id t := by
    intro hno id ho
    rcases (owes_after hm hf id t).mp ho with hq | ⟨ho, -⟩
    · exact hd.not_queues hq
    · exact hno id ho
  rcases hu with ⟨hpending, hunserved⟩ | hno
  · cases d with
    | moved =>
      refine .inl ⟨hpending, ?_⟩
      simpa [since_after h, Deed.event?] using hunserved
    | served car u =>
      by_cases hut : t = u
      · subst hut
        refine .inr fun id ho => ?_
        rcases (owes_after hm hf id t).mp ho with hq | ⟨-, hn⟩
        · cases hq
        · exact hn ⟨rfl, .inr hpending⟩
      · refine .inl ⟨(HallCalls.has_resolve _ _ _).mpr ⟨hut, hpending⟩, fun other hmem => ?_⟩
        rw [since_after h] at hmem
        rcases List.mem_append.mp hmem with hmem | hmem
        · exact hunserved other hmem
        · obtain ⟨-, hfloor, hdirection⟩ := Event.stopServed.inj (List.mem_singleton.mp hmem)
          exact hut (Target.eq_iff.mpr ⟨hfloor.symm, hdirection.symm⟩)
    | _ => cases hd
  · exact .inr (hclear hno)

/-- While cars ride, a stop served for a pending key leaves no car with the request. -/
theorem not_owes_of_served (h : Leads (fun d => ∃ id, d.IsRideOf id) l m) (hl : l.Sound)
    (ht : l.calls.has t = true) {car : CarId}
    (hs : .stopServed car t.floor t.direction ∈ l.since m) (id : CarId) :
    ¬m.fleet.Owes id t := by
  have hsplit : l.UnservedOrClear t m := by
    -- The key stays pending up to the first stop served for it.
    clear hs
    induction h with
    | refl => exact .inl ⟨ht, by simp [since]⟩
    | @tail m n h hs ih =>
      obtain ⟨d, ⟨rider, hd⟩, hf, rfl⟩ := hs
      exact ih.after h (Leads.sound h hl) hd hf
  rcases hsplit with ⟨-, hno⟩ | hno
  · exact absurd hs (hno car)
  · exact hno id

/-- So many steps of the fleet are steps of its cars one after another. -/
theorem iterate_step (hl : l.Sound) (n : Nat) :
    step^[n] l = (List.replicate n l.fleet.ids).flatten.foldl stepCar l := by
  induction n generalizing l with
  | zero => rfl
  | succ n ih =>
    have hfirst := leads_step hl
    rw [Function.iterate_succ_apply, ih (hfirst.sound hl), hfirst.ids, List.replicate_succ,
      List.flatten_cons, List.foldl_append]
    rfl

end Ledger

namespace Bank

variable {b : Bank} {l : Ledger} {s : Strategy} {floors : List Int}

lemma Shows.run_stepCars (h : b.Shows l s) (hl : l.Sound) (ids : List CarId) :
    (b.run (ids.map (.stepCar · 1))).Shows (ids.foldl Ledger.stepCar l) s := by
  induction ids generalizing b l with
  | nil => exact h
  | cons id rest ih =>
    have hstepped := h.performWith_stepCar hl (react_passive (b.callbacks + 0)) id 1
    exact ih hstepped ((Ledger.leads_stepCar hl id).sound hl)

/-- Every car that a hall call is answered to be assigned to owes it. -/
theorem Shows.owes_of_assigned (h : b.Shows l s) (hl : l.Sound) {floor : Int}
    {direction : Direction} {cars : List CarId}
    (ha : (b.perform (.hallCall floor direction)).2 = .outcome (.assigned cars)) :
    ∃ m, (b.perform (.hallCall floor direction)).1.Shows m s ∧ m.Sound ∧
      ∀ id ∈ cars, m.fleet.Owes id ⟨floor, direction⟩ := by
  have hassigned : (hallCall (Bank.react (b.callbacks + 0)) b floor direction).2 =
      .ok (.assigned cars) := by
    change Answer.ofExcept (hallCall (Bank.react (b.callbacks + 0)) b floor direction).2 = _ at ha
    cases hr : (hallCall (Bank.react (b.callbacks + 0)) b floor direction).2 <;>
      rw [hr] at ha <;> cases ha
    rfl
  rcases h.hallCall_cases hl (react_passive (b.callbacks + 0)) floor direction with ⟨-, he⟩ |
    ⟨-, ⟨answer, hne, he, -⟩ | ⟨chosen, -, hfits, he, hshow⟩⟩
  · rw [he] at hassigned
    cases hassigned
  · exact absurd (he.symm.trans hassigned) (hne cars)
  · rw [hassigned] at he
    cases he
    have hraised := hl.after (d := .announced (.hallCallRaised floor direction)) trivial
    refine ⟨_, hshow, hraised.after hfits, fun id hid => ?_⟩
    apply (Ledger.owes_after hraised hfits id _).mpr
    left
    unfold Deed.assigning
    split_ifs <;> exact ⟨rfl, hid⟩

/-- After a ride that serves a pending key no car has its request. -/
lemma Shows.not_owes_of_served (h : b.Shows l s) (hl : l.Sound) {ride : Op} (hride : ride.IsRide)
    {events : List Event} (ha : (b.perform ride).2 = .events events) {car : CarId} {floor : Int}
    {direction : Direction} (hserved : .stopServed car floor direction ∈ events)
    (hpending : b.calls.has ⟨floor, direction⟩ = true) (id : CarId) :
    ¬(b.perform ride).1.fleet.Owes id ⟨floor, direction⟩ := by
  obtain ⟨m, hm, hleads⟩ := h.perform hl hride.isRoutine
  have hevents := h.published_perform hl hride ha
  obtain rfl := h.ledger
  obtain rfl := hm.ledger
  have hsince : .stopServed car floor direction ∈ b.ledger.since (b.perform ride).1.ledger := by
    rw [Ledger.since, Bank.ledger, Bank.ledger, hevents, List.drop_left]
    exact hserved
  exact Ledger.not_owes_of_served (t := ⟨floor, direction⟩)
    (hleads.mono fun d hd => hride.rides hd) hl hpending hsince id

/-- On the ledger, steps of the fleet are steps of its cars one after another. -/
lemma Shows.ledger_step (h : b.Shows l s) (hl : l.Sound) (n : Nat) :
    (b.perform (.step n)).1.ledger =
      (b.run ((List.replicate n b.fleet.ids).flatten.map (.stepCar · 1))).ledger := by
  have hstep := (h.repeated_step hl (react_passive (b.callbacks + 0)) n).1
  obtain rfl := h.ledger
  rw [Ledger.iterate_step hl] at hstep
  exact hstep.ledger.trans (h.run_stepCars hl _).ledger.symm

/-- Under any strategies, the cars that a hall call has been assigned to have its request
until a stop is served for it. A ride that serves a pending key leaves no car with its
request; a step of the fleet is made of steps of single cars, so this is so from the moment
of the stop. -/
theorem Fresh.assigned_calls_kept {before : List Op} (hb : b.Fresh floors s)
    (hbefore : ∀ op ∈ before, op.IsRoutine) :
    (∀ floor direction cars after,
      ((b.run before).perform (.hallCall floor direction)).2 = .outcome (.assigned cars) →
      (∀ op ∈ after, op.IsRoutine) →
      let assigned := ((b.run before).perform (.hallCall floor direction)).1
      (∀ car, .stopServed car floor direction ∉
        (assigned.run after).published.drop assigned.published.length) →
      ∀ id ∈ cars, (assigned.run after).fleet.Owes id ⟨floor, direction⟩) ∧
    (∀ ride events car floor direction, ride.IsRide →
      ((b.run before).perform ride).2 = .events events →
      .stopServed car floor direction ∈ events →
      (b.run before).calls.has ⟨floor, direction⟩ = true →
      ∀ id, ¬((b.run before).perform ride).1.fleet.Owes id ⟨floor, direction⟩) ∧
    ∀ n, ((b.run before).perform (.step n)).1.ledger =
      ((b.run before).run ((List.replicate n (b.run before).fleet.ids).flatten.map
        (.stepCar · 1))).ledger := by
  obtain ⟨l, s', hshow, -, hl, -⟩ := hb.run (P := fun _ => True) trivial
    fun op hop => ⟨hbefore op hop, op.installs_any⟩
  generalize b.run before = b at hshow
  refine ⟨fun floor direction cars after ha hafter => ?_, ?_, fun n => ?_⟩
  · intro assigned hn id hid
    obtain ⟨m, hm, hsound, howes⟩ := hshow.owes_of_assigned hl ha
    obtain ⟨n, s'', hlast, -, hleads⟩ := hm.run (P := fun _ => True) hsound trivial
      fun op hop => ⟨hafter op hop, op.installs_any⟩
    obtain rfl := hm.ledger
    obtain rfl := hlast.ledger
    exact Ledger.owes_of_leads hleads hsound (howes id hid) hn
  · intro ride events car floor direction hride ha hserved hpending
    exact hshow.not_owes_of_served hl hride ha hserved hpending
  · exact hshow.ledger_step hl n

/-- Floor 2 has been called for one car alone and then for both; floor 5 is called next. -/
theorem Fresh.assigned_calls_kept_mixed : ∃ b, Bank.start {} = .ok b ∧
    let called := b.run [.setStrategy (.fixed .exclusiveEta [1]), .hallCall 2 .up,
      .setStrategy .broadcast, .hallCall 2 .up]
    ((called.perform (.hallCall 5 .up)).1.run [.setMode 1 .outOfService, .step 1]).fleet.Owes 1
        ⟨5, .up⟩ ∧
      ¬(called.perform (.step 2)).1.fleet.Owes 2 ⟨2, .up⟩ := by
  have hstart : Bank.start {} = .ok _ := rfl
  refine ⟨_, hstart, ?_⟩
  have hbefore : ∀ op ∈ [Op.setStrategy (.fixed .exclusiveEta [1]), .hallCall 2 .up,
      .setStrategy .broadcast, .hallCall 2 .up], op.IsRoutine := by simp [Op.IsRoutine]
  obtain ⟨hkept, hended, -⟩ := (Fresh.started hstart).assigned_calls_kept hbefore
  refine ⟨hkept 5 .up [1, 2] _ rfl (by simp [Op.IsRoutine]) (fun car hm => ?_) 1 (by simp), ?_⟩
  · change _ ∈ [Event.carMoved 1 0 1 .up, .carMoved 2 0 1 .up] at hm
    simp at hm
  · exact hended (.step 2) _ 1 2 .up trivial rfl (by decide) (by decide) 2

end Bank
end ElevatorBank
