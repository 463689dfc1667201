import ElevatorBank.Proofs.Orderly

/-!
# All or nothing

A hall call takes effect entirely or not at all (`Fresh.all_or_nothing`): either the cars it
is assigned to all have it and nothing else has changed, or no car and no pending call has.
-/
namespace ElevatorBank

/-- A car has been given a hall request and is otherwise as it was. -/
structure Car.Gains (t : Target) (c c' : Car) : Prop where
  id : c'.id = c.id
  floor : c'.floor = c.floor
  mode : c'.mode = c.mode
  wellFormed : c'.WellFormed
  up : ∀ g, c'.up.requests g =
    if t = ⟨g, .up⟩ then { c.up.requests g with hall := true } else c.up.requests g
  down : ∀ g, c'.down.requests g =
    if t = ⟨g, .down⟩ then { c.down.requests g with hall := true } else c.down.requests g

lemma Car.gains_enqueue {c : Car} (hw : c.WellFormed) {t : Target}
    (ht : t.direction.isHall = true) : c.Gains t (c.enqueue t) := by
  obtain ⟨floor, direction⟩ := t
  cases direction with
  | up =>
    refine ⟨rfl, rfl, rfl, hw.enqueue _, fun g => ?_, fun g => by simp [enqueue]⟩
    simp only [enqueue, StopSet.requests_markHall hw.up, Target.mk.injEq, and_true]
    by_cases hg : g = floor
    · simp [hg]
    · rw [if_neg hg, if_neg (Ne.symm hg)]
  | down =>
    refine ⟨rfl, rfl, rfl, hw.enqueue _, fun g => by simp [enqueue], fun g => ?_⟩
    simp only [enqueue, StopSet.requests_markHall hw.down, Target.mk.injEq, and_true]
    by_cases hg : g = floor
    · simp [hg]
    · rw [if_neg hg, if_neg (Ne.symm hg)]
  | idle => cases ht

namespace Bank

/-- Nothing has come of a hall call but that it was raised. -/
structure OnlyRaised (t : Target) (b b' : Bank) : Prop where
  fleet : b'.fleet = b.fleet
  calls : b'.calls = b.calls
  published : b'.published = b.published ++ [.hallCallRaised t.floor t.direction]

/-- A hall call has been raised and assigned: the cars have it, and if they race for it they
have joined those it was pending on before. -/
structure AssignedTo (t : Target) (cars : List CarId) (b b' : Bank) : Prop where
  published : b'.published = b.published ++
    [.hallCallRaised t.floor t.direction, .assignmentMade t.floor t.direction cars]
  fleet : List.Forall₂ (fun c c' => if c.id ∈ cars then c.Gains t c' else c' = c) b.fleet b'.fleet
  raced : b.strategy.isBroadcast = true → (∀ u, u ≠ t → b'.calls.holders? u = b.calls.holders? u) ∧
    ∃ holders, b'.calls.holders? t = some holders ∧
      ∀ id, id ∈ holders ↔ id ∈ cars ∨ id ∈ (b.calls.holders? t).getD []
  given : b.strategy.isBroadcast = false → b'.calls = b.calls

variable {b b' : Bank} {t : Target} {cars : List CarId}

lemma onlyRaised_of_ledger
    (h : b'.ledger = b.ledger.after (.announced (.hallCallRaised t.floor t.direction))) :
    OnlyRaised t b b' := by
  rw [Ledger.after_announced_of_kind_ne _ _ (by simp [Event.kind])] at h
  obtain ⟨hfleet, hcalls, hpublished⟩ := Ledger.mk.inj h
  exact ⟨hfleet, hcalls, hpublished⟩

lemma assignedTo_of_ledger (hw : ∀ c ∈ b.fleet, c.WellFormed) (ht : t.direction.isHall = true)
    (h : b'.ledger = (b.ledger.after (.announced (.hallCallRaised t.floor t.direction))).after
      (.assigning b.strategy t cars)) : AssignedTo t cars b b' := by
  rw [Ledger.after_announced_of_kind_ne _ _ (by simp [Event.kind])] at h
  have hgained : List.Forall₂ (fun c c' => if c.id ∈ cars then c.Gains t c' else c' = c) b.fleet
      (b.fleet.map fun c => if c.id ∈ cars then c.enqueue t else c) := by
    rw [List.forall₂_map_right_iff]
    refine List.forall₂_same.mpr fun c hm => ?_
    split_ifs
    · exact Car.gains_enqueue (hw c hm) ht
    · rfl
  unfold Deed.assigning at h
  split_ifs at h with hs
  · obtain ⟨hfleet, hcalls, hpublished⟩ := Ledger.mk.inj h
    change b'.calls = b.calls.register t cars at hcalls
    have hholders := HallCalls.holders?_register b.calls t cars
    rw [← hcalls] at hholders
    refine ⟨?_, ?_, fun _ => ⟨fun u hu => by rw [hholders, if_neg hu], ?_⟩, fun hn => ?_⟩
    · rw [hpublished]
      simp [Deed.event?, ledger]
    · rw [hfleet]
      exact hgained
    · exact ⟨_, by rw [hholders, if_pos rfl], HallCalls.mem_foldl_insertHolder _ _⟩
    · rw [hs] at hn
      cases hn
  · obtain ⟨hfleet, hcalls, hpublished⟩ := Ledger.mk.inj h
    refine ⟨?_, ?_, fun hn => absurd hn hs, fun _ => hcalls⟩
    · rw [hpublished]
      simp [Deed.event?, ledger]
    · rw [hfleet]
      exact hgained

/-- The first number that no car has is the one that is found unknown. -/
lemma unknown?_of_first {f : Fleet} {known rest : List CarId} {id : CarId}
    (hknown : ∀ k ∈ known, k ∈ f.ids) (hid : id ∉ f.ids) :
    f.unknown? (known ++ id :: rest) = some id := by
  refine List.find?_eq_some_iff_append.mpr ⟨?_, known, rest, rfl, fun k hk => ?_⟩
  · simpa [Option.isNone_iff_eq_none] using Fleet.car?_eq_none_iff.mpr hid
  · have hfound : f.car? k ≠ none := fun hn => Fleet.car?_eq_none_iff.mp hn (hknown k hk)
    simpa [Option.isSome_iff_ne_none] using hfound

/-- A hall call for a landing's direction is raised and then dispatched as on the ledger. -/
lemma Orderly.hallCall (h : b.Orderly) (floor : Int) {direction : Direction}
    (hd : direction.isHall = true) :
    ∃ l r, (b.ledger.after (.announced (.hallCallRaised floor direction))).dispatch b.strategy
        ⟨floor, direction⟩ = (l, r) ∧
      (b.perform (.hallCall floor direction)).2 = .ofExcept r ∧
      (b.perform (.hallCall floor direction)).1.ledger = l := by
  obtain ⟨hanswer, hstands⟩ := h.stands.hallCall h.cars (react_passive (b.callbacks + 0)) floor
    direction
  have hledger := congrArg (·.ledger) hstands.standing
  unfold Ledger.hallCall at hanswer hledger
  rw [if_pos hd] at hanswer hledger
  exact ⟨_, _, rfl, congrArg Answer.ofExcept hanswer, hledger⟩

/-- What a hall call comes to depends on its direction and on the strategy's choice alone. For
direction `idle` it is refused and changes nothing. If the strategy breaks down, chooses nobody
or lets the call go to a car there is not, it has been raised and has no other effect. Else
the cars it goes to, in the order they were chosen, all have it. -/
theorem Fresh.all_or_nothing {floors : List Int} {s : Strategy} {before : List Op}
    (hb : b.Fresh floors s) (hbefore : ∀ op ∈ before, op.IsSilent) (floor : Int)
    (direction : Direction) :
    let state := b.run before
    let after := (state.perform (.hallCall floor direction)).1
    let answer := (state.perform (.hallCall floor direction)).2
    let t : Target := ⟨floor, direction⟩
    let choice := state.strategy.select floor direction state.fleet.snapshots
    (direction = .idle →
      after = state ∧ answer = .error (.invalidDirection floor direction)) ∧
    (direction ≠ .idle →
      (∀ reason, choice = .error reason →
        answer = .refused (.panic reason) ∧ OnlyRaised t state after) ∧
      (choice = .ok [] → answer = .outcome .dropped ∧ OnlyRaised t state after) ∧
      ∀ chosen, choice = .ok chosen → chosen ≠ [] →
        let cars := if state.strategy.isBroadcast then chosen else chosen.take 1
        (∀ known id rest, cars = known ++ id :: rest → (∀ k ∈ known, k ∈ state.fleet.ids) →
          id ∉ state.fleet.ids →
          answer = .error (.unknownElevator id) ∧ OnlyRaised t state after) ∧
        ((∀ id ∈ cars, id ∈ state.fleet.ids) →
          answer = .outcome (.assigned cars) ∧ AssignedTo t cars state after)) := by
  have hstate := hb.orderly.run hbefore
  generalize b.run before = state at hstate
  intro _ after answer t choice
  refine ⟨?_, fun hd => ?_⟩
  · rintro rfl
    exact ⟨rfl, rfl⟩
  · have ht : direction.isHall = true := by cases direction <;> simp_all [Direction.isHall]
    obtain ⟨l, r, hdispatch, hanswer, hledger⟩ := hstate.hallCall floor ht
    have hfleet := Ledger.raised_fleet state.ledger floor direction
    have hchoice : state.strategy.select floor direction (state.ledger.after
        (.announced (.hallCallRaised floor direction))).fleet.snapshots = choice := by
      rw [hfleet]
      rfl
    refine ⟨fun reason hc => ?_, fun hc => ?_, fun chosen hc hne => ?_⟩
    · rw [Ledger.dispatch_of_error (hchoice.trans hc)] at hdispatch
      cases hdispatch
      exact ⟨hanswer, onlyRaised_of_ledger hledger⟩
    · rw [Ledger.dispatch_of_nil (hchoice.trans hc)] at hdispatch
      cases hdispatch
      exact ⟨hanswer, onlyRaised_of_ledger hledger⟩
    · intro cars
      refine ⟨fun known id rest hcars hknown hid => ?_, fun hknown => ?_⟩
      · have hu : (state.ledger.after (.announced (.hallCallRaised floor direction))).fleet.unknown?
            (kept state.strategy chosen) = some id := by
          rw [hfleet, show kept state.strategy chosen = _ from hcars]
          exact unknown?_of_first hknown hid
        rw [Ledger.dispatch_of_unknown (hchoice.trans hc) hne hu] at hdispatch
        cases hdispatch
        exact ⟨hanswer, onlyRaised_of_ledger hledger⟩
      · have hu : (state.ledger.after (.announced (.hallCallRaised floor direction))).fleet.unknown?
            (kept state.strategy chosen) = none := by
          rw [hfleet]
          exact Fleet.unknown?_eq_none_iff.mpr hknown
        rw [Ledger.dispatch_of_known (hchoice.trans hc) hne hu] at hdispatch
        cases hdispatch
        exact ⟨hanswer, assignedTo_of_ledger hstate.cars ht hledger⟩

/-- Racing cars 2 and 1 do not get a call that cars 7 and 9 were chosen for too, which are not
there. Where only the first car is to serve it, the second need not be there. -/
theorem Fresh.all_or_nothing_absent : ∃ b, Bank.start {} = .ok b ∧
    (∃ state, state = b.run [.hallCall 3 .up, .setStrategy (.fixed .broadcast [2, 7, 1, 9])] ∧
      (state.perform (.hallCall 3 .up)).2 = .error (.unknownElevator 7) ∧
      OnlyRaised ⟨3, .up⟩ state (state.perform (.hallCall 3 .up)).1) ∧
    ∃ state, state = b.run [.setStrategy (.fixed .exclusiveEta [2, 7])] ∧
      (state.perform (.hallCall 3 .up)).2 = .outcome (.assigned [2]) ∧
      AssignedTo ⟨3, .up⟩ [2] state (state.perform (.hallCall 3 .up)).1 := by
  have hstart : Bank.start {} = .ok _ := rfl
  refine ⟨_, hstart, ⟨_, rfl, ?_⟩, _, rfl, ?_⟩
  · have hsilent : ∀ op ∈ [Op.hallCall 3 .up, .setStrategy (.fixed .broadcast [2, 7, 1, 9])],
        op.IsSilent := by simp [Op.IsSilent]
    obtain ⟨-, hhall⟩ := (Fresh.started hstart).all_or_nothing hsilent 3 .up
    obtain ⟨-, -, hchosen⟩ := hhall (by decide)
    obtain ⟨hunknown, -⟩ := hchosen [2, 7, 1, 9] rfl (by decide)
    exact hunknown [2] 7 [1, 9] rfl (by decide) (by decide)
  · have hsilent : ∀ op ∈ [Op.setStrategy (.fixed .exclusiveEta [2, 7])], op.IsSilent := by
      simp [Op.IsSilent]
    obtain ⟨-, hhall⟩ := (Fresh.started hstart).all_or_nothing hsilent 3 .up
    obtain ⟨-, -, hchosen⟩ := hhall (by decide)
    obtain ⟨-, hknown⟩ := hchosen [2, 7] rfl (by decide)
    exact hknown (by decide)

end Bank
end ElevatorBank
