import ElevatorBank.Proofs.Delivery
import ElevatorBank.Proofs.Undisturbed

/-!
# Motion

What the events tell of where a car goes. Within a span of floors a step of a car tells of what it
has done and of nothing else (`Car.advance_reports`): of one floor at most towards the nearest stop
that lies ahead, so that no stop is passed by. The moves that are told of a car in the course of
time make up a way from where it has been to where it is (`Event.Walk`), since a car has moved
before anybody is told of it and can be stepped again. Handlers that call back may add to the way,
as long as they publish no moves of their own and send no car out of the span.
-/
namespace ElevatorBank

/-- Among the events the moves of a car lead it from one floor to another, each to the next floor
and in the direction that it tells. -/
inductive Event.Walk (id : CarId) (start : Int) : List Event → Int → Prop
  | here : Walk id start [] start
  | moved {events : List Event} {floor next : Int} (h : Walk id start events floor)
    (hnext : (next - floor).natAbs = 1) :
    Walk id start (events ++ [.carMoved id floor next (.between floor next)]) next
  /-- Any other event, also if it tells of another car's move. -/
  | other {events : List Event} {floor : Int} {event : Event} (h : Walk id start events floor)
    (hother : ∀ source target route, event ≠ .carMoved id source target route) :
    Walk id start (events ++ [event]) floor

/-! ### Steps -/

namespace Car

/-- What a car tells of a step is what it has done. -/
structure Reports (c c' : Car) (events : List Event) : Prop where
  /-- It tells nothing just if nothing is queued, and then nothing has changed. -/
  quiet : c.isEmpty = true ↔ events = []
  unchanged : c.isEmpty = true → c' = c
  /-- It has moved to the next floor or not at all, and then served or not. A stop that it serves
  was queued in the set it was working on, and so was no stop that it moves to and leaves. -/
  told : ∃ moved served, events = moved ++ served ∧
    (moved = [] ∧ c'.floor = c.floor ∨
      moved = [.carMoved c.id c.floor c'.floor (.between c.floor c'.floor)] ∧
        (c'.floor - c.floor).natAbs = 1) ∧
    (served = [] ∨ served = [.stopServed c.id c'.floor c.direction] ∧
      c.direction.isHall = true ∧ c.hasStop c'.floor c.direction = true) ∧
    (moved ≠ [] → c.hasStop c'.floor c.direction = true → served ≠ [])
  /-- As long as an up-stop is queued, that is the set it is working on. -/
  upFirst : c.up ≠ [] → c.direction = .up

/-- A well-formed car that is between two floors with all its stops. -/
structure Housed (lo hi : Int) (c : Car) : Prop where
  wellFormed : c.WellFormed
  within : c.Within lo hi

variable {c : Car} {aim lo hi : Int} {set : Direction}

lemma Housed.enqueue (h : c.Housed lo hi) {t : Target} (ht : lo ≤ t.floor ∧ t.floor ≤ hi) :
    (c.enqueue t).Housed lo hi := ⟨h.wellFormed.enqueue t, h.within.enqueue h.wellFormed ht⟩

lemma Housed.withdraw (h : c.Housed lo hi) (t : Target) : (c.withdraw t).Housed lo hi :=
  ⟨h.wellFormed.withdraw t, (withdraw_fewer h.wellFormed t).within h.within⟩

lemma Housed.advance (hspan : Floor.Span lo hi) (h : c.Housed lo hi) : c.advance.1.Housed lo hi :=
  ⟨advance_wellFormed h.wellFormed, advance_within hspan h.wellFormed h.within⟩

/-- The direction that a car reports names the set of its aim. -/
lemma direction_of_aim (h : c.aim = some (aim, set)) : c.direction = set := by
  unfold direction
  obtain ⟨-, -, hn⟩ | ⟨floor, hup, ha⟩ | ⟨hup, floor, hdown, ha⟩ := aim_cases c
  · rw [hn] at h
    cases h
  · have hne : c.up ≠ [] := by
      intro hup'
      simp [upAim, hup', StopSet.floors] at hup
    rw [ha] at h
    cases h
    simp [hne]
  · have hne : c.down ≠ [] := by
      intro hdown'
      simp [downAim, hdown', StopSet.floors] at hdown
    rw [ha] at h
    cases h
    simp [hup, hne]

/-- No stop of the set lies between a car and its aim. -/
lemma aim_of_hasStop (hspan : Floor.Span lo hi) (hc : c.Housed lo hi)
    (h : c.aim = some (aim, set)) (hs : c.hasStop (Floor.next c.floor aim) set = true) :
    Floor.next c.floor aim = aim := by
  have hw := hc.wellFormed
  have hnext := hc.within.next_cases hspan hw h
  obtain ⟨-, -, hn⟩ | ⟨floor, hup, ha⟩ | ⟨-, floor, hdown, ha⟩ := aim_cases c
  · rw [hn] at h
    cases h
  · rw [ha] at h
    cases h
    have hm := (StopSet.has_eq_true_iff_mem _ _).mp hs
    obtain ⟨-, ⟨hle, hnear⟩ | ⟨hlt, hfar⟩⟩ := upAim_spec hw hup
    · have := hnear _ hm (by omega)
      omega
    · have := hfar _ hm
      omega
  · rw [ha] at h
    cases h
    have hm := (StopSet.has_eq_true_iff_mem _ _).mp hs
    obtain ⟨-, ⟨hle, hnear⟩ | ⟨hlt, hfar⟩⟩ := downAim_spec hw hdown
    · have := hnear _ hm (by omega)
      omega
    · have := hfar _ hm
      omega

theorem advance_reports (hspan : Floor.Span lo hi) (hc : c.Housed lo hi) :
    c.Reports c.advance.1 c.advance.2 := by
  have hw := hc.wellFormed
  have hup : c.up ≠ [] → c.direction = .up := fun hne => by simp [direction, hne]
  obtain ⟨hu, hd, -, hadv⟩ | ⟨aim, set, ha, hset, hstop, hstep⟩ := step_cases hw
  · have hempty : c.isEmpty = true := by simp [isEmpty, hu, hd]
    rw [hadv]
    exact ⟨by simp [hempty], fun _ => rfl, ⟨[], [], rfl, .inl ⟨rfl, rfl⟩, .inl rfl, by simp⟩, hup⟩
  · have hdirection := direction_of_aim ha
    have hbusy : ¬c.isEmpty = true := by
      intro hempty
      have hnone : c.up = [] ∧ c.down = [] := by simpa [isEmpty] using hempty
      cases set <;> simp [hasStop, hnone, StopSet.has] at hstop
    have hnext := hc.within.next_cases hspan hw ha
    obtain ⟨hin, -, hadv⟩ | ⟨floor, rfl, hne, ⟨hthere, -, hadv⟩ | ⟨hnot, -, hadv⟩⟩ := hstep
    · rw [hadv]
      refine ⟨by simp [hbusy], fun h => absurd h hbusy, ⟨[], _, rfl, ?_, ?_, by simp⟩, hup⟩
      · exact .inl ⟨rfl, serve_floor c aim set⟩
      · rw [serve_floor, hdirection, ← hin]
        exact .inr ⟨rfl, hset, hstop⟩
    · rw [hadv]
      refine ⟨by simp [hbusy], fun h => absurd h hbusy, ⟨[_], [_], rfl, ?_, ?_, by simp⟩, hup⟩
      · rw [serve_floor]
        exact .inr ⟨rfl, by dsimp only; omega⟩
      · rw [serve_floor, hdirection, hthere]
        exact .inr ⟨rfl, hset, hstop⟩
    · have hpassed : c.hasStop (Floor.next c.floor aim) c.direction = false := by
        rw [hdirection]
        exact Bool.eq_false_iff.mpr fun hs => hnot (aim_of_hasStop hspan hc ha hs)
      rw [hadv]
      refine ⟨by simp [hbusy], fun h => absurd h hbusy, ⟨[_], [], rfl, ?_, .inl rfl, ?_⟩, hup⟩
      · exact .inr ⟨rfl, by dsimp only; omega⟩
      · simp [hpassed]

/-- The first event of a step is the move, if there is one. -/
lemma advance_moves (hspan : Floor.Span lo hi) (hc : c.Housed lo hi) :
    (∃ rest, c.advance.2 =
        .carMoved c.id c.floor c.advance.1.floor (.between c.floor c.advance.1.floor) :: rest ∧
      (c.advance.1.floor - c.floor).natAbs = 1 ∧ ∀ event ∈ rest, event.kind ≠ .carMoved) ∨
    c.advance.1.floor = c.floor ∧ ∀ event ∈ c.advance.2, event.kind ≠ .carMoved := by
  cases ha : c.aim with
  | none => exact .inr (by simp [advance, ha])
  | some target =>
    obtain ⟨aim, set⟩ := target
    have hnext := hc.within.next_cases hspan hc.wellFormed ha
    by_cases hin : aim = c.floor
    · exact .inr (by simp [advance, ha, hin, Event.kind])
    · have hone : (Floor.next c.floor aim - c.floor).natAbs = 1 := by omega
      simp only [advance, ha, if_neg hin]
      split_ifs
      · exact .inl ⟨[.stopServed c.id aim set], by simp, by simpa using hone, by simp [Event.kind]⟩
      · exact .inl ⟨[], rfl, hone, by simp⟩

end Car

/-! ### Ways -/

/-- The operation does not publish a move, and sends no car out of the floors between two. -/
structure Op.IsLocal (lo hi : Int) (op : Op) : Prop where
  noMove : ∀ event, op = .publish event → event.kind ≠ .carMoved
  within : ∀ t, op.MayQueue t → lo ≤ t.floor ∧ t.floor ≤ hi

/-- Neither the operation nor a handler it subscribes publishes a move that no car has made or
sends a car out of the floors between two. -/
def Op.IsHonest (lo hi : Int) (op : Op) : Prop := op.Throughout (IsLocal lo hi)

lemma Op.IsHonest.isLocal {lo hi : Int} {op : Op} (h : op.IsHonest lo hi) : op.IsLocal lo hi := by
  cases op with
  | subscribe name kinds script => exact h.1
  | _ => exact h

namespace Bank

/-- The moves that have been published lead the cars from where they stood at first to where
they are, all of them are between two floors, and no handler on the bus publishes a move itself or
sends a car elsewhere. -/
structure Truthful (lo hi : Int) (origin : Fleet) (b : Bank) : Prop where
  scripts : ∀ script ∈ b.bus.scripts, callsThroughout (Op.IsLocal lo hi) script.calls
  housed : ∀ c ∈ b.fleet, c.Housed lo hi
  walk : ∀ {id c}, origin.car? id = some c →
    ∃ c', b.car? id = some c' ∧ Event.Walk id c.floor b.published c'.floor

/-- What is truthful stays so, wherever the cars stood at first. -/
def KeepsTruth (lo hi : Int) (b b' : Bank) : Prop :=
  ∀ origin, b.Truthful lo hi origin → b'.Truthful lo hi origin

variable {b b' : Bank} {lo hi : Int} {origin : Fleet} {react : React}

/-- The cars have changed one by one where they are, and nothing has been published. -/
lemma keepsTruth_of_map {g : Car → Car} (hid : ∀ c, (g c).id = c.id)
    (hfloor : ∀ c, (g c).floor = c.floor) (hhoused : ∀ c, c.Housed lo hi → (g c).Housed lo hi)
    (hfleet : b'.fleet = b.fleet.map g) (hpublished : b'.published = b.published)
    (hscripts : b'.bus.scripts = b.bus.scripts) : b.KeepsTruth lo hi b' := by
  intro origin h
  refine ⟨hscripts ▸ h.scripts, fun c hm => ?_, fun hc => ?_⟩
  · rw [hfleet] at hm
    obtain ⟨other, hother, rfl⟩ := List.mem_map.mp hm
    exact hhoused other (h.housed other hother)
  · obtain ⟨c', hc', hwalk⟩ := h.walk hc
    refine ⟨g c', ?_, ?_⟩
    · have hcar : b.fleet.car? _ = some c' := hc'
      rw [car?, hfleet, Fleet.car?_map hid, hcar, Option.map_some]
    · rw [hfloor, hpublished]
      exact hwalk

lemma keepsTruth_of_fleet (hfleet : b'.fleet = b.fleet) (hpublished : b'.published = b.published)
    (hscripts : b'.bus.scripts = b.bus.scripts) : b.KeepsTruth lo hi b' := by
  refine keepsTruth_of_map (g := fun c => c) ?_ ?_ ?_ ?_ hpublished hscripts
  · exact fun _ => rfl
  · exact fun _ => rfl
  · exact fun _ h => h
  · rw [hfleet, List.map_id']

lemma keepsTruth_of_outline (ho : b'.outline = b.outline) : b.KeepsTruth lo hi b' :=
  keepsTruth_of_fleet (fleet_of_outline ho) (congrArg (·.ledger.history) ho)
    (congrArg (·.bus.scripts) ho)

lemma keepsTruth_change {id : CarId} {g : Car → Car} (hid : ∀ c, (g c).id = c.id)
    (hfloor : ∀ c, (g c).floor = c.floor) (hhoused : ∀ c, c.Housed lo hi → (g c).Housed lo hi)
    (ho : b'.outline = { b with fleet := b.fleet.change id g }.outline) :
    b.KeepsTruth lo hi b' := by
  refine keepsTruth_of_map ?_ ?_ ?_ (fleet_of_outline ho) (congrArg (·.ledger.history) ho)
    (congrArg (·.bus.scripts) ho)
  · intro c
    split_ifs <;> simp [hid]
  · intro c
    split_ifs <;> simp [hfloor]
  · intro c h
    split_ifs
    · exact hhoused c h
    · exact h

lemma KeepsTruth.trans {c : Bank} (h : b.KeepsTruth lo hi b') (h' : b'.KeepsTruth lo hi c) :
    b.KeepsTruth lo hi c :=
  fun origin hb => h' origin (h origin hb)

lemma keepsTruth_enqueue (b : Bank) (c : Car) {t : Target} (ht : lo ≤ t.floor ∧ t.floor ≤ hi) :
    b.KeepsTruth lo hi (b.enqueue c t) :=
  keepsTruth_change (Car.enqueue_id · t) (Car.enqueue_floor · t) (fun _ h => h.enqueue ht)
    (outline_enqueue b c t)

lemma keepsTruth_withdrawFromOthers (b : Bank) (id : CarId) (t : Target) :
    b.KeepsTruth lo hi (b.withdrawFromOthers id t).1 := by
  have ho := outline_withdrawFromOthers b id t
  refine keepsTruth_of_map ?_ ?_ ?_ (fleet_of_outline ho) (congrArg (·.ledger.history) ho)
    (congrArg (·.bus.scripts) ho)
  · intro c
    split_ifs <;> simp
  · intro c
    split_ifs <;> simp
  · intro c h
    split_ifs
    · exact h
    · exact h.withdraw t

lemma keepsTruth_resolve (b : Bank) (id : CarId) (t : Target) :
    b.KeepsTruth lo hi (b.resolve id t).1 := by
  have hothers : b.KeepsTruth lo hi (b.withdrawFromOthers id t).1 :=
    keepsTruth_withdrawFromOthers b id t
  unfold resolve
  split
  · exact fun _ h => h
  · have hbooked : (b.withdrawFromOthers id t).1.KeepsTruth lo hi
        { (b.withdrawFromOthers id t).1 with
          calls := (b.withdrawFromOthers id t).1.calls.resolve t } :=
      keepsTruth_of_fleet rfl rfl rfl
    exact (hothers.trans hbooked).trans (keepsTruth_of_outline (outline_say _ _ _ _))

section
variable {t : Target} (ht : lo ≤ t.floor ∧ t.floor ≤ hi)
include ht

lemma keepsTruth_foldl_enqueueOn (cars : List CarId) (b : Bank) :
    b.KeepsTruth lo hi (cars.foldl (enqueueOn t) b) := by
  induction cars generalizing b with
  | nil => exact fun _ h => h
  | cons id rest ih =>
    exact (keepsTruth_change (Car.enqueue_id · t) (Car.enqueue_floor · t)
      (fun _ h => h.enqueue ht) (outline_enqueueOn t b id)).trans (ih _)

lemma keepsTruth_register (b : Bank) (cars : List CarId) :
    b.KeepsTruth lo hi (b.register t cars).1 := by
  have hbooked : b.KeepsTruth lo hi { b with calls := b.calls.register t cars } :=
    keepsTruth_of_fleet rfl rfl rfl
  exact (hbooked.trans (keepsTruth_foldl_enqueueOn ht cars _)).trans
    (keepsTruth_of_outline (outline_say _ _ _ _))

end

theorem enduring_keepsTruth : Enduring (Op.IsHonest lo hi) (KeepsTruth lo hi) where
  refl _ _ h := h
  trans := .trans
  apart {b b'} hfleet _ _ hbus htrace := by
    refine keepsTruth_of_fleet hfleet ?_ (by rw [hbus])
    unfold published
    rw [htrace]
  log b r := keepsTruth_of_outline (outline_log b r)
  queue _ _ _ _ := keepsTruth_of_fleet rfl rfl rfl
  enqueue hop ht _ := keepsTruth_enqueue _ _ (hop.isLocal.within _ ht)
  setMode mode _ := by
    refine keepsTruth_change ?_ ?_ ?_ (outline_setMode _ _ mode)
    · exact fun _ => rfl
    · exact fun _ => rfl
    · exact fun _ h => ⟨⟨h.wellFormed.up, h.wellFormed.down⟩,
        ⟨h.within.lower, h.within.upper, h.within.up, h.within.down⟩⟩
  resolve := keepsTruth_resolve
  assign s t cars hop ht _ _ _ h := by
    have hin := hop.isLocal.within t ht
    refine h.trans ?_
    unfold assign
    split_ifs
    · exact keepsTruth_register hin _ cars
    · exact keepsTruth_foldl_enqueueOn hin cars _
  withdraw {_ _ _ t} _ _ :=
    keepsTruth_change (Car.withdraw_id · t) (Car.withdraw_floor · t) (fun _ h => h.withdraw t)
      (outline_withdraw _ _ t)
  withdrawFromOthers _ := keepsTruth_withdrawFromOthers _ _ _
  register hop _ := keepsTruth_register (hop.isLocal.within _ rfl) _ _
  subscribe {b name kinds script} hop := by
    refine fun origin h => ⟨fun other hm => ?_, h.housed, h.walk⟩
    obtain hm | hm := List.mem_append.mp hm
    · exact h.scripts other hm
    · obtain rfl := List.mem_singleton.mp hm
      cases other
      exact hop.2
  unsubscribe _ := keepsTruth_of_fleet rfl rfl rfl

/-! ### Publishing and stepping -/

/-- Whatever the handlers do once they are told of an event, be it of a move. -/
lemma keepsTruth_publish_opened (hr : HandlersKeep (KeepsTruth lo hi) react) (b : Bank)
    (event : Event) :
    (b.opened event).KeepsTruth lo hi (publish react b event).1 :=
  enduring_keepsTruth.publish_opened (fun b _ hn => keepsTruth_of_outline (outline_note b hn))
    (fun _ => keepsTruth_of_fleet rfl rfl rfl) hr b event

lemma keepsTruth_publish (hr : HandlersKeep (KeepsTruth lo hi) react) (b : Bank) {event : Event}
    (hevent : event.kind ≠ .carMoved) : b.KeepsTruth lo hi (publish react b event).1 := by
  refine KeepsTruth.trans ?_ (keepsTruth_publish_opened hr b event)
  refine fun origin h => ⟨h.scripts, h.housed, fun hc => ?_⟩
  obtain ⟨c', hc', hwalk⟩ := h.walk hc
  refine ⟨c', hc', ?_⟩
  rw [published_opened]
  apply hwalk.other
  rintro source target route rfl
  exact hevent rfl

lemma keepsTruth_publishAll (hr : HandlersKeep (KeepsTruth lo hi) react) (b : Bank)
    {events : List Event} (hevents : ∀ event ∈ events, event.kind ≠ .carMoved) :
    b.KeepsTruth lo hi (publishAll react b events) :=
  enduring_keepsTruth.publishAll (fun b event hm => keepsTruth_publish hr b (hevents event hm)) b

/-- One car has changed, and what has been published since leads it to where it is now and tells
of no move of another car. -/
lemma Truthful.change (h : b.Truthful lo hi origin) {c c' : Car} (hc : b.car? c.id = some c)
    (hid : c'.id = c.id) (hc' : c'.Housed lo hi)
    (hfleet : b'.fleet = b.fleet.change c.id fun _ => c')
    (hscripts : b'.bus.scripts = b.bus.scripts)
    (hown : ∀ {start}, Event.Walk c.id start b.published c.floor →
      Event.Walk c.id start b'.published c'.floor)
    (hothers : ∀ {id start floor}, id ≠ c.id → Event.Walk id start b.published floor →
      Event.Walk id start b'.published floor) :
    b'.Truthful lo hi origin := by
  refine ⟨hscripts ▸ h.scripts, fun other hm => ?_, fun {id c₀} hc₀ => ?_⟩
  · rw [hfleet] at hm
    obtain ⟨before, hbefore, rfl⟩ := List.mem_map.mp hm
    split_ifs
    · exact hc'
    · exact h.housed before hbefore
  obtain ⟨now, hnow, hwalk⟩ := h.walk hc₀
  rw [car?, hfleet]
  by_cases hother : id = c.id
  · subst hother
    obtain rfl : c = now := Option.some.inj (hc.symm.trans hnow)
    exact ⟨c', Fleet.car?_change hc hid, hown hwalk⟩
  · exact ⟨now, (Fleet.car?_change_of_ne hid hother).trans hnow, hothers hother hwalk⟩

/-- A move has been published, and the car is where it has moved to. -/
lemma Truthful.moved (h : b.Truthful lo hi origin) {c c' : Car} (hc : b.car? c.id = some c)
    (hid : c'.id = c.id) (hc' : c'.Housed lo hi) (hnext : (c'.floor - c.floor).natAbs = 1) :
    ({ b with fleet := b.fleet.change c.id fun _ => c' }.opened
      (.carMoved c.id c.floor c'.floor (.between c.floor c'.floor))).Truthful lo hi origin := by
  have hpublished := published_opened { b with fleet := b.fleet.change c.id fun _ => c' }
    (.carMoved c.id c.floor c'.floor (.between c.floor c'.floor))
  refine h.change hc hid hc' rfl rfl ?_ ?_
  · intro start hwalk
    rw [hpublished]
    exact hwalk.moved hnext
  · intro id start floor hother hwalk
    rw [hpublished]
    apply hwalk.other
    rintro source target route heq
    cases heq
    exact hother rfl

lemma carsKeep_keepsTruth (hspan : Floor.Span lo hi) (hr : HandlersKeep (KeepsTruth lo hi) react) :
    CarsKeep (KeepsTruth lo hi) react := by
  intro b id origin h
  unfold stepCar
  cases hc : b.car? id with
  | none => exact h
  | some c =>
    obtain rfl : c.id = id := by simpa using List.find?_some hc
    have hhoused := h.housed c (List.mem_of_find?_eq_some hc)
    have hhoused' := hhoused.advance hspan
    dsimp only
    obtain ⟨rest, hevents, hnext, hrest⟩ | ⟨hfloor, hevents⟩ := Car.advance_moves hspan hhoused
    · have hopened := h.moved hc c.advance_id hhoused' hnext
      rw [hevents]
      exact keepsTruth_publishAll hr _ hrest _ (keepsTruth_publish_opened hr _ _ _ hopened)
    · have hthere :
          { b with fleet := b.fleet.change c.id fun _ => c.advance.1 }.Truthful lo hi origin :=
        h.change hc c.advance_id hhoused' rfl rfl (fun hwalk => hfloor ▸ hwalk) fun _ hwalk => hwalk
      exact keepsTruth_publishAll hr _ hevents _ hthere

/-! ### Runs -/

lemma keepsTruth_performWith (hspan : Floor.Span lo hi)
    (hr : HandlersKeep (KeepsTruth lo hi) react) (b : Bank) {op : Op} (hop : op.IsHonest lo hi) :
    b.KeepsTruth lo hi (performWith react b op).1 := by
  refine enduring_keepsTruth.performWith (fun b event hevent => keepsTruth_publish hr b ?_)
    (fun b event hpublish => keepsTruth_publish hr b (hpublish.isLocal.noMove event rfl))
    (carsKeep_keepsTruth hspan hr) b hop
  cases event <;> simp_all [Event.car?, Event.kind]

lemma handlersKeep_of_react (hr : ∀ (b : Bank) sub {calls},
    callsThroughout (Op.IsLocal lo hi) calls → b.KeepsTruth lo hi (react b sub calls)) :
    HandlersKeep (KeepsTruth lo hi) react := by
  intro b slot sub origin h
  obtain ⟨hmade, hscripts, -⟩ :=
    Bus.calls_react (P := callsThroughout (Op.IsLocal lo hi)) trivial h.scripts slot
  exact hr _ sub hmade origin ⟨hscripts, h.housed, h.walk⟩

/-- Handlers that follow scripts do no more than their scripts say. -/
lemma keepsTruth_react (hspan : Floor.Span lo hi) (depth : Nat) (b : Bank) (sub : Subscription)
    {calls : List Op} (hcalls : callsThroughout (Op.IsLocal lo hi) calls) :
    b.KeepsTruth lo hi (Bank.react depth b sub calls) := by
  induction depth generalizing b sub calls with
  | zero => exact fun _ h => h
  | succ depth ih =>
    unfold Bank.react
    induction calls generalizing b with
    | nil => exact fun _ h => h
    | cons op rest ihcalls =>
      have hmade := keepsTruth_performWith hspan (handlersKeep_of_react ih) b hcalls.1
      have hnoted := hmade.trans (keepsTruth_of_outline (outline_note _
        (n := .answered sub (performWith (Bank.react depth) b op).2) (by simp)))
      exact hnoted.trans (ihcalls _ hcalls.2)

theorem Truthful.run (hspan : Floor.Span lo hi) (h : b.Truthful lo hi origin) {ops : List Op}
    (hops : ∀ op ∈ ops, op.IsHonest lo hi) : (b.run ops).Truthful lo hi origin := by
  induction ops generalizing b with
  | nil => exact h
  | cons op rest ih =>
    have hr := handlersKeep_of_react (keepsTruth_react hspan (b.callbacks + op.callbacks))
    have hfirst := keepsTruth_performWith hspan hr b (hops op List.mem_cons_self) origin h
    exact ih hfirst fun op hop => hops op (List.mem_cons_of_mem _ hop)

/-- An event is published before anything that handlers publish on account of it. -/
lemma exists_published_publish (depth : Nat) (b : Bank) (event : Event) : ∃ more,
    (publish (Bank.react depth) b event).1.published = b.published ++ event :: more := by
  obtain ⟨errors, logs, deliveries, hpublishes, -⟩ :=
    exists_publishes (fun c sub calls => (handled_react depth c sub calls).exists_grows) b event
  unfold published
  rw [hpublishes.trace, List.reverse_append, List.reverse_reverse, List.filterMap_append,
    publication, List.cons_append, List.filterMap_cons]
  exact ⟨_, rfl⟩

lemma exists_published_publishAll (depth : Nat) (b : Bank) (events : List Event) : ∃ told,
    (publishAll (Bank.react depth) b events).published = b.published ++ told ∧
      events.Sublist told := by
  induction events generalizing b with
  | nil => exact ⟨[], (List.append_nil _).symm, .slnil⟩
  | cons event rest ih =>
    obtain ⟨more, hfirst⟩ := exists_published_publish depth b event
    obtain ⟨told, hrest, hsub⟩ := ih (publish (Bank.react depth) b event).1
    refine ⟨event :: (more ++ told), ?_, (hsub.trans (List.sublist_append_right _ _)).cons_cons _⟩
    calc (publishAll (Bank.react depth) b (event :: rest)).published
        = b.published ++ event :: more ++ told := by rw [← hfirst]; exact hrest
      _ = b.published ++ event :: (more ++ told) := by simp

/-- A bank on which nothing has happened: its cars are at rest between two floors, and its
handlers, if there are any, publish no moves and send no car elsewhere. -/
structure Untouched (lo hi : Int) (b : Bank) : Prop where
  cars : ∀ c ∈ b.fleet, ∃ floor, (lo ≤ floor ∧ floor ≤ hi) ∧ c = Car.start c.id floor
  published : b.published = []
  scripts : ∀ script ∈ b.bus.scripts, callsThroughout (Op.IsLocal lo hi) script.calls

lemma Fresh.untouched {floors : List Int} {s : Strategy} (h : b.Fresh floors s)
    (hfloors : ∀ floor ∈ floors, lo ≤ floor ∧ floor ≤ hi) : b.Untouched lo hi := by
  obtain ⟨hfleet, -, hpublished⟩ := Ledger.mk.inj h.shows.ledger
  refine ⟨?_, hpublished, fun script hm => ?_⟩
  · rw [hfleet]
    intro c hm
    obtain ⟨id, floor, hfloor, rfl⟩ := Fleet.mem_start hm
    exact ⟨floor, hfloors floor hfloor, rfl⟩
  · rw [h.shows.calm.silent script hm]
    trivial

/-- A step of one car answers with the events of the step. -/
lemma perform_stepCar {id : CarId} {c : Car} (hc : b.car? id = some c) :
    b.perform (.stepCar id 1) =
      ((stepCar (Bank.react b.callbacks) b id).1, .events c.advance.2) := by
  have hevents : (stepCar (Bank.react b.callbacks) b id).2 = c.advance.2 := by
    unfold stepCar
    rw [hc]
  rw [← hevents]
  refine (onCar_of_car? hc _).trans ?_
  exact congrArg (fun events => (_, Answer.events events)) (List.append_nil _)

/-- Whatever has been asked of a bank, and however handlers have called back, as long as nobody
but a car tells of a move and nobody sends a car out of a span of floors: the moves that have been
published lead every car one floor at a time from where it stood at first to where it is. A step of
the car answers with what it has done and publishes just that, if no handler calls back, and
otherwise that with what the handlers do in between. -/
theorem Untouched.motion_told {lo hi : Int} (hspan : Floor.Span lo hi) (hb : b.Untouched lo hi)
    {ops : List Op} (hops : ∀ op ∈ ops, op.IsHonest lo hi) {id : CarId} {c₀ : Car}
    (hc₀ : b.car? id = some c₀) :
    let after := b.run ops
    ∃ c, after.car? id = some c ∧ Event.Walk id c₀.floor after.published c.floor ∧
      ∃ c' events told, c.Reports c' events ∧
        (after.perform (.stepCar id 1)).2 = .events events ∧
        (after.perform (.stepCar id 1)).1.published = after.published ++ told ∧
        events.Sublist told ∧
        (after.bus.Still → told = events ∧
          (after.perform (.stepCar id 1)).1.car? id = some c') := by
  intro after
  have hhoused : ∀ c ∈ b.fleet, c.Housed lo hi := by
    intro c hm
    obtain ⟨floor, hfloor, hstart⟩ := hb.cars c hm
    rw [hstart]
    have hnone : ∀ g, StopSet.has [] g = true → lo ≤ g ∧ g ≤ hi := fun _ h => by cases h
    exact ⟨Car.start_wellFormed _ _, hfloor.1, hfloor.2, hnone, hnone⟩
  have htruthful : b.Truthful lo hi b.fleet := by
    refine ⟨hb.scripts, hhoused, fun {id c} hc => ⟨c, hc, ?_⟩⟩
    rw [hb.published]
    exact .here
  have hafter := htruthful.run hspan hops
  obtain ⟨c, hc, hwalk⟩ := hafter.walk hc₀
  have hcar := hafter.housed c (List.mem_of_find?_eq_some hc)
  rw [perform_stepCar hc]
  obtain ⟨told, hpublished, hsub⟩ : ∃ told,
      (stepCar (Bank.react after.callbacks) after id).1.published = after.published ++ told ∧
        c.advance.2.Sublist told := by
    unfold stepCar
    rw [hc]
    exact exists_published_publishAll _ _ _
  refine ⟨c, hc, hwalk, c.advance.1, c.advance.2, told, Car.advance_reports hspan hcar, rfl,
    hpublished, hsub, fun hstill => ?_⟩
  have hrode := rode_stepCar (react_passive after.callbacks) hstill hc
  exact ⟨List.append_cancel_left (hpublished.symm.trans hrode.published), hrode.car⟩

/-- A handler that is told of a move of car 1 lets it make the next one. Turned back from floor 2
by an up-stop behind it the car still moves on its way, and tells of it. -/
theorem Untouched.motion_told_stepped_again : ∃ b, Bank.start {} = .ok b ∧
    let ops : List Op := [.subscribe "again" [.carMoved] ⟨[.stepCar 1 1], 1, .panic none⟩,
      .carCall 1 5, .stepCar 1 1, .withdraw 1 ⟨5, .idle⟩, .enqueue 1 ⟨1, .up⟩,
      .setMode 1 .maintenance]
    let after := b.run ops
    after.published = [.carMoved 1 0 1 .up, .carMoved 1 1 2 .up] ∧
      ∃ c, after.car? 1 = some c ∧ Event.Walk 1 0 after.published c.floor ∧
        ∃ c' events told, c.Reports c' events ∧
          (after.perform (.stepCar 1 1)).2 = .events events ∧
          (after.perform (.stepCar 1 1)).1.published = after.published ++ told ∧
          events.Sublist told ∧ events = [.carMoved 1 2 1 .down, .stopServed 1 1 .up] := by
  have hstart : Bank.start {} = .ok _ := rfl
  refine ⟨_, hstart, ?_⟩
  intro ops after
  have hspan : Floor.Span 0 5 := ⟨by decide, by decide, by decide⟩
  have hlocal : (Op.stepCar 1 1).IsLocal 0 5 := ⟨by simp, by simp [Op.MayQueue]⟩
  have hops : ∀ op ∈ ops, op.IsHonest 0 5 := by
    simp only [ops, List.forall_mem_cons]
    refine ⟨⟨⟨by simp, by simp [Op.MayQueue]⟩, hlocal, trivial⟩, ⟨by simp, ?_⟩, hlocal,
      ⟨by simp, by simp [Op.MayQueue]⟩, ⟨by simp, ?_⟩, ⟨by simp, by simp [Op.MayQueue]⟩, by simp⟩
    all_goals
      rintro t rfl
      decide
  obtain ⟨c, hc, hwalk, c', events, told, hreports, hevents, hpublished, hsub, -⟩ :=
    @Untouched.motion_told _ 0 5 hspan ((Fresh.started hstart).untouched (by decide)) ops hops 1
      (.start 1 0) rfl
  refine ⟨rfl, c, hc, hwalk, c', events, told, hreports, hevents, hpublished, hsub, ?_⟩
  have htold : (after.perform (.stepCar 1 1)).2 =
      .events [.carMoved 1 2 1 .down, .stopServed 1 1 .up] := rfl
  exact Answer.events.inj (hevents.symm.trans htold)

/-- Car 1 at floor -1 heads for the highest floor that there is. The way there leads down, past an
up-stop that it does not serve. -/
theorem stop_passed : ∃ b, Bank.start { startFloors := [-1] } = .ok b ∧
    let called := b.run [.enqueue 1 ⟨-2, .up⟩, .enqueue 1 ⟨0x7FFFFFFF, .up⟩]
    (called.perform (.stepCar 1 1)).2 = .events [.carMoved 1 (-1) (-2) .down] ∧
      ∃ c, called.car? 1 = some c ∧ ¬∃ c' events, c.Reports c' events ∧
        (called.perform (.stepCar 1 1)).2 = .events events := by
  refine ⟨_, rfl, ?_⟩
  intro called
  have htold : (called.perform (.stepCar 1 1)).2 = .events [.carMoved 1 (-1) (-2) .down] := rfl
  refine ⟨htold, _, rfl, ?_⟩
  rintro ⟨c', events, hreports, hevents⟩
  obtain rfl := Answer.events.inj (hevents.symm.trans htold)
  obtain ⟨moved, served, htells, hmoved, hserved, hpassed⟩ := hreports.told
  obtain ⟨rfl, -⟩ | ⟨rfl, -⟩ := hmoved
  · obtain rfl | ⟨rfl, -⟩ := hserved <;> cases htells
  · simp only [List.singleton_append, List.cons.injEq, Event.carMoved.injEq] at htells
    obtain ⟨⟨-, -, hfloor, -⟩, rfl⟩ := htells
    refine hpassed (List.cons_ne_nil _ _) ?_ rfl
    rw [← hfloor]
    decide

end Bank
end ElevatorBank
