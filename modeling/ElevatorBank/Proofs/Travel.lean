import ElevatorBank.Proofs.Quiet
import Mathlib.Logic.Function.Iterate

/-!
# Travel

A step of a car as deeds: at most one move and then at most one stop served. The steps
of a quiet bank are the steps of its ledger (`Shows.step`).
-/
namespace ElevatorBank

/-- What a car does in one step. -/
def Car.deeds (c : Car) : List Deed :=
  match c.aim with
  | none => []
  | some (aim, set) =>
    let floor := Floor.next c.floor aim
    (if aim = c.floor then [] else [.moved c.id c.floor floor])
      ++ if floor = aim then [.served c.id ⟨aim, set⟩] else []

/-- The deeds of a car under way. -/
def Deed.IsRideOf (id : CarId) : Deed → Prop
  | moved car .. | served car _ => car = id
  | _ => False

namespace Ledger

def stepCar (l : Ledger) (id : CarId) : Ledger :=
  match l.fleet.car? id with
  | none => l
  | some c => c.deeds.foldl after l

def step (l : Ledger) : Ledger := l.fleet.ids.foldl stepCar l

end Ledger

namespace Car

variable {c : Car}

/-- All that a step of a car can be: nothing without an aim, and with one a stop served in
place, a move that ends in a stop, or a move alone. -/
theorem step_cases (hw : c.WellFormed) :
    (c.up = [] ∧ c.down = [] ∧ c.deeds = [] ∧ c.advance = (c, [])) ∨
    ∃ aim set, c.aim = some (aim, set) ∧ set.isHall = true ∧ c.hasStop aim set = true ∧
      (aim = c.floor ∧ c.deeds = [.served c.id ⟨aim, set⟩] ∧
          c.advance = (c.serve aim set, [.stopServed c.id aim set]) ∨
        ∃ floor, floor = Floor.next c.floor aim ∧ aim ≠ c.floor ∧
          (floor = aim ∧ c.deeds = [.moved c.id c.floor floor, .served c.id ⟨aim, set⟩] ∧
              c.advance = ({ c with floor }.serve aim set,
                [.carMoved c.id c.floor floor (.between c.floor floor), .stopServed c.id aim set]) ∨
            floor ≠ aim ∧ c.deeds = [.moved c.id c.floor floor] ∧
              c.advance = ({ c with floor },
                [.carMoved c.id c.floor floor (.between c.floor floor)]))) := by
  cases ha : c.aim with
  | none =>
    rcases aim_cases c with ⟨hup, hdown, -⟩ | ⟨_, -, hs⟩ | ⟨-, _, -, hs⟩
    · exact .inl ⟨hup, hdown, by simp [deeds, ha], by simp [advance, ha]⟩
    · rw [ha] at hs
      cases hs
    · rw [ha] at hs
      cases hs
  | some target =>
    obtain ⟨aim, set⟩ := target
    obtain ⟨hset, hstop⟩ := hasStop_of_aim hw ha
    refine .inr ⟨aim, set, rfl, hset, hstop, ?_⟩
    by_cases hin : aim = c.floor
    · subst hin
      exact .inl ⟨rfl, by simp [deeds, ha], by simp [advance, ha]⟩
    · refine .inr ⟨_, rfl, hin, ?_⟩
      by_cases hthere : Floor.next c.floor aim = aim
      · refine .inl ⟨hthere, ?_, ?_⟩
        · simp only [deeds, ha, if_neg hin, if_pos hthere]
          rfl
        · simp only [advance, ha, if_neg hin, if_pos hthere]
          rfl
      · refine .inr ⟨hthere, ?_, ?_⟩
        · simp only [deeds, ha, if_neg hin, if_neg hthere]
          rfl
        · simp only [advance, ha, if_neg hin, if_neg hthere]

end Car

namespace Ledger

variable {l : Ledger}

lemma stepCar_of_unknown {id : CarId} (hc : l.fleet.car? id = none) : l.stepCar id = l := by
  rw [stepCar, hc]

lemma stepCar_of_car? {id : CarId} {c : Car} (hc : l.fleet.car? id = some c) :
    l.stepCar id = c.deeds.foldl after l := by
  rw [stepCar, hc]

lemma after_moved (l : Ledger) (id : CarId) (source target : Int) :
    l.after (.moved id source target) =
      { l with
        fleet := l.fleet.change id ({ · with floor := target })
        history := l.history ++ [.carMoved id source target (.between source target)] } := rfl

/-- A stop served is a change of the car and then an event by itself. -/
lemma after_served (l : Ledger) (id : CarId) (t : Target) :
    l.after (.served id t) =
      ({ l with fleet := l.fleet.change id (·.serve t.floor t.direction) } : Ledger).after
        (.announced (.stopServed id t.floor t.direction)) := by
  simp only [after, Deed.book, Deed.event?, Fleet.change, List.map_map]
  rfl

/-- The deeds of a step have the same effect as putting the car that has advanced in its
place and then announcing the events. -/
theorem foldl_deeds (hl : l.Sound) {id : CarId} {c : Car} (hc : l.fleet.car? id = some c) :
    c.deeds.foldl after l =
      c.advance.2.foldl (fun l event => l.after (.announced event))
        { l with fleet := l.fleet.change id fun _ => c.advance.1 } := by
  obtain ⟨hm, rfl⟩ := (Fleet.car?_eq_some_iff hl.ids).mp hc
  rcases Car.step_cases (hl.cars c hm) with ⟨-, -, hds, hadv⟩ |
    ⟨aim, set, -, -, -, ⟨-, hds, hadv⟩ | ⟨floor, -, -, ⟨-, hds, hadv⟩ | ⟨-, hds, hadv⟩⟩⟩
  · rw [hds, hadv]
    simp only [Fleet.change_eq_of_car? hl.ids hc fun c => c, Fleet.change_self, List.foldl_nil]
  · rw [hds, hadv]
    simp only [Fleet.change_eq_of_car? hl.ids hc fun c => c.serve aim set, List.foldl_cons,
      List.foldl_nil, after_served]
  · rw [hds, hadv]
    simp only [Fleet.change_eq_of_car? hl.ids hc fun c => { c with floor }.serve aim set,
      List.foldl_cons, List.foldl_nil, after_served, after_moved]
    rw [after_announced_of_kind_ne _ (.carMoved ..) (by simp [Event.kind]),
      Fleet.change_change _ _ (by simp)]
  · rw [hds, hadv]
    simp only [Fleet.change_eq_of_car? hl.ids hc fun c => { c with floor }, List.foldl_cons,
      List.foldl_nil, after_moved]
    rw [after_announced_of_kind_ne _ (.carMoved ..) (by simp [Event.kind])]

lemma history_foldl_announced (l : Ledger) (events : List Event) :
    (events.foldl (fun l event => l.after (.announced event)) l).history = l.history ++ events := by
  induction events generalizing l with
  | nil => simp
  | cons event rest ih =>
    rw [List.foldl_cons, ih]
    simp [after, Deed.event?]

/-- A step of a car is made of rides of that car. -/
theorem leads_stepCar (hl : l.Sound) (id : CarId) :
    Leads (Deed.IsRideOf id) l (l.stepCar id) := by
  cases hc : l.fleet.car? id with
  | none =>
    rw [stepCar_of_unknown hc]
    exact .refl l
  | some c =>
    rw [stepCar_of_car? hc]
    obtain ⟨hm, rfl⟩ := (Fleet.car?_eq_some_iff hl.ids).mp hc
    rcases Car.step_cases (hl.cars c hm) with ⟨-, -, hds, -⟩ |
      ⟨aim, set, -, hset, hstop, ⟨hin, hds, -⟩ | ⟨floor, -, -, ⟨hthere, hds, -⟩ | ⟨-, hds, -⟩⟩⟩
    · rw [hds]
      exact .refl l
    · rw [hds]
      exact .one rfl ⟨hset, c, hm, rfl, hin.symm, hstop⟩
    · rw [hds]
      have hmoved : Leads (Deed.IsRideOf c.id) l (l.after (.moved c.id c.floor floor)) :=
        .one rfl ⟨c, hm, rfl, rfl⟩
      have hserved : Deed.Fits (l.after (.moved c.id c.floor floor)) (.served c.id ⟨aim, set⟩) := by
        refine ⟨hset, { c with floor }, List.mem_map.mpr ⟨c, hm, if_pos rfl⟩, rfl, hthere, ?_⟩
        cases set <;> exact hstop
      exact hmoved.trans (.one rfl hserved)
    · rw [hds]
      exact .one rfl ⟨c, hm, rfl, rfl⟩

theorem leads_foldl_stepCar (hl : l.Sound) (ids : List CarId) :
    Leads (fun d => ∃ id, d.IsRideOf id) l (ids.foldl stepCar l) := by
  induction ids generalizing l with
  | nil => exact .refl l
  | cons id rest ih =>
    have hfirst := leads_stepCar hl id
    exact (hfirst.mono fun d hd => ⟨id, hd⟩).trans (ih (hfirst.sound hl))

theorem leads_step (hl : l.Sound) : Leads (fun d => ∃ id, d.IsRideOf id) l l.step :=
  leads_foldl_stepCar hl _

lemma leads_iterate {P : Deed → Prop} {next : Ledger → Ledger}
    (hnext : ∀ l, l.Sound → Leads P l (next l)) (hl : l.Sound) (n : Nat) :
    Leads P l (next^[n] l) := by
  induction n generalizing l with
  | zero => exact .refl l
  | succ n ih =>
    have hfirst := hnext l hl
    exact hfirst.trans (ih (hfirst.sound hl))

end Ledger

namespace Bank

variable {b : Bank} {l : Ledger} {s : Strategy} {react : React}

/-- A step of a car is its step on the ledger, and answers the events it has published. -/
theorem Shows.stepCar (h : b.Shows l s) (hl : l.Sound) (hr : Passive react) (id : CarId) :
    (stepCar react b id).1.Shows (l.stepCar id) s ∧
      (l.stepCar id).history = l.history ++ (stepCar react b id).2 := by
  unfold Bank.stepCar
  rw [h.car?]
  cases hc : l.fleet.car? id with
  | none =>
    rw [Ledger.stepCar_of_unknown hc]
    exact ⟨h, (List.append_nil _).symm⟩
  | some c =>
    have hfleet : b.fleet = l.fleet := congrArg Ledger.fleet h.ledger
    rw [Ledger.stepCar_of_car? hc, Ledger.foldl_deeds hl hc, hfleet]
    exact ⟨(h.with_fleet _).publishAll hr _, Ledger.history_foldl_announced _ _⟩

/-- The events of the cars before are carried along. -/
lemma foldl_stepCar (react : React) (r : Bank × List Event) (ids : List CarId) :
    ids.foldl (fun r id =>
        let (b, events) := Bank.stepCar react r.1 id
        (b, r.2 ++ events)) r =
      ((stepCars react r.1 ids).1, r.2 ++ (stepCars react r.1 ids).2) := by
  unfold stepCars
  induction ids generalizing r with
  | nil => simp
  | cons id rest ih =>
    rw [List.foldl_cons, ih, List.foldl_cons, ih (_, [] ++ _), List.nil_append, List.append_assoc]

lemma stepCars_cons (react : React) (b : Bank) (id : CarId) (rest : List CarId) :
    stepCars react b (id :: rest) =
      ((stepCars react (Bank.stepCar react b id).1 rest).1,
        (Bank.stepCar react b id).2 ++ (stepCars react (Bank.stepCar react b id).1 rest).2) :=
  foldl_stepCar react (_, [] ++ _) rest

lemma Shows.stepCars (h : b.Shows l s) (hl : l.Sound) (hr : Passive react) (ids : List CarId) :
    (stepCars react b ids).1.Shows (ids.foldl Ledger.stepCar l) s ∧
      (ids.foldl Ledger.stepCar l).history = l.history ++ (stepCars react b ids).2 := by
  induction ids generalizing b l with
  | nil => exact ⟨h, (List.append_nil _).symm⟩
  | cons id rest ih =>
    obtain ⟨hnext, hevents⟩ := h.stepCar hl hr id
    obtain ⟨hlast, hlater⟩ := ih hnext ((Ledger.leads_stepCar hl id).sound hl)
    rw [stepCars_cons, List.foldl_cons]
    refine ⟨hlast, ?_⟩
    rw [hlater, hevents, List.append_assoc]

/-- A step of a quiet bank is a step of its ledger, and answers the events it has
published. -/
theorem Shows.step (h : b.Shows l s) (hl : l.Sound) (hr : Passive react) :
    (step react b).1.Shows l.step s ∧ l.step.history = l.history ++ (step react b).2 := by
  have hids : b.fleet.ids = l.fleet.ids := congrArg (fun l : Ledger => l.fleet.ids) h.ledger
  unfold Bank.step Ledger.step
  rw [hids]
  exact h.stepCars hl hr _

/-- What holds of one round on the ledger holds of as many as there are. -/
theorem Shows.repeated {once : Bank → Bank × List Event} {next : Ledger → Ledger}
    (honce : ∀ b l, Shows b l s → l.Sound →
      (once b).1.Shows (next l) s ∧ (next l).Sound ∧ (next l).history = l.history ++ (once b).2)
    (h : b.Shows l s) (hl : l.Sound) (n : Nat) :
    (repeated once n b).1.Shows (next^[n] l) s ∧ (next^[n] l).Sound ∧
      (next^[n] l).history = l.history ++ (repeated once n b).2 := by
  induction n generalizing b l with
  | zero => exact ⟨h, hl, (List.append_nil _).symm⟩
  | succ n ih =>
    obtain ⟨hnext, hsound, hevents⟩ := honce b l h hl
    obtain ⟨hlast, hsound', hlater⟩ := ih hnext hsound
    refine ⟨hlast, hsound', ?_⟩
    rw [Function.iterate_succ_apply, hlater, hevents, List.append_assoc]
    rfl

lemma Shows.repeated_step (h : b.Shows l s) (hl : l.Sound) (hr : Passive react) (n : Nat) :
    (Bank.repeated (Bank.step react) n b).1.Shows (Ledger.step^[n] l) s ∧
      (Ledger.step^[n] l).Sound ∧
      (Ledger.step^[n] l).history = l.history ++ (Bank.repeated (Bank.step react) n b).2 := by
  refine h.repeated (fun b l hb hl => ?_) hl n
  obtain ⟨hnext, hevents⟩ := hb.step hl hr
  exact ⟨hnext, (Ledger.leads_step hl).sound hl, hevents⟩

lemma Shows.repeated_stepCar (h : b.Shows l s) (hl : l.Sound) (hr : Passive react) (id : CarId)
    (n : Nat) :
    (Bank.repeated (Bank.stepCar react · id) n b).1.Shows ((Ledger.stepCar · id)^[n] l) s ∧
      ((Ledger.stepCar · id)^[n] l).Sound ∧
      ((Ledger.stepCar · id)^[n] l).history =
        l.history ++ (Bank.repeated (Bank.stepCar react · id) n b).2 := by
  refine h.repeated (fun b l hb hl => ?_) hl n
  obtain ⟨hnext, hevents⟩ := hb.stepCar hl hr id
  exact ⟨hnext, (Ledger.leads_stepCar hl id).sound hl, hevents⟩

end Bank
end ElevatorBank
