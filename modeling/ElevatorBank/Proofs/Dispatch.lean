import ElevatorBank.Proofs.Quiet

/-!
# Dispatch

Where no handler calls back, what comes of a call is a matter of the ledger and the strategy:
`Ledger.execute` says what is answered and what becomes of the ledger, and `Stands.execute`
that a bank does just this, whoever is subscribed. Assigning a hall call is one deed, and what
is refused or dropped leaves no more than the event that raised it (`Shows.hallCall_cases`).
-/
namespace ElevatorBank

/-- The deed by which a strategy's choice of cars gets a hall call. -/
def Deed.assigning (s : Strategy) (t : Target) (cars : List CarId) : Deed :=
  if s.isBroadcast then .raced t cars else .given t cars

namespace Ledger

/-- A hall call that has been raised goes to the cars that the strategy chooses. -/
def dispatch (l : Ledger) (s : Strategy) (t : Target) : Ledger × Except Refusal Outcome :=
  match s.select t.floor t.direction l.fleet.snapshots with
  | .error reason => (l, .error (.panic reason))
  | .ok [] => (l, .ok .dropped)
  | .ok chosen =>
    match l.fleet.unknown? (Bank.kept s chosen) with
    | some car => (l, .error (.error (.unknownElevator car)))
    | none => (l.after (.assigning s t (Bank.kept s chosen)), .ok (.assigned (Bank.kept s chosen)))

def hallCall (l : Ledger) (s : Strategy) (floor : Int) (direction : Direction) :
    Ledger × Except Refusal Outcome :=
  if direction.isHall then
    (l.after (.announced (.hallCallRaised floor direction))).dispatch s ⟨floor, direction⟩
  else (l, .error (.error (.invalidDirection floor direction)))

def carCall (l : Ledger) (car : CarId) (floor : Int) : Ledger × Except Refusal Outcome :=
  if (l.fleet.car? car).isSome then (l.after (.boarded car floor), .ok (.cabinQueued car))
  else (l, .error (.error (.unknownElevator car)))

def execute (l : Ledger) (s : Strategy) : Command → Ledger × Except Refusal Outcome
  | .hallCall floor direction => l.hallCall s floor direction
  | .carCall car floor => l.carCall car floor

variable {l : Ledger} {s : Strategy} {t : Target} {chosen : List CarId}

lemma dispatch_of_error {reason : String}
    (h : s.select t.floor t.direction l.fleet.snapshots = .error reason) :
    l.dispatch s t = (l, .error (.panic reason)) := by
  simp only [dispatch, h]

lemma dispatch_of_nil (h : s.select t.floor t.direction l.fleet.snapshots = .ok []) :
    l.dispatch s t = (l, .ok .dropped) := by
  simp only [dispatch, h]

lemma dispatch_of_unknown (h : s.select t.floor t.direction l.fleet.snapshots = .ok chosen)
    (hne : chosen ≠ []) {car : CarId} (hu : l.fleet.unknown? (Bank.kept s chosen) = some car) :
    l.dispatch s t = (l, .error (.error (.unknownElevator car))) := by
  obtain ⟨first, rest, rfl⟩ := List.exists_cons_of_ne_nil hne
  simp only [dispatch, h, hu]

lemma dispatch_of_known (h : s.select t.floor t.direction l.fleet.snapshots = .ok chosen)
    (hne : chosen ≠ []) (hu : l.fleet.unknown? (Bank.kept s chosen) = none) :
    l.dispatch s t =
      (l.after (.assigning s t (Bank.kept s chosen)), .ok (.assigned (Bank.kept s chosen))) := by
  obtain ⟨first, rest, rfl⟩ := List.exists_cons_of_ne_nil hne
  simp only [dispatch, h, hu]

/-- To dispatch is to assign the call or to leave the ledger as it is. -/
lemma dispatch_cases (l : Ledger) (s : Strategy) (t : Target) :
    (∃ r, l.dispatch s t = (l, r)) ∨
      ∃ cars, l.dispatch s t = (l.after (.assigning s t cars), .ok (.assigned cars)) := by
  unfold dispatch
  split
  · exact .inl ⟨_, rfl⟩
  · exact .inl ⟨_, rfl⟩
  · split
    · exact .inl ⟨_, rfl⟩
    · exact .inr ⟨_, rfl⟩

/-- Raising a hall call leaves the fleet as it is. -/
@[simp] lemma raised_fleet (l : Ledger) (floor : Int) (direction : Direction) :
    (l.after (.announced (.hallCallRaised floor direction))).fleet = l.fleet := by
  rw [after_announced_of_kind_ne _ _ (by simp [Event.kind])]

end Ledger

/-- What commands depend on and change. -/
structure Standing where
  ledger : Ledger
  strategy : Strategy
  subscriptions : List Subscription
  queue : Queue

namespace Bank

lemma kept_ne_nil (s : Strategy) {chosen : List CarId} (hne : chosen ≠ []) :
    kept s chosen ≠ [] := by
  unfold kept
  split_ifs
  · exact hne
  · simpa using hne

variable {b b' : Bank} {x : Standing} {l : Ledger} {s : Strategy} {react : React}

/-- A choice of cars there are can be assigned. -/
lemma assigning_fits {t : Target} (ht : t.direction.isHall = true) {chosen : List CarId}
    (hne : chosen ≠ []) (hu : l.fleet.unknown? (kept s chosen) = none) :
    (Deed.assigning s t (kept s chosen)).Fits l := by
  have hknown := Fleet.unknown?_eq_none_iff.mp hu
  unfold Deed.assigning
  split_ifs <;> exact ⟨ht, kept_ne_nil s hne, hknown⟩

/-! ### Queueing stops -/

@[simp] lemma outline_enqueue (b : Bank) (c : Car) (t : Target) :
    (b.enqueue c t).outline = { b with fleet := b.fleet.change c.id (·.enqueue t) }.outline :=
  outline_say _ _ _ _

lemma outline_setMode (b : Bank) (c : Car) (mode : Mode) : (b.setMode c mode).outline =
    { b with fleet := b.fleet.change c.id ({ · with mode }) }.outline := by
  unfold setMode
  split_ifs <;> simp

lemma outline_withdraw (b : Bank) (c : Car) (t : Target) : (b.withdraw c t).outline =
    { b with fleet := b.fleet.change c.id (·.withdraw t) }.outline := by
  unfold withdraw
  split_ifs <;> simp

lemma outline_enqueueOn (t : Target) (b : Bank) (id : CarId) :
    (enqueueOn t b id).outline = { b with fleet := b.fleet.change id (·.enqueue t) }.outline := by
  unfold enqueueOn
  cases hc : b.car? id with
  | none => rw [Fleet.change_of_unknown (Fleet.car?_eq_none_iff.mp hc)]
  | some c =>
    have hid : c.id = id := by simpa using List.find?_some hc
    rw [← hid]
    exact outline_enqueue b c t

theorem outline_foldl_enqueueOn (t : Target) (cars : List CarId) (b : Bank) :
    (cars.foldl (enqueueOn t) b).outline =
      { b with fleet := cars.foldl (fun f id => f.change id (·.enqueue t)) b.fleet }.outline := by
  induction cars generalizing b with
  | nil => rfl
  | cons id rest ih =>
    have hfirst := outline_enqueueOn t b id
    rw [List.foldl_cons, ih]
    simp only [outline, ledger, Outline.mk.injEq, Ledger.mk.injEq] at hfirst ⊢
    obtain ⟨⟨hfleet, hcalls, hpublished⟩, hbus, hstrategy⟩ := hfirst
    rw [hfleet]
    exact ⟨⟨rfl, hcalls, hpublished⟩, hbus, hstrategy⟩

lemma queue_foldl_enqueueOn (t : Target) (cars : List CarId) (b : Bank) :
    (cars.foldl (enqueueOn t) b).queue = b.queue := by
  induction cars generalizing b with
  | nil => rfl
  | cons id rest ih =>
    rw [List.foldl_cons, ih]
    unfold enqueueOn
    split
    · exact queue_say _ _ _ _
    · rfl

/-! ### Banks whose handlers make no calls -/

def standing (b : Bank) : Standing := ⟨b.ledger, b.strategy, b.bus.subscriptions, b.queue⟩

/-- No handler of the bank calls back, and this is how it stands. -/
structure Stands (b : Bank) (x : Standing) : Prop where
  standing : b.standing = x
  silent : ∀ script ∈ b.bus.scripts, script.calls = []

lemma Stands.of_outline (h : b.Stands x) (ho : b'.outline = b.outline)
    (hq : b'.queue = b.queue) : b'.Stands x where
  standing := by
    simp only [outline, Outline.mk.injEq] at ho
    obtain ⟨hledger, hbus, hstrategy⟩ := ho
    rw [← h.standing]
    simp only [Bank.standing, hledger, hbus, hstrategy, hq]
  silent := by
    rw [show b'.bus = b.bus from congrArg Outline.bus ho]
    exact h.silent

lemma Stands.note (h : b.Stands x) {n : Note}
    (hn : ∀ event subscriptions, n ≠ .opened event subscriptions) : (b.note n).Stands x :=
  h.of_outline (outline_note b hn) rfl

lemma Stands.log (h : b.Stands x) (r : Log.Record) : (b.log r).Stands x :=
  h.of_outline (outline_log b r) (queue_log b r)

lemma Stands.foldl_log (h : b.Stands x) (rs : List Log.Record) :
    (rs.foldl Bank.log b).Stands x := by
  induction rs generalizing b with
  | nil => exact h
  | cons r rest ih => exact ih (h.log r)

lemma Stands.say (h : b.Stands x) (level : Log.Level) (message : String)
    (fields : List (String × Log.Field)) : (b.say level message fields).Stands x := h.log _

lemma Stands.with_fleet (h : b.Stands x) (fleet : Fleet) :
    { b with fleet }.Stands { x with ledger := { x.ledger with fleet } } where
  standing := congrArg (fun x : Standing => { x with ledger := { x.ledger with fleet } }) h.standing
  silent := h.silent

lemma Stands.with_calls (h : b.Stands x) (calls : HallCalls) :
    { b with calls }.Stands { x with ledger := { x.ledger with calls } } where
  standing := congrArg (fun x : Standing => { x with ledger := { x.ledger with calls } }) h.standing
  silent := h.silent

lemma Stands.with_queue (h : b.Stands x) (queue : Queue) :
    { b with queue }.Stands { x with queue } where
  standing := congrArg (fun x : Standing => { x with queue }) h.standing
  silent := h.silent

/-- Nobody answers an event other than that of a served stop. -/
lemma Stands.deliver (h : b.Stands x) (hr : Passive react) {event : Event}
    (hk : event.kind ≠ .stopServed) (sub : Subscription) :
    (deliver react b event sub).1.Stands x := by
  have hn : (b.note (.invoked sub event)).Stands x := h.note (by simp)
  unfold Bank.deliver
  cases sub.subscriber with
  | logger => exact hn.log _
  | recorder => exact hn
  | resolver =>
    cases event with
    | stopServed car floor direction => exact absurd rfl hk
    | _ => exact hn
  | scripted slot =>
    obtain ⟨hcalls, hsilent, hsame⟩ := Bus.calls_react (P := (· = [])) rfl hn.silent slot
    dsimp only
    rw [hcalls, hr]
    refine ⟨?_, hsilent⟩
    rw [← hn.standing]
    exact congrArg (Standing.mk _ _ · _) hsame

lemma Stands.noteFailure (h : b.Stands x) (event : Event) (sub : Subscription)
    (error : Option HandlerError) : (b.noteFailure event sub error).Stands x := by
  cases error with
  | none => exact h
  | some e =>
    have hcount : { b with bus := { b.bus with failures := b.bus.failures + 1 } }.Stands x :=
      ⟨h.standing, h.silent⟩
    exact hcount.say _ _ _

lemma Stands.deliverCounted {r : Bank × Delivery} (h : r.1.Stands x) (hr : Passive react)
    {event : Event} (hk : event.kind ≠ .stopServed) (sub : Subscription) :
    (deliverCounted react event r sub).1.Stands x := by
  have hreturned := (h.deliver hr hk sub).note
    (n := .returned sub (Bank.deliver react r.1 event sub).2) (by simp)
  exact hreturned.noteFailure event sub _

lemma Stands.foldl_deliverCounted {r : Bank × Delivery} (h : r.1.Stands x) (hr : Passive react)
    {event : Event} (hk : event.kind ≠ .stopServed) (subs : List Subscription) :
    (subs.foldl (Bank.deliverCounted react event) r).1.Stands x := by
  induction subs generalizing r with
  | nil => exact h
  | cons sub rest ih => exact ih (h.deliverCounted hr hk sub)

/-- An event other than that of a served stop is published and nothing else. -/
theorem Stands.publish (h : b.Stands x) (hr : Passive react) {event : Event}
    (hk : event.kind ≠ .stopServed) :
    (publish react b event).1.Stands { x with ledger := x.ledger.after (.announced event) } := by
  have hopened : (b.opened event).Stands
      { x with ledger := x.ledger.after (.announced event) } := by
    refine ⟨?_, h.silent⟩
    rw [← h.standing]
    simp only [Bank.standing, ledger, published_opened, Ledger.after_announced_of_kind_ne _ _ hk]
    rfl
  unfold Bank.publish
  exact ((hopened.say _ _ _).foldl_deliverCounted (r := (_, .none)) hr hk _).note (by simp)

lemma Stands.foldl_enqueueOn (h : b.Stands x) (hw : ∀ c ∈ x.ledger.fleet, c.WellFormed)
    {t : Target} (ht : t.direction.isHall = true) (cars : List CarId) :
    (cars.foldl (enqueueOn t) b).Stands { x with ledger := { x.ledger with
      fleet := x.ledger.fleet.map fun c => if c.id ∈ cars then c.enqueue t else c } } := by
  have hfleet : b.fleet = x.ledger.fleet := congrArg (·.ledger.fleet) h.standing
  have hqueued := (h.with_fleet (cars.foldl (fun f id => f.change id (·.enqueue t)) b.fleet))
  rw [← Fleet.foldl_enqueue hw ht, ← hfleet]
  exact hqueued.of_outline (outline_foldl_enqueueOn t cars b) (queue_foldl_enqueueOn t cars b)

/-- To announce an assignment and to carry it out is one deed. -/
theorem Stands.assign (h : b.Stands x) (hw : ∀ c ∈ x.ledger.fleet, c.WellFormed)
    (hr : Passive react) (s : Strategy) {t : Target} (ht : t.direction.isHall = true)
    (cars : List CarId) :
    (Bank.assign (Bank.publish react b
        (.assignmentMade t.floor t.direction cars)).1 s t cars).Stands
      { x with ledger := x.ledger.after (.assigning s t cars) } := by
  have hkind : (Event.assignmentMade t.floor t.direction cars).kind ≠ .stopServed := by
    simp [Event.kind]
  have htold := h.publish hr hkind
  rw [Ledger.after_announced_of_kind_ne _ _ hkind] at htold
  generalize (Bank.publish react b (.assignmentMade t.floor t.direction cars)).1 = b at htold
  have hcalls : b.calls = x.ledger.calls := congrArg (·.ledger.calls) htold.standing
  unfold Bank.assign Deed.assigning
  split_ifs
  · have hregistered := htold.with_calls (x.ledger.calls.register t cars)
    unfold Bank.register
    rw [hcalls]
    exact (hregistered.foldl_enqueueOn hw ht cars).say _ _ _
  · exact htold.foldl_enqueueOn hw ht cars

theorem Stands.dispatch (h : b.Stands x) (hw : ∀ c ∈ x.ledger.fleet, c.WellFormed)
    (hr : Passive react) {t : Target} (ht : t.direction.isHall = true) :
    (dispatch react b t).2 = (x.ledger.dispatch x.strategy t).2 ∧
      (dispatch react b t).1.Stands { x with ledger := (x.ledger.dispatch x.strategy t).1 } := by
  obtain ⟨rfl, hsilent⟩ := h
  have hlogged := Stands.foldl_log ⟨rfl, hsilent⟩
    (b.strategy.remarks t.floor t.direction b.fleet.snapshots)
  unfold Bank.dispatch Ledger.dispatch
  dsimp only [Bank.standing, Bank.ledger]
  cases b.strategy.select t.floor t.direction b.fleet.snapshots with
  | error reason => exact ⟨rfl, hlogged⟩
  | ok chosen =>
    cases chosen with
    | nil => exact ⟨rfl, (hlogged.log _).say _ _ _⟩
    | cons first rest =>
      have hfleet : Bank.fleet _ = b.fleet := congrArg (·.ledger.fleet) hlogged.standing
      dsimp only
      rw [hfleet]
      cases b.fleet.unknown? (kept b.strategy (first :: rest)) with
      | some car => exact ⟨rfl, hlogged⟩
      | none => exact ⟨rfl, (hlogged.assign hw hr _ ht _).log _⟩

/-- A hall call does what it does on the ledger. -/
theorem Stands.hallCall (h : b.Stands x) (hw : ∀ c ∈ x.ledger.fleet, c.WellFormed)
    (hr : Passive react) (floor : Int) (direction : Direction) :
    (hallCall react b floor direction).2 = (x.ledger.hallCall x.strategy floor direction).2 ∧
      (hallCall react b floor direction).1.Stands
        { x with ledger := (x.ledger.hallCall x.strategy floor direction).1 } := by
  unfold Bank.hallCall Ledger.hallCall
  split_ifs with hd
  · have hkind : (Event.hallCallRaised floor direction).kind ≠ .stopServed := by simp [Event.kind]
    have hraised := h.publish hr hkind
    exact hraised.dispatch (by rwa [Ledger.raised_fleet]) hr (t := ⟨floor, direction⟩) hd
  · exact ⟨rfl, h⟩

theorem Stands.carCall (h : b.Stands x) (car : CarId) (floor : Int) :
    (carCall b car floor).2 = (x.ledger.carCall car floor).2 ∧
      (carCall b car floor).1.Stands { x with ledger := (x.ledger.carCall car floor).1 } := by
  obtain ⟨rfl, hsilent⟩ := h
  unfold Bank.carCall Ledger.carCall
  rw [show b.standing.ledger.fleet.car? car = b.car? car from rfl]
  cases hc : b.car? car with
  | none => exact ⟨rfl, rfl, hsilent⟩
  | some c =>
    have hid : c.id = car := by simpa using List.find?_some hc
    have hqueued := (Stands.with_fleet ⟨rfl, hsilent⟩
      (b.fleet.change c.id (·.enqueue (.cabin floor)))).of_outline (outline_enqueue b c _)
        (queue_say _ _ _ _)
    have hdeed : b.ledger.after (.boarded car floor) =
        { b.ledger with fleet := b.fleet.change car (·.enqueue (.cabin floor)) } := by
      simp only [Ledger.after, Deed.event?, Option.toList_none, List.append_nil]
      rfl
    rw [hid] at hqueued
    refine ⟨rfl, ?_⟩
    show Stands _ { b.standing with ledger := b.ledger.after (.boarded car floor) }
    rw [hdeed]
    exact hqueued.log _

/-- A command does what it does on the ledger. -/
theorem Stands.execute (h : b.Stands x) (hw : ∀ c ∈ x.ledger.fleet, c.WellFormed)
    (hr : Passive react) (command : Command) :
    (execute react b command).2 = (x.ledger.execute x.strategy command).2 ∧
      (execute react b command).1.Stands
        { x with ledger := (x.ledger.execute x.strategy command).1 } := by
  cases command with
  | hallCall floor direction => exact h.hallCall hw hr floor direction
  | carCall car floor => exact h.carCall car floor

/-! ### Quiet banks -/

lemma Shows.stands (h : b.Shows l s) : b.Stands ⟨l, s, b.bus.subscriptions, b.queue⟩ where
  standing := by
    obtain ⟨rfl, rfl, -⟩ := h
    rfl
  silent := h.calm.silent

/-- As long as its subscriptions stay a quiet bank stays quiet. -/
lemma Shows.of_stands {m : Ledger} {s' : Strategy} {queue : Queue} (h : b.Shows l s)
    (h' : b'.Stands ⟨m, s', b.bus.subscriptions, queue⟩) : b'.Shows m s' where
  ledger := congrArg (·.ledger) h'.standing
  strategy := congrArg (·.strategy) h'.standing
  calm := by
    have hsame : b'.bus.subscriptions = b.bus.subscriptions :=
      congrArg (·.subscriptions) h'.standing
    refine ⟨h'.silent, ?_⟩
    rw [hsame]
    exact h.calm.resolver

/-- All that can come of a hall call: it is refused for its direction, or it is raised and
then dropped, refused or assigned. -/
theorem Shows.hallCall_cases (h : b.Shows l s) (hl : l.Sound) (hr : Passive react) (floor : Int)
    (direction : Direction) :
    (direction = .idle ∧
      hallCall react b floor direction = (b, .error (.error (.invalidDirection floor direction)))) ∨
    direction.isHall = true ∧
      ((∃ answer, (∀ cars, answer ≠ .ok (.assigned cars)) ∧
          (hallCall react b floor direction).2 = answer ∧
          (hallCall react b floor direction).1.Shows
            (l.after (.announced (.hallCallRaised floor direction))) s) ∨
        ∃ chosen, s.select floor direction l.fleet.snapshots = .ok chosen ∧
          (Deed.assigning s ⟨floor, direction⟩ (kept s chosen)).Fits
            (l.after (.announced (.hallCallRaised floor direction))) ∧
          (hallCall react b floor direction).2 = .ok (.assigned (kept s chosen)) ∧
          (hallCall react b floor direction).1.Shows
            ((l.after (.announced (.hallCallRaised floor direction))).after
              (Deed.assigning s ⟨floor, direction⟩ (kept s chosen))) s) := by
  by_cases hd : direction.isHall = true
  · refine .inr ⟨hd, ?_⟩
    obtain ⟨hanswer, hstands⟩ := h.stands.hallCall hl.cars hr floor direction
    have hshow := h.of_stands hstands
    have hfleet := Ledger.raised_fleet l floor direction
    simp only [Ledger.hallCall, if_pos hd] at hanswer hshow
    rw [← hfleet]
    cases hs : s.select floor direction
        (l.after (.announced (.hallCallRaised floor direction))).fleet.snapshots with
    | error reason =>
      rw [Ledger.dispatch_of_error hs] at hanswer hshow
      exact .inl ⟨_, by simp, hanswer, hshow⟩
    | ok chosen =>
      by_cases hne : chosen = []
      · subst hne
        rw [Ledger.dispatch_of_nil hs] at hanswer hshow
        exact .inl ⟨_, by simp, hanswer, hshow⟩
      · cases hu : (l.after (.announced (.hallCallRaised floor direction))).fleet.unknown?
            (kept s chosen) with
        | some car =>
          rw [Ledger.dispatch_of_unknown hs hne hu] at hanswer hshow
          exact .inl ⟨_, by simp, hanswer, hshow⟩
        | none =>
          rw [Ledger.dispatch_of_known hs hne hu] at hanswer hshow
          exact .inr ⟨_, rfl, assigning_fits hd hne hu, hanswer, hshow⟩
  · have hidle : direction = .idle := by cases direction <;> simp_all [Direction.isHall]
    exact .inl ⟨hidle, by rw [hallCall, if_neg hd]⟩

end Bank
end ElevatorBank
