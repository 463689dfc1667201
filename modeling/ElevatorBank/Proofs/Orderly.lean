import ElevatorBank.Proofs.Shape

/-!
# Orderly banks

While no handler calls back, whatever the operations are the cars keep their numbers and stay
well-formed, and the handlers go on making no calls (`Orderly.run`). An operation that does
not go through the command queue leaves it as it is (`Orderly.queue_perform`).
-/
namespace ElevatorBank

/-- A handler that the operation subscribes makes no calls. -/
def Op.IsSilent : Op → Prop
  | .subscribe _ _ script => script.calls = []
  | _ => True

namespace Bank

/-- What any operations keep as long as no handler calls back. -/
structure Orderly (b : Bank) : Prop where
  ids : b.fleet.ids.Nodup
  cars : ∀ c ∈ b.fleet, c.WellFormed
  silent : ∀ script ∈ b.bus.scripts, script.calls = []

/-- An orderly bank stays orderly, and its queue stays the same if no operation of the kind
goes through it. -/
def Follows (A : Op → Prop) (b b' : Bank) : Prop :=
  b.Orderly → b'.Orderly ∧ ((∀ op, A op → ¬op.UsesQueue) → b'.queue = b.queue)

variable {b b' c : Bank} {A : Op → Prop} {react : React}

lemma Orderly.shaped (h : b.Orderly) : b.Shaped := ⟨h.ids, h.cars⟩

lemma Shaped.orderly (h : b.Shaped) (hsilent : ∀ script ∈ b.bus.scripts, script.calls = []) :
    b.Orderly := ⟨h.ids, h.cars, hsilent⟩

lemma Orderly.of_reshapes (h : b.Orderly) (hcars : b.Reshapes b')
    (hscripts : b'.bus.scripts = b.bus.scripts) : b'.Orderly :=
  (hcars.keepsShape h.shaped).orderly (hscripts ▸ h.silent)

lemma Orderly.of_parts (h : b.Orderly) (hfleet : b'.fleet = b.fleet)
    (hscripts : b'.bus.scripts = b.bus.scripts) : b'.Orderly :=
  h.of_reshapes (reshapes_of_fleet hfleet) hscripts

/-- A change of the cars that leaves the bus and the queue alone. -/
lemma follows_of_reshapes (hcars : b.Reshapes b') (hbus : b'.bus = b.bus)
    (hqueue : b'.queue = b.queue) : Follows A b b' := fun h =>
  ⟨h.of_reshapes hcars (congrArg (·.scripts) hbus), fun _ => hqueue⟩

lemma follows_refl (b : Bank) : Follows A b b := fun h => ⟨h, fun _ => rfl⟩

lemma Follows.trans (h : Follows A b b') (h' : Follows A b' c) : Follows A b c := fun hb =>
  have hb' := h hb
  have hc := h' hb'.1
  ⟨hc.1, fun hn => (hc.2 hn).trans (hb'.2 hn)⟩

lemma follows_enqueue (b : Bank) (c : Car) (t : Target) : Follows A b (b.enqueue c t) :=
  follows_of_reshapes (reshapes_enqueue b c t) (congrArg (·.bus) (outline_enqueue b c t))
    (queue_say _ _ _ _)

lemma follows_setMode (b : Bank) (c : Car) (mode : Mode) : Follows A b (b.setMode c mode) := by
  refine follows_of_reshapes (reshapes_setMode b c mode)
    (congrArg (·.bus) (outline_setMode b c mode)) ?_
  unfold setMode
  split_ifs <;> simp

lemma follows_withdraw (b : Bank) (c : Car) (t : Target) : Follows A b (b.withdraw c t) := by
  refine follows_of_reshapes (reshapes_withdraw b c t)
    (congrArg (·.bus) (outline_withdraw b c t)) ?_
  unfold withdraw
  split_ifs <;> simp [noteWithdrawal]

lemma queue_withdrawFromOthers (b : Bank) (id : CarId) (t : Target) :
    (b.withdrawFromOthers id t).1.queue = b.queue := by
  have hnoted : ∀ (losers : List CarId) (b : Bank),
      (losers.foldl (noteWithdrawal t) b).queue = b.queue := by
    intro losers
    induction losers with
    | nil => exact fun _ => rfl
    | cons car rest ih => exact fun b => (ih _).trans (queue_say _ _ _ _)
  unfold withdrawFromOthers
  rw [queue_say, hnoted]

lemma queue_resolve (b : Bank) (id : CarId) (t : Target) : (b.resolve id t).1.queue = b.queue := by
  unfold resolve
  split
  · rfl
  · rw [queue_say]
    exact queue_withdrawFromOthers b id t

lemma follows_withdrawFromOthers (b : Bank) (id : CarId) (t : Target) :
    Follows A b (b.withdrawFromOthers id t).1 :=
  follows_of_reshapes (reshapes_withdrawFromOthers b id t)
    (congrArg (·.bus) (outline_withdrawFromOthers b id t)) (queue_withdrawFromOthers b id t)

lemma follows_resolve (b : Bank) (id : CarId) (t : Target) : Follows A b (b.resolve id t).1 :=
  follows_of_reshapes (reshapes_resolve b id t) (congrArg (·.bus) (outline_resolve b id t))
    (queue_resolve b id t)

lemma follows_foldl_enqueueOn (t : Target) (cars : List CarId) (b : Bank) :
    Follows A b (cars.foldl (enqueueOn t) b) := by
  induction cars generalizing b with
  | nil => exact follows_refl b
  | cons id rest ih =>
    refine Follows.trans ?_ (ih _)
    unfold enqueueOn
    split
    · exact follows_enqueue b _ t
    · exact follows_refl b

lemma follows_register (b : Bank) (t : Target) (cars : List CarId) :
    Follows A b (b.register t cars).1 := by
  have hqueued := follows_foldl_enqueueOn (A := A) t cars
    { b with calls := b.calls.register t cars }
  intro h
  obtain ⟨hafter, hqueue⟩ := hqueued (h.of_parts rfl rfl)
  unfold register
  refine ⟨hafter.of_parts (fleet_of_outline (outline_say _ _ _ _))
    (congrArg (·.bus.scripts) (outline_say _ _ _ _)), fun hn => ?_⟩
  rw [queue_say]
  exact hqueue hn

/-- Silent operations leave an orderly bank orderly with every single change. -/
theorem lasting_follows (hsilent : ∀ {op}, A op → op.IsSilent) : Lasting A (Follows A) where
  refl := follows_refl
  trans := Follows.trans
  apart hfleet _ hqueue _ hscripts h := ⟨h.of_parts hfleet hscripts, fun _ => hqueue⟩
  queue hop huses _ _ h := ⟨h.of_parts rfl rfl, fun hn => absurd huses (hn _ hop)⟩
  enqueue t _ := follows_enqueue _ _ t
  setMode mode _ := follows_setMode _ _ mode
  resolve := follows_resolve
  assign s t cars _ _ _ h := by
    refine h.trans ?_
    unfold assign
    split_ifs
    · exact follows_register _ t cars
    · exact follows_foldl_enqueueOn t cars _
  withdraw _ _ := follows_withdraw _ _ _
  withdrawFromOthers _ := follows_withdrawFromOthers _ _ _
  register _ _ := follows_register _ _ _
  subscribe hop h := by
    refine ⟨⟨h.ids, h.cars, fun script hm => ?_⟩, fun _ => rfl⟩
    rcases List.mem_append.mp hm with hm | hm
    · exact h.silent script hm
    · rw [List.mem_singleton.mp hm]
      exact hsilent hop
  unsubscribe _ h := ⟨⟨h.ids, h.cars, h.silent⟩, fun _ => rfl⟩

lemma handlersKeep_follows (hr : Passive react) : HandlersKeep (Follows A) react := by
  intro b slot sub h
  obtain ⟨hcalls, hsilent, -⟩ := Bus.calls_react (P := (· = [])) rfl h.silent slot
  rw [hcalls, hr]
  exact ⟨⟨h.ids, h.cars, hsilent⟩, fun _ => rfl⟩

lemma carsKeep_follows (hlasting : Lasting A (Follows A)) (hr : Passive react) :
    CarsKeep (Follows A) react := by
  intro b id
  unfold stepCar
  cases hc : b.car? id with
  | none => exact hlasting.refl b
  | some c =>
    have hadvanced : Follows A b { b with fleet := b.fleet.change id fun _ => c.advance.1 } :=
      fun h => ⟨(h.shaped.advanced hc).orderly h.silent, fun _ => rfl⟩
    exact hlasting.trans hadvanced (hlasting.publishAll (handlersKeep_follows hr) _ _)

/-- Any operation follows on where no handler calls back. -/
lemma follows_perform (hsilent : ∀ {op}, A op → op.IsSilent) (b : Bank) {op : Op} (hop : A op) :
    Follows A b (b.perform op).1 := by
  have hlasting := lasting_follows hsilent
  have hr := react_passive (b.callbacks + op.callbacks)
  exact hlasting.performWith (handlersKeep_follows hr) (carsKeep_follows hlasting hr) b hop

theorem Orderly.perform (h : b.Orderly) {op : Op} (hop : op.IsSilent) :
    (b.perform op).1.Orderly := (follows_perform id b hop h).1

/-- An operation that does not go through the queue leaves it as it is. -/
theorem Orderly.queue_perform (h : b.Orderly) {op : Op} (hop : op.IsSilent)
    (hn : ¬op.UsesQueue) : (b.perform op).1.queue = b.queue := by
  have hfollows : Follows (fun op => op.IsSilent ∧ ¬op.UsesQueue) b (b.perform op).1 :=
    follows_perform And.left b ⟨hop, hn⟩
  exact (hfollows h).2 fun _ hother => hother.2

theorem Orderly.run {ops : List Op} (h : b.Orderly) (hops : ∀ op ∈ ops, op.IsSilent) :
    (b.run ops).Orderly := by
  induction ops generalizing b with
  | nil => exact h
  | cons op rest ih =>
    exact ih (h.perform (hops op List.mem_cons_self))
      fun op hop => hops op (List.mem_cons_of_mem _ hop)

lemma Fresh.orderly {floors : List Int} {s : Strategy} (h : b.Fresh floors s) : b.Orderly :=
  h.shaped.orderly h.shows.calm.silent

lemma Orderly.stands (h : b.Orderly) : b.Stands b.standing := ⟨rfl, h.silent⟩

end Bank
end ElevatorBank
