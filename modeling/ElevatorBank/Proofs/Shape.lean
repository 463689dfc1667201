import ElevatorBank.Proofs.Backed
import ElevatorBank.Proofs.Lasting
import ElevatorBank.Proofs.Service

/-!
# Shape of the fleet

Whatever is done to a bank, by its callers or by handlers that call back, every car keeps its
number and stays well-formed (`Shaped.run`). Single changes change the cars one by one, each
by itself (`Reshapes`).
-/
namespace ElevatorBank

namespace Bank

/-- No two cars have one number, and each car is well-formed. -/
structure Shaped (b : Bank) : Prop where
  ids : b.fleet.ids.Nodup
  cars : ∀ c ∈ b.fleet, c.WellFormed

/-- The cars have changed one by one, each in a way that any car can change. -/
def Reshapes (b b' : Bank) : Prop := ∃ g : Car → Car, b'.fleet = b.fleet.map g ∧
  (∀ c, (g c).id = c.id) ∧ ∀ c, c.WellFormed → (g c).WellFormed

/-- A bank that has its shape keeps it. -/
def KeepsShape (b b' : Bank) : Prop := b.Shaped → b'.Shaped

variable {b b' c : Bank} {react : React}

lemma Reshapes.keepsShape (h : b.Reshapes b') : b.KeepsShape b' := by
  obtain ⟨g, hfleet, hid, hw⟩ := h
  refine fun hb => ⟨?_, ?_⟩
  · rw [hfleet, Fleet.ids_map hid]
    exact hb.ids
  · rw [hfleet]
    intro c' hm'
    obtain ⟨c, hm, rfl⟩ := List.mem_map.mp hm'
    exact hw c (hb.cars c hm)

lemma Reshapes.trans (h : b.Reshapes b') (h' : b'.Reshapes c) : b.Reshapes c := by
  obtain ⟨g, hfleet, hid, hw⟩ := h
  obtain ⟨g', hfleet', hid', hw'⟩ := h'
  refine ⟨g' ∘ g, ?_, fun c => (hid' _).trans (hid c), fun c hc => hw' _ (hw c hc)⟩
  rw [hfleet', hfleet, List.map_map]

lemma reshapes_of_fleet (hfleet : b'.fleet = b.fleet) : b.Reshapes b' :=
  ⟨id, by rw [hfleet, List.map_id], fun _ => rfl, fun _ hw => hw⟩

lemma reshapes_of_outline (ho : b'.outline = b.outline) : b.Reshapes b' :=
  reshapes_of_fleet (fleet_of_outline ho)

lemma reshapes_change {id : CarId} {g : Car → Car} (hid : ∀ c, (g c).id = c.id)
    (hw : ∀ c, c.WellFormed → (g c).WellFormed)
    (ho : b'.outline = { b with fleet := b.fleet.change id g }.outline) : b.Reshapes b' := by
  refine ⟨_, fleet_of_outline ho, fun c => ?_, fun c hc => ?_⟩
  · split_ifs <;> simp [hid]
  · split_ifs
    · exact hw c hc
    · exact hc

/-! ### Single changes -/

lemma reshapes_enqueue (b : Bank) (c : Car) (t : Target) : b.Reshapes (b.enqueue c t) :=
  reshapes_change (fun c => Car.enqueue_id c t) (fun _ hw => hw.enqueue t) (outline_enqueue b c t)

lemma reshapes_setMode (b : Bank) (c : Car) (mode : Mode) : b.Reshapes (b.setMode c mode) := by
  refine reshapes_change ?_ ?_ (outline_setMode b c mode)
  · exact fun _ => rfl
  · exact fun _ hw => ⟨hw.up, hw.down⟩

lemma reshapes_withdraw (b : Bank) (c : Car) (t : Target) : b.Reshapes (b.withdraw c t) :=
  reshapes_change (Car.withdraw_id · t) (fun _ hw => hw.withdraw t) (outline_withdraw b c t)

lemma reshapes_withdrawFromOthers (b : Bank) (id : CarId) (t : Target) :
    b.Reshapes (b.withdrawFromOthers id t).1 := by
  refine ⟨_, fleet_of_outline (outline_withdrawFromOthers b id t), fun c => ?_, fun c hc => ?_⟩
  · split_ifs <;> simp
  · split_ifs
    · exact hc
    · exact hc.withdraw t

lemma reshapes_resolve (b : Bank) (id : CarId) (t : Target) : b.Reshapes (b.resolve id t).1 :=
  ⟨_, congrArg (·.ledger.fleet) (outline_resolve b id t), fun c => Deed.act_id _ c _,
    fun _ hc => Deed.act_wellFormed hc _ _⟩

lemma reshapes_foldl_enqueueOn (t : Target) (cars : List CarId) (b : Bank) :
    b.Reshapes (cars.foldl (enqueueOn t) b) := by
  induction cars generalizing b with
  | nil => exact reshapes_of_fleet rfl
  | cons id rest ih =>
    refine Reshapes.trans ?_ (ih _)
    unfold enqueueOn
    split
    · exact reshapes_enqueue b _ t
    · exact reshapes_of_fleet rfl

lemma reshapes_register (b : Bank) (t : Target) (cars : List CarId) :
    b.Reshapes (b.register t cars).1 := by
  have hqueued :
      b.Reshapes (cars.foldl (enqueueOn t) { b with calls := b.calls.register t cars }) :=
    reshapes_foldl_enqueueOn t cars { b with calls := b.calls.register t cars }
  exact hqueued.trans (reshapes_of_outline (outline_say _ _ _ _))

lemma reshapes_assign (b : Bank) (s : Strategy) (t : Target) (cars : List CarId) :
    b.Reshapes (assign b s t cars) := by
  unfold assign
  split_ifs
  · exact reshapes_register b t cars
  · exact reshapes_foldl_enqueueOn t cars b

theorem lasting_keepsShape : Lasting (fun _ => True) KeepsShape where
  refl _ h := h
  trans h h' hb := h' (h hb)
  apart hfleet _ _ _ _ := (reshapes_of_fleet hfleet).keepsShape
  queue _ _ _ _ h := ⟨h.ids, h.cars⟩
  enqueue t _ := (reshapes_enqueue _ _ t).keepsShape
  setMode mode _ := (reshapes_setMode _ _ mode).keepsShape
  resolve b car t := (reshapes_resolve b car t).keepsShape
  assign s _ _ _ _ _ h hb := (reshapes_assign _ s _ _).keepsShape (h hb)
  withdraw _ _ := (reshapes_withdraw _ _ _).keepsShape
  withdrawFromOthers _ := (reshapes_withdrawFromOthers _ _ _).keepsShape
  register _ _ := (reshapes_register _ _ _).keepsShape
  subscribe _ h := ⟨h.ids, h.cars⟩
  unsubscribe _ h := ⟨h.ids, h.cars⟩

/-! ### Steps, handlers and runs -/

/-- Putting the car that has advanced in its place. -/
lemma Shaped.advanced (h : b.Shaped) {id : CarId} {c : Car} (hc : b.car? id = some c) :
    { b with fleet := b.fleet.change id fun _ => c.advance.1 }.Shaped := by
  rw [Fleet.change_eq_of_car? h.ids hc (·.advance.1)]
  exact (reshapes_change Car.advance_id (fun _ => Car.advance_wellFormed) rfl).keepsShape h

lemma carsKeep_keepsShape (hr : HandlersKeep KeepsShape react) : CarsKeep KeepsShape react := by
  intro b id h
  unfold stepCar
  cases hc : b.car? id with
  | none => exact h
  | some c => exact lasting_keepsShape.publishAll hr _ _ (h.advanced hc)

/-- Handlers that follow scripts leave the fleet in shape, however deep they call back. -/
theorem handlersKeep_keepsShape (depth : Nat) : HandlersKeep KeepsShape (Bank.react depth) := by
  have hreact : ∀ b sub calls, KeepsShape b (Bank.react depth b sub calls) := by
    induction depth with
    | zero => exact fun b _ _ h => h
    | succ depth ih =>
      intro b sub calls
      have hkept : HandlersKeep KeepsShape (Bank.react depth) :=
        fun b slot sub h => ih _ sub _ ⟨h.ids, h.cars⟩
      refine lasting_keepsShape.foldl (fun b op => ?_) calls b
      exact lasting_keepsShape.trans
        (lasting_keepsShape.performWith hkept (carsKeep_keepsShape hkept) b trivial)
        (lasting_keepsShape.note _ _)
  exact fun b slot sub h => hreact _ sub _ ⟨h.ids, h.cars⟩

theorem Shaped.perform (h : b.Shaped) (op : Op) : (b.perform op).1.Shaped :=
  have hkept := handlersKeep_keepsShape (b.callbacks + op.callbacks)
  lasting_keepsShape.performWith hkept (carsKeep_keepsShape hkept) b trivial h

theorem Shaped.run (h : b.Shaped) (ops : List Op) : (b.run ops).Shaped := by
  induction ops generalizing b with
  | nil => exact h
  | cons op rest ih => exact ih (h.perform op)

lemma Fresh.shaped {floors : List Int} {s : Strategy} (h : b.Fresh floors s) : b.Shaped := by
  have hopening := Ledger.opening_sound floors
  rw [← h.shows.ledger] at hopening
  exact ⟨hopening.ids, hopening.cars⟩

end Bank
end ElevatorBank
