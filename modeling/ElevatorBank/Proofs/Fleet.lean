import ElevatorBank.Fleet
import ElevatorBank.Proofs.Car
import Mathlib.Data.List.Nodup

/-! Looking cars up by their numbers and changing them. -/
namespace ElevatorBank.Fleet

variable {f : Fleet}

lemma mem_ids {id : CarId} : id ∈ f.ids ↔ ∃ c ∈ f, c.id = id := by simp [ids]

/-- With no number twice, the car of a number is the one that has it. -/
theorem car?_eq_some_iff (hn : f.ids.Nodup) {id : CarId} {c : Car} :
    f.car? id = some c ↔ c ∈ f ∧ c.id = id := by
  constructor
  · intro h
    exact ⟨List.mem_of_find?_eq_some h, by simpa using List.find?_some h⟩
  · rintro ⟨hm, rfl⟩
    cases hfind : f.car? c.id with
    | none => simpa using List.find?_eq_none.mp hfind c hm
    | some other =>
      have hid : other.id = c.id := by simpa using List.find?_some hfind
      rw [List.inj_on_of_nodup_map hn (List.mem_of_find?_eq_some hfind) hm hid]

lemma car?_eq_none_iff {id : CarId} : f.car? id = none ↔ id ∉ f.ids := by
  simp [car?, ids]

lemma unknown?_eq_none_iff {cars : List CarId} :
    f.unknown? cars = none ↔ ∀ id ∈ cars, id ∈ f.ids := by
  simp [unknown?, car?_eq_none_iff]

/-- Putting a changed car in its place is changing it there. -/
theorem change_eq_of_car? (hn : f.ids.Nodup) {id : CarId} {c : Car} (hc : f.car? id = some c)
    (g : Car → Car) : (f.change id fun _ => g c) = f.change id g := by
  obtain ⟨hm, rfl⟩ := (car?_eq_some_iff hn).mp hc
  apply List.map_congr_left
  intro other hother
  split_ifs with hid
  · rw [List.inj_on_of_nodup_map hn hother hm hid]
  · rfl

lemma change_change (f : Fleet) (id : CarId) {g : Car → Car} (hg : ∀ c, (g c).id = c.id)
    (g' : Car → Car) : (f.change id g).change id g' = f.change id fun c => g' (g c) := by
  unfold change
  rw [List.map_map]
  apply List.map_congr_left
  intro c _
  by_cases hid : c.id = id <;> simp [hid, hg]

lemma change_self (f : Fleet) (id : CarId) : f.change id (fun c => c) = f := by
  simp [change]

theorem change_of_unknown {id : CarId} (hid : id ∉ f.ids) (g : Car → Car) :
    f.change id g = f := by
  have hsame : ∀ c ∈ f, (if c.id = id then g c else c) = c := fun c hm =>
    if_neg fun h => hid (mem_ids.mpr ⟨c, hm, h⟩)
  exact (List.map_congr_left hsame).trans (List.map_id f)

/-- Queueing one hall call on several cars, one after the other, queues it once on each. -/
theorem foldl_enqueue (hw : ∀ c ∈ f, c.WellFormed) {t : Target} (ht : t.direction.isHall = true)
    (cars : List CarId) :
    cars.foldl (fun f id => f.change id (·.enqueue t)) f =
      f.map fun c => if c.id ∈ cars then c.enqueue t else c := by
  induction cars generalizing f with
  | nil => simp
  | cons id rest ih =>
    have hw' : ∀ c ∈ f.change id (·.enqueue t), c.WellFormed := by
      intro after hafter
      obtain ⟨c, hm, rfl⟩ := List.mem_map.mp hafter
      split_ifs
      · exact (hw c hm).enqueue t
      · exact hw c hm
    rw [List.foldl_cons, ih hw']
    unfold change
    rw [List.map_map]
    apply List.map_congr_left
    intro c hm
    by_cases hid : c.id = id <;> by_cases hrest : c.id ∈ rest <;>
      simp [hid, hrest, Car.enqueue_enqueue (hw c hm) ht]

@[simp] lemma ids_map {g : Car → Car} (hg : ∀ c, (g c).id = c.id) : ids (f.map g) = f.ids := by
  unfold ids
  rw [List.map_map]
  exact List.map_congr_left fun c _ => hg c

/-- Where every car keeps its number, a car is found as what has become of it. -/
theorem car?_map {g : Car → Car} (hg : ∀ c, (g c).id = c.id) (id : CarId) :
    car? (f.map g) id = (f.car? id).map g := by
  unfold car?
  rw [List.find?_map]
  simp only [Function.comp_def, hg]

lemma car?_change {id : CarId} {c c' : Car} (hc : f.car? id = some c) (hid : c'.id = id) :
    (f.change id fun _ => c').car? id = some c' := by
  have hcar : c.id = id := by simpa using List.find?_some hc
  unfold change
  rw [car?_map fun c => by split_ifs with h <;> simp [h, hid], hc, Option.map_some, if_pos hcar]

lemma car?_change_of_ne {id other : CarId} {c' : Car} (hid : c'.id = id) (hne : other ≠ id) :
    (f.change id fun _ => c').car? other = f.car? other := by
  unfold change
  rw [car?_map fun c => by split_ifs with h <;> simp [h, hid]]
  cases hc : f.car? other with
  | none => rfl
  | some c =>
    have hcar : c.id = other := by simpa using List.find?_some hc
    rw [Option.map_some, if_neg fun h => hne (hcar.symm.trans h)]

lemma car?_withdrawFromOthers (f : Fleet) (id : CarId) (t : Target) :
    (f.withdrawFromOthers id t).car? id = f.car? id := by
  unfold withdrawFromOthers
  rw [car?_map fun c => by split_ifs <;> simp]
  cases hc : f.car? id with
  | none => rfl
  | some c =>
    have hcar : c.id = id := by simpa using List.find?_some hc
    rw [Option.map_some, if_pos hcar]

theorem start_ids (floors : List Int) :
    (start floors).ids = (List.range floors.length).map (· + 1) := by
  unfold ids start
  apply List.ext_getElem <;> simp [Car.start]

theorem start_ids_nodup (floors : List Int) : (start floors).ids.Nodup := by
  rw [start_ids]
  exact List.nodup_range.map fun a b h => Nat.succ.inj h

/-- A car of a new fleet stands somewhere and has nothing to do. -/
lemma mem_start {floors : List Int} {c : Car} (hm : c ∈ start floors) :
    ∃ id, ∃ floor ∈ floors, c = Car.start id floor := by
  obtain ⟨i, hi, rfl⟩ := List.mem_mapIdx.mp hm
  exact ⟨_, _, List.getElem_mem hi, rfl⟩

end ElevatorBank.Fleet
