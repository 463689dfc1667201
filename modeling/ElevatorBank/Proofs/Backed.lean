import ElevatorBank.Proofs.Travel

/-!
# Backed calls

A car takes a stop off its sets before it says that it has served it. So a pending call may
have a holder without its request, as long as that holder is still to announce the stop:
`Backed` says that every holder has the request or that its serving is under way. Here is
what changes of cars and of the calls do to it.
-/
namespace ElevatorBank

/-- Every pending call has been given to cars. Each of them has the request, or its serving
is under way. -/
structure HallCalls.Backed (h : HallCalls) (f : Fleet) (underway : CarId → Target → Prop) :
    Prop where
  ids : f.ids.Nodup
  cars : ∀ c ∈ f, c.WellFormed
  unique : h.Unique
  keys : ∀ t, h.has t = true → t.direction.isHall = true
  held : ∀ t, h.has t = true → ∃ id, h.Holds t id
  backed : ∀ t id, h.Holds t id → f.Owes id t ∨ underway id t

/-- After a step a car has the hall requests it had, but for a stop it announces as served. -/
lemma Car.hasHallStop_advance {c : Car} (hw : c.WellFormed) {u : Target}
    (hs : c.hasHallStop u.floor u.direction = true) :
    c.advance.1.hasHallStop u.floor u.direction = true ∨
      .stopServed c.id u.floor u.direction ∈ c.advance.2 := by
  rcases step_cases hw with ⟨-, -, -, hadv⟩ | ⟨aim, set, -, hset, -, ⟨-, -, hadv⟩ |
    ⟨floor, -, -, ⟨-, -, hadv⟩ | ⟨-, -, hadv⟩⟩⟩ <;> rw [hadv]
  · exact .inl hs
  · by_cases hu : u = ⟨aim, set⟩
    · exact .inr (by simp [hu])
    · exact .inl ((hasHallStop_serve hw (t := ⟨aim, set⟩) hset u).mpr ⟨hu, hs⟩)
  · by_cases hu : u = ⟨aim, set⟩
    · exact .inr (by simp [hu])
    · have hmoved : ({ c with floor } : Car).WellFormed := ⟨hw.up, hw.down⟩
      exact .inl ((hasHallStop_serve hmoved (t := ⟨aim, set⟩) hset u).mpr ⟨hu, by simpa using hs⟩)
  · exact .inl (by simpa using hs)

lemma Car.advance_wellFormed {c : Car} (hw : c.WellFormed) : c.advance.1.WellFormed := by
  have hmoved : ∀ floor, ({ c with floor } : Car).WellFormed := fun _ => ⟨hw.up, hw.down⟩
  rcases step_cases hw with ⟨-, -, -, hadv⟩ | ⟨aim, set, -, -, -, ⟨-, -, hadv⟩ |
    ⟨floor, -, -, ⟨-, -, hadv⟩ | ⟨-, -, hadv⟩⟩⟩ <;> rw [hadv]
  · exact hw
  · exact hw.serve aim set
  · exact (hmoved floor).serve aim set
  · exact hmoved floor

@[simp] lemma Car.advance_id (c : Car) : c.advance.1.id = c.id := by
  unfold advance
  split
  · rfl
  · dsimp only
    split <;> simp

namespace HallCalls

variable {h : HallCalls} {f : Fleet} {F G : CarId → Target → Prop} {t : Target}

lemma backed_nil (hids : f.ids.Nodup) (hcars : ∀ c ∈ f, c.WellFormed) : Backed [] f F where
  ids := hids
  cars := hcars
  unique := List.nodup_nil
  keys _ ht := by cases ht
  held _ ht := by cases ht
  backed _ _ ht := by cases ht.has

lemma Backed.mono (hb : h.Backed f F) (hFG : ∀ u id, h.Holds u id → F id u → f.Owes id u ∨ G id u) :
    h.Backed f G where
  ids := hb.ids
  cars := hb.cars
  unique := hb.unique
  keys := hb.keys
  held := hb.held
  backed u id hu := (hb.backed u id hu).elim .inl (hFG u id hu)

/-- Cars may change as long as they keep the requests of pending calls or put their serving
under way. -/
theorem Backed.map (hb : h.Backed f F) {g : Car → Car} (hid : ∀ c, (g c).id = c.id)
    (hw : ∀ c ∈ f, (g c).WellFormed)
    (hkeep : ∀ c ∈ f, ∀ u, h.has u = true → c.hasHallStop u.floor u.direction = true →
      (g c).hasHallStop u.floor u.direction = true ∨ G c.id u)
    (hFG : ∀ id u, F id u → G id u) : h.Backed (f.map g) G where
  ids := by
    rw [Fleet.ids_map hid]
    exact hb.ids
  cars := by
    intro c' hm'
    obtain ⟨c, hm, rfl⟩ := List.mem_map.mp hm'
    exact hw c hm
  unique := hb.unique
  keys := hb.keys
  held := hb.held
  backed := by
    intro u id hu
    rcases hb.backed u id hu with ⟨c, hm, rfl, hs⟩ | hunder
    · exact (hkeep c hm u hu.has hs).imp_left fun hs => ⟨g c, List.mem_map_of_mem hm, hid c, hs⟩
    · exact .inr (hFG id u hunder)

lemma Backed.change (hb : h.Backed f F) {c c' : Car} (hm : c ∈ f) (hid : c'.id = c.id)
    (hw : c'.WellFormed)
    (hkeep : ∀ u, c.hasHallStop u.floor u.direction = true →
      c'.hasHallStop u.floor u.direction = true ∨ G c.id u)
    (hFG : ∀ id u, F id u → G id u) : h.Backed (f.change c.id fun _ => c') G := by
  refine hb.map (fun other => ?_) (fun other hother => ?_) (fun other hother u _ hs => ?_) hFG
  · split_ifs with ho
    · rw [hid, ho]
    · rfl
  · split_ifs
    · exact hw
    · exact hb.cars other hother
  · split_ifs with ho
    · rw [List.inj_on_of_nodup_map hb.ids hother hm ho] at hs ⊢
      exact hkeep u hs
    · exact .inl hs

/-- Once a call has been resolved, nobody needs its request any more. -/
lemma Backed.resolve (hb : h.Backed f F) (hFG : ∀ id u, u ≠ t → F id u → G id u) :
    (h.resolve t).Backed f G where
  ids := hb.ids
  cars := hb.cars
  unique := hb.unique.resolve t
  keys u hu := hb.keys u ((has_resolve h t u).mp hu).2
  held u hu := by
    obtain ⟨hne, hu⟩ := (has_resolve h t u).mp hu
    obtain ⟨id, hid⟩ := hb.held u hu
    exact ⟨id, (holds_resolve h t u id).mpr ⟨hne, hid⟩⟩
  backed u id hu := by
    obtain ⟨hne, hu⟩ := (holds_resolve h t u id).mp hu
    exact (hb.backed u id hu).imp_right (hFG id u hne)

lemma Backed.register (hb : h.Backed f F) (ht : t.direction.isHall = true) {cars : List CarId}
    (hne : cars ≠ []) (ho : ∀ id ∈ cars, f.Owes id t) : (h.register t cars).Backed f F where
  ids := hb.ids
  cars := hb.cars
  unique := hb.unique.register t cars
  keys u hu := by
    rcases (has_register h t cars u).mp hu with rfl | hu
    · exact ht
    · exact hb.keys u hu
  held u hu := by
    rcases (has_register h t cars u).mp hu with rfl | hu
    · obtain ⟨id, hid⟩ := List.exists_mem_of_ne_nil cars hne
      exact ⟨id, (holds_register h u cars u id).mpr (.inl ⟨rfl, hid⟩)⟩
    · obtain ⟨id, hid⟩ := hb.held u hu
      exact ⟨id, (holds_register h t cars u id).mpr (.inr hid)⟩
  backed u id hu := by
    rcases (holds_register h t cars u id).mp hu with ⟨rfl, hid⟩ | hu
    · exact .inl (ho id hid)
    · exact hb.backed u id hu

/-- Withdrawing a call that is not pending from other cars takes nothing away that matters. -/
lemma Backed.withdrawFromOthers (hb : h.Backed f F) (ht : t.direction.isHall = true)
    (hn : h.has t ≠ true) (id : CarId) : h.Backed (f.withdrawFromOthers id t) F := by
  refine hb.map (fun c => ?_) (fun c hm => ?_) (fun c hm u hu hs => ?_) fun _ _ hu => hu
  · split_ifs <;> simp
  · split_ifs
    · exact hb.cars c hm
    · exact (hb.cars c hm).withdraw t
  · split_ifs
    · exact .inl hs
    · refine .inl ((Car.hasHallStop_withdraw (hb.cars c hm) ht u).mpr ⟨?_, hs⟩)
      rintro rfl
      exact hn hu

/-- Queueing a hall call on cars of the fleet leaves every request where it is. -/
lemma Backed.enqueue (hb : h.Backed f F) (ht : t.direction.isHall = true) (cars : List CarId) :
    h.Backed (f.map fun c => if c.id ∈ cars then c.enqueue t else c) F := by
  refine hb.map (fun c => ?_) (fun c hm => ?_) (fun c hm u _ hs => ?_) fun _ _ hu => hu
  · split_ifs <;> simp
  · split_ifs
    · exact (hb.cars c hm).enqueue t
    · exact hb.cars c hm
  · split_ifs
    · exact .inl ((Car.hasHallStop_enqueue (hb.cars c hm) ht u).mpr (.inr hs))
    · exact .inl hs

end HallCalls

lemma Fleet.owes_enqueue {f : Fleet} (hw : ∀ c ∈ f, c.WellFormed) {t : Target}
    (ht : t.direction.isHall = true) {cars : List CarId} {id : CarId} (hid : id ∈ cars)
    (hknown : id ∈ f.ids) :
    Owes (f.map fun c => if c.id ∈ cars then c.enqueue t else c) id t := by
  obtain ⟨c, hm, rfl⟩ := mem_ids.mp hknown
  refine ⟨_, List.mem_map_of_mem hm, ?_, ?_⟩ <;> rw [if_pos hid]
  · simp
  · exact (Car.hasHallStop_enqueue (hw c hm) ht t).mpr (.inl rfl)

end ElevatorBank
