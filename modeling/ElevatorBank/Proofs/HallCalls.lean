import ElevatorBank.HallCalls
import Mathlib.Data.List.Nodup

/-! Which cars hold which pending keys, through registering and resolving. -/
namespace ElevatorBank.HallCalls

variable {h : HallCalls}

/-- A car is among the holders of a pending key. -/
def Holds (h : HallCalls) (t : Target) (id : CarId) : Prop :=
  ∃ call ∈ h, call.target = t ∧ id ∈ call.holders

/-- No key is pending twice. -/
def Unique (h : HallCalls) : Prop := (h.map (·.target)).Nodup

lemma has_iff (h : HallCalls) (t : Target) : h.has t = true ↔ ∃ call ∈ h, call.target = t := by
  simp [has]

lemma Holds.has {t : Target} {id : CarId} (hh : h.Holds t id) : h.has t = true := by
  obtain ⟨call, hm, ht, -⟩ := hh
  exact (has_iff _ _).mpr ⟨call, hm, ht⟩

@[simp] theorem mem_insertHolder {id a : CarId} {holders : List CarId} :
    a ∈ insertHolder id holders ↔ a = id ∨ a ∈ holders := by
  induction holders with
  | nil => simp [insertHolder]
  | cons b rest ih =>
    unfold insertHolder
    split_ifs with hlt hgt
    · simp
    · rw [List.mem_cons, ih, List.mem_cons]
      tauto
    · have hb : id = b := Nat.le_antisymm (Nat.not_lt.mp hgt) (Nat.not_lt.mp hlt)
      simp [hb]

lemma mem_foldl_insertHolder (cars holders : List CarId) (a : CarId) :
    a ∈ cars.foldl (flip insertHolder) holders ↔ a ∈ cars ∨ a ∈ holders := by
  induction cars generalizing holders with
  | nil => simp
  | cons car rest ih =>
    rw [List.foldl_cons, ih, flip, mem_insertHolder, List.mem_cons]
    tauto

/-- Adding cars to the holders of a key changes no key. -/
lemma comp_join {α : Type} (f : Target → α) (t : Target) (cars : List CarId) :
    ((fun call => f call.target) ∘ fun call : PendingCall => if call.target = t then
      { call with holders := cars.foldl (flip insertHolder) call.holders } else call)
        = fun call => f call.target := by
  funext call
  simp only [Function.comp_apply]
  split_ifs <;> rfl

@[simp] theorem has_register (h : HallCalls) (t : Target) (cars : List CarId) (u : Target) :
    (h.register t cars).has u = true ↔ u = t ∨ h.has u = true := by
  unfold register
  split_ifs with ht
  · have hmap : has (h.map fun call => if call.target = t then
        { call with holders := cars.foldl (flip insertHolder) call.holders } else call) u
          = h.has u := by
      unfold has
      rw [List.any_map, comp_join (· == u)]
    rw [hmap]
    constructor
    · exact .inr
    · rintro (rfl | hu)
      · exact ht
      · exact hu
  · rw [has_iff, has_iff]
    constructor
    · rintro ⟨call, hm, rfl⟩
      rcases List.mem_append.mp hm with hm | hm
      · exact .inr ⟨call, hm, rfl⟩
      · obtain rfl := List.mem_singleton.mp hm
        exact .inl rfl
    · rintro (rfl | ⟨call, hm, rfl⟩)
      · exact ⟨_, List.mem_append_right _ (List.mem_singleton.mpr rfl), rfl⟩
      · exact ⟨call, List.mem_append_left _ hm, rfl⟩

/-- Registering a key adds the cars to its holders and changes no other key. -/
@[simp] theorem holds_register (h : HallCalls) (t : Target) (cars : List CarId) (u : Target)
    (id : CarId) :
    (h.register t cars).Holds u id ↔ u = t ∧ id ∈ cars ∨ h.Holds u id := by
  unfold register
  split_ifs with ht
  · constructor
    · rintro ⟨after, hafter, hu, hid⟩
      obtain ⟨call, hm, rfl⟩ := List.mem_map.mp hafter
      split_ifs at hu hid with hc
      · rcases (mem_foldl_insertHolder _ _ _).mp hid with hid | hid
        · exact .inl ⟨hu.symm.trans hc, hid⟩
        · exact .inr ⟨call, hm, hu, hid⟩
      · exact .inr ⟨call, hm, hu, hid⟩
    · rintro (⟨rfl, hid⟩ | ⟨call, hm, rfl, hid⟩)
      · obtain ⟨call, hm, rfl⟩ := (has_iff _ _).mp ht
        refine ⟨_, List.mem_map_of_mem hm, ?_⟩
        rw [if_pos rfl]
        exact ⟨rfl, (mem_foldl_insertHolder _ _ _).mpr (.inl hid)⟩
      · refine ⟨_, List.mem_map_of_mem hm, ?_⟩
        split_ifs
        · exact ⟨rfl, (mem_foldl_insertHolder _ _ _).mpr (.inr hid)⟩
        · exact ⟨rfl, hid⟩
  · constructor
    · rintro ⟨call, hm, rfl, hid⟩
      rcases List.mem_append.mp hm with hm | hm
      · exact .inr ⟨call, hm, rfl, hid⟩
      · obtain rfl := List.mem_singleton.mp hm
        rcases (mem_foldl_insertHolder _ _ _).mp hid with hid | hid
        · exact .inl ⟨rfl, hid⟩
        · cases hid
    · rintro (⟨rfl, hid⟩ | ⟨call, hm, rfl, hid⟩)
      · exact ⟨_, List.mem_append_right _ (List.mem_singleton.mpr rfl), rfl,
          (mem_foldl_insertHolder _ _ _).mpr (.inl hid)⟩
      · exact ⟨call, List.mem_append_left _ hm, rfl, hid⟩

@[simp] theorem has_resolve (h : HallCalls) (t u : Target) :
    (h.resolve t).has u = true ↔ u ≠ t ∧ h.has u = true := by
  rw [has_iff, has_iff]
  constructor
  · rintro ⟨call, hm, rfl⟩
    obtain ⟨hm, ht⟩ := List.mem_filter.mp hm
    exact ⟨by simpa using ht, call, hm, rfl⟩
  · rintro ⟨ht, call, hm, rfl⟩
    exact ⟨call, List.mem_filter.mpr ⟨hm, by simpa using ht⟩, rfl⟩

@[simp] theorem holds_resolve (h : HallCalls) (t u : Target) (id : CarId) :
    (h.resolve t).Holds u id ↔ u ≠ t ∧ h.Holds u id := by
  constructor
  · rintro ⟨call, hm, rfl, hid⟩
    obtain ⟨hm, ht⟩ := List.mem_filter.mp hm
    exact ⟨by simpa using ht, call, hm, rfl, hid⟩
  · rintro ⟨ht, call, hm, rfl, hid⟩
    exact ⟨call, List.mem_filter.mpr ⟨hm, by simpa using ht⟩, rfl, hid⟩

/-- To resolve a key that is not pending changes nothing. -/
theorem resolve_of_not_has {t : Target} (ht : h.has t = false) : h.resolve t = h := by
  apply List.filter_eq_self.mpr
  intro call hm
  have hne : call.target ≠ t := by
    rintro rfl
    simp [has] at ht
    exact ht call hm rfl
  simpa using hne

theorem Unique.register (hu : h.Unique) (t : Target) (cars : List CarId) :
    (h.register t cars).Unique := by
  unfold HallCalls.register Unique
  split_ifs with ht
  · rw [List.map_map]
    exact (comp_join id t cars).symm ▸ hu
  · rw [List.map_append, List.nodup_append]
    refine ⟨hu, by simp, ?_⟩
    rintro a ha b hb rfl
    obtain ⟨call, hm, rfl⟩ := List.mem_map.mp ha
    have hb : call.target = t := by simpa using hb
    exact ht ((has_iff _ _).mpr ⟨call, hm, hb⟩)

theorem Unique.resolve (hu : h.Unique) (t : Target) : (h.resolve t).Unique :=
  hu.sublist (List.filter_sublist.map _)

lemma isSome_holders? (h : HallCalls) (t : Target) : (h.holders? t).isSome = h.has t := by
  rw [Bool.eq_iff_iff, has_iff]
  simp [holders?]

/-- Registering a key adds the cars to the holders stored under it. -/
theorem holders?_register (h : HallCalls) (t : Target) (cars : List CarId) (u : Target) :
    (h.register t cars).holders? u =
      if u = t then some (cars.foldl (flip insertHolder) ((h.holders? t).getD []))
      else h.holders? u := by
  have hfound := isSome_holders? h t
  unfold register
  split_ifs with ht hu hu
  · subst hu
    rw [ht] at hfound
    obtain ⟨holders, hh⟩ := Option.isSome_iff_exists.mp hfound
    obtain ⟨call, hcall, rfl⟩ := Option.map_eq_some_iff.mp hh
    have htarget : call.target = u := by simpa using List.find?_some hcall
    rw [hh, holders?, List.find?_map, comp_join (· == u), hcall]
    simp [htarget]
  · rw [holders?, List.find?_map, comp_join (· == u), holders?, Option.map_map]
    cases hcall : h.find? (·.target == u) with
    | none => rfl
    | some call =>
      have htarget : call.target = u := by simpa using List.find?_some hcall
      simp [htarget, hu]
  · subst hu
    have hnone : h.holders? u = none := by simpa [ht] using hfound
    have hfind : h.find? (·.target == u) = none := by simpa [holders?] using hnone
    rw [hnone, holders?, List.find?_append, hfind]
    simp
  · rw [holders?, List.find?_append, holders?]
    simp [Ne.symm hu]

/-- The holders stored under a key are the cars that hold it. -/
theorem mem_holders_iff (hu : h.Unique) {t : Target} {holders : List CarId}
    (hh : h.holders? t = some holders) (id : CarId) : id ∈ holders ↔ h.Holds t id := by
  obtain ⟨call, hfind, rfl⟩ := Option.map_eq_some_iff.mp hh
  have hm := List.mem_of_find?_eq_some hfind
  have ht : call.target = t := by simpa using List.find?_some hfind
  constructor
  · exact fun hid => ⟨call, hm, ht, hid⟩
  · rintro ⟨other, hother, hto, hid⟩
    have : other = call := List.inj_on_of_nodup_map hu hother hm (hto.trans ht.symm)
    exact this ▸ hid

end ElevatorBank.HallCalls
