import ElevatorBank.Stops
import Mathlib.Tactic.Common

/-! Well-formed stop sets, and what each change of a set does to the requests for
every floor. -/
namespace ElevatorBank.StopSet

/-- Each floor once and in order, and none that nobody asks for. -/
structure WellFormed (s : StopSet) : Prop where
  ascending : s.Ascending
  requested : s.Requested

variable {s : StopSet}

theorem wellFormed_nil : WellFormed [] := ⟨List.Pairwise.nil, fun _ h => by cases h⟩

lemma WellFormed.put (h : s.WellFormed) (floor : Int) (r : Requesters) :
    (put floor r s).WellFormed := ⟨h.ascending.put floor r, h.requested.put floor r⟩

lemma has_eq_true_iff_mem (s : StopSet) (floor : Int) :
    s.has floor = true ↔ floor ∈ s.floors := by
  simp [has, floors]

lemma floors_pairwise (h : s.WellFormed) : s.floors.Pairwise (· < ·) :=
  List.pairwise_map.mpr h.ascending

/-- Whether a floor is queued can be read off its requesters. -/
theorem has_iff_any (h : s.WellFormed) (floor : Int) :
    s.has floor = (s.requests floor).any := by
  have hr := h.requested
  clear h
  induction s with
  | nil => rfl
  | cons stop rest ih =>
    have hrest := ih fun other hm => hr other (List.mem_cons_of_mem _ hm)
    by_cases hf : stop.floor = floor
    · simp [has, requests, hf, hr stop List.mem_cons_self]
    · rw [requests, if_neg hf, ← hrest]
      simp [has, hf]

@[simp] lemma requests_nil (floor : Int) : requests [] floor = .nobody := rfl

section
variable (h : s.WellFormed) (floor g : Int)
include h

@[simp] theorem requests_markHall :
    (s.markHall floor).requests g =
      if g = floor then { s.requests floor with hall := true } else s.requests g :=
  requests_put h.ascending _ _ _

@[simp] theorem requests_clearHall :
    (s.clearHall floor).requests g =
      if g = floor then { s.requests floor with hall := false } else s.requests g :=
  requests_put h.ascending _ _ _

@[simp] theorem requests_markCabin :
    (s.markCabin floor).requests g =
      if g = floor then { s.requests floor with cabin := true } else s.requests g :=
  requests_put h.ascending _ _ _

@[simp] theorem requests_clearCabin :
    (s.clearCabin floor).requests g =
      if g = floor then { s.requests floor with cabin := false } else s.requests g :=
  requests_put h.ascending _ _ _

@[simp] theorem requests_remove :
    (s.remove floor).requests g = if g = floor then .nobody else s.requests g :=
  requests_put h.ascending _ _ _

end

/-- Putting changes whether a floor is queued for the one floor only. -/
theorem has_put (h : s.WellFormed) (floor : Int) (r : Requesters) (g : Int) :
    (put floor r s).has g = if g = floor then r.any else s.has g := by
  rw [has_iff_any (h.put floor r), requests_put h.ascending]
  split_ifs
  · rfl
  · exact (has_iff_any h g).symm

theorem has_remove (h : s.WellFormed) (floor g : Int) :
    (s.remove floor).has g = true ↔ g ≠ floor ∧ s.has g = true := by
  unfold remove
  rw [has_put h]
  by_cases hg : g = floor <;> simp [hg, Requesters.any, Requesters.nobody]

lemma has_remove_self (h : s.WellFormed) (floor : Int) : (s.remove floor).has floor = false :=
  Bool.eq_false_iff.mpr fun hs => ((has_remove h floor floor).mp hs).1 rfl

lemma has_of_has_clearHall (h : s.WellFormed) {floor g : Int}
    (hg : (s.clearHall floor).has g = true) : s.has g = true := by
  unfold clearHall at hg
  rw [has_put h] at hg
  split_ifs at hg with he
  · rw [he, has_iff_any h]
    simp_all [Requesters.any]
  · exact hg

lemma has_of_has_clearCabin (h : s.WellFormed) {floor g : Int}
    (hg : (s.clearCabin floor).has g = true) : s.has g = true := by
  unfold clearCabin at hg
  rw [has_put h] at hg
  split_ifs at hg with he
  · rw [he, has_iff_any h]
    simp_all [Requesters.any]
  · exact hg

/-- A set is empty exactly if no floor is queued. -/
lemma eq_nil_iff_has (s : StopSet) : s = [] ↔ ∀ floor, s.has floor = false := by
  constructor
  · rintro rfl floor
    rfl
  · intro hn
    cases s with
    | nil => rfl
    | cons stop rest => simpa [has] using hn stop.floor

/-- A well-formed set is empty exactly if nobody asks for any floor. -/
theorem eq_nil_iff (h : s.WellFormed) : s = [] ↔ ∀ floor, s.requests floor = .nobody := by
  constructor
  · rintro rfl floor
    rfl
  · intro hn
    cases s with
    | nil => rfl
    | cons stop rest =>
      have ha := h.requested stop List.mem_cons_self
      have hs := hn stop.floor
      simp only [requests, if_true] at hs
      rw [hs] at ha
      cases ha

/-- Of a set in order the first entry is the lowest floor. -/
lemma requests_of_le_head {stop : Stop} {rest : StopSet}
    (h : Ascending (stop :: rest)) {floor : Int} (hf : floor ≤ stop.floor) :
    requests rest floor = .nobody := by
  apply requests_eq_nobody
  intro other hm
  have := (List.pairwise_cons.mp h).1 other hm
  omega

/-- The view determines the set: two well-formed sets with the same requesters for
every floor are equal. -/
theorem ext_requests {t : StopSet} (hs : s.WellFormed) (ht : t.WellFormed)
    (h : ∀ floor, s.requests floor = t.requests floor) : s = t := by
  induction s generalizing t with
  | nil => exact ((eq_nil_iff ht).mpr fun floor => (h floor).symm).symm
  | cons a rest ih =>
    cases t with
    | nil => exact (eq_nil_iff hs).mpr h
    | cons b others =>
      obtain ⟨ha, hrest⟩ := List.pairwise_cons.mp hs.ascending
      obtain ⟨hb, hothers⟩ := List.pairwise_cons.mp ht.ascending
      have hab : a.floor = b.floor := by
        rcases Int.lt_trichotomy a.floor b.floor with hlt | he | hlt
        · have hreq := h a.floor
          have hany := hs.requested a List.mem_cons_self
          rw [requests, if_pos rfl, requests, if_neg (by omega),
            requests_of_le_head ht.ascending (by omega)] at hreq
          rw [hreq] at hany
          cases hany
        · exact he
        · have hreq := h b.floor
          have hany := ht.requested b List.mem_cons_self
          rw [requests, if_neg (by omega), requests_of_le_head hs.ascending (by omega),
            requests, if_pos rfl] at hreq
          rw [← hreq] at hany
          cases hany
      have hreq : a.requesters = b.requesters := by
        simpa [requests, hab] using h a.floor
      have htail : rest = others := by
        apply ih ⟨hrest, fun stop hm => hs.requested stop (List.mem_cons_of_mem _ hm)⟩
          ⟨hothers, fun stop hm => ht.requested stop (List.mem_cons_of_mem _ hm)⟩
        intro floor
        by_cases hf : a.floor = floor
        · rw [requests_of_le_head hs.ascending (by omega),
            requests_of_le_head ht.ascending (by omega)]
        · simpa [requests, hf, hab ▸ hf] using h floor
      rw [htail, show a = b by cases a; cases b; simp_all]

theorem markHall_markHall (h : s.WellFormed) (floor : Int) :
    (s.markHall floor).markHall floor = s.markHall floor := by
  have h' : (s.markHall floor).WellFormed := h.put _ _
  have h'' : ((s.markHall floor).markHall floor).WellFormed := h'.put _ _
  apply ext_requests h'' h'
  intro g
  rw [requests_markHall h']
  split_ifs with hg
  · simp [hg, h]
  · rfl

end ElevatorBank.StopSet
