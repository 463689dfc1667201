/-!
# Stop sets

The floors a car has queued for one sweep. Each queued floor remembers who asked
for it: a landing, a passenger inside, or both. A set is read through
`requests`, which gives for every floor its requesters; `put` is the one
operation that changes a set, and it drops a floor that nobody asks for any
more. `requests_put` says what it does to the view.
-/
namespace ElevatorBank

/-- Who asked for a stop. -/
structure Requesters where
  hall : Bool
  cabin : Bool
  deriving DecidableEq, Repr, Inhabited

namespace Requesters

def nobody : Requesters := ⟨false, false⟩

/-- Whether anybody asked. -/
def any (r : Requesters) : Bool := r.hall || r.cabin

theorem eq_nobody_iff {r : Requesters} : r = nobody ↔ r.any = false := by
  rcases r with ⟨_ | _, _ | _⟩ <;> decide

end Requesters

structure Stop where
  floor : Int
  requesters : Requesters
  deriving DecidableEq, Repr, Inhabited

/-- The queued stops of one sweep in ascending order of floors. -/
abbrev StopSet := List Stop

namespace StopSet

/-- The requesters of a floor; nobody where it is not queued. -/
def requests (s : StopSet) (floor : Int) : Requesters :=
  match s with
  | [] => .nobody
  | stop :: rest => if stop.floor = floor then stop.requesters else requests rest floor

def floors (s : StopSet) : List Int := s.map (·.floor)

def has (s : StopSet) (floor : Int) : Bool := s.any (·.floor == floor)

/-- Makes `r` the requesters of a floor. -/
def put (floor : Int) (r : Requesters) : StopSet → StopSet
  | [] => entry
  | stop :: rest =>
    if floor < stop.floor then entry ++ stop :: rest
    else if stop.floor < floor then stop :: put floor r rest
    else entry ++ rest
where
  entry : StopSet := if r.any then [⟨floor, r⟩] else []

def markHall (s : StopSet) (floor : Int) : StopSet :=
  put floor { s.requests floor with hall := true } s

/-- A stop that a passenger asked for too stays queued. -/
def clearHall (s : StopSet) (floor : Int) : StopSet :=
  put floor { s.requests floor with hall := false } s

def markCabin (s : StopSet) (floor : Int) : StopSet :=
  put floor { s.requests floor with cabin := true } s

/-- A stop that a landing asked for too stays queued. -/
def clearCabin (s : StopSet) (floor : Int) : StopSet :=
  put floor { s.requests floor with cabin := false } s

def remove (s : StopSet) (floor : Int) : StopSet := put floor .nobody s

/-- Each floor once, in ascending order. -/
def Ascending (s : StopSet) : Prop := s.Pairwise (·.floor < ·.floor)

/-- Every queued floor has somebody who asked for it. -/
def Requested (s : StopSet) : Prop := ∀ stop ∈ s, stop.requesters.any = true

theorem mem_put_entry {floor : Int} {r : Requesters} {stop : Stop}
    (h : stop ∈ put.entry floor r) : stop.floor = floor ∧ stop.requesters.any = true := by
  unfold put.entry at h
  split at h
  · obtain rfl := List.mem_singleton.mp h
    exact ⟨rfl, ‹_›⟩
  · cases h

theorem mem_put {floor : Int} {r : Requesters} {stop : Stop} {s : StopSet}
    (h : stop ∈ put floor r s) : stop.floor = floor ∧ stop.requesters.any = true ∨ stop ∈ s := by
  induction s with
  | nil => exact .inl (mem_put_entry h)
  | cons first rest ih =>
    unfold put at h
    split at h
    · rcases List.mem_append.mp h with h | h
      · exact .inl (mem_put_entry h)
      · exact .inr h
    · split at h
      · rcases List.mem_cons.mp h with rfl | h
        · exact .inr List.mem_cons_self
        · exact (ih h).imp_right (List.mem_cons_of_mem _)
      · rcases List.mem_append.mp h with h | h
        · exact .inl (mem_put_entry h)
        · exact .inr (List.mem_cons_of_mem _ h)

theorem Requested.put {s : StopSet} (h : s.Requested) (floor : Int) (r : Requesters) :
    Requested (put floor r s) := by
  intro stop hm
  rcases mem_put hm with ⟨_, ha⟩ | hm
  · exact ha
  · exact h _ hm

theorem Ascending.entry_append {floor : Int} {r : Requesters} {s : StopSet} (h : s.Ascending)
    (hf : ∀ stop ∈ s, floor < stop.floor) : Ascending (put.entry floor r ++ s) := by
  refine List.pairwise_append.mpr ⟨?_, h, fun a ha b hb => ?_⟩
  · unfold put.entry; split <;> simp
  · rw [(mem_put_entry ha).1]; exact hf b hb

theorem Ascending.put {s : StopSet} (h : s.Ascending) (floor : Int) (r : Requesters) :
    Ascending (put floor r s) := by
  induction s with
  | nil => unfold StopSet.put StopSet.put.entry Ascending; split <;> simp
  | cons first rest ih =>
    obtain ⟨hfirst, hrest⟩ := List.pairwise_cons.mp h
    unfold StopSet.put
    split
    · refine h.entry_append fun stop hm => ?_
      rcases List.mem_cons.mp hm with rfl | hm
      · assumption
      · have := hfirst _ hm; omega
    · split
      · refine List.pairwise_cons.mpr ⟨fun stop hm => ?_, ih hrest⟩
        rcases mem_put hm with ⟨hf, _⟩ | hm
        · omega
        · exact hfirst _ hm
      · refine Ascending.entry_append hrest fun stop hm => ?_
        have := hfirst _ hm; omega

theorem requests_eq_nobody {s : StopSet} {floor : Int} (h : ∀ stop ∈ s, stop.floor ≠ floor) :
    s.requests floor = .nobody := by
  induction s with
  | nil => rfl
  | cons first rest ih =>
    unfold requests
    rw [if_neg (h first List.mem_cons_self)]
    exact ih fun stop hm => h stop (List.mem_cons_of_mem _ hm)

/-- A floor that is not queued behind its entry has the entry's requesters. -/
theorem requests_entry_append {floor : Int} {s : StopSet} (h : ∀ stop ∈ s, stop.floor ≠ floor)
    (r : Requesters) (g : Int) :
    requests (put.entry floor r ++ s) g = if g = floor then r else s.requests g := by
  unfold put.entry
  by_cases hg : g = floor
  · subst hg
    by_cases ha : r.any = true
    · simp [ha, requests]
    · have hr : r = .nobody := Requesters.eq_nobody_iff.mpr (by simpa using ha)
      rw [if_neg ha, List.nil_append, if_pos rfl, requests_eq_nobody h, hr]
  · by_cases ha : r.any = true <;> simp [ha, hg, requests]
    intro hf; exact absurd hf.symm hg

/-- Putting changes the requesters of the one floor only. -/
theorem requests_put {s : StopSet} (h : s.Ascending) (floor : Int) (r : Requesters) (g : Int) :
    requests (put floor r s) g = if g = floor then r else s.requests g := by
  induction s with
  | nil => simpa [put] using requests_entry_append (s := []) (by simp) r g
  | cons first rest ih =>
    obtain ⟨hfirst, hrest⟩ := List.pairwise_cons.mp h
    unfold put
    split
    · refine requests_entry_append (fun stop hm => ?_) r g
      rcases List.mem_cons.mp hm with rfl | hm
      · omega
      · have := hfirst _ hm; omega
    · split
      · rw [requests, ih hrest, requests]
        by_cases hs : first.floor = g
        · rw [if_pos hs, if_pos hs, if_neg (by omega)]
        · rw [if_neg hs, if_neg hs]
      · rw [requests_entry_append (fun stop hm => ?_), requests]
        · by_cases hg : g = floor
          · simp [hg]
          · rw [if_neg hg, if_neg hg, if_neg (by omega)]
        · have := hfirst _ hm; omega

end StopSet
end ElevatorBank
