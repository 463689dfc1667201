import ElevatorBank.Strategy
import Mathlib.Data.Prod.Lex
import Mathlib.Algebra.Order.Ring.Cast
import Mathlib.Algebra.Order.Ring.Rat
import Mathlib.Tactic.NormNum
import Mathlib.Tactic.Ring

/-!
# The cheapest car

The single choice is a least one. A car stands in the competition for a call with its cost, and
of two cars that cost the same the one with the lower number stands first. The candidates are
looked through in the order of their numbers (`cheapest_least`), so whoever is chosen stands
before every other car in normal mode as the costs are reckoned (`chosen_foremost`), and as they
are (`Foremost.least`) unless one car is so far away that the sign of the distance is lost. Who
stands first is unique, so neither the order of the snapshots nor a car in another mode can change
the choice.
-/
namespace ElevatorBank.Strategy

variable {floor : Int} {direction : Direction} {snapshots others : List Snapshot} {best : Snapshot}

/-! ### Cost and standing -/

/-- What a call costs a car: the floors between them, one half for each stop already queued, two
for a car that works against the call. -/
def cost (floor : Int) (direction : Direction) (s : Snapshot) : ℚ :=
  |(s.floor : ℚ) - floor| + 1 / 2 * (s.upStops.length + s.downStops.length) +
    if s.direction ≠ .idle ∧ s.direction ≠ direction then 2 else 0

/-- The lower cost stands first, and at equal cost the lower number. -/
def standing (floor : Int) (direction : Direction) (s : Snapshot) : ℚ ×ₗ CarId :=
  toLex (cost floor direction s, s.id)

/-- The distance between a car and a call is a floor's number. -/
def Near (floor : Int) (s : Snapshot) : Prop := (s.floor - floor).natAbs < floorLimit

lemma cost_eq_halves (direction : Direction) {s : Snapshot} (h : Near floor s) :
    cost floor direction s = costInHalves floor direction s / 2 := by
  have hdistance : (Floor.distance s.floor floor : ℚ) = |(s.floor : ℚ) - floor| := by
    unfold Near at h
    rw [Floor.distance_of_isFloor (by unfold IsFloor; omega) (by omega), ← Int.cast_sub,
      ← Int.cast_abs, Int.abs_eq_natAbs]
  have hreversing : isReversing direction s = true ↔
      s.direction ≠ .idle ∧ s.direction ≠ direction := by
    simp [isReversing, Snapshot.isIdle, Direction.isIdle]
  unfold cost costInHalves Snapshot.queuedStops
  simp only [hreversing]
  push_cast
  rw [hdistance]
  split <;> ring

lemma standing_le_iff {s : Snapshot} (hbest : Near floor best) (hs : Near floor s) :
    standing floor direction best ≤ standing floor direction s ↔
      costInHalves floor direction best < costInHalves floor direction s ∨
        costInHalves floor direction best = costInHalves floor direction s ∧ best.id ≤ s.id := by
  unfold standing
  rw [Prod.Lex.toLex_le_toLex]
  simp only [cost_eq_halves direction hbest, cost_eq_halves direction hs]
  rw [div_lt_div_iff_of_pos_right two_pos, div_left_inj' two_ne_zero, Int.cast_lt, Int.cast_inj]

/-! ### Candidates -/

lemma mem_candidates {s : Snapshot} :
    s ∈ candidates snapshots ↔ s ∈ snapshots ∧ s.mode = .normal := by
  simp [candidates, eligible, Mode.acceptsCalls_iff]

lemma candidates_ordered (snapshots : List Snapshot) :
    (candidates snapshots).Pairwise fun a b => a.id ≤ b.id := by
  have h : (candidates snapshots).Pairwise fun a b => decide (a.id ≤ b.id) = true := by
    apply List.pairwise_mergeSort
    · intro a b c hab hbc
      simp only [decide_eq_true_eq] at hab hbc ⊢
      exact le_trans hab hbc
    · intro a b
      simp only [Bool.or_eq_true, decide_eq_true_eq]
      exact le_total a.id b.id
  exact h.imp of_decide_eq_true

lemma cheapest_eq_none_iff {price : Snapshot → Int} {l : List Snapshot} :
    cheapest price l = none ↔ l = [] := by
  cases l with
  | nil => simp [cheapest]
  | cons s rest => cases h : cheapest price rest <;> simp [cheapest, h]

/-- Of cars in the order of their numbers the one is found that is cheapest and, of those, comes
first. -/
lemma cheapest_least {price : Snapshot → Int} {l : List Snapshot}
    (hordered : l.Pairwise fun a b => a.id ≤ b.id) (h : cheapest price l = some best) :
    best ∈ l ∧ ∀ s ∈ l, price best < price s ∨ price best = price s ∧ best.id ≤ s.id := by
  induction l generalizing best with
  | nil => simp [cheapest] at h
  | cons first rest ih =>
    obtain ⟨hfirst, hrest⟩ := List.pairwise_cons.mp hordered
    cases hbest : cheapest price rest with
    | none =>
      have hnil := cheapest_eq_none_iff.mp hbest
      subst hnil
      simp only [cheapest, Option.some.injEq] at h
      subst h
      simp
    | some other =>
      obtain ⟨hmem, hleast⟩ := ih hrest hbest
      simp only [cheapest, hbest, Option.some.injEq] at h
      by_cases hlt : price other < price first
      · rw [if_pos hlt] at h
        subst h
        refine ⟨List.mem_cons_of_mem _ hmem, List.forall_mem_cons.mpr ⟨.inl hlt, hleast⟩⟩
      · -- The first car has the lowest number, so it need not be strictly cheaper.
        rw [if_neg hlt] at h
        subst h
        refine ⟨List.mem_cons_self, List.forall_mem_cons.mpr ⟨.inr ⟨rfl, le_rfl⟩, ?_⟩⟩
        intro s hs
        have hother : price other ≤ price s := (hleast s hs).elim le_of_lt (·.1.le)
        have hprice : price first ≤ price s := (not_lt.mp hlt).trans hother
        exact hprice.lt_or_eq.imp_right fun heq => ⟨heq, hfirst s hs⟩

/-! ### The choice -/

/-- A car in normal mode that stands before all others in normal mode. -/
structure Least (floor : Int) (direction : Direction) (snapshots : List Snapshot)
    (best : Snapshot) : Prop where
  mem : best ∈ snapshots
  normal : best.mode = .normal
  least : ∀ s ∈ snapshots, s.mode = .normal →
    standing floor direction best ≤ standing floor direction s

/-- As `Least`, by the costs as they are reckoned. -/
structure Foremost (floor : Int) (direction : Direction) (snapshots : List Snapshot)
    (best : Snapshot) : Prop where
  mem : best ∈ snapshots
  normal : best.mode = .normal
  first : ∀ s ∈ snapshots, s.mode = .normal →
    costInHalves floor direction best < costInHalves floor direction s ∨
      costInHalves floor direction best = costInHalves floor direction s ∧ best.id ≤ s.id

/-- Where no car is too far away the costs are reckoned right. -/
lemma Foremost.least (h : Foremost floor direction snapshots best)
    (hnear : ∀ s ∈ snapshots, s.mode = .normal → Near floor s) :
    Least floor direction snapshots best :=
  ⟨h.mem, h.normal, fun s hs hmode =>
    (standing_le_iff (hnear best h.mem h.normal) (hnear s hs hmode)).mpr (h.first s hs hmode)⟩

lemma chosen_foremost
    (h : cheapest (costInHalves floor direction) (candidates snapshots) = some best) :
    Foremost floor direction snapshots best := by
  obtain ⟨hmem, hleast⟩ := cheapest_least (candidates_ordered snapshots) h
  obtain ⟨hmem, hnormal⟩ := mem_candidates.mp hmem
  exact ⟨hmem, hnormal, fun s hs hmode => hleast s (mem_candidates.mpr ⟨hs, hmode⟩)⟩

/-- Two cars that both stand first have the same number. -/
lemma Foremost.id_unique {other : Snapshot} (h : Foremost floor direction snapshots best)
    (hother : Foremost floor direction snapshots other) : best.id = other.id := by
  obtain hlt | ⟨heq, hle⟩ := h.first other hother.mem hother.normal
  · obtain hlt' | ⟨heq, -⟩ := hother.first best h.mem h.normal
    · exact absurd hlt' hlt.asymm
    · exact absurd heq hlt.ne'
  · obtain hlt | ⟨-, hle'⟩ := hother.first best h.mem h.normal
    · exact absurd heq hlt.ne'
    · exact Nat.le_antisymm hle hle'

lemma select_of_foremost (h : Foremost floor direction snapshots best) :
    exclusiveEta.select floor direction snapshots = .ok [best.id] := by
  cases hbest : cheapest (costInHalves floor direction) (candidates snapshots) with
  | none =>
    have hmem := mem_candidates.mpr ⟨h.mem, h.normal⟩
    simp [cheapest_eq_none_iff.mp hbest] at hmem
  | some other => simp [exclusiveEta, hbest, (chosen_foremost hbest).id_unique h]

lemma select_of_none (h : ∀ s ∈ snapshots, s.mode ≠ .normal) :
    exclusiveEta.select floor direction snapshots = .ok [] := by
  have hnone : candidates snapshots = [] :=
    List.eq_nil_iff_forall_not_mem.mpr fun s hs =>
      h s (mem_candidates.mp hs).1 (mem_candidates.mp hs).2
  simp [exclusiveEta, hnone, cheapest]

/-- Either no car is in normal mode, or one of them stands first. -/
lemma foremost_cases (floor : Int) (direction : Direction) (snapshots : List Snapshot) :
    (∀ s ∈ snapshots, s.mode ≠ .normal) ∨ ∃ best, Foremost floor direction snapshots best := by
  cases hbest : cheapest (costInHalves floor direction) (candidates snapshots) with
  | none =>
    refine .inl fun s hs hmode => ?_
    have hmem := mem_candidates.mpr ⟨hs, hmode⟩
    simp [cheapest_eq_none_iff.mp hbest] at hmem
  | some best => exact .inr ⟨best, chosen_foremost hbest⟩

/-- The choice depends on which snapshots in normal mode there are and on nothing else. -/
lemma select_congr
    (h : ∀ s, s.mode = .normal → (s ∈ others ↔ s ∈ snapshots)) :
    exclusiveEta.select floor direction others = exclusiveEta.select floor direction snapshots := by
  obtain hnone | ⟨best, hbest⟩ := foremost_cases floor direction snapshots
  · rw [select_of_none hnone]
    exact select_of_none fun s hs hmode => hnone s ((h s hmode).mp hs) hmode
  · rw [select_of_foremost hbest]
    refine select_of_foremost ⟨(h best hbest.normal).mpr hbest.mem, hbest.normal,
      fun s hs hmode => ?_⟩
    exact hbest.first s ((h s hmode).mp hs) hmode

/-- The choice is empty just when no car is in normal mode, and otherwise one car in normal mode.
No other order of the snapshots changes it, and neither do more or fewer cars in other modes. As
long as no car in normal mode is too far away, cost and number of the chosen one are least in this
order among them. -/
theorem exclusiveEta_select_least (floor : Int) (direction : Direction)
    (snapshots : List Snapshot) :
    ∃ chosen, exclusiveEta.select floor direction snapshots = .ok chosen ∧
      (chosen = [] ↔ ∀ s ∈ snapshots, s.mode ≠ .normal) ∧
      (chosen ≠ [] → ∃ best ∈ snapshots, best.mode = .normal ∧ chosen = [best.id] ∧
        ((∀ s ∈ snapshots, s.mode = .normal → Near floor s) →
          Least floor direction snapshots best)) ∧
      (∀ others : List Snapshot, others.Perm snapshots →
        exclusiveEta.select floor direction others = .ok chosen) ∧
      ∀ others : List Snapshot,
        others.filter (·.mode = .normal) = snapshots.filter (·.mode = .normal) →
          exclusiveEta.select floor direction others = .ok chosen := by
  have hperm : ∀ others : List Snapshot, others.Perm snapshots →
      exclusiveEta.select floor direction others =
        exclusiveEta.select floor direction snapshots :=
    fun others h => select_congr fun s _ => h.mem_iff
  have hfilter : ∀ others : List Snapshot,
      others.filter (·.mode = .normal) = snapshots.filter (·.mode = .normal) →
        exclusiveEta.select floor direction others =
          exclusiveEta.select floor direction snapshots := by
    intro others h
    refine select_congr fun s hmode => ?_
    have hmem : s ∈ others.filter (·.mode = .normal) ↔ s ∈ snapshots.filter (·.mode = .normal) := by
      rw [h]
    simpa [hmode] using hmem
  obtain hnone | ⟨best, hbest⟩ := foremost_cases floor direction snapshots
  · rw [select_of_none hnone] at hperm hfilter
    exact ⟨[], select_of_none hnone, by simpa using hnone, by simp, hperm, hfilter⟩
  · rw [select_of_foremost hbest] at hperm hfilter
    have hsome : ¬∀ s ∈ snapshots, s.mode ≠ .normal := fun h => h best hbest.mem hbest.normal
    exact ⟨[best.id], select_of_foremost hbest, by simpa using hsome,
      fun _ => ⟨best, hbest.mem, hbest.normal, rfl, hbest.least⟩, hperm, hfilter⟩

/-- Cars 2 and 3 cost the same; car 1 is nearer, but it turns round, and car 4 is not in service. -/
theorem exclusiveEta_select_least_tied :
    let snapshots : List Snapshot := [⟨3, 6, .idle, .normal, [], []⟩,
      ⟨1, 5, .down, .normal, [], [2]⟩, ⟨4, 5, .idle, .outOfService, [], []⟩,
      ⟨2, 4, .up, .normal, [], []⟩]
    exclusiveEta.select 5 .up snapshots = .ok [2] ∧
      ∃ best ∈ snapshots, best.id = 2 ∧ Least 5 .up snapshots best := by
  intro snapshots
  have hcandidates : candidates snapshots = [⟨1, 5, .down, .normal, [], [2]⟩,
      ⟨2, 4, .up, .normal, [], []⟩, ⟨3, 6, .idle, .normal, [], []⟩] := by
    simp [snapshots, candidates, eligible, Mode.acceptsCalls, List.mergeSort,
      List.MergeSort.Internal.splitInTwo]
  have hchosen : exclusiveEta.select 5 .up snapshots = .ok [2] := by
    show Except.ok ((cheapest (costInHalves 5 .up) (candidates snapshots)).map (·.id)).toList = _
    rw [hcandidates]
    decide
  obtain ⟨chosen, hselect, -, hbest, -⟩ := exclusiveEta_select_least 5 .up snapshots
  obtain rfl : chosen = [2] := Except.ok.inj (hselect.symm.trans hchosen)
  obtain ⟨best, hm, -, hid, hleast⟩ := hbest (List.cons_ne_nil _ _)
  refine ⟨hchosen, best, hm, (List.cons.inj hid).1.symm, hleast ?_⟩
  simp [snapshots, Near, floorLimit]

/-- Car 1 stands at the lowest floor that there is, and is chosen before car 2, which is next to the
call. -/
theorem farthest_chosen :
    let snapshots : List Snapshot := [⟨1, -0x80000000, .idle, .normal, [], []⟩,
      ⟨2, 5, .idle, .normal, [], []⟩]
    IsFloor (-0x80000000 - 0) ∧ exclusiveEta.select 0 .up snapshots = .ok [1] ∧
      ¬∃ best, Least 0 .up snapshots best ∧
        exclusiveEta.select 0 .up snapshots = .ok [best.id] := by
  intro snapshots
  have hcandidates : candidates snapshots = snapshots := by
    simp [snapshots, candidates, eligible, Mode.acceptsCalls, List.mergeSort_of_pairwise]
  have hchosen : exclusiveEta.select 0 .up snapshots = .ok [1] := by
    show Except.ok ((cheapest (costInHalves 0 .up) (candidates snapshots)).map (·.id)).toList = _
    rw [hcandidates]
    decide
  refine ⟨by decide, hchosen, ?_⟩
  rintro ⟨best, hleast, hselect⟩
  have hid : best.id = 1 := by
    rw [hchosen] at hselect
    exact (List.cons.inj (Except.ok.inj hselect)).1.symm
  have hbest : best = ⟨1, -0x80000000, .idle, .normal, [], []⟩ := by
    have hm := hleast.mem
    simp only [snapshots, List.mem_cons, List.not_mem_nil, or_false] at hm
    obtain hm | hm := hm
    · exact hm
    · simp [hm] at hid
  have hfar : cost 0 .up best = 2147483648 := by norm_num [hbest, cost]
  have hnear : cost 0 .up ⟨2, 5, .idle, .normal, [], []⟩ = 5 := by norm_num [cost]
  have hle := hleast.least ⟨2, 5, .idle, .normal, [], []⟩ (by simp [snapshots]) rfl
  rw [standing, standing, Prod.Lex.toLex_le_toLex, hfar, hnear] at hle
  norm_num at hle

end ElevatorBank.Strategy
