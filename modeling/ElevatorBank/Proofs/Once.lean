import ElevatorBank.Proofs.Racing

/-!
# Calls served once

Where cars race and nobody calls from inside one, each call that becomes pending is served
by exactly one car: what a key has been served, and whether it is pending, together count
how often it has become pending (`Ledger.raised`).
-/
namespace ElevatorBank

/-- The event is a stop served for a key. -/
def Event.serves (t : Target) : Event → Bool
  | stopServed _ floor direction => decide ((⟨floor, direction⟩ : Target) = t)
  | _ => false

namespace Ledger

/-- Nobody inside a car waits to reach a floor. -/
def Vacant (l : Ledger) : Prop := ∀ c ∈ l.fleet, ∀ floor, c.hasCabinStop floor = false

/-- How often a key has become pending, judged by what has become of it. -/
def raised (l : Ledger) (t : Target) : Nat :=
  l.history.countP (Event.serves t) + (l.calls.has t).toNat

variable {l : Ledger} {d : Deed}

theorem opening_vacant (floors : List Int) : (opening floors).Vacant := by
  intro c hm floor
  obtain ⟨id, start, -, rfl⟩ := Fleet.mem_start hm
  rfl

theorem Vacant.after (h : l.Vacant) (hl : l.Sound) (hf : d.Fits l)
    (hd : ∀ car floor, d ≠ .boarded car floor) : (l.after d).Vacant := by
  intro c' hm' floor
  obtain ⟨c, hm, rfl⟩ := List.mem_map.mp hm'
  rw [Bool.eq_false_iff]
  intro hs
  rcases (Deed.hasCabinStop_act hl hm hf floor).mp hs with hb | ⟨hs, -⟩
  · cases d with
    | boarded car g => exact hd car g rfl
    | _ => cases hb
  · exact Bool.eq_false_iff.mp (h c hm floor) hs

/-- In a vacant fleet a car stops only for landings that have called it. -/
lemma Vacant.owes_of_served (h : l.Vacant) (hl : l.Sound) {car : CarId} {t : Target}
    (hf : (Deed.served car t).Fits l) : l.fleet.Owes car t := by
  obtain ⟨ht, c, hm, hid, -, hs⟩ := hf
  exact ⟨c, hm, hid, Car.hasHallStop_of_hasStop (hl.cars c hm) ht hs (h c hm _)⟩

/-- A key becomes pending with the first of the calls that race for it. -/
lemma raised_raced (l : Ledger) (t : Target) (cars : List CarId) :
    (l.after (.raced t cars)).raised t =
      l.raised t + (!l.calls.has t).toNat := by
  have hhas : (l.calls.register t cars).has t = true :=
    (HallCalls.has_register _ _ _ _).mpr (.inl rfl)
  simp only [raised, Ledger.after, Deed.book, Deed.event?, hhas, List.countP_append]
  cases l.calls.has t <;> simp [Event.serves]

/-- No other deed changes how often a key has become pending: a stop served for it closes
it, and serves it for the car that owes it. -/
theorem Racing.raised_after (h : l.Racing) (hv : l.Vacant) (hf : d.Fits l) (hd : d.IsRacing)
    {t : Target} (hne : ∀ cars, d ≠ .raced t cars) : (l.after d).raised t = l.raised t := by
  cases d with
  | announced event =>
    cases event with
    | hallCallRaised => simp [raised, Ledger.after, Deed.book, Deed.event?, Event.serves]
    | _ => cases hd
  | raced u cars =>
    have hut : t ≠ u := fun he => hne cars (by rw [he])
    have hhas : (l.calls.register u cars).has t = l.calls.has t := by
      rw [Bool.eq_iff_iff, HallCalls.has_register]
      simp [hut]
    simp [raised, Ledger.after, Deed.book, Deed.event?, Event.serves, hhas]
  | given => cases hd
  | served car u =>
    by_cases hut : u = t
    · subst hut
      -- Without passengers the stop is a landing's request, so the key it closes is pending.
      have hpending := ((h.holders u car).mpr (hv.owes_of_served h.sound hf)).has
      have hresolved : (l.calls.resolve u).has u = false :=
        Bool.eq_false_iff.mpr fun hp => ((HallCalls.has_resolve _ _ _).mp hp).1 rfl
      simp [raised, Ledger.after, Deed.book, Deed.event?, Event.serves, hpending, hresolved]
    · have hhas : (l.calls.resolve u).has t = l.calls.has t := by
        rw [Bool.eq_iff_iff, HallCalls.has_resolve]
        simp [Ne.symm hut]
      simp [raised, Ledger.after, Deed.book, Deed.event?, Event.serves, hhas, hut]
  | moved => simp [raised, Ledger.after, Deed.book, Deed.event?, Event.serves]
  | _ => simp [raised, Ledger.after, Deed.book, Deed.event?]

/-- A vacant fleet with racing calls, in which a key has become pending so many times. -/
structure Counted (l : Ledger) (t : Target) (n : Nat) : Prop where
  racing : l.Racing
  vacant : l.Vacant
  raised : l.raised t = n

variable {t : Target} {n : Nat}

lemma Counted.after (h : l.Counted t n) (hf : d.Fits l) (hd : d.IsRacing)
    (hboarded : ∀ car floor, d ≠ .boarded car floor) (hraced : ∀ cars, d ≠ .raced t cars) :
    (l.after d).Counted t n where
  racing := h.racing.after hf hd
  vacant := h.vacant.after h.racing.sound hf hboarded
  raised := (h.racing.raised_after h.vacant hf hd hraced).trans h.raised

lemma Counted.raced (h : l.Counted t n) {cars : List CarId} (hf : (Deed.raced t cars).Fits l) :
    (l.after (.raced t cars)).Counted t (n + (!l.calls.has t).toNat) where
  racing := h.racing.after hf trivial
  vacant := h.vacant.after h.racing.sound hf (by simp)
  raised := by rw [raised_raced, h.raised]

theorem opening_counted (floors : List Int) (t : Target) : (opening floors).Counted t 0 where
  racing := opening_racing floors
  vacant := opening_vacant floors
  raised := rfl

end Ledger

namespace Op.Comprises

variable {s : Strategy} {op : Op}

lemma of_boarded {car : CarId} {floor : Int} (h : op.Comprises s (.boarded car floor)) :
    op = .carCall car floor := by
  cases op with
  | carCall id g =>
    obtain ⟨rfl, rfl⟩ := h
    rfl
  | step times => exact h.elim fun _ hd => False.elim hd
  | _ => cases h

lemma of_raced {t : Target} {cars : List CarId} (h : op.Comprises s (.raced t cars)) :
    op = .hallCall t.floor t.direction := by
  cases op with
  | hallCall floor direction =>
    obtain ⟨rfl, -⟩ := h
    rfl
  | step times => exact h.elim fun _ hd => False.elim hd
  | _ => cases h

end Op.Comprises

/-- The key that a hall call is for. -/
def Op.key? : Op → Option Target
  | .hallCall floor direction => some ⟨floor, direction⟩
  | _ => none

def Answer.isAssigned : Answer → Bool
  | .outcome (.assigned _) => true
  | _ => false

lemma Answer.isAssigned_ofExcept {r : Except Refusal Outcome}
    (h : ∀ cars, r ≠ .ok (.assigned cars)) : (Answer.ofExcept r).isAssigned = false := by
  cases r with
  | error e => rfl
  | ok o =>
    cases o with
    | assigned cars => exact absurd rfl (h cars)
    | _ => rfl

namespace Bank

/-- A hall call for a key that is not pending is answered as assigned. -/
def opens (t : Target) (b : Bank) (op : Op) : Bool :=
  !b.calls.has t && op.key? == some t && (b.perform op).2.isAssigned

/-- How many calls of a run make a key pending that is not. -/
def openings (t : Target) : Bank → List Op → Nat
  | _, [] => 0
  | b, op :: rest => (b.opens t op).toNat + openings t (b.perform op).1 rest

variable {b : Bank} {l : Ledger} {s : Strategy} {floors : List Int} {op : Op} {ops : List Op}
  {t : Target} {n : Nat}

/-- A hall call counts once more for the key that it makes pending. -/
lemma Shows.counted_hallCall (h : b.Shows l s) (hs : s.isBroadcast = true) (hc : l.Counted t n)
    (floor : Int) (direction : Direction) :
    ∃ m, (b.perform (.hallCall floor direction)).1.Shows m s ∧
      m.Counted t (n + (b.opens t (.hallCall floor direction)).toNat) := by
  have hperform : b.perform (.hallCall floor direction) =
      (Bank.hallCall (Bank.react (b.callbacks + 0)) b floor direction).map id .ofExcept := rfl
  have hraised : (l.after (.announced (.hallCallRaised floor direction))).Counted t n :=
    hc.after trivial trivial (by simp) (by simp)
  have hcalls : (l.after (.announced (.hallCallRaised floor direction))).calls = b.calls :=
    (congrArg Ledger.calls h.ledger).symm
  unfold opens
  rw [hperform]
  rcases h.hallCall_cases hc.racing.sound (react_passive _) floor direction with ⟨-, he⟩ |
    ⟨-, ⟨answer, hne, ha, hshow⟩ | ⟨chosen, -, hraced, ha, hshow⟩⟩
  · rw [he, Prod.map_snd, Answer.isAssigned_ofExcept (by simp), Bool.and_false]
    exact ⟨l, h, hc⟩
  · rw [Prod.map_snd, ha, Answer.isAssigned_ofExcept hne, Bool.and_false]
    exact ⟨_, hshow, hraised⟩
  · rw [Deed.assigning, if_pos hs] at hshow hraced
    refine ⟨_, hshow, ?_⟩
    rw [Prod.map_snd, ha]
    by_cases ht : (⟨floor, direction⟩ : Target) = t
    · subst ht
      have hcounted := hraised.raced hraced
      rw [hcalls] at hcounted
      simpa [Op.key?, Answer.ofExcept, Answer.isAssigned] using hcounted
    · have hother : ∀ cars, Deed.raced ⟨floor, direction⟩ (kept s chosen) ≠ .raced t cars :=
        fun cars he => ht (Deed.raced.inj he).1
      have hkey : ((⟨floor, direction⟩ : Target) == t) = false := beq_false_of_ne ht
      have hcounted := hraised.after hraced trivial (by simp) hother
      simpa [Op.key?, hkey] using hcounted

/-- No other operation makes a key pending. -/
lemma Shows.counted_perform (h : b.Shows l s) (hs : s.isBroadcast = true) (hc : l.Counted t n)
    (hop : op.IsRoutine) (hcabin : ∀ car floor, op ≠ .carCall car floor) :
    ∃ m, (b.perform op).1.Shows m (op.strategyAfter s) ∧
      m.Counted t (n + (b.opens t op).toNat) := by
  cases hkey : op.key? with
  | some key =>
    cases op with
    | hallCall floor direction => exact h.counted_hallCall hs hc floor direction
    | _ => cases hkey
  | none =>
    obtain ⟨m, hshow, hleads⟩ := h.perform hc.racing.sound hop
    have hopens : b.opens t op = false := by simp [opens, hkey]
    rw [hopens, Bool.toNat_false, Nat.add_zero]
    refine ⟨m, hshow, hleads.preserves (I := fun m => m.Counted t n) (fun l d hd hf hc => ?_) hc⟩
    apply hc.after hf (hd.isRacing hs)
    · rintro car floor rfl
      exact hcabin car floor hd.of_boarded
    · rintro cars rfl
      rw [hd.of_raced] at hkey
      cases hkey

/-- Over a run of racing calls, a key is raised as often as calls have made it pending. -/
theorem Shows.counted_run (h : b.Shows l s) (hs : s.isBroadcast = true) (hc : l.Counted t n)
    (hops : ∀ op ∈ ops, op.IsRoutine ∧ op.Installs (·.isBroadcast = true))
    (hcabin : ∀ car floor, .carCall car floor ∉ ops) :
    ∃ m s', (b.run ops).Shows m s' ∧ s'.isBroadcast = true ∧
      m.Counted t (n + b.openings t ops) := by
  induction ops generalizing b l s n with
  | nil => exact ⟨l, s, h, hs, hc⟩
  | cons op rest ih =>
    obtain ⟨hroutine, hinstalls⟩ := hops op List.mem_cons_self
    have hop : ∀ car floor, op ≠ .carCall car floor := by
      rintro car floor rfl
      exact hcabin car floor List.mem_cons_self
    obtain ⟨m, hm, hfirst⟩ := h.counted_perform hs hc hroutine hop
    rw [openings, ← Nat.add_assoc]
    exact ih hm (hinstalls.strategyAfter hs) hfirst
      (fun op hmem => hops op (List.mem_cons_of_mem _ hmem))
      (fun car floor hmem => hcabin car floor (List.mem_cons_of_mem _ hmem))

/-- A ride serves a key once at most. -/
lemma Shows.served_at_most_once (h : b.Shows l s) (hs : s.isBroadcast = true)
    (hc : l.Counted t n) (hride : op.IsRide) {events : List Event}
    (ha : (b.perform op).2 = .events events) : events.countP (Event.serves t) ≤ 1 := by
  have hcabin : ∀ car floor, op ≠ .carCall car floor := by
    rintro car floor rfl
    cases hride
  have hopens : b.opens t op = false := by
    cases op with
    | hallCall => cases hride
    | _ => simp [opens, Op.key?]
  obtain ⟨m, hnext, hsteady⟩ := h.counted_perform hs hc hride.isRoutine hcabin
  have hpublished := h.published_perform hc.racing.sound hride ha
  obtain rfl := h.ledger
  obtain rfl := hnext.ledger
  have hafter := hsteady.raised
  have hbefore := hc.raised
  have hpending := Bool.toNat_le (b.calls.has t)
  simp only [Ledger.raised, Bank.ledger, hpublished, List.countP_append, hopens,
    Bool.toNat_false] at hafter hbefore
  omega

/-- Where cars race and nobody calls from inside one, the stops served for a key, and one
more if it is pending, are as many as the calls that were answered as assigned when the key
was not pending. No two cars serve it between one call and the next. -/
theorem Fresh.served_once (hb : b.Fresh floors s) (hs : s.isBroadcast = true)
    (hops : ∀ op ∈ ops, op.IsRoutine ∧ op.Installs (·.isBroadcast = true))
    (hcabin : ∀ car floor, .carCall car floor ∉ ops) (t : Target) :
    (b.run ops).published.countP (Event.serves t) + ((b.run ops).calls.has t).toNat =
        b.openings t ops ∧
      ∀ times events, ((b.run ops).perform (.step times)).2 = .events events →
        events.countP (Event.serves t) ≤ 1 := by
  obtain ⟨l, s', hshow, hs', hcounted⟩ :=
    hb.shows.counted_run hs (Ledger.opening_counted floors t) hops hcabin
  refine ⟨?_, fun times events ha => ?_⟩
  · obtain rfl := hshow.ledger
    rw [← Nat.zero_add (b.openings t ops)]
    exact hcounted.raised
  · have hride : (Op.step times).IsRide := trivial
    exact hshow.served_at_most_once hs' hcounted hride ha

/-- Both cars reach floor 3 in one step; the second call joins the first, the third comes
after the stop. -/
theorem Fresh.served_once_called_thrice : ∃ b, Bank.start {} = .ok b ∧
    let after := b.run [.hallCall 3 .up, .step 1, .hallCall 3 .up, .step 2, .hallCall 3 .up]
    after.published.countP (Event.serves ⟨3, .up⟩) + (after.calls.has ⟨3, .up⟩).toNat = 2 := by
  have hstart : Bank.start {} = .ok _ := rfl
  refine ⟨_, hstart, ?_⟩
  have hops : ∀ op ∈ [Op.hallCall 3 .up, .step 1, .hallCall 3 .up, .step 2, .hallCall 3 .up],
      op.IsRoutine ∧ op.Installs (·.isBroadcast = true) := by simp [Op.IsRoutine, Op.Installs]
  have honce := (Fresh.started hstart).served_once rfl hops (by simp) ⟨3, .up⟩
  exact honce.1.trans (by decide)

end Bank
end ElevatorBank
