import ElevatorBank.Proofs.WireLibrary
import ElevatorBank.Wire.Command
import ElevatorBank.Wire.Config
import ElevatorBank.Wire.Envelope

/-!
# The wire form read back

Every value is read back from its wire form, when its numbers have the sizes that the wire
form allows, and only such values are ever read, with any libraries that do what is relied on
(`Wire.round_trips`).
-/
namespace ElevatorBank
open Wire

section
variable [lib : Library]

/-! ### Values -/

lemma Direction.codec (hlib : Lawful lib) : Codec toJson ofJson? fun _ => True :=
  codec_name hlib ofName?_name

lemma Mode.codec (hlib : Lawful lib) : Codec toJson ofJson? fun _ => True :=
  codec_name hlib ofName?_name

lemma StrategyKind.codec (hlib : Lawful lib) : Codec toJson ofJson? fun _ => True :=
  codec_name hlib ofName?_name

lemma EventKind.codec (hlib : Lawful lib) : Codec toJson ofJson? fun _ => True :=
  codec_name hlib ofTag?_tag

namespace Direction

omit lib in
@[simp] lemma isPlain_toJson (d : Direction) : d.toJson.IsPlain := Json.isPlain_text d.name

lemma ofJson?_toJson (hlib : Lawful lib) (d : Direction) : ofJson? d.toJson = some d :=
  (codec hlib).read_write d trivial

/-- A direction is read in the same way where it is buffered. -/
lemma name?_toJson (hlib : Lawful lib) (buffered : Bool) (d : Direction) :
    lib.name? ofName? buffered d.toJson = some d := name?_text hlib ofName?_name buffered d

end Direction

namespace Target

def Fits (t : Target) : Prop := IsFloor t.floor

lemma codec (hlib : Lawful lib) : Codec toJson ofJson? Fits where
  plain t := by simp [toJson]
  read_write t h := by
    have hfields := fields?_record hlib ["floor", "direction"] [.int t.floor, t.direction.toJson]
      (rfl : t.toJson = _) (by decide) rfl
    simp [ofJson?, hfields, hlib.floor?_int h, Direction.ofJson?_toJson hlib]
  fits j t h := by
    simp only [ofJson?, Option.bind_eq_bind, Option.bind_eq_some_iff] at h
    obtain ⟨fields, -, h⟩ := h
    split at h
    · simp only [Option.bind_eq_some_iff, Option.pure_def, Option.some.injEq] at h
      obtain ⟨floor, hfloor, direction, -, rfl⟩ := h
      exact hlib.floor?_fits hfloor
    · cases h

end Target

namespace Snapshot

structure Fits (s : Snapshot) : Prop where
  id : s.id < carIdLimit
  floor : IsFloor s.floor
  upStops : ∀ f ∈ s.upStops, IsFloor f
  downStops : ∀ f ∈ s.downStops, IsFloor f

lemma codec (hlib : Lawful lib) : Codec toJson ofJson? Fits where
  plain s := by
    have hmode : s.mode.toJson.IsPlain := (Mode.codec hlib).plain s.mode
    simp [toJson, hmode]
  read_write s h := by
    have hfields := fields?_record hlib
      ["id", "floor", "direction", "mode", "up_stops", "down_stops"]
      [.nat s.id, .int s.floor, s.direction.toJson, s.mode.toJson, .ints s.upStops,
        .ints s.downStops] (rfl : s.toJson = _) (by decide) rfl
    have hmode : Mode.ofJson? s.mode.toJson = some s.mode :=
      (Mode.codec hlib).read_write s.mode trivial
    simp [ofJson?, hfields, hlib.carId?_nat h.id, hlib.floor?_int h.floor, hmode,
      Direction.ofJson?_toJson hlib, list?_floors hlib h.upStops, list?_floors hlib h.downStops]
  fits j s h := by
    simp only [ofJson?, Option.bind_eq_bind, Option.bind_eq_some_iff] at h
    obtain ⟨fields, -, h⟩ := h
    split at h
    · simp only [Option.bind_eq_some_iff, Option.pure_def, Option.some.injEq] at h
      obtain ⟨id, hid, floor, hfloor, direction, -, mode, -, upStops, hup, downStops, hdown, rfl⟩ :=
        h
      exact ⟨hlib.carId?_fits hid, hlib.floor?_fits hfloor, floors_of_list? hlib hup,
        floors_of_list? hlib hdown⟩
    · cases h

end Snapshot

namespace Event

def Fits : Event → Prop
  | hallCallRaised floor _ => IsFloor floor
  | assignmentMade floor _ cars => IsFloor floor ∧ ∀ c ∈ cars, c < carIdLimit
  | carMoved car source target _ => car < carIdLimit ∧ IsFloor source ∧ IsFloor target
  | stopServed car floor _ => car < carIdLimit ∧ IsFloor floor

omit lib in
lemma isPlain_toJson (e : Event) : e.toJson.IsPlain := by
  have hkind : e.kind.toJson.IsPlain := Json.isPlain_text e.kind.tag
  have hdata : e.dataJson.IsPlain := by cases e <;> simp [dataJson]
  simp [toJson, hkind, hdata]

lemma ofData?_dataJson (hlib : Lawful lib) {e : Event} (h : e.Fits) (buffered : Bool) :
    ofData? e.kind buffered e.dataJson = some e := by
  have hdirection := Direction.name?_toJson hlib buffered
  cases e with
  | hallCallRaised floor direction =>
    have hfields := named?_record hlib ["floor", "direction"] [.int floor, direction.toJson]
      (rfl : (hallCallRaised floor direction).dataJson = _) (by decide) rfl
    simp [ofData?, kind, hfields, hdirection, hlib.floor?_int h]
  | assignmentMade floor direction cars =>
    have hfields := named?_record hlib ["floor", "direction", "unit_ids"]
      [.int floor, direction.toJson, .nats cars]
      (rfl : (assignmentMade floor direction cars).dataJson = _) (by decide) rfl
    simp [ofData?, kind, hfields, hdirection, hlib.floor?_int h.1, list?_cars hlib h.2]
  | carMoved car source target direction =>
    have hfields := named?_record hlib ["unit_id", "from_floor", "to_floor", "direction"]
      [.nat car, .int source, .int target, direction.toJson]
      (rfl : (carMoved car source target direction).dataJson = _) (by decide) rfl
    simp [ofData?, kind, hfields, hdirection, hlib.carId?_nat h.1, hlib.floor?_int h.2.1,
      hlib.floor?_int h.2.2]
  | stopServed car floor direction =>
    have hfields := named?_record hlib ["unit_id", "floor", "direction"]
      [.nat car, .int floor, direction.toJson]
      (rfl : (stopServed car floor direction).dataJson = _) (by decide) rfl
    simp [ofData?, kind, hfields, hdirection, hlib.carId?_nat h.1, hlib.floor?_int h.2]

lemma ofJsonAt?_toJson (hlib : Lawful lib) {e : Event} (h : e.Fits) (enclosing : Nat) :
    ofJsonAt? enclosing e.toJson = some e := by
  have hadjacent : lib.adjacent? enclosing "type" "data" e.toJson =
      some (e.kind.tag, false, e.dataJson) :=
    hlib.adjacent?_record enclosing e.kind.tag e.dataJson (by decide)
  simp [ofJsonAt?, hadjacent, EventKind.ofTag?_tag, ofData?_dataJson hlib h]

lemma fits_of_ofData? (hlib : Lawful lib) {kind : EventKind} {buffered : Bool} {j : Json}
    {e : Event} (h : ofData? kind buffered j = some e) : e.Fits := by
  unfold ofData? at h
  cases kind with
  | hallCallRaised =>
    obtain ⟨fields, -, h⟩ := Option.bind_eq_some_iff.mp h
    split at h
    · simp only [Option.bind_eq_bind, Option.bind_eq_some_iff, Option.pure_def,
        Option.some.injEq] at h
      obtain ⟨floor, hfloor, direction, -, rfl⟩ := h
      exact hlib.floor?_fits hfloor
    · cases h
  | assignmentMade =>
    obtain ⟨fields, -, h⟩ := Option.bind_eq_some_iff.mp h
    split at h
    · simp only [Option.bind_eq_bind, Option.bind_eq_some_iff, Option.pure_def,
        Option.some.injEq] at h
      obtain ⟨floor, hfloor, direction, -, cars, hcars, rfl⟩ := h
      exact ⟨hlib.floor?_fits hfloor, cars_of_list? hlib hcars⟩
    · cases h
  | carMoved =>
    obtain ⟨fields, -, h⟩ := Option.bind_eq_some_iff.mp h
    split at h
    · simp only [Option.bind_eq_bind, Option.bind_eq_some_iff, Option.pure_def,
        Option.some.injEq] at h
      obtain ⟨car, hcar, source, hsource, target, htarget, direction, -, rfl⟩ := h
      exact ⟨hlib.carId?_fits hcar, hlib.floor?_fits hsource, hlib.floor?_fits htarget⟩
    · cases h
  | stopServed =>
    obtain ⟨fields, -, h⟩ := Option.bind_eq_some_iff.mp h
    split at h
    · simp only [Option.bind_eq_bind, Option.bind_eq_some_iff, Option.pure_def,
        Option.some.injEq] at h
      obtain ⟨car, hcar, floor, hfloor, direction, -, rfl⟩ := h
      exact ⟨hlib.carId?_fits hcar, hlib.floor?_fits hfloor⟩
    · cases h

lemma fits_of_ofJsonAt? (hlib : Lawful lib) {enclosing : Nat} {j : Json} {e : Event}
    (h : ofJsonAt? enclosing j = some e) : e.Fits := by
  simp only [ofJsonAt?, Option.bind_eq_bind, Option.bind_eq_some_iff] at h
  obtain ⟨⟨tag, buffered, data⟩, -, kind, -, h⟩ := h
  exact fits_of_ofData? hlib h

lemma codec (hlib : Lawful lib) : Codec toJson ofJson? Fits where
  plain := isPlain_toJson
  read_write _ h := ofJsonAt?_toJson hlib h 0
  fits _ _ := fits_of_ofJsonAt? hlib

end Event

/-! ### Commands and outcomes -/

omit lib in
omit lib in
lemma Direction.isFlat_toJson (d : Direction) : IsFlat d.toJson := isFlat_text d.name

namespace Command

def Fits : Command → Prop
  | hallCall floor _ => IsFloor floor
  | carCall car floor => car < carIdLimit ∧ IsFloor floor

lemma codec (hlib : Lawful lib) : Codec toJson ofJson? Fits where
  plain c := by cases c <;> simp [toJson]
  read_write c h := by
    cases c with
    | hallCall floor direction =>
      have htag := tagged?_record hlib "type" "hall_call"
        [("floor", .int floor), ("direction", direction.toJson)]
        (rfl : (hallCall floor direction).toJson = _)
        (by simp [isFlat_floor h, Direction.isFlat_toJson])
      have hfields := fields?_record hlib ["floor", "direction"] [.int floor, direction.toJson]
        (rfl : Json.record [("floor", .int floor), ("direction", direction.toJson)] = _)
        (by decide) rfl
      simp [ofJson?, htag, hfields, hlib.floor?_int h, Direction.ofBuffered?,
        Direction.name?_toJson hlib]
    | carCall car floor =>
      have htag := tagged?_record hlib "type" "car_call"
        [("unit_id", .nat car), ("floor", .int floor)]
        (rfl : (carCall car floor).toJson = _) (by simp [isFlat_car h.1, isFlat_floor h.2])
      have hfields := fields?_record hlib ["unit_id", "floor"] [.nat car, .int floor]
        (rfl : Json.record [("unit_id", .nat car), ("floor", .int floor)] = _) (by decide) rfl
      simp [ofJson?, htag, hfields, hlib.carId?_nat h.1, hlib.floor?_int h.2]
  fits j c h := by
    simp only [ofJson?, Option.bind_eq_bind, Option.bind_eq_some_iff] at h
    obtain ⟨⟨tag, content⟩, -, h⟩ := h
    dsimp only at h
    split at h
    · simp only [Option.bind_eq_some_iff] at h
      obtain ⟨fields, -, h⟩ := h
      split at h
      · simp only [Option.bind_eq_some_iff, Option.pure_def, Option.some.injEq] at h
        obtain ⟨floor, hfloor, direction, -, rfl⟩ := h
        exact hlib.floor?_fits hfloor
      · cases h
    · simp only [Option.bind_eq_some_iff] at h
      obtain ⟨fields, -, h⟩ := h
      split at h
      · simp only [Option.bind_eq_some_iff, Option.pure_def, Option.some.injEq] at h
        obtain ⟨car, hcar, floor, hfloor, rfl⟩ := h
        exact ⟨hlib.carId?_fits hcar, hlib.floor?_fits hfloor⟩
      · cases h
    · cases h

end Command

namespace Outcome

def Fits : Outcome → Prop
  | assigned cars => ∀ c ∈ cars, c < carIdLimit
  | dropped => True
  | cabinQueued car => car < carIdLimit

lemma codec (hlib : Lawful lib) : Codec toJson ofJson? Fits where
  plain o := by cases o <;> simp [toJson]
  read_write o h := by
    cases o with
    | assigned cars =>
      have htag := tagged?_record hlib "outcome" "assigned" [("unit_ids", .nats cars)]
        (rfl : (assigned cars).toJson = _) (by simp [isFlat_cars h])
      have hfields := fields?_record hlib ["unit_ids"] [.nats cars]
        (rfl : Json.record [("unit_ids", .nats cars)] = _) (by decide) rfl
      simp [ofJson?, htag, hfields, list?_cars hlib h]
    | dropped =>
      have htag := tagged?_record hlib "outcome" "dropped" [] (rfl : dropped.toJson = _) (by simp)
      simp [ofJson?, htag, hlib.isUnit_record]
    | cabinQueued car =>
      have htag := tagged?_record hlib "outcome" "cabin_queued" [("unit_id", .nat car)]
        (rfl : (cabinQueued car).toJson = _) (by simp [isFlat_car h])
      have hfields := fields?_record hlib ["unit_id"] [.nat car]
        (rfl : Json.record [("unit_id", .nat car)] = _) (by decide) rfl
      simp [ofJson?, htag, hfields, hlib.carId?_nat h]
  fits j o h := by
    simp only [ofJson?, Option.bind_eq_bind, Option.bind_eq_some_iff] at h
    obtain ⟨⟨tag, content⟩, -, h⟩ := h
    dsimp only at h
    split at h
    · simp only [Option.bind_eq_some_iff] at h
      obtain ⟨fields, -, h⟩ := h
      split at h
      · simp only [Option.bind_eq_some_iff, Option.pure_def, Option.some.injEq] at h
        obtain ⟨cars, hcars, rfl⟩ := h
        exact cars_of_list? hlib hcars
      · cases h
    · split_ifs at h
      obtain rfl := Option.some.inj h
      trivial
    · simp only [Option.bind_eq_some_iff] at h
      obtain ⟨fields, -, h⟩ := h
      split at h
      · simp only [Option.bind_eq_some_iff, Option.pure_def, Option.some.injEq] at h
        obtain ⟨car, hcar, rfl⟩ := h
        exact hlib.carId?_fits hcar
      · cases h
    · cases h

end Outcome

/-! ### Configurations -/

namespace Config

structure Fits (c : Config) : Prop where
  startFloors : ∀ f ∈ c.startFloors, IsFloor f
  capacity : c.capacity < wordLimit
  workerCount : c.workerCount < wordLimit
  pollIntervalMs : c.pollIntervalMs < wordLimit
  stepIntervalMs : c.stepIntervalMs < wordLimit

omit lib in
omit lib in
/-- A field that is missing has its default. -/
lemma of_field? {α : Type} {P : α → Prop} {read : Json → Option α} {default a : α}
    {j : Option Json} (hread : ∀ j a, read j = some a → P a) (hdefault : P default)
    (h : field? read default j = some a) : P a := by
  cases j with
  | none => exact Option.some.inj h ▸ hdefault
  | some j => exact hread j a h

omit lib in
omit lib in
lemma fits_default : Fits {} := by
  constructor <;> decide

lemma codec (hlib : Lawful lib) : Codec toJson ofJson? Fits where
  plain c := by
    have hstrategy : c.strategy.toJson.IsPlain := (StrategyKind.codec hlib).plain c.strategy
    simp [toJson, hstrategy]
  read_write c h := by
    have hsections := someFields?_record hlib ["elevators", "queue", "dispatch", "driver"] _
      (rfl : c.toJson = .record (List.zip _ [_, _, _, _])) (by decide) rfl
    have helevators := someFields?_record hlib ["start_floors"] [.ints c.startFloors]
      (rfl : Json.record [("start_floors", .ints c.startFloors)] = _) (by decide) rfl
    have hqueue := someFields?_record hlib ["capacity", "worker_count", "poll_interval_ms"]
      [.nat c.capacity, .nat c.workerCount, .nat c.pollIntervalMs]
      (rfl : Json.record [("capacity", .nat c.capacity), ("worker_count", .nat c.workerCount),
        ("poll_interval_ms", .nat c.pollIntervalMs)] = _) (by decide) rfl
    have hdispatch := someFields?_record hlib ["strategy"] [c.strategy.toJson]
      (rfl : Json.record [("strategy", c.strategy.toJson)] = _) (by decide) rfl
    have hdriver := someFields?_record hlib ["step_interval_ms"] [.nat c.stepIntervalMs]
      (rfl : Json.record [("step_interval_ms", .nat c.stepIntervalMs)] = _) (by decide) rfl
    have hstrategy : StrategyKind.ofJson? c.strategy.toJson = some c.strategy :=
      (StrategyKind.codec hlib).read_write c.strategy trivial
    simp [ofJson?, hsections, part?, helevators, hqueue, hdispatch, hdriver, field?,
      list?_floors hlib h.startFloors, hlib.word?_nat h.capacity, hlib.word?_nat h.workerCount,
      hlib.word?_nat h.pollIntervalMs, hlib.word?_nat h.stepIntervalMs, hstrategy]
  fits j c h := by
    -- One list of fields after the other has to have its length.
    simp only [ofJson?, Option.bind_eq_bind, Option.bind_eq_some_iff] at h
    iterate 5
      obtain ⟨_, -, h⟩ := h
      split at h
      rotate_left
      · cases h
      simp only [Option.bind_eq_some_iff, Option.pure_def, Option.some.injEq] at h
    obtain ⟨floors, hfloors, capacity, hcapacity, workers, hworkers, poll, hpoll, strategy, -, step,
      hstep, rfl⟩ := h
    have hcount {default n : Nat} {j : Option Json} (hdefault : default < wordLimit)
        (h : field? lib.word? default j = some n) : n < wordLimit :=
      of_field? (P := (· < wordLimit)) (fun _ _ => hlib.word?_fits) hdefault h
    exact ⟨of_field? (fun _ _ => floors_of_list? hlib) fits_default.startFloors hfloors,
      hcount fits_default.capacity hcapacity, hcount fits_default.workerCount hworkers,
      hcount fits_default.pollIntervalMs hpoll, hcount fits_default.stepIntervalMs hstep⟩

end Config

/-! ### Envelopes -/

namespace Envelope

/-- The texts of the identity and of the time are read as what they are written for. -/
def ReadsBack (e : Envelope) : Prop :=
  lib.uuid? (lib.uuidText e.id) = some e.id ∧
    lib.instant? (lib.instantText e.publishedAt) = some e.publishedAt

lemma isPlain_toJson (e : Envelope) : e.toJson.IsPlain := by
  have hevent : e.event.toJson.IsPlain := Event.isPlain_toJson e.event
  simp [toJson, hevent]

lemma ofJson?_toJson (hlib : Lawful lib) {e : Envelope} (h : e.event.Fits) (hback : e.ReadsBack) :
    ofJson? e.toJson = some e := by
  have hfields := fields?_record hlib ["event_id", "event", "published_at"]
    [.text (lib.uuidText e.id), e.event.toJson, .text (lib.instantText e.publishedAt)]
    (rfl : e.toJson = _) (by decide) rfl
  simp [ofJson?, hfields, hlib.text?_text, Event.ofJsonAt?_toJson hlib h, hback.1, hback.2]

lemma fits_of_ofJson? (hlib : Lawful lib) {j : Json} {e : Envelope} (h : ofJson? j = some e) :
    e.event.Fits := by
  simp only [ofJson?, Option.bind_eq_bind, Option.bind_eq_some_iff] at h
  obtain ⟨fields, -, h⟩ := h
  split at h
  · simp only [Option.bind_eq_some_iff, Option.pure_def, Option.some.injEq] at h
    obtain ⟨id, -, event, hevent, publishedAt, -, rfl⟩ := h
    exact Event.fits_of_ofJsonAt? hlib hevent
  · cases h

end Envelope

namespace Wire

/-- All that is written for the wire is read back from its text, an envelope if the texts of
its identity and of its time are. -/
theorem round_trips (hlib : Lawful lib) :
    RoundTrips Direction.toJson Direction.ofJson? (fun _ => True) ∧
    RoundTrips Mode.toJson Mode.ofJson? (fun _ => True) ∧
    RoundTrips StrategyKind.toJson StrategyKind.ofJson? (fun _ => True) ∧
    RoundTrips EventKind.toJson EventKind.ofJson? (fun _ => True) ∧
    RoundTrips Target.toJson Target.ofJson? Target.Fits ∧
    RoundTrips Snapshot.toJson Snapshot.ofJson? Snapshot.Fits ∧
    RoundTrips Event.toJson Event.ofJson? Event.Fits ∧
    RoundTrips Command.toJson Command.ofJson? Command.Fits ∧
    RoundTrips Outcome.toJson Outcome.ofJson? Outcome.Fits ∧
    RoundTrips Config.toJson Config.ofJson? Config.Fits ∧
    ∀ e : Envelope, e.ReadsBack →
      (e.event.Fits → decode Envelope.ofJson? (encode Envelope.toJson e) = some e) ∧
      ∀ s, decode Envelope.ofJson? s = some e →
        ReadsAlike Envelope.toJson Envelope.ofJson? e := by
  refine ⟨(Direction.codec hlib).roundTrips hlib, (Mode.codec hlib).roundTrips hlib,
    (StrategyKind.codec hlib).roundTrips hlib, (EventKind.codec hlib).roundTrips hlib,
    (Target.codec hlib).roundTrips hlib, (Snapshot.codec hlib).roundTrips hlib,
    (Event.codec hlib).roundTrips hlib, (Command.codec hlib).roundTrips hlib,
    (Outcome.codec hlib).roundTrips hlib, (Config.codec hlib).roundTrips hlib, fun e hback => ?_⟩
  have hwritten (hfits : e.event.Fits) :
      decode Envelope.ofJson? (encode Envelope.toJson e) = some e :=
    decode_encode hlib e.isPlain_toJson (Envelope.ofJson?_toJson hlib hfits hback)
  refine ⟨hwritten, fun s hs => ?_⟩
  obtain ⟨j, hj⟩ := exists_of_decode hs
  exact ⟨e, hwritten (Envelope.fits_of_ofJson? hlib hj), rfl, rfl⟩

end Wire

end

namespace Wire

/-- An envelope, and a configuration read from a text that leaves most of it out, with the libraries
in use. -/
theorem round_trips_partial :
    let e : Envelope := ⟨⟨0x123456789abcdef⟩, .assignmentMade (-3) .up [1, 2], ⟨1700000000, 5000⟩⟩
    let c : Config := { capacity := 7 }
    (decode Envelope.ofJson? (encode Envelope.toJson e) = some e ∧
      e.publishedAt.text = "2023-11-14T22:13:20.000005Z") ∧
    decode Config.ofJson? "\x7b \"queue\": [7], \"driver\": \x7b\x7d \x7d" = some c ∧
      ReadsAlike Config.toJson Config.ofJson? c := by
  intro e c
  have hback : e.ReadsBack := ⟨by decide +kernel, by decide +kernel⟩
  have hfits : e.event.Fits := ⟨by decide, by decide⟩
  have hread : decode Config.ofJson? "\x7b \"queue\": [7], \"driver\": \x7b\x7d \x7d" = some c := by
    decide +kernel
  obtain ⟨-, -, -, -, -, -, -, -, -, hconfig, henvelope⟩ := round_trips library_lawful
  exact ⟨⟨(henvelope e hback).1 hfits, by decide +kernel⟩, hread, hconfig.accepted _ c hread⟩

end Wire
end ElevatorBank
