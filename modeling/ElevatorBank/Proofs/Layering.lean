import ElevatorBank.Proofs.Library
import Mathlib

/-!
# Layered configurations

A deployment is read from the defaults, a file and the variables, each laid over those before it.
Every setting is found on its own in the uppermost of them that gives it (`configOf?_layers`), and
only what is found so is checked (`load_layered`): a fault in a value that another one covers is no
fault. All this is so with any library that does what is relied on.
-/
namespace ElevatorBank
namespace Field
open Setting

variable {lib : Library} {f : Field}

/-- What stands in a field, if anything, is read as a value. -/
def Reads (lib : Library) (f : Field) : Option Setting → Option f.Value → Prop :=
  Option.Rel fun s v => f.read? lib s = some v

/-- Of two sources the first is read where it gives something, so the second matters only where
it does not. -/
lemma Reads.orElse {s s' : Option Setting} {v v' : Option f.Value} (h : f.Reads lib s v)
    (h' : v = none → f.Reads lib s' v') : f.Reads lib (s.or s') (v.or v') := by
  cases h with
  | some h => exact .some h
  | none => exact h' rfl

lemma Reads.or {s s' : Option Setting} {v v' : Option f.Value} (h : f.Reads lib s v)
    (h' : f.Reads lib s' v') : f.Reads lib (s.or s') (v.or v') := h.orElse fun _ => h'

lemma Reads.orDefault? {s : Option Setting} {v : Option f.Value} (h : f.Reads lib s v) :
    orDefault? (f.read? lib) f.default s = some (v.getD f.default) := by
  cases h with
  | some h => exact h
  | none => rfl

section
variable (hlib : Lawful lib)
include hlib

lemma reads_of_holds {s : Option Setting} {v : Option f.Value} (h : Option.Rel f.Holds s v) :
    f.Reads lib s v := by
  cases h with
  | some h => exact .some (read?_of_holds hlib h)
  | none => exact .none

lemma reads_of_spells {value : Option String} {v : Option f.Value}
    (h : Option.Rel f.Spells value v) :
    f.Reads lib (value.map (lib.ofVariable listKey f.key)) v := by
  cases h with
  | some h => exact .some (read?_ofVariable hlib h)
  | none => exact .none

end

end Field

/-! ### The defaults -/

namespace Config
open Setting

lemma isDocument_defaults : IsDocument ({} : Config).settings := by
  refine ⟨by decide, List.forall_mem_cons.mpr ⟨?_, List.forall_mem_cons.mpr
    ⟨?_, List.forall_mem_cons.mpr ⟨?_, List.forall_mem_singleton.mpr ?_⟩⟩⟩⟩
  · exact .inr ⟨.startFloors, rfl, _, rfl, fieldsOf_of_single (by decide) (by decide)⟩
  · exact .inr ⟨.capacity, rfl, _, rfl, fieldsOf_of_single (by decide) (by decide)⟩
  · exact .inr ⟨.strategy, rfl, _, rfl, fieldsOf_of_single (by decide) (by decide)⟩
  · exact .inr ⟨.stepIntervalMs, rfl, _, rfl, fieldsOf_of_single (by decide) (by decide)⟩

lemma reads_defaults {lib : Library} (hlib : Lawful lib) (f : Field) :
    f.Reads lib ((table ({} : Config).settings).at? f) (some f.default) := by
  have hholds : Option.Rel f.Holds ((table ({} : Config).settings).at? f) (some f.default) := by
    cases f with
    | startFloors => exact .some ⟨rfl, by decide⟩
    | strategy => exact .some rfl
    | capacity | workerCount | pollIntervalMs | stepIntervalMs => exact .some ⟨rfl, by decide⟩
  exact Field.reads_of_holds hlib hholds

end Config

/-- Values for some of the settings. -/
structure Config.Part where
  startFloors : Option (List Int) := none
  capacity : Option Nat := none
  workerCount : Option Nat := none
  pollIntervalMs : Option Nat := none
  strategy : Option StrategyKind := none
  stepIntervalMs : Option Nat := none

/-- Each setting as the upper part has it, else as the lower one has it, else with its default. -/
def Config.ofParts (upper lower : Config.Part) : Config where
  startFloors := (upper.startFloors.or lower.startFloors).getD [0, 0]
  capacity := (upper.capacity.or lower.capacity).getD 100
  workerCount := (upper.workerCount.or lower.workerCount).getD 2
  pollIntervalMs := (upper.pollIntervalMs.or lower.pollIntervalMs).getD 50
  strategy := (upper.strategy.or lower.strategy).getD .broadcast
  stepIntervalMs := (upper.stepIntervalMs.or lower.stepIntervalMs).getD 1000

def Config.Part.get? (part : Config.Part) : (f : Field) → Option f.Value
  | .startFloors => part.startFloors
  | .capacity => part.capacity
  | .workerCount => part.workerCount
  | .pollIntervalMs => part.pollIntervalMs
  | .strategy => part.strategy
  | .stepIntervalMs => part.stepIntervalMs

/-! ### Layers -/

namespace Setting

lemma sectioned_empty : (table []).Sectioned := by
  refine ⟨⟨[], rfl⟩, fun f s hs => ?_⟩
  cases hs

lemma at?_empty (f : Field) : (table []).at? f = none := rfl

variable {lib : Library} {es : Entries Setting} {vs : Variables} {word : String}

/-- The variables lie over the file, and the file over the defaults. -/
theorem lays_layers (hlib : Lawful lib) (hes : IsDocument es) (hvs : vs.IsEnvironment lib word) :
    Lays (fun f => (vs.given? lib word f).or
        (((table es).at? f).or ((table ({} : Config).settings).at? f)))
      (table []) (lib.layered [({} : Config).settings, es, lib.ofVariables word vs]) := by
  have hdefaults := Config.isDocument_defaults.lays hlib sectioned_empty
  have hfile := hdefaults.trans (hes.lays hlib hdefaults.sectioned)
  exact hfile.trans (hvs.lays hlib hfile.sectioned)

end Setting

namespace Deployment
open Setting

variable {lib : Library} {es : Entries Setting} {vs : Variables} {word : String}
  {inFile inVariables : Config.Part}

/-- Each setting is what the variables say, else what the file says, else the default. Where a
variable covers what the file says, the file may say anything. -/
theorem configOf?_layers (hlib : Lawful lib) (hes : IsDocument es)
    (hfile : ∀ f : Field, inVariables.get? f = none →
      Option.Rel f.Holds ((table es).at? f) (inFile.get? f))
    (hvs : vs.IsEnvironment lib word)
    (hvariables : ∀ f : Field,
      Option.Rel f.Spells (vs.value? (word ++ "_" ++ f.variableName)) (inVariables.get? f)) :
    configOf? lib [es, lib.ofVariables word vs] = some (.ofParts inVariables inFile) := by
  have hlays := lays_layers hlib hes hvs
  refine hlays.sectioned.ofSetting? hlib (c := fun f =>
    ((inVariables.get? f).or (inFile.get? f)).getD f.default) fun f => ?_
  have hgiven : f.Reads lib (vs.given? lib word f) (inVariables.get? f) :=
    Field.reads_of_spells hlib (hvariables f)
  have hreads := hgiven.orElse fun hnone =>
    (Field.reads_of_holds hlib (hfile f hnone)).or (Config.reads_defaults hlib f)
  rw [hlays.at?, at?_empty, Option.or_none, hreads.orDefault?]
  cases inVariables.get? f <;> cases inFile.get? f <;> rfl

/-- Once its file has been read, a deployment is loaded with the configuration of its layers, if
this can be read and has no fault. -/
lemma load_of_settings {file : SettingsFile} (hsettings : file.settings lib = .ok es) :
    loadWith lib file word vs = match configOf? lib [es, lib.ofVariables word vs] with
      | some config => config.validate.map fun _ =>
          { config, environment := vs.environment, fileGiven := file.isNamed }
      | none => .error (.load file.path "settings of the wrong kind") := by
  unfold loadWith ofSettings
  rw [hsettings]
  simp only [Except.bind, bind]
  cases configOf? lib [es, lib.ofVariables word vs] with
  | none => rfl
  | some config => cases hvalid : config.validate <;> simp [hvalid, Except.map, pure, Except.pure]

/-- A deployment is loaded with each setting as the variables say, else as the file says, else with
its default, if this gives one car at least and no size or interval of zero; if not, the first fault
is all there is. -/
theorem load_layered (hlib : Lawful lib) {file : SettingsFile}
    (hsettings : file.settings lib = .ok es) (hes : IsDocument es)
    (hfile : ∀ f : Field, Option.Rel f.Holds ((table es).at? f) (inFile.get? f))
    (hvs : vs.IsEnvironment lib word)
    (hvariables : ∀ f : Field,
      Option.Rel f.Spells (vs.value? (word ++ "_" ++ f.variableName)) (inVariables.get? f)) :
    let config := Config.ofParts inVariables inFile
    loadWith lib file word vs =
      if config.startFloors = [] then
        .error (.validation "at least one elevator must be configured")
      else if config.capacity = 0 then
        .error (.invalidValue "queue.capacity" "0" "command queue capacity must be positive")
      else if config.workerCount = 0 then
        .error (.invalidValue "queue.worker_count" "0" "at least one worker thread is required")
      else if config.pollIntervalMs = 0 then
        .error (.invalidValue "queue.poll_interval_ms" "0" "poll interval must be positive")
      else if config.stepIntervalMs = 0 then
        .error (.invalidValue "driver.step_interval_ms" "0" "step interval must be positive")
      else .ok { config, environment := vs.environment, fileGiven := file.isNamed } := by
  intro config
  have hread : configOf? lib [es, lib.ofVariables word vs] = some config :=
    configOf?_layers hlib hes (fun f _ => hfile f) hvs hvariables
  have hload : loadWith lib file word vs = config.validate.map fun _ =>
      { config, environment := vs.environment, fileGiven := file.isNamed } := by
    rw [load_of_settings hsettings, hread]
  rw [hload]
  unfold Config.validate
  simp only [List.isEmpty_iff]
  split_ifs <;> rfl

/-- A file without cars and without room in its queue, and variables that put both right, beside one
that settings are not read from. Without them the first of the two faults is reported. -/
theorem load_layered_covered :
    let file := SettingsFile.named "bank.toml" (some
      "[elevators]\nstart_floors = []\n[queue]\ncapacity = 0\nworker_count = 8\n")
    let vs : Variables := [("LIFT_ENV", "staging"), ("LIFT_ELEVATORS__START_FLOORS", "0,-3,7"),
      ("LIFT_QUEUE__CAPACITY", "250"), ("LIFT_DISPATCH__STRATEGY", "exclusive_eta")]
    load file "LIFT" vs = .ok {
      config := {
        startFloors := [0, -3, 7]
        capacity := 250
        workerCount := 8
        strategy := .exclusiveEta }
      environment := "staging"
      fileGiven := true } ∧
    load file "LIFT" [] = .error (.validation "at least one elevator must be configured") := by
  intro file vs
  have hsettings : file.settings library = .ok [("elevators", table [("start_floors", list [])]),
      ("queue", table [("capacity", int 0), ("worker_count", int 8)])] := by cbv
  have hes : IsDocument [("elevators", table [("start_floors", list [])]),
      ("queue", table [("capacity", int 0), ("worker_count", int 8)])] := by
    refine ⟨by decide, List.forall_mem_cons.mpr ⟨?_, List.forall_mem_singleton.mpr ?_⟩⟩
    · exact .inr ⟨.startFloors, rfl, _, rfl, fieldsOf_of_single (by decide) (by decide)⟩
    · exact .inr ⟨.capacity, rfl, _, rfl, fieldsOf_of_single (by decide) (by decide)⟩
  have hfile (f : Field) : Option.Rel f.Holds
      ((table [("elevators", table [("start_floors", list [])]),
        ("queue", table [("capacity", int 0), ("worker_count", int 8)])]).at? f)
      (Config.Part.get?
        { startFloors := some [], capacity := some 0, workerCount := some 8 } f) := by
    cases f with
    | startFloors => exact .some ⟨rfl, by simp⟩
    | capacity | workerCount => exact .some ⟨rfl, by decide⟩
    | pollIntervalMs | strategy | stepIntervalMs => exact .none
  have hvs : vs.IsEnvironment library "LIFT" := by
    refine ⟨by decide, List.forall_mem_cons.mpr ⟨fun key hkey => ?_, List.forall_mem_cons.mpr
      ⟨fun _ _ => ?_, List.forall_mem_cons.mpr ⟨fun _ _ => ?_,
        List.forall_mem_singleton.mpr fun _ _ => ?_⟩⟩⟩⟩
    · obtain rfl : "env" = key := Option.some.inj ((by decide : _ = _).symm.trans hkey)
      exact .inl (.key (by decide) fun f => by cases f <;> decide)
    · exact .inr ⟨.startFloors, by decide⟩
    · exact .inr ⟨.capacity, by decide⟩
    · exact .inr ⟨.strategy, by decide⟩
  have hvariables (f : Field) : Option.Rel f.Spells (vs.value? ("LIFT" ++ "_" ++ f.variableName))
      (Config.Part.get? { startFloors := some [0, -3, 7], capacity := some 250,
                          strategy := some .exclusiveEta } f) := by
    cases f with
    | startFloors => exact .some ⟨by decide, by decide⟩
    | capacity => exact .some (show whole? "250" = some 250 by decide)
    | strategy => exact .some rfl
    | workerCount | pollIntervalMs | stepIntervalMs => exact .none
  have hnone : Variables.IsEnvironment library [] "LIFT" := ⟨by decide, by simp⟩
  have hunset (f : Field) : Option.Rel f.Spells
      (Variables.value? [] ("LIFT" ++ "_" ++ f.variableName)) (Config.Part.get? {} f) := by
    cases f <;> exact .none
  exact ⟨load_layered library_lawful hsettings hes hfile hvs hvariables,
    load_layered library_lawful hsettings hes hfile hnone hunset⟩

end Deployment
end ElevatorBank
