import ElevatorBank.Proofs.Layering

/-!
# Start floors in the environment

A fleet of two cars and more can be given by one variable, its floors in decimal between commas; a
fleet of one car cannot (`load_startFloors`). What the text of a variable stands for is told by its
looks alone, and a lone floor looks like a whole number, not like a list.
-/
namespace ElevatorBank

namespace Text

/-- A text that joins parts without the mark is split into these parts. -/
lemma split_intercalate {mark : Char} {parts : List (List Char)} (hne : parts ≠ [])
    (h : ∀ part ∈ parts, mark ∉ part) : split mark ([mark].intercalate parts) = parts := by
  induction parts with
  | nil => exact absurd rfl hne
  | cons part rest ih =>
    obtain ⟨hpart, hrest⟩ := List.forall_mem_cons.mp h
    cases rest with
    | nil => simpa using split_of_notMem mark part hpart
    | cons next rest =>
      rw [List.intercalate_cons_cons, List.append_assoc, List.singleton_append,
        split_append_cons mark part _ hpart, ih (List.cons_ne_nil _ _) hrest]

lemma comma_notMem_toString (i : Int) : ',' ∉ (toString i).toList := by
  intro h
  have hread := signedInt?_toString i
  rw [signedInt?_of_comma h] at hread
  cases hread

end Text

namespace Field
open Setting

/-- Floors in decimal between commas. -/
def floorsText (floors : List Int) : String := ",".intercalate (floors.map toString)

variable {floors : List Int}

lemma splitText_floorsText (hne : floors ≠ []) :
    Text.splitText ',' (floorsText floors) = floors.map toString := by
  have hparts : ∀ part ∈ (floors.map toString).map String.toList, ',' ∉ part := by
    simp only [List.mem_map]
    rintro _ ⟨_, ⟨i, -, rfl⟩, rfl⟩
    exact Text.comma_notMem_toString i
  unfold Text.splitText floorsText
  rw [String.toList_intercalate, show ",".toList = [','] from rfl,
    Text.split_intercalate (by simpa using hne) hparts, List.map_map, List.map_map]
  exact List.map_congr_left fun i _ => String.ofList_toList

lemma whole?_toString {i : Int} (hi : IsFloor i) : whole? (toString i) = some i := by
  have hwhole : IsWhole i := by
    unfold IsFloor floorLimit at hi
    unfold IsWhole
    omega
  rw [whole?, Text.signedInt?_toString, Option.filter_some]
  exact if_pos (decide_eq_true hwhole)

/-- Two floors and more are spelled out between commas. -/
theorem spells_floorsText (hmany : 2 ≤ floors.length) (hfloors : ∀ i ∈ floors, IsFloor i) :
    startFloors.Spells (floorsText floors) floors := by
  have hne : floors ≠ [] := by
    rintro rfl
    cases hmany
  have hparts := splitText_floorsText hne
  refine ⟨by rwa [hparts, List.length_map], ?_⟩
  rw [hparts, List.forall₂_map_left_iff, List.forall₂_same]
  exact fun i hi => ⟨whole?_toString (hfloors i hi), hfloors i hi⟩

/-- A lone floor is taken for a whole number, which is no list of floors. -/
theorem read?_ofVariable_lone {lib : Library} (hlib : Lawful lib) {i : Int} (hi : IsFloor i) :
    startFloors.read? lib (lib.ofVariable listKey startFloors.key (floorsText [i])) = none := by
  have htext : floorsText [i] = toString i := rfl
  rw [htext, ofVariable_whole hlib (whole?_toString hi)]
  show lib.floors? (int i) = none
  rw [Library.floors?, hlib.list?_int, Option.bind_none]

end Field

namespace Deployment
open Setting

variable {lib : Library} {es : Entries Setting} {vs : Variables} {word : String}
  {inFile inVariables : Config.Part} {floors : List Int}

section
variable (hlib : Lawful lib)
include hlib

/-- The variable of the start floors covers what the file says of them, whatever that is, and the
other settings are read as ever. -/
lemma configOf?_floorsText (hes : IsDocument es)
    (hfile : ∀ f ≠ Field.startFloors, Option.Rel f.Holds ((table es).at? f) (inFile.get? f))
    (hvs : vs.IsEnvironment lib word)
    (hvariables : ∀ f ≠ Field.startFloors,
      Option.Rel f.Spells (vs.value? (word ++ "_" ++ f.variableName)) (inVariables.get? f))
    (htext : vs.value? (word ++ "_" ++ Field.startFloors.variableName) =
      some (Field.floorsText floors))
    (hfloors : ∀ i ∈ floors, IsFloor i) (hmany : 2 ≤ floors.length) :
    configOf? lib [es, lib.ofVariables word vs] =
      some (.ofParts { inVariables with startFloors := some floors } inFile) := by
  refine configOf?_layers hlib hes (fun f hnone => hfile f ?_) hvs fun f => ?_
  · rintro rfl
    cases hnone
  · by_cases hf : f = .startFloors
    · subst hf
      rw [htext]
      exact .some (Field.spells_floorsText hmany hfloors)
    · have h := hvariables f hf
      cases f with
      | startFloors => exact absurd rfl hf
      | _ => exact h

/-- With one floor alone there is no configuration. -/
lemma configOf?_lone (hes : IsDocument es) (hvs : vs.IsEnvironment lib word) {i : Int}
    (htext : vs.value? (word ++ "_" ++ Field.startFloors.variableName) =
      some (Field.floorsText [i])) (hi : IsFloor i) :
    configOf? lib [es, lib.ofVariables word vs] = none := by
  have hlays := lays_layers hlib hes hvs
  refine hlays.sectioned.ofSetting?_eq_none hlib (f := .startFloors) ?_
  rw [hlays.at?, Variables.given?, htext]
  exact Field.read?_ofVariable_lone hlib hi

/-- Where one variable gives the start floors of a fleet, in decimal between commas, and nothing
else is at fault, the deployment is loaded with just these floors if there are two of them or more,
and is not loaded at all if there is only one. -/
theorem load_startFloors {file : SettingsFile} (hsettings : file.settings lib = .ok es)
    (hes : IsDocument es)
    (hfile : ∀ f ≠ Field.startFloors, Option.Rel f.Holds ((table es).at? f) (inFile.get? f))
    (hvs : vs.IsEnvironment lib word)
    (hvariables : ∀ f ≠ Field.startFloors,
      Option.Rel f.Spells (vs.value? (word ++ "_" ++ f.variableName)) (inVariables.get? f))
    (htext : vs.value? (word ++ "_" ++ "ELEVATORS__START_FLOORS") = some (Field.floorsText floors))
    (hfloors : ∀ i ∈ floors, IsFloor i) {config : Config}
    (hconfig : config = .ofParts { inVariables with startFloors := some floors } inFile)
    (hvalid : config.validate = .ok ()) :
    config.startFloors = floors ∧
    loadWith lib file word vs =
      if floors.length = 1 then .error (.load file.path "settings of the wrong kind")
      else .ok { config, environment := vs.environment, fileGiven := file.isNamed } := by
  have hstart : config.startFloors = floors := by
    rw [hconfig]
    rfl
  have hne : floors ≠ [] := by
    rintro rfl
    rw [Config.validate, hstart] at hvalid
    cases hvalid
  refine ⟨hstart, ?_⟩
  rw [load_of_settings hsettings]
  split_ifs with hone
  · obtain ⟨i, rfl⟩ := List.length_eq_one_iff.mp hone
    rw [configOf?_lone hlib hes hvs htext (hfloors i List.mem_cons_self)]
  · have hmany : 2 ≤ floors.length := by
      have := List.length_pos_iff.mpr hne
      omega
    rw [configOf?_floorsText hlib hes hfile hvs hvariables htext hfloors hmany, ← hconfig]
    simp only [hvalid]
    rfl

end

/-- Three cars on floors of either sign, given beside variables that are read and not read, over a
file whose start floors make no sense. The same for one car is refused. -/
theorem load_startFloors_three_or_one :
    let file := SettingsFile.named "bank.toml" (some
      "[elevators]\nstart_floors = \"roof\"\n[queue]\nworker_count = 8\n")
    let vs (floors : List Int) : Variables := [("LIFT_ENV", "staging"),
      ("LIFT_ELEVATORS__START_FLOORS", Field.floorsText floors), ("LIFT_QUEUE__CAPACITY", "250")]
    load file "LIFT" (vs [-3, 0, 2147483647]) = .ok {
      config := { startFloors := [-3, 0, 2147483647], capacity := 250, workerCount := 8 }
      environment := "staging"
      fileGiven := true } ∧
    load file "LIFT" (vs [-3]) = .error (.load "bank.toml" "settings of the wrong kind") := by
  intro file vs
  have hsettings : file.settings library = .ok
      [("elevators", table [("start_floors", text "roof")]),
        ("queue", table [("worker_count", int 8)])] := by cbv
  have hes : IsDocument [("elevators", table [("start_floors", text "roof")]),
      ("queue", table [("worker_count", int 8)])] := by
    refine ⟨by decide, List.forall_mem_cons.mpr ⟨?_, List.forall_mem_singleton.mpr ?_⟩⟩
    · exact .inr ⟨.startFloors, rfl, _, rfl, fieldsOf_of_single (by decide) (by decide)⟩
    · exact .inr ⟨.capacity, rfl, _, rfl, fieldsOf_of_single (by decide) (by decide)⟩
  have hfile : ∀ f ≠ Field.startFloors, Option.Rel f.Holds
      ((table [("elevators", table [("start_floors", text "roof")]),
        ("queue", table [("worker_count", int 8)])]).at? f)
      (Config.Part.get? { workerCount := some 8 } f) := by
    intro f hf
    cases f with
    | startFloors => exact absurd rfl hf
    | workerCount => exact .some ⟨rfl, by decide⟩
    | capacity | pollIntervalMs | strategy | stepIntervalMs => exact .none
  have hvs (floors : List Int) : (vs floors).IsEnvironment library "LIFT" := by
    have honce : ["LIFT_ENV", "LIFT_ELEVATORS__START_FLOORS", "LIFT_QUEUE__CAPACITY"].Nodup := by
      decide
    refine ⟨honce, List.forall_mem_cons.mpr ⟨fun key hkey => ?_, List.forall_mem_cons.mpr
      ⟨fun _ _ => ?_, List.forall_mem_singleton.mpr fun _ _ => ?_⟩⟩⟩
    · obtain rfl : "env" = key := Option.some.inj ((by decide : _ = _).symm.trans hkey)
      exact .inl (.key (by decide) fun f => by cases f <;> decide)
    · exact .inr ⟨.startFloors, rfl⟩
    · exact .inr ⟨.capacity, rfl⟩
  have hvariables (floors : List Int) : ∀ f ≠ Field.startFloors,
      Option.Rel f.Spells ((vs floors).value? ("LIFT" ++ "_" ++ f.variableName))
        (Config.Part.get? { capacity := some 250 } f) := by
    intro f hf
    cases f with
    | startFloors => exact absurd rfl hf
    | capacity => exact .some (show whole? "250" = some 250 by decide)
    | workerCount | pollIntervalMs | strategy | stepIntervalMs => exact .none
  exact ⟨(load_startFloors library_lawful hsettings hes hfile (hvs _) (hvariables _) rfl
      (by decide) rfl rfl).2,
    (load_startFloors library_lawful hsettings hes hfile (hvs _) (hvariables _) rfl
      (by decide) rfl rfl).2⟩

/-- A building with one car that starts on floor 7 is a fleet that a configuration may have, but not
one that the variable can give, with the library in use or any other that does the same. -/
theorem one_start_floor_refused :
    Field.floorsText [7] = "7" ∧ IsFloor 7 ∧
    ({ startFloors := [7] } : Config).validate = .ok () ∧
    load (.usual none) "LIFT" [("LIFT_ELEVATORS__START_FLOORS", "7")] =
      .error (.load "config/lift-dispatch" "settings of the wrong kind") ∧
    ∀ lib, Lawful lib → loadWith lib (.usual none) "LIFT" [("LIFT_ELEVATORS__START_FLOORS", "7")] =
      .error (.load "config/lift-dispatch" "settings of the wrong kind") := by
  refine ⟨by decide, by decide, rfl, by cbv, fun lib hlib => ?_⟩
  have hes : IsDocument [] := ⟨by decide, by simp⟩
  have hvs : Variables.IsEnvironment lib [("LIFT_ELEVATORS__START_FLOORS", "7")] "LIFT" :=
    ⟨by decide, List.forall_mem_singleton.mpr fun _ _ => .inr ⟨.startFloors, rfl⟩⟩
  rw [load_of_settings (show SettingsFile.settings lib (.usual none) = .ok [] from rfl),
    configOf?_lone hlib hes hvs (i := 7) rfl (by decide)]
  rfl

end Deployment
end ElevatorBank
