import ElevatorBank.Setting.Config
import ElevatorBank.Setting.Variables
import Mathlib.Data.List.Forall2
import Mathlib.Tactic.Common

/-!
# Laying sources over settings

The fields that a configuration is read from, what is relied on of a library (`Setting.Lawful`),
and what becomes of the fields when a source is laid over the settings so far (`Setting.Lays`):
those that the source gives take the values it gives, and all others stay. An entry may give one
field by its path (`lays_field`) or several as a section (`lays_section`), or be aside of all that
is read (`lays_aside`).
-/
namespace ElevatorBank

/-- The settings of a configuration. -/
inductive Field
  | startFloors
  | capacity
  | workerCount
  | pollIntervalMs
  | strategy
  | stepIntervalMs
  deriving DecidableEq

namespace Field

/-- The section that a field belongs to. -/
def group : Field → String
  | startFloors => "elevators"
  | capacity | workerCount | pollIntervalMs => "queue"
  | strategy => "dispatch"
  | stepIntervalMs => "driver"

/-- The name of a field in its section. -/
def name : Field → String
  | startFloors => "start_floors"
  | capacity => "capacity"
  | workerCount => "worker_count"
  | pollIntervalMs => "poll_interval_ms"
  | strategy => "strategy"
  | stepIntervalMs => "step_interval_ms"

/-- The path of a field as a key at the top of a source. -/
def key : Field → String
  | startFloors => "elevators.start_floors"
  | capacity => "queue.capacity"
  | workerCount => "queue.worker_count"
  | pollIntervalMs => "queue.poll_interval_ms"
  | strategy => "dispatch.strategy"
  | stepIntervalMs => "driver.step_interval_ms"

/-- The name of the variable of a field, after the word that it begins with. -/
def variableName : Field → String
  | startFloors => "ELEVATORS__START_FLOORS"
  | capacity => "QUEUE__CAPACITY"
  | workerCount => "QUEUE__WORKER_COUNT"
  | pollIntervalMs => "QUEUE__POLL_INTERVAL_MS"
  | strategy => "DISPATCH__STRATEGY"
  | stepIntervalMs => "DRIVER__STEP_INTERVAL_MS"

lemma eq_of_group_name {f g : Field} (hgroup : f.group = g.group) (hname : f.name = g.name) :
    f = g := by
  revert hgroup hname
  cases f <;> cases g <;> decide

end Field

namespace Setting

def IsTable (s : Setting) : Prop := ∃ es, s = table es

instance : DecidablePred IsTable
  | table es => .isTrue ⟨es, rfl⟩
  | nothing | flag _ | int _ | float _ | text _ | list _ => .isFalse fun ⟨_, h⟩ => nomatch h

/-- Keys in small letters, digits and underscores, which are no paths. -/
def IsKey (key : String) : Prop :=
  key.toList ≠ [] ∧ ∀ c ∈ key.toList, c.isLower = true ∨ c.isDigit = true ∨ c = '_'

instance (key : String) : Decidable (IsKey key) :=
  have : Decidable (∀ c ∈ key.toList, c.isLower = true ∨ c.isDigit = true ∨ c = '_') :=
    List.decidableBAll _ _
  inferInstanceAs (Decidable (_ ∧ _))

/-! ### What is relied on -/

/-- Of a library for settings the program relies on this. Later entries win, key by key: tables are
merged, and lists and single values are replaced. The variable of a field is named after the word,
the section and the field. The text of a variable is tried as a truth value, a whole number of 64
bits and a number before it is split into a list, and only a list is taken for one. What is of the
type that is asked for is read as it is, and numbers are also read from their decimal digits. -/
structure Lawful (lib : Library) : Prop where
  others : ∀ {key root} v, IsKey key → root.IsTable → (lib.lay key v root).IsTable ∧
    ∀ other, other ≠ key → (lib.lay key v root).get? other = root.get? other
  replaced : ∀ {key v root}, IsKey key → root.IsTable → ¬v.IsTable →
    (lib.lay key v root).get? key = some v
  merged : ∀ {key es root}, IsKey key → root.IsTable → (∀ e ∈ es, IsKey e.1) →
    (∀ s, root.get? key = some s → s.IsTable) →
    (lib.lay key (table es) root).get? key =
      some (lib.overlay ((root.get? key).getD (table [])) es)
  dotted : ∀ {a b} v root, IsKey a → IsKey b →
    lib.lay (a ++ "." ++ b) v root = lib.lay a (table [(b, v)]) root
  named : ∀ word (f : Field), lib.keyOf? word (word ++ "_" ++ f.variableName) = some f.key
  tries_flag : ∀ {value b} listKey key, flag? value = some b →
    lib.ofVariable listKey key value = flag b
  tries_int : ∀ {value i} listKey key, flag? value = none → whole? value = some i →
    lib.ofVariable listKey key value = int i
  tries_float : ∀ {value x} listKey key, flag? value = none → whole? value = none →
    Text.float? value.toList = some x → lib.ofVariable listKey key value = float x
  splits : ∀ {value} key, flag? value = none → whole? value = none →
    Text.float? value.toList = none →
    lib.ofVariable key key value = list ((Text.splitText ',' value).map text)
  keeps : ∀ {value listKey key}, flag? value = none → whole? value = none →
    Text.float? value.toList = none → key ≠ listKey → lib.ofVariable listKey key value = text value
  floor?_int : ∀ {i}, IsFloor i → lib.floor? (int i) = some i
  floor?_text : ∀ {s i}, whole? s = some i → IsFloor i → lib.floor? (text s) = some i
  nat?_int : ∀ {n : Nat}, IsWhole n → lib.nat? (int n) = some n
  list?_list : ∀ items, lib.list? (list items) = some items
  list?_int : ∀ i, lib.list? (int i) = none
  word?_text : ∀ {words s}, (∀ word ∈ words, IsKey word) → s ∈ words →
    lib.word? words (text s) = some s
  fields?_table : ∀ names es, lib.fields? names (table es) =
    some (names.map fun name => Entries.get? name es)

/-- What stands in a field. -/
def at? (root : Setting) (f : Field) : Option Setting := (root.get? f.group).bind (·.get? f.name)

/-- The settings are a table, and so are the sections that there are. -/
structure Sectioned (root : Setting) : Prop where
  isTable : root.IsTable
  groups : ∀ f : Field, ∀ s, root.get? f.group = some s → s.IsTable

/-- Something has been laid over settings: the fields that it gives have the values it gives, the
others are as they were. -/
structure Lays (given : Field → Option Setting) (root root' : Setting) : Prop where
  sectioned : root'.Sectioned
  at? : ∀ f, root'.at? f = (given f).or (root.at? f)

variable {lib : Library} {root root' root'' v : Setting} {given given' : Field → Option Setting}
  {a b key other : String}

lemma Lays.refl (h : root.Sectioned) : Lays (fun _ => none) root root := ⟨h, fun _ => rfl⟩

lemma Lays.trans (h : Lays given root root') (h' : Lays given' root' root'') :
    Lays (fun f => (given' f).or (given f)) root root'' :=
  ⟨h'.sectioned, fun f => by rw [h'.at?, h.at?, Option.or_assoc]⟩

lemma Lays.congr (h : Lays given root root') (hsame : ∀ f, given f = given' f) :
    Lays given' root root' := ⟨h.sectioned, fun f => by rw [h.at?, hsame]⟩

/-! ### Sections -/

/-- Fields of one section, each once, and with single values where settings are read from them. -/
structure FieldsOf (group : String) (es : Entries Setting) : Prop where
  once : (es.map (·.1)).Nodup
  keys : ∀ e ∈ es, IsKey e.1
  single : ∀ e ∈ es, ∀ f : Field, f.group = group → e.1 = f.name → ¬e.2.IsTable

/-- No section of its own among the entries. -/
lemma fieldsOf_of_single {group : String} {es : Entries Setting} (honce : (es.map (·.1)).Nodup)
    (hes : ∀ e ∈ es, IsKey e.1 ∧ ¬e.2.IsTable) : FieldsOf group es :=
  ⟨honce, fun e hm => (hes e hm).1, fun e hm _ _ _ => (hes e hm).2⟩

lemma fieldsOf_singleton {group : String} (hkey : IsKey key)
    (hv : ∀ f : Field, f.group = group → key = f.name → ¬v.IsTable) :
    FieldsOf group [(key, v)] :=
  ⟨by simp, by simpa using hkey, by simpa using hv⟩

lemma get?_of_notMem {α : Type} {es : Entries α} (h : other ∉ es.map (·.1)) :
    es.get? other = none := by
  refine List.lookup_eq_none_iff.mpr fun e hm => ?_
  have hne : other ≠ e.1 := fun he => h (he ▸ List.mem_map_of_mem hm)
  simpa using hne

lemma isKey_group (f : Field) : IsKey f.group := by cases f <;> decide

lemma isKey_name (f : Field) : IsKey f.name := by cases f <;> decide

lemma key_eq (f : Field) : f.key = f.group ++ "." ++ f.name := by cases f <;> decide

section
variable (hlib : Lawful lib)
include hlib

lemma isTable_overlay {es : Entries Setting} (hes : ∀ e ∈ es, IsKey e.1) (h : root.IsTable) :
    (lib.overlay root es).IsTable := by
  induction es generalizing root with
  | nil => exact h
  | cons e rest ih =>
    obtain ⟨he, hrest⟩ := List.forall_mem_cons.mp hes
    exact ih hrest (hlib.others e.2 he h).1

lemma get?_overlay {es : Entries Setting} {f : Field} (hes : FieldsOf f.group es)
    (h : root.IsTable) :
    (lib.overlay root es).get? f.name = (es.get? f.name).or (root.get? f.name) := by
  induction es generalizing root with
  | nil => rfl
  | cons e rest ih =>
    obtain ⟨k, v⟩ := e
    obtain ⟨hk, honce⟩ := List.nodup_cons.mp hes.once
    obtain ⟨hkey, hkeys⟩ := List.forall_mem_cons.mp hes.keys
    have hrest : FieldsOf f.group rest :=
      ⟨honce, hkeys, fun e hm => hes.single e (List.mem_cons_of_mem _ hm)⟩
    have hfirst := hlib.others v hkey h
    have hlater := ih hrest hfirst.1
    show (lib.overlay (lib.lay k v root) rest).get? f.name = _
    rw [hlater]
    by_cases hname : k = f.name
    · subst hname
      have hv := hes.single (f.name, v) List.mem_cons_self f rfl rfl
      rw [get?_of_notMem hk, hlib.replaced hkey h hv]
      simp [Entries.get?]
    · rw [hfirst.2 _ (Ne.symm hname)]
      simp [Entries.get?, List.lookup_cons, beq_eq_false_iff_ne.mpr (Ne.symm hname)]

/-- What is laid at one key changes nothing that is read elsewhere. -/
lemma at?_lay_of_ne {f : Field} (hkey : IsKey key) (h : root.IsTable) (hf : f.group ≠ key)
    (v : Setting) : (lib.lay key v root).at? f = root.at? f := by
  unfold at?
  rw [(hlib.others v hkey h).2 _ hf]

/-- A section that is laid over the settings is a table in them. -/
lemma sectioned_lay {es : Entries Setting} (h : root.Sectioned) (hkey : IsKey key)
    (hes : ∀ e ∈ es, IsKey e.1) (hbefore : ∀ s, root.get? key = some s → s.IsTable) :
    (lib.lay key (table es) root).Sectioned := by
  refine ⟨(hlib.others _ hkey h.isTable).1, fun f s hs => ?_⟩
  by_cases hf : f.group = key
  · rw [hf, hlib.merged hkey h.isTable hes hbefore] at hs
    obtain rfl := Option.some.inj hs
    refine isTable_overlay hlib hes ?_
    cases hsection : root.get? key with
    | none => exact ⟨[], rfl⟩
    | some s => exact hbefore s hsection
  · rw [(hlib.others _ hkey h.isTable).2 _ hf] at hs
    exact h.groups f s hs

theorem lays_section (h : root.Sectioned) (f : Field) {es : Entries Setting}
    (hes : FieldsOf f.group es) :
    Lays (fun g => if g.group = f.group then es.get? g.name else none) root
      (lib.lay f.group (table es) root) := by
  refine ⟨sectioned_lay hlib h (isKey_group f) hes.keys (h.groups f), fun g => ?_⟩
  by_cases hgroup : g.group = f.group
  · have hbefore : ((root.get? g.group).getD (table [])).IsTable := by
      cases hs : root.get? g.group with
      | none => exact ⟨[], rfl⟩
      | some s => exact h.groups g s hs
    have hsection : ((root.get? g.group).getD (table [])).get? g.name = root.at? g := by
      unfold at?
      cases root.get? g.group <;> rfl
    rw [if_pos hgroup]
    rw [← hgroup] at hes ⊢
    unfold at? at hsection ⊢
    rw [hlib.merged (isKey_group g) h.isTable hes.keys (h.groups g), Option.bind_some,
      get?_overlay hlib hes hbefore, hsection]
  · rw [at?_lay_of_ne hlib (isKey_group f) h.isTable hgroup, if_neg hgroup, Option.none_or]

theorem lays_field (h : root.Sectioned) (f : Field) (hv : ¬v.IsTable) :
    Lays (fun g => if g = f then some v else none) root (lib.lay f.key v root) := by
  rw [key_eq, hlib.dotted v root (isKey_group f) (isKey_name f)]
  refine (lays_section hlib h f (fieldsOf_singleton (isKey_name f) fun _ _ _ => hv)).congr
    fun g => ?_
  by_cases hg : g = f
  · subst hg
    simp [Entries.get?]
  · rw [if_neg hg]
    split_ifs with hgroup
    · have hname : g.name ≠ f.name := fun hname => hg (Field.eq_of_group_name hgroup hname)
      simp [Entries.get?, List.lookup_cons, beq_eq_false_iff_ne.mpr hname]
    · rfl

end

/-- Entries from which nothing is read. -/
inductive Aside : String → Prop
  | key {a : String} (ha : IsKey a) (hn : ∀ f : Field, f.group ≠ a) : Aside a
  | dotted {a b : String} (ha : IsKey a) (hb : IsKey b)
    (hn : ∀ f : Field, f.group = a → f.name ≠ b) : Aside (a ++ "." ++ b)

section
variable (hlib : Lawful lib)
include hlib

lemma lays_elsewhere (h : root.Sectioned) (hkey : IsKey key) (hn : ∀ f : Field, f.group ≠ key)
    (v : Setting) : Lays (fun _ => none) root (lib.lay key v root) := by
  obtain ⟨htable, hothers⟩ := hlib.others v hkey h.isTable
  refine ⟨⟨htable, fun f s hs => h.groups f s ?_⟩, fun f => ?_⟩
  · rwa [hothers _ (hn f)] at hs
  · exact at?_lay_of_ne hlib hkey h.isTable (hn f) v

theorem lays_aside (h : root.Sectioned) (hkey : Aside key) (v : Setting) :
    Lays (fun _ => none) root (lib.lay key v root) := by
  cases hkey with
  | key ha hn => exact lays_elsewhere hlib h ha hn v
  | @dotted a b ha hb hn =>
    rw [hlib.dotted v root ha hb]
    by_cases hgroup : ∃ f : Field, f.group = a
    · obtain ⟨f, rfl⟩ := hgroup
      have hes : FieldsOf f.group [(b, v)] :=
        fieldsOf_singleton hb fun g hg hname => absurd hname.symm (hn g hg)
      refine (lays_section hlib h f hes).congr fun g => ?_
      split_ifs with hg
      · simp [Entries.get?, List.lookup_cons, beq_eq_false_iff_ne.mpr (hn g hg)]
      · rfl
    · exact lays_elsewhere hlib h ha (fun f hf => hgroup ⟨f, hf⟩) _

end

/-! ### Documents -/

/-- A document with its sections, each once, and otherwise only entries that are aside. -/
structure IsDocument (es : Entries Setting) : Prop where
  once : (es.map (·.1)).Nodup
  sections : ∀ e ∈ es, Aside e.1 ∨
    ∃ f : Field, e.1 = f.group ∧ ∃ fields, e.2 = table fields ∧ FieldsOf f.group fields

/-- No key has a dot in it, and so a path can be split in one way only. -/
lemma dot_notMem (ha : IsKey a) : '.' ∉ a.toList := fun h => absurd (ha.2 '.' h) (by decide)

lemma split_dotted (ha : IsKey a) (hb : IsKey b) :
    Text.splitText '.' (a ++ "." ++ b) = [a, b] := by
  have hlist : (a ++ "." ++ b).toList = a.toList ++ '.' :: b.toList := by simp
  unfold Text.splitText
  rw [hlist, Text.split_append_cons '.' _ _ (dot_notMem ha),
    Text.split_of_notMem '.' _ (dot_notMem hb)]
  simp

lemma not_aside_group (f : Field) : ¬Aside f.group := by
  generalize hgroup : f.group = key
  rintro (⟨-, hn⟩ | ⟨-, -, -⟩)
  · exact hn f hgroup
  · refine dot_notMem (isKey_group f) ?_
    rw [hgroup]
    simp

lemma not_aside_key (f : Field) : ¬Aside f.key := by
  have hsplit := split_dotted (isKey_group f) (isKey_name f)
  rw [← key_eq] at hsplit
  generalize hkey : f.key = key at hsplit
  rintro (⟨ha, -⟩ | ⟨ha, hb, hn⟩)
  · refine dot_notMem ha ?_
    rw [← hkey, key_eq]
    simp
  · rw [split_dotted ha hb] at hsplit
    obtain ⟨rfl, hname, -⟩ : _ = f.group ∧ _ = f.name ∧ True := by simpa using hsplit
    exact hn f rfl hname.symm

lemma at?_table_cons (e : String × Setting) (es : Entries Setting) (f : Field) :
    (table (e :: es)).at? f = if e.1 = f.group then e.2.get? f.name else (table es).at? f := by
  obtain ⟨key, v⟩ := e
  unfold at?
  rw [show (table ((key, v) :: es)).get? f.group = List.lookup f.group ((key, v) :: es) from rfl,
    List.lookup_cons]
  by_cases hkey : key = f.group
  · simp [hkey]
  · rw [if_neg hkey, beq_eq_false_iff_ne.mpr (Ne.symm hkey)]
    rfl

/-- What a document gives is what stands in it. -/
theorem IsDocument.lays (hlib : Lawful lib) {es : Entries Setting} (hes : IsDocument es)
    (h : root.Sectioned) : Lays (table es).at? root (lib.overlay root es) := by
  induction es generalizing root with
  | nil => exact .refl h
  | cons e rest ih =>
    obtain ⟨he, honce⟩ := List.nodup_cons.mp hes.once
    have hrest : IsDocument rest :=
      ⟨honce, fun e hm => hes.sections e (List.mem_cons_of_mem _ hm)⟩
    rcases hes.sections e List.mem_cons_self with haside | ⟨f, hgroup, fields, htable, hfields⟩
    · have hfirst := lays_aside hlib h haside e.2
      refine (hfirst.trans (ih hrest hfirst.sectioned)).congr fun g => ?_
      have hne : e.1 ≠ g.group := fun he => not_aside_group g (he ▸ haside)
      rw [at?_table_cons, if_neg hne, Option.or_none]
    · have hfirst := lays_section hlib h f hfields
      obtain ⟨key, v⟩ := e
      obtain rfl : key = f.group := hgroup
      obtain rfl : v = table fields := htable
      refine (hfirst.trans (ih hrest hfirst.sectioned)).congr fun g => ?_
      rw [at?_table_cons]
      by_cases hg : g.group = f.group
      · have hlater : (table rest).at? g = none := by
          unfold at?
          rw [hg, show (table rest).get? f.group = none from get?_of_notMem he]
          rfl
        rw [hlater, if_pos hg, if_pos hg.symm, Option.none_or]
        rfl
      · rw [if_neg hg, if_neg (Ne.symm hg), Option.or_none]

end Setting

/-! ### Reading a configuration -/

namespace Field
open Setting

/-- What a field stands for. -/
abbrev Value : Field → Type
  | startFloors => List Int
  | strategy => StrategyKind
  | capacity | workerCount | pollIntervalMs | stepIntervalMs => Nat

/-- What a field stands for in the configuration that there is to begin with. -/
def default : (f : Field) → f.Value
  | startFloors => ({} : Config).startFloors
  | capacity => ({} : Config).capacity
  | workerCount => ({} : Config).workerCount
  | pollIntervalMs => ({} : Config).pollIntervalMs
  | strategy => ({} : Config).strategy
  | stepIntervalMs => ({} : Config).stepIntervalMs

def read? (lib : Library) : (f : Field) → Setting → Option f.Value
  | startFloors => lib.floors?
  | strategy => lib.strategy?
  | capacity | workerCount | pollIntervalMs | stepIntervalMs => lib.nat?

lemma floors?_list {lib : Library} (hlib : Lawful lib) {items : List Setting} {floors : List Int}
    (h : List.Forall₂ (fun s i => lib.floor? s = some i) items floors) :
    lib.floors? (list items) = some floors := by
  unfold Library.floors?
  rw [hlib.list?_list, Option.bind_some]
  induction h with
  | nil => rfl
  | cons hfirst _ ih =>
    rw [List.mapM_cons, hfirst, ih]
    rfl

lemma strategy?_name {lib : Library} (hlib : Lawful lib) (kind : StrategyKind) :
    lib.strategy? (text kind.name) = some kind := by
  have hkeys : ∀ word ∈ StrategyKind.all.map (·.name), IsKey word := by decide
  have hword : kind.name ∈ StrategyKind.all.map (·.name) := by cases kind <;> decide
  rw [Library.strategy?, hlib.word?_text hkeys hword, Option.bind_some, StrategyKind.ofName?_name]

/-- A setting is of the type that its field has: whole numbers, the name of a strategy, or a list
of floors. -/
def Holds : (f : Field) → Setting → f.Value → Prop
  | startFloors, s, floors => s = list (floors.map int) ∧ ∀ i ∈ floors, IsFloor i
  | strategy, s, kind => s = text kind.name
  | capacity, s, n => s = int (n : Nat) ∧ IsWhole (n : Nat)
  | workerCount, s, n => s = int (n : Nat) ∧ IsWhole (n : Nat)
  | pollIntervalMs, s, n => s = int (n : Nat) ∧ IsWhole (n : Nat)
  | stepIntervalMs, s, n => s = int (n : Nat) ∧ IsWhole (n : Nat)

/-- A setting of the right type is read as what it holds. -/
theorem read?_of_holds {lib : Library} (hlib : Lawful lib) {f : Field} {s : Setting} {v : f.Value}
    (h : f.Holds s v) : f.read? lib s = some v := by
  cases f with
  | startFloors =>
    obtain ⟨rfl, hfloors⟩ := h
    refine floors?_list hlib ?_
    rw [List.forall₂_map_left_iff, List.forall₂_same]
    exact fun i hi => hlib.floor?_int (hfloors i hi)
  | strategy =>
    obtain rfl : s = text (StrategyKind.name v) := h
    exact strategy?_name hlib v
  | capacity | workerCount | pollIntervalMs | stepIntervalMs =>
    obtain ⟨rfl, hn⟩ : s = int (v : Nat) ∧ IsWhole (v : Nat) := h
    exact hlib.nat?_int hn

end Field

/-- The configuration with these values in its fields. -/
def Config.ofFields (c : (f : Field) → f.Value) : Config where
  startFloors := c .startFloors
  capacity := c .capacity
  workerCount := c .workerCount
  pollIntervalMs := c .pollIntervalMs
  strategy := c .strategy
  stepIntervalMs := c .stepIntervalMs

namespace Setting

section
variable {lib : Library} {root : Setting} (hlib : Lawful lib)
include hlib

lemma Sectioned.part? (h : root.Sectioned) (f : Field) (names : List String) :
    lib.part? names (root.get? f.group) =
      some (names.map fun name => (root.get? f.group).bind (·.get? name)) := by
  cases hs : root.get? f.group with
  | none => rfl
  | some s =>
    obtain ⟨es, rfl⟩ := h.groups f s hs
    exact hlib.fields?_table names es

/-- The fields are read one after the other. -/
theorem Sectioned.ofSetting?_eq (h : root.Sectioned) :
    let value? (f : Field) := orDefault? (f.read? lib) f.default (root.at? f)
    Config.ofSetting? lib root = (do
      let startFloors ← value? .startFloors
      let capacity ← value? .capacity
      let workerCount ← value? .workerCount
      let pollIntervalMs ← value? .pollIntervalMs
      let strategy ← value? .strategy
      let stepIntervalMs ← value? .stepIntervalMs
      return ⟨startFloors, capacity, workerCount, pollIntervalMs, strategy, stepIntervalMs⟩) := by
  intro value?
  obtain ⟨es, hes⟩ := h.isTable
  have hgroups : lib.fields? ["elevators", "queue", "dispatch", "driver"] root =
      some [root.get? "elevators", root.get? "queue", root.get? "dispatch",
        root.get? "driver"] := by
    rw [hes]
    exact hlib.fields?_table _ es
  have helevators := h.part? hlib .startFloors ["start_floors"]
  have hqueue := h.part? hlib .capacity ["capacity", "worker_count", "poll_interval_ms"]
  have hdispatch := h.part? hlib .strategy ["strategy"]
  have hdriver := h.part? hlib .stepIntervalMs ["step_interval_ms"]
  simp only [Field.group, List.map_cons, List.map_nil] at helevators hqueue hdispatch hdriver
  unfold Config.ofSetting?
  simp only [hgroups, helevators, hqueue, hdispatch, hdriver, Option.bind_eq_bind, Option.bind_some]
  rfl

/-- A configuration has in its fields what is read for them. -/
theorem Sectioned.ofSetting? (h : root.Sectioned) {c : (f : Field) → f.Value}
    (hc : ∀ f : Field, orDefault? (f.read? lib) f.default (root.at? f) = some (c f)) :
    Config.ofSetting? lib root = some (.ofFields c) := by
  rw [h.ofSetting?_eq hlib]
  simp only [hc]
  rfl

/-- One field that cannot be read is enough for there to be no configuration. -/
theorem Sectioned.ofSetting?_eq_none (h : root.Sectioned) {f : Field}
    (hf : orDefault? (f.read? lib) f.default (root.at? f) = none) :
    Config.ofSetting? lib root = none := by
  rw [h.ofSetting?_eq hlib]
  cases f <;> simp [hf]

end

end Setting
end ElevatorBank
