import ElevatorBank.Proofs.Overlay
import Mathlib.Data.List.TakeDrop
import Mathlib.Data.List.TakeWhile

/-!
# Settings in the environment

The text of a variable leads to a value that is read back as what it says: a whole number, the
name of a strategy, or floors between commas (`read?_ofVariable`). So what the variables give is
laid over the settings field by field (`Variables.IsEnvironment.lays`).
-/
namespace ElevatorBank
namespace Text

/-! ### Whole numbers -/

lemma nat?_chars {cs : List Char} (h : nat? cs ≠ none) : ∀ c ∈ cs, c.isDigit = true := by
  unfold nat? at h
  split_ifs at h with hd
  · exact List.all_eq_true.mp hd.2
  · exact absurd rfl h

/-- A whole number is written in digits and signs. -/
lemma signedInt?_chars {cs : List Char} (h : signedInt? cs ≠ none) :
    ∀ c ∈ cs, c.isDigit = true ∨ c = '+' ∨ c = '-' := by
  unfold signedInt? int? at h
  split at h
  · have hn := nat?_chars fun hn => h (by rw [hn]; rfl)
    exact List.forall_mem_cons.mpr ⟨.inr (.inl rfl), fun c hc => .inl (hn c hc)⟩
  · split at h
    · have hn := nat?_chars fun hn => h (by rw [hn]; rfl)
      exact List.forall_mem_cons.mpr ⟨.inr (.inr rfl), fun c hc => .inl (hn c hc)⟩
    · have hn := nat?_chars fun hn => h (by rw [hn]; rfl)
      exact fun c hc => .inl (hn c hc)

/-- Digits and signs have no other case. -/
lemma toLower_of_digit_or_sign {c : Char} (h : c.isDigit = true ∨ c = '+' ∨ c = '-') :
    c.toNat < 128 ∧ c.toLower = c := by
  rcases h with h | rfl | rfl
  · have hdigit : c.val.toNat ≤ 57 := by
      simp only [Char.isDigit, Bool.and_eq_true, decide_eq_true_eq] at h
      exact UInt32.le_iff_toNat_le.mp h.2
    refine ⟨by rw [← Char.toNat_val]; omega, ?_⟩
    unfold Char.toLower
    split
    · next hcapital =>
      have hletter : 65 ≤ c.val.toNat := UInt32.le_iff_toNat_le.mp hcapital.1
      omega
    · rfl
  · decide
  · decide

/-- The text of a whole number is in small letters. -/
lemma foldCase_of_signedInt? {s : String} (h : signedInt? s.toList ≠ none) : foldCase s = s := by
  have hchars := fun c hc => toLower_of_digit_or_sign (signedInt?_chars h c hc)
  unfold foldCase
  rw [foldCaseAfter_of_ascii [] _ fun c hc => (hchars c hc).1,
    List.map_congr_left fun c hc => (hchars c hc).2, List.map_id', String.ofList_toList]

/-! ### Lists -/

section
variable {cs : List Char} (h : ',' ∈ cs)
include h

lemma comma_mem_span : ',' ∈ (cs.span Char.isDigit).2 := by
  rw [List.span_eq_takeWhile_dropWhile]
  rw [← cs.takeWhile_append_dropWhile (p := Char.isDigit), List.mem_append] at h
  refine h.resolve_left fun hdigits => ?_
  have hcomma : Char.isDigit ',' = true := List.mem_takeWhile_imp hdigits
  exact absurd hcomma (by decide)

lemma signedInt?_of_comma : signedInt? cs = none := by
  by_contra hn
  exact absurd (signedInt?_chars hn ',' h) (by decide)

lemma exponent?_of_comma : exponent? cs = none := by
  cases cs with
  | nil => cases h
  | cons e rest =>
    have hletter : (e == 'e' || e == 'E') = true → e ≠ ',' := by
      rintro he rfl
      exact absurd he (by decide)
    show (if (e == 'e' || e == 'E') = true then signedInt? rest else none) = none
    split_ifs with he
    · exact signedInt?_of_comma ((List.mem_cons.mp h).resolve_left (hletter he).symm)
    · rfl

lemma unsignedFloat?_of_comma : unsignedFloat? cs = none := by
  have hword : ∀ word : List Char, ',' ∉ word → cs.map Char.toLower ≠ word := by
    rintro word hn rfl
    exact hn (List.mem_map.mpr ⟨',', h, by decide⟩)
  have hinf : ¬(cs.map Char.toLower = "inf".toList ∨ cs.map Char.toLower = "infinity".toList) :=
    not_or.mpr ⟨hword _ (by decide), hword _ (by decide)⟩
  have hspan := comma_mem_span h
  unfold unsignedFloat?
  generalize cs.span Char.isDigit = first at hspan ⊢
  obtain ⟨whole, rest⟩ := first
  dsimp only at hspan ⊢
  rw [if_neg hinf, if_neg (hword _ (by decide))]
  split
  · have hfraction := comma_mem_span ((List.mem_cons.mp hspan).resolve_left (by decide))
    rw [exponent?_of_comma hfraction]
    split_ifs <;> rfl
  · dsimp only
    rw [exponent?_of_comma hspan]
    split_ifs <;> rfl

/-- Floors between commas are no number. -/
lemma float?_of_comma : float? cs = none := by
  unfold float?
  split
  · rw [unsignedFloat?_of_comma ((List.mem_cons.mp h).resolve_left (by decide))]
    rfl
  · exact unsignedFloat?_of_comma ((List.mem_cons.mp h).resolve_left (by decide))
  · exact unsignedFloat?_of_comma h

lemma comma_mem_foldCaseAfter (before : List Char) : ',' ∈ foldCaseAfter before cs := by
  induction cs generalizing before with
  | nil => cases h
  | cons c rest ih =>
    rw [foldCaseAfter, List.mem_append]
    rcases List.mem_cons.mp h with rfl | hrest
    · rw [smallLetters_of_ascii before rest (by decide)]
      exact .inl (by decide)
    · exact .inr (ih hrest _)

end

/-- Where there are two parts there is a comma. -/
lemma comma_mem_of_split {s : String} (h : 2 ≤ (splitText ',' s).length) : ',' ∈ s.toList := by
  by_contra hn
  simp [splitText, split_of_notMem ',' _ hn] at h

end Text

namespace Setting

/-! ### Values -/

/-- A whole number is none of the words. -/
lemma foldCase_ne_of_whole {value : String} (h : whole? value ≠ none) {word : String}
    (hword : whole? word = none) : Text.foldCase value ≠ word := by
  have hnumber : Text.signedInt? value.toList ≠ none := by
    intro hn
    rw [whole?, hn] at h
    exact h rfl
  rw [Text.foldCase_of_signedInt? hnumber]
  rintro rfl
  exact h hword

/-- A value that is written differently from both words is no truth value. -/
lemma flag?_eq_none {value : String} (htrue : Text.foldCase value ≠ "true")
    (hfalse : Text.foldCase value ≠ "false") : flag? value = none := by
  rw [flag?, if_neg htrue, if_neg hfalse]

variable {lib : Library} (hlib : Lawful lib) {value : String}
include hlib

lemma ofVariable_whole {i : Int} (h : whole? value = some i) (listKey key : String) :
    lib.ofVariable listKey key value = int i := by
  have hsome : whole? value ≠ none := by simp [h]
  exact hlib.tries_int listKey key (flag?_eq_none (foldCase_ne_of_whole hsome (by decide))
    (foldCase_ne_of_whole hsome (by decide))) h

lemma ofVariable_list (h : 2 ≤ (Text.splitText ',' value).length) :
    lib.ofVariable listKey listKey value = list ((Text.splitText ',' value).map text) := by
  have hcomma := Text.comma_mem_of_split h
  have hfold : ∀ word : String, ',' ∉ word.toList → Text.foldCase value ≠ word := by
    rintro word hn rfl
    exact hn (by simpa [Text.foldCase] using Text.comma_mem_foldCaseAfter hcomma [])
  have hwhole : whole? value = none := by rw [whole?, Text.signedInt?_of_comma hcomma]; rfl
  exact hlib.splits listKey (flag?_eq_none (hfold _ (by decide)) (hfold _ (by decide))) hwhole
    (Text.float?_of_comma hcomma)

/-- Whatever its text, a variable gives one value and no section. -/
lemma ofVariable_not_table (key value : String) : ¬(lib.ofVariable listKey key value).IsTable := by
  cases hflag : flag? value with
  | some b =>
    rw [hlib.tries_flag listKey key hflag]
    rintro ⟨es, h⟩
    cases h
  | none =>
    cases hwhole : whole? value with
    | some i =>
      rw [hlib.tries_int listKey key hflag hwhole]
      rintro ⟨es, h⟩
      cases h
    | none =>
      cases hfloat : Text.float? value.toList with
      | some x =>
        rw [hlib.tries_float listKey key hflag hwhole hfloat]
        rintro ⟨es, h⟩
        cases h
      | none =>
        by_cases hkey : key = listKey
        · rw [hkey, hlib.splits listKey hflag hwhole hfloat]
          rintro ⟨es, h⟩
          cases h
        · rw [hlib.keeps hflag hwhole hfloat hkey]
          rintro ⟨es, h⟩
          cases h

end Setting

namespace Field
open Setting

/-- The text of a variable says what its field is to stand for: a whole number, the name of a
strategy, or two floors and more between commas. -/
def Spells : (f : Field) → String → f.Value → Prop
  | startFloors, value, floors => 2 ≤ (Text.splitText ',' value).length ∧
      List.Forall₂ (fun part i => whole? part = some i ∧ IsFloor i)
        (Text.splitText ',' value) floors
  | strategy, value, kind => value = kind.name
  | capacity, value, n => whole? value = some (n : Int)
  | workerCount, value, n => whole? value = some (n : Int)
  | pollIntervalMs, value, n => whole? value = some (n : Int)
  | stepIntervalMs, value, n => whole? value = some (n : Int)

lemma isWhole_of_whole? {value : String} {i : Int} (h : whole? value = some i) : IsWhole i := by
  rw [whole?, Option.filter_eq_some_iff] at h
  exact of_decide_eq_true h.2

variable {lib : Library} (hlib : Lawful lib)
include hlib

lemma floors?_of_parts {parts : List String} {floors : List Int}
    (h : List.Forall₂ (fun part i => whole? part = some i ∧ IsFloor i) parts floors) :
    lib.floors? (list (parts.map text)) = some floors := by
  refine floors?_list hlib ?_
  rw [List.forall₂_map_left_iff]
  exact h.imp fun part i hpart => hlib.floor?_text hpart.1 hpart.2

/-- The value of a variable is read as what its text says. -/
theorem read?_ofVariable {f : Field} {value : String} {v : f.Value} (h : f.Spells value v) :
    f.read? lib (lib.ofVariable listKey f.key value) = some v := by
  cases f with
  | startFloors =>
    rw [show key startFloors = listKey from rfl, ofVariable_list hlib h.1]
    exact floors?_of_parts hlib h.2
  | strategy =>
    obtain rfl : value = StrategyKind.name v := h
    have htext : lib.ofVariable listKey (key strategy) (StrategyKind.name v) =
        text (StrategyKind.name v) := by
      cases v <;> exact hlib.keeps (by decide) (by decide) (by rfl) (by decide)
    rw [htext]
    exact strategy?_name hlib v
  | capacity | workerCount | pollIntervalMs | stepIntervalMs =>
    rw [ofVariable_whole hlib h]
    exact hlib.nat?_int (isWhole_of_whole? h)

end Field

namespace Variables
open Setting

/-- The variables that begin with a word are those of fields, or aside of all that is read. No name
is there twice. -/
structure IsEnvironment (lib : Library) (vs : Variables) (word : String) : Prop where
  once : (vs.map (·.1)).Nodup
  names : ∀ e ∈ vs, ∀ key, lib.keyOf? word e.1 = some key →
    Aside key ∨ ∃ f : Field, e.1 = word ++ "_" ++ f.variableName

variable {lib : Library} {vs : Variables} {word : String}

/-- What a variable gives its field. -/
def given? (lib : Library) (vs : Variables) (word : String) (f : Field) : Option Setting :=
  (vs.value? (word ++ "_" ++ f.variableName)).map (lib.ofVariable listKey f.key)

lemma given?_cons_of_ne {name value : String} {f : Field}
    (h : name ≠ word ++ "_" ++ f.variableName) :
    given? lib ((name, value) :: vs) word f = given? lib vs word f := by
  simp [given?, value?, List.lookup_cons, beq_eq_false_iff_ne.mpr h.symm]

lemma given?_cons_self (value : String) (f : Field) :
    given? lib ((word ++ "_" ++ f.variableName, value) :: vs) word f =
      some (lib.ofVariable listKey f.key value) := by
  simp [given?, value?]

variable (hlib : Lawful lib)
include hlib

lemma variableName_inj {f g : Field}
    (h : word ++ "_" ++ f.variableName = word ++ "_" ++ g.variableName) : f = g := by
  have hkeys := (hlib.named word f).symm.trans (h ▸ hlib.named word g)
  revert hkeys
  cases f <;> cases g <;> simp [Field.key]

/-- Each variable gives its own field what its text says. -/
theorem IsEnvironment.lays (hvs : vs.IsEnvironment lib word) {root : Setting} (h : root.Sectioned) :
    Lays (vs.given? lib word) root (lib.overlay root (lib.ofVariables word vs)) := by
  induction vs generalizing root with
  | nil => exact .refl h
  | cons e rest ih =>
    obtain ⟨name, value⟩ := e
    obtain ⟨hname, honce⟩ := List.nodup_cons.mp hvs.once
    have hrest : IsEnvironment lib rest word :=
      ⟨honce, fun e hm => hvs.names e (List.mem_cons_of_mem _ hm)⟩
    cases hkey : lib.keyOf? word name with
    | none =>
      have hsettings :
          lib.ofVariables word ((name, value) :: rest) = lib.ofVariables word rest := by
        simp [Library.ofVariables, hkey]
      rw [hsettings]
      refine (ih hrest h).congr fun f => (given?_cons_of_ne ?_).symm
      rintro rfl
      rw [hlib.named] at hkey
      cases hkey
    | some key =>
      have hsettings : lib.ofVariables word ((name, value) :: rest) =
          (key, lib.ofVariable listKey key value) :: lib.ofVariables word rest := by
        simp [Library.ofVariables, hkey]
      rw [hsettings]
      rcases hvs.names (name, value) List.mem_cons_self key hkey with haside | ⟨f, hfield⟩
      · have hfirst := lays_aside hlib h haside (lib.ofVariable listKey key value)
        refine (hfirst.trans (ih hrest hfirst.sectioned)).congr fun f => ?_
        rw [Option.or_none, given?_cons_of_ne]
        rintro rfl
        obtain rfl := Option.some.inj ((hlib.named word f).symm.trans hkey)
        exact not_aside_key f haside
      · obtain rfl : name = word ++ "_" ++ f.variableName := hfield
        obtain rfl := Option.some.inj ((hlib.named word f).symm.trans hkey)
        have hfirst := lays_field hlib h f (ofVariable_not_table hlib f.key value)
        refine (hfirst.trans (ih hrest hfirst.sectioned)).congr fun g => ?_
        by_cases hg : g = f
        · subst hg
          have hlater : given? lib rest word g = none := by
            have hlookup : rest.lookup (word ++ "_" ++ g.variableName) = none :=
              get?_of_notMem hname
            simp [given?, value?, hlookup]
          rw [hlater, given?_cons_self, if_pos rfl, Option.none_or]
        · rw [if_neg hg, Option.or_none,
            given?_cons_of_ne fun hn => hg (variableName_inj hlib hn).symm]

end Variables
end ElevatorBank
