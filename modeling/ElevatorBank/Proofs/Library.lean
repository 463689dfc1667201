import ElevatorBank.Deployment
import ElevatorBank.Proofs.Environment

/-!
# The settings library in use

The library in use does what is relied on of one (`Setting.library_lawful`). The path of a plain
key is the key alone, and that of a key with one dot in it leads through one table
(`ofKey_of_isKey`, `ofKey_dotted`); a variable leads to the field it is named for whatever the word
it begins with, even one whose last letter becomes another one in front of other letters
(`keyOf?_variableName`).
-/
namespace ElevatorBank
namespace Text

/-! ### Small letters -/

lemma underscore_not_passedOver : passedOver.has '_' = false := by
  rw [CharClass.has, ← Array.any_toList]
  decide +kernel

lemma beginsCased_append (w rest : List Char) :
    beginsCased (w ++ '_' :: rest) = beginsCased (w ++ ['_']) := by
  have hmark := underscore_not_passedOver
  induction w with
  | nil => simp [beginsCased, hmark]
  | cons c w ih =>
    unfold beginsCased at ih ⊢
    by_cases hc : passedOver.has c = true
    · simpa [List.dropWhile_cons, hc] using ih
    · simp [hc]

lemma smallLetters_append (before w rest : List Char) (c : Char) :
    smallLetters before (w ++ '_' :: rest) c = smallLetters before (w ++ ['_']) c := by
  unfold smallLetters smallSigma
  rw [beginsCased_append]

/-- No letter becomes another one for what comes after an underscore. -/
lemma foldCaseAfter_append (before w : List Char) {rest : List Char}
    (hrest : ∀ c ∈ rest, c.toNat < 128) :
    foldCaseAfter before (w ++ '_' :: rest) =
      foldCaseAfter before (w ++ ['_']) ++ rest.map Char.toLower := by
  induction w generalizing before with
  | nil =>
    have hmark : ∀ after, smallLetters before after '_' = ['_'] := fun after =>
      smallLetters_of_ascii before after (by decide)
    simp [foldCaseAfter, hmark, foldCaseAfter_of_ascii _ rest hrest]
  | cons c w ih =>
    simp only [List.cons_append, foldCaseAfter, smallLetters_append before w rest c, ih,
      List.append_assoc]

end Text

namespace Setting

/-! ### Keys and paths -/

/-- What keys are made of is small, and part of a path. -/
lemma isKey_char {c : Char} (h : c.isLower = true ∨ c.isDigit = true ∨ c = '_') :
    c.toNat < 128 ∧ c.toLower = c ∧ Path.isKeyChar c = true := by
  obtain h | h | rfl := h
  · have hletter : c.isAlpha = true := Bool.or_eq_true_iff.mpr (.inr h)
    have hpart : Path.isKeyChar c = true := by simp [Path.isKeyChar, Char.isAlphanum, hletter]
    have hrange := Bool.and_eq_true_iff.mp h
    have hfirst : 97 ≤ c.val.toNat := UInt32.le_iff_toNat_le.mp (of_decide_eq_true hrange.1)
    have hlast : c.val.toNat ≤ 122 := UInt32.le_iff_toNat_le.mp (of_decide_eq_true hrange.2)
    refine ⟨by rw [← Char.toNat_val]; omega, ?_, hpart⟩
    unfold Char.toLower
    split
    · next hcapital =>
      have hcapitals : c.val.toNat ≤ 90 := UInt32.le_iff_toNat_le.mp hcapital.2
      omega
    · rfl
  · have hdigit := Text.toLower_of_digit_or_sign (.inl h)
    exact ⟨hdigit.1, hdigit.2, by simp [Path.isKeyChar, Char.isAlphanum, h]⟩
  · decide

variable {key a b : String}

lemma foldCase_of_isKey (h : IsKey key) : Text.foldCase key = key := by
  have hchars := fun c hc => isKey_char (h.2 c hc)
  unfold Text.foldCase
  rw [Text.foldCaseAfter_of_ascii [] _ fun c hc => (hchars c hc).1,
    List.map_congr_left fun c hc => (hchars c hc).2.1, List.map_id', String.ofList_toList]

/-- A key ends where something begins that is no part of keys. -/
lemma key?_append (h : IsKey key) (rest : List Char)
    (hrest : ∀ c ∈ rest.head?, Path.isKeyChar c = false) :
    Path.key? (key.toList ++ rest) = some (.key key, rest) := by
  have hkey : ∀ c ∈ key.toList, Path.isKeyChar c = true := fun c hc => (isKey_char (h.2 c hc)).2.2
  have hspan : (key.toList ++ rest).span Path.isKeyChar = (key.toList, rest) := by
    rw [List.span_eq_takeWhile_dropWhile, List.takeWhile_append_of_pos hkey,
      List.dropWhile_append_of_pos hkey]
    cases rest with
    | nil => simp
    | cons c rest => simp [hrest c rfl]
  have hne := h.1
  unfold Path.key?
  rw [hspan]
  cases hlist : key.toList with
  | nil => exact absurd hlist hne
  | cons c cs => simp [← hlist]

lemma ofKey_of_isKey (h : IsKey key) : Path.ofKey key = [.key key] := by
  have hread := key?_append h [] (by simp)
  rw [List.append_nil] at hread
  simp [Path.ofKey, Path.parse?, hread, Path.steps?]

lemma ofKey_dotted (ha : IsKey a) (hb : IsKey b) :
    Path.ofKey (a ++ "." ++ b) = [.key a, .key b] := by
  have hlist : (a ++ "." ++ b).toList = a.toList ++ '.' :: b.toList := by simp
  have hfirst := key?_append ha ('.' :: b.toList) (by simp; decide)
  have hsecond := key?_append hb [] (by simp)
  rw [List.append_nil] at hsecond
  simp [Path.ofKey, Path.parse?, hlist, hfirst, Path.steps?, hsecond]

/-! ### Laying entries -/

variable {root v : Setting}

lemma put_of_not_table (hv : ¬v.IsTable) (key : String) (root : Setting) :
    root.put key v = set (Text.foldCase key) v root := by
  cases v with
  | table es => exact absurd ⟨es, rfl⟩ hv
  | _ => rw [put]; simp

lemma put_table (es : List (String × Setting)) (key : String) (root : Setting) :
    root.put key (table es) =
      set (Text.foldCase key) (putAll ((root.get? (Text.foldCase key)).getD (table [])) es)
        root := by
  rw [put]

lemma exists_put (key : String) (root v : Setting) :
    ∃ w, root.put key v = set (Text.foldCase key) w root := by
  by_cases hv : v.IsTable
  · obtain ⟨es, rfl⟩ := hv
    exact ⟨_, put_table es key root⟩
  · exact ⟨v, put_of_not_table hv key root⟩

lemma lay_of_isKey (h : IsKey key) (v root : Setting) : lay key v root = root.put key v := by
  rw [lay, ofKey_of_isKey h]
  rfl

lemma putAll_eq_overlay {es : Entries Setting} (h : ∀ e ∈ es, IsKey e.1) (root : Setting) :
    putAll root es = library.overlay root es := by
  induction es generalizing root with
  | nil => rfl
  | cons e rest ih =>
    obtain ⟨he, hrest⟩ := List.forall_mem_cons.mp h
    rw [putAll, ih hrest, ← lay_of_isKey he]
    rfl

/-- Where there is nothing yet a table is made. -/
lemma put_nothing (key : String) (v : Setting) : nothing.put key v = (table []).put key v := by
  by_cases hv : v.IsTable
  · obtain ⟨es, rfl⟩ := hv
    rw [put_table, put_table]
    rfl
  · rw [put_of_not_table hv, put_of_not_table hv]
    rfl

lemma lay_dotted (ha : IsKey a) (hb : IsKey b) (v root : Setting) :
    lay (a ++ "." ++ b) v root = lay a (table [(b, v)]) root := by
  have hplace : lay (a ++ "." ++ b) v root =
      set a (((root.get? a).getD nothing).put b v) root := by
    rw [lay, ofKey_dotted ha hb]
    show set (Text.foldCase a) (((root.get? (Text.foldCase a)).getD nothing).put b v) root = _
    rw [foldCase_of_isKey ha]
  rw [hplace, lay_of_isKey ha, put_table, foldCase_of_isKey ha, putAll, putAll]
  cases root.get? a with
  | none => rw [Option.getD_none, Option.getD_none, put_nothing]
  | some s => rfl

/-! ### Variables and values -/

/-- The variable of a field leads to the field. -/
theorem keyOf?_variableName (word : String) (f : Field) :
    keyOf? word (word ++ "_" ++ f.variableName) = some f.key := by
  have hall : (f.variableName.toList.all fun c => decide (c.toNat < 128)) = true := by
    cases f <;> decide
  have hascii : ∀ c ∈ f.variableName.toList, c.toNat < 128 := by simpa using hall
  have hname : (Text.foldCase (word ++ "_" ++ f.variableName)).toList =
      (Text.foldCase (word ++ "_")).toList ++ f.variableName.toList.map Char.toLower := by
    simpa [Text.foldCase] using Text.foldCaseAfter_append [] word.toList hascii
  have hpath : String.ofList (dotted (f.variableName.toList.map Char.toLower)) = f.key := by
    cases f <;> decide
  unfold keyOf?
  dsimp only
  rw [hname, if_pos (List.isPrefixOf_iff_prefix.mpr (List.prefix_append _ _)), List.drop_left,
    hpath]

lemma int?_text_whole {value : String} {i : Int} (h : whole? value = some i) :
    (text value).int? = some i := by
  have hsome : whole? value ≠ none := by simp [h]
  have hword : wordValue? value = none := by
    have hne : ∀ word, whole? word = none → Text.foldCase value ≠ word := fun word hword =>
      foldCase_ne_of_whole hsome hword
    unfold wordValue?
    rw [if_neg (by simp [hne, show whole? "true" = none by decide,
      show whole? "on" = none by decide, show whole? "yes" = none by decide]),
      if_neg (by simp [hne, show whole? "false" = none by decide,
        show whole? "off" = none by decide, show whole? "no" = none by decide])]
  rw [int?, hword, h]
  rfl

lemma floor?_of_int? {s : Setting} {i : Int} (h : s.int? = some i) (hi : IsFloor i) :
    floor? s = some i := by
  rw [floor?, h, Option.filter_some]
  exact if_pos (decide_eq_true hi)

lemma nat?_int (n : Nat) : (int n).nat? = some n := by
  rw [nat?, if_pos (Int.natCast_nonneg n), Int.toNat_natCast]

lemma word?_text {words : List String} {s : String} (hwords : ∀ word ∈ words, IsKey word)
    (hs : s ∈ words) : word? words (text s) = some s := by
  show words.find? (· == Text.foldCase s) = some s
  rw [foldCase_of_isKey (hwords s hs)]
  cases hfound : words.find? (· == s) with
  | none => exact absurd (List.find?_eq_none.mp hfound s hs) (by simp)
  | some word =>
    have hword := List.find?_some hfound
    rw [eq_of_beq hword]

/-- The library in use can be relied on. -/
theorem library_lawful : Lawful library where
  others {key root} v hkey _ := by
    obtain ⟨w, hw⟩ := exists_put key root v
    rw [foldCase_of_isKey hkey, ← lay_of_isKey hkey] at hw
    rw [show library.lay key v root = set key w root from hw]
    refine ⟨⟨_, rfl⟩, fun other hother => ?_⟩
    rw [get?_set, if_neg (by simpa using hother)]
  replaced {key v root} hkey _ hv := by
    show (lay key v root).get? key = _
    rw [lay_of_isKey hkey, put_of_not_table hv, foldCase_of_isKey hkey, get?_set, if_pos (by simp)]
  merged {key es root} hkey _ hes _ := by
    show (lay key (table es) root).get? key = _
    rw [lay_of_isKey hkey, put_table, foldCase_of_isKey hkey, get?_set, if_pos (by simp),
      putAll_eq_overlay hes]
  dotted v root ha hb := lay_dotted ha hb v root
  named := keyOf?_variableName
  tries_flag listKey key hflag := by simp [library, ofVariable, hflag]
  tries_int listKey key hflag hwhole := by simp [library, ofVariable, hflag, hwhole]
  tries_float listKey key hflag hwhole hfloat := by
    simp [library, ofVariable, hflag, hwhole, hfloat]
  splits key hflag hwhole hfloat := by simp [library, ofVariable, hflag, hwhole, hfloat]
  keeps hflag hwhole hfloat hkey := by simp [library, ofVariable, hflag, hwhole, hfloat, hkey]
  floor?_int {i} hi := floor?_of_int? (s := int i) rfl hi
  floor?_text h := floor?_of_int? (int?_text_whole h)
  nat?_int _ := nat?_int _
  list?_list _ := rfl
  list?_int _ := rfl
  word?_text := word?_text
  fields?_table _ _ := rfl

end Setting
end ElevatorBank
