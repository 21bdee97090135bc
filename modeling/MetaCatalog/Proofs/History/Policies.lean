import MetaCatalog.Proofs.History.Storage
import MetaCatalog.Proofs.Identifier.Quoting

/-!
# Policies in the settings

A truth value and an integer are read back from the settings as they were put
there (`Settings.getBool_setBool`, `Settings.getInt_setInt`), the lowest integer
included: its numeral is read as a negative number and never as the opposite one,
which would not fit. As the five keys of a policy are not in each other's way, and no
history owns any of them, a policy that is written is the one that is read, and
nothing else is changed by it (`HistoryPolicy.writeTo_readBack`).
-/

namespace MetaCatalog

/-! ## Signed numerals -/

namespace Decimal

theorem toList_ofNat (n : Nat) : (ofNat n).toList = digits n := String.toList_ofList

theorem toList_negative (n : Nat) : ("-" ++ ofNat n).toList = '-' :: digits n := by
  rw [String.toList_append, toList_ofNat]
  rfl

theorem readNat?_digits (n : Nat) : readNat? (digits n) = some n :=
  readNat?_eq_some.mpr ⟨digits_ne_nil n, extend?_digits n⟩

theorem readInt?_ofNat (n : Nat) : readInt? (ofNat n) = some (n : Int) := by
  have digit {c : Char} {cs : List Char} (h : digits n = c :: cs) : (digit? c).isSome :=
    areDigits_digits n c (h ▸ List.mem_cons_self)
  unfold readInt?
  rw [toList_ofNat]
  split
  next signed => exact absurd (digit signed) (by decide)
  next signed => exact absurd (digit signed) (by decide)
  next =>
    rw [readNat?_digits]
    rfl

/-- An integer is read back from its numeral. -/
theorem readInt?_ofInt (i : Int) : readInt? (ofInt i) = some i := by
  unfold ofInt
  split
  · next negative =>
    unfold readInt?
    rw [toList_negative]
    show ((readNat? (digits i.natAbs)).bind fun n => some (n : Int)).map (fun n => -n) = some i
    rw [readNat?_digits]
    show some (-(i.natAbs : Int)) = some i
    exact congrArg some (by omega)
  · next natural =>
    rw [readInt?_ofNat]
    exact congrArg some (by omega)

/-- The 64 bits of a number hold it, whatever its sign. -/
theorem int64?_toInt (i : Int64) : int64? i.toInt = some i := by
  rw [int64?, if_pos ⟨i.minValue_le_toInt, i.toInt_le⟩, Int64.ofInt_toInt]

theorem readInt64?_ofInt64 (i : Int64) : readInt64? (ofInt64 i) = some i := by
  rw [readInt64?, ofInt64, readInt?_ofInt, Option.bind_some, int64?_toInt]

theorem isBlank_of_digit {c : Char} (h : (digit? c).isSome) : Text.isBlank c = false := by
  unfold digit? at h
  split at h
  · next range =>
    have low : 48 ≤ c.toNat := range.1
    have high : c.toNat ≤ 57 := range.2
    simp only [Text.isBlank, Bool.or_eq_false_iff, Bool.and_eq_false_iff, beq_eq_false_iff_ne,
      decide_eq_false_iff_not]
    omega
  · cases h

/-- There is no white space in a numeral. -/
theorem trim_ofInt64 (i : Int64) : Text.trim (ofInt64 i) = ofInt64 i := by
  have visible : ∀ c ∈ (ofInt64 i).toList, Text.isBlank c = false := by
    intro c hc
    have digit {n : Nat} (h : c ∈ digits n) : Text.isBlank c = false :=
      isBlank_of_digit (areDigits_digits n c h)
    rw [ofInt64, ofInt] at hc
    split at hc
    · rw [toList_negative] at hc
      rcases List.mem_cons.mp hc with rfl | hc
      · decide
      · exact digit hc
    · rw [toList_ofNat] at hc
      exact digit hc
  exact Text.trim_eq_self (fun c hc => visible c (List.mem_of_mem_head? hc))
    fun c hc => visible c (List.mem_of_mem_getLast? hc)

end Decimal

/-! ## Values of settings -/

namespace Settings

variable {settings settings' : Settings} {key k : String}

/-- What a typed value reads as hangs on the text under its key. -/
theorem getInt_congr (h : settings'.get? key = settings.get? key) (default : Int64) :
    settings'.getInt key default = settings.getInt key default := by
  rw [getInt, getInt, h]

theorem getBool_congr (h : settings'.get? key = settings.get? key) (default : Bool) :
    settings'.getBool key default = settings.getBool key default := by
  rw [getBool, getBool, h]

theorem get?_setInt_other (h : k ≠ key) (value : Int64) :
    (settings.setInt key value).get? k = settings.get? k :=
  (get?_set ..).trans (if_neg h)

theorem get?_setBool_other (h : k ≠ key) (value : Bool) :
    (settings.setBool key value).get? k = settings.get? k :=
  (get?_set ..).trans (if_neg h)

theorem getInt_setInt (settings : Settings) (key : String) (value default : Int64) :
    (settings.setInt key value).getInt key default = value := by
  have there : (settings.setInt key value).get? key = some (Decimal.ofInt64 value) :=
    (get?_set ..).trans (if_pos rfl)
  rw [getInt, there, Option.bind_some, Decimal.trim_ofInt64, Decimal.readInt64?_ofInt64,
    Option.getD_some]

theorem getBool_setBool (settings : Settings) (key : String) (value default : Bool) :
    (settings.setBool key value).getBool key default = value := by
  have there : (settings.setBool key value).get? key = some (if value then "true" else "false") :=
    (get?_set ..).trans (if_pos rfl)
  have read : boolOf? (Text.trim (if value then "true" else "false")) = some value := by
    cases value <;> decide +kernel
  rw [getBool, there, Option.bind_some, read, Option.getD_some]

end Settings

/-! ## Policies -/

theorem Granularity.ofCode_code (granularity : Granularity) :
    ofCode granularity.code = granularity := by
  cases granularity <;> decide

namespace HistoryPolicy

theorem get?_writeTo_other (policy : HistoryPolicy) (settings : Settings) {key : String}
    (h : key ∉ keys) : (policy.writeTo settings).get? key = settings.get? key := by
  simp only [keys, List.mem_cons, List.not_mem_nil, or_false, not_or] at h
  obtain ⟨granularity, limitsItems, itemSize, limitsHistory, historySize⟩ := h
  exact (Settings.get?_setInt_other historySize _).trans <|
    (Settings.get?_setBool_other limitsHistory _).trans <|
    (Settings.get?_setInt_other itemSize _).trans <|
    (Settings.get?_setBool_other limitsItems _).trans <|
    Settings.get?_setInt_other granularity _

/-- No key is written over by one that is written later. -/
theorem ofSettings_writeTo (policy : HistoryPolicy) (settings : Settings) :
    ofSettings (policy.writeTo settings) = policy := by
  let first := settings.setInt granularityKey policy.granularity.code
  let second := first.setBool limitsItemsKey policy.limitsItems
  let third := second.setInt itemSizeKey policy.itemSize
  let fourth := third.setBool limitsHistoryKey policy.limitsHistory
  -- What is written later is under another key.
  have fifth {k : String} (h : k ≠ historySizeKey) :
      (policy.writeTo settings).get? k = fourth.get? k := Settings.get?_setInt_other h _
  have fourth' {k : String} (h : k ≠ limitsHistoryKey) : fourth.get? k = third.get? k :=
    Settings.get?_setBool_other h _
  have third' {k : String} (h : k ≠ itemSizeKey) : third.get? k = second.get? k :=
    Settings.get?_setInt_other h _
  have second' {k : String} (h : k ≠ limitsItemsKey) : second.get? k = first.get? k :=
    Settings.get?_setBool_other h _
  have granularity (default : Int64) :
      (policy.writeTo settings).getInt granularityKey default = policy.granularity.code := by
    have stays : (policy.writeTo settings).get? granularityKey = first.get? granularityKey := by
      rw [fifth (by decide), fourth' (by decide), third' (by decide), second' (by decide)]
    exact (Settings.getInt_congr stays default).trans (settings.getInt_setInt ..)
  have limitsItems (default : Bool) :
      (policy.writeTo settings).getBool limitsItemsKey default = policy.limitsItems := by
    have stays : (policy.writeTo settings).get? limitsItemsKey = second.get? limitsItemsKey := by
      rw [fifth (by decide), fourth' (by decide), third' (by decide)]
    exact (Settings.getBool_congr stays default).trans (first.getBool_setBool ..)
  have itemSize (default : Int64) :
      (policy.writeTo settings).getInt itemSizeKey default = policy.itemSize := by
    have stays : (policy.writeTo settings).get? itemSizeKey = third.get? itemSizeKey := by
      rw [fifth (by decide), fourth' (by decide)]
    exact (Settings.getInt_congr stays default).trans (second.getInt_setInt ..)
  have limitsHistory (default : Bool) :
      (policy.writeTo settings).getBool limitsHistoryKey default = policy.limitsHistory :=
    (Settings.getBool_congr (fifth (by decide)) default).trans (third.getBool_setBool ..)
  have historySize (default : Int64) :
      (policy.writeTo settings).getInt historySizeKey default = policy.historySize :=
    fourth.getInt_setInt ..
  rw [ofSettings, granularity, limitsItems, itemSize, limitsHistory, historySize,
    Granularity.ofCode_code]

/-- A policy that is written to settings of any kind is the one that is read from
them. What is under any other key stays, and every history is what it was. -/
theorem writeTo_readBack (policy : HistoryPolicy) (settings : Settings) :
    ofSettings (policy.writeTo settings) = policy ∧
    (∀ key ∉ keys, (policy.writeTo settings).get? key = settings.get? key) ∧
    ∀ storageName, (History.load (policy.writeTo settings) storageName).entries =
      (History.load settings storageName).entries := by
  refine ⟨policy.ofSettings_writeTo settings, fun key h => policy.get?_writeTo_other settings h,
    fun storageName => ?_⟩
  have same : History.Agree storageName settings (policy.writeTo settings) := fun n =>
    policy.get?_writeTo_other settings (History.owns_key storageName n).not_mem_keys
  exact same.load_eq

end HistoryPolicy

end MetaCatalog
