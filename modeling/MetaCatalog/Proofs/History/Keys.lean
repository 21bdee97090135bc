import MetaCatalog.History
import MetaCatalog.History.Scope
import MetaCatalog.Proofs.History.Numerals
import MetaCatalog.Proofs.History.Settings

/-!
# The keys of stored entries

The key of an entry gives back the name its history is stored under and its
number (`History.key_injective`). A key that is made in this way, with any text
that is read as a number at its end, has one owner (`History.Owns.unique`),
although the name of a history may itself look like the key of an entry. So the
sweep for entries that a longer history has left behind finds what it looks for,
and no entry of another history (`History.owner_of_isStale`). Scopes are stored
under names of their own (`HistoryScope.storageName_injective`), and no key of
the policy is the key of an entry (`HistoryPolicy.keys_ne_key`).
-/

namespace MetaCatalog

namespace History

/-- What stands before the last underscore of the keys of a history. -/
def keyFront (storageName : String) : List Char :=
  "HISTORY_".toList ++ storageName.toList ++ "_ITEM".toList

theorem toList_keyOpening (storageName : String) :
    (keyOpening storageName).toList = keyFront storageName ++ ['_'] := by
  have ending : "_ITEM_".toList = "_ITEM".toList ++ ['_'] := by decide
  unfold keyOpening keyFront
  rw [String.toList_append, String.toList_append, List.append_assoc _ "_ITEM".toList]
  exact congrArg _ ending

theorem toList_key (storageName : String) (n : Nat) :
    (key storageName n).toList = keyFront storageName ++ '_' :: Decimal.digits n := by
  rw [key, String.toList_append, toList_keyOpening, Decimal.ofNat, String.toList_ofList,
    List.append_assoc, List.singleton_append]

theorem keyFront_injective {name name' : String} (h : keyFront name = keyFront name') :
    name = name' :=
  String.toList_inj.mp (List.append_cancel_left (List.append_cancel_right h))

/-- The number of an entry starts after the last underscore of its key, so that
the name before it ends there. -/
theorem key_injective {name name' : String} {n n' : Nat} (h : key name n = key name' n') :
    name = name' ∧ n = n' := by
  have texts := congrArg String.toList h
  rw [toList_key, toList_key] at texts
  obtain ⟨fronts, -, numbers⟩ := Decimal.split_unique (by decide) (by decide)
    (Decimal.areDigits_digits n) (Decimal.areDigits_digits n') texts
  exact ⟨keyFront_injective fronts, Decimal.digits_injective numbers⟩

theorem startsWith_key (name : String) (n : Nat) :
    Text.startsWith (key name n) (keyOpening name) = true := by
  rw [Text.startsWith_iff, toList_keyOpening, toList_key]
  exact ⟨Decimal.digits n, by rw [List.append_assoc, List.singleton_append]⟩

/-- What follows the opening of a key is read as its number. -/
theorem isStale_eq {name key : String} {suffix : List Char} (written : Nat)
    (h : key.toList = (keyOpening name).toList ++ suffix) :
    isStale name written key = (Decimal.readIndex? (String.ofList suffix)).any (written ≤ ·) := by
  have cut : key.toList.drop (keyOpening name).length = suffix := by
    rw [h]
    exact List.drop_left
  rw [isStale, cut]

theorem isStale_key {name : String} {written n : Nat} (hn : n < UInt64.size) (h : written ≤ n) :
    isStale name written (key name n) = true := by
  have text : (key name n).toList = (keyOpening name).toList ++ Decimal.digits n := by
    rw [toList_key, toList_keyOpening, List.append_assoc, List.singleton_append]
  have number : Decimal.readIndex? (String.ofList (Decimal.digits n)) = some n :=
    Decimal.readIndex?_ofNat hn
  rw [isStale_eq written text, number]
  exact decide_eq_true h

/-! ## Whose a key is -/

/-- A key is made of the opening of a history's keys and a numeral, perhaps
with a sign. -/
def Owns (storageName key : String) : Prop :=
  ∃ sign digits, (sign = [] ∨ sign = ['+']) ∧ Decimal.AreDigits digits ∧
    key.toList = (keyOpening storageName).toList ++ (sign ++ digits)

theorem owns_key (storageName : String) (n : Nat) : Owns storageName (key storageName n) := by
  refine ⟨[], Decimal.digits n, .inl rfl, Decimal.areDigits_digits n, ?_⟩
  rw [toList_key, toList_keyOpening, List.append_assoc]
  rfl

theorem owns_of_readIndex? {storageName key suffix : String} {n : Nat}
    (h : Decimal.readIndex? suffix = some n)
    (text : key.toList = (keyOpening storageName).toList ++ suffix.toList) :
    Owns storageName key := by
  obtain ⟨sign, digits, split, hsign, read⟩ := Decimal.readIndex?_eq_some h
  exact ⟨sign, digits, hsign, Decimal.areDigits_of_extend? read, by rw [text, split]⟩

/-- The last character of a key that is no digit is the last underscore of its
opening, or the sign after that. -/
theorem Owns.cut {name key : String} (h : Owns name key) :
    ∃ front c digits, Decimal.AreDigits digits ∧ key.toList = front ++ c :: digits ∧
      (front = keyFront name ∧ c = '_' ∨ front = keyFront name ++ ['_'] ∧ c = '+') := by
  obtain ⟨sign, digits, rfl | rfl, numeral, text⟩ := h
  · refine ⟨keyFront name, '_', digits, numeral, ?_, .inl ⟨rfl, rfl⟩⟩
    rw [text, toList_keyOpening, List.append_assoc]
    rfl
  · refine ⟨keyFront name ++ ['_'], '+', digits, numeral, ?_, .inr ⟨rfl, rfl⟩⟩
    rw [text, toList_keyOpening]
    rfl

/-- No key has two owners. -/
theorem Owns.unique {name name' key : String} (h : Owns name key) (h' : Owns name' key) :
    name = name' := by
  obtain ⟨front, c, digits, numeral, text, before⟩ := h.cut
  obtain ⟨front', c', digits', numeral', text', before'⟩ := h'.cut
  have plain {front : List Char} {c : Char} {name : String}
      (h : front = keyFront name ∧ c = '_' ∨ front = keyFront name ++ ['_'] ∧ c = '+') :
      (Decimal.digit? c).isSome = false := by
    obtain ⟨-, rfl⟩ | ⟨-, rfl⟩ := h <;> decide
  obtain ⟨rfl, rfl, -⟩ := Decimal.split_unique (plain before) (plain before') numeral numeral'
    (text.symm.trans text')
  obtain ⟨rfl, rfl⟩ | ⟨rfl, rfl⟩ := before <;> obtain ⟨same, sign⟩ | ⟨same, sign⟩ := before'
  · exact keyFront_injective same
  · exact absurd sign (by decide)
  · exact absurd sign (by decide)
  · exact keyFront_injective (List.append_cancel_right same)

/-- An entry that the sweep for one history takes belongs to that history, and
is not among those just written. -/
theorem owner_of_isStale {name owner : String} {written n : Nat}
    (ho : Text.startsWith (key owner n) (keyOpening name) = true)
    (h : isStale name written (key owner n) = true) : owner = name ∧ written ≤ n := by
  obtain ⟨suffix, hsuffix⟩ := Text.startsWith_iff.mp ho
  rw [isStale_eq written hsuffix.symm] at h
  obtain ⟨m, hm, le⟩ := (Option.any_eq_true _ _).mp h
  have swept : Owns name (key owner n) :=
    owns_of_readIndex? hm (by rw [String.toList_ofList, hsuffix])
  obtain rfl : owner = name := (owns_key owner n).unique swept
  rw [toList_key, toList_keyOpening, List.append_assoc, List.singleton_append] at hsuffix
  obtain rfl : suffix = Decimal.digits n := (List.cons.inj (List.append_cancel_left hsuffix)).2
  obtain rfl : m = n := Decimal.eq_of_readIndex?_ofNat hm
  exact ⟨rfl, of_decide_eq_true le⟩

end History

/-! ## Scopes -/

namespace Hex

theorem digitChar_ne : ∀ d < 16, digitChar d ≠ 'N' := by decide

theorem not_mem_padded (width n : Nat) : 'N' ∉ padded width n := by
  induction width generalizing n with
  | zero => exact List.not_mem_nil
  | succ width ih =>
    rw [padded, List.mem_append, List.mem_singleton]
    rintro (h | h)
    · exact ih (n / 16) h
    · exact digitChar_ne (n % 16) (Nat.mod_lt n (by decide)) h.symm

end Hex

/-- The text of an identifier begins with a digit. -/
theorem Uuid.head?_text (id : Uuid) : id.text.toList.head? ≠ some 'N' := by
  rw [text, String.toList_ofList]
  show ((Hex.padded 32 id.bits.toNat).take 8 ++ _).head? ≠ some 'N'
  have length : ((Hex.padded 32 id.bits.toNat).take 8).length = 8 :=
    List.length_take_of_le (by rw [Hex.length_padded]; decide)
  rw [List.head?_append_of_ne_nil _ (List.ne_nil_of_length_pos (by rw [length]; decide))]
  exact fun h => Hex.not_mem_padded 32 _ (List.mem_of_mem_take (List.mem_of_head? h))

namespace HistoryScope

/-- The names of databases and the texts of identifiers do not get into each
other's way. -/
theorem storageName_injective {scope scope' : HistoryScope}
    (h : scope.storageName = scope'.storageName) : scope = scope' := by
  have names (front : String) {name name' : String} (h : front ++ name = front ++ name') :
      name = name' := by
    have texts := congrArg String.toList h
    rw [String.toList_append, String.toList_append] at texts
    exact String.toList_inj.mp (List.append_cancel_left texts)
  have longer {front name : String} (hf : front ≠ "") : "" ≠ front ++ name := fun h =>
    hf (String.append_eq_empty_iff.mp h.symm).1
  have apart (name : String) (id : Uuid) : "DATABASENAME" ++ name ≠ "DATABASE" ++ id.text := by
    intro h
    have text : "NAME" ++ name = id.text := names "DATABASE" h
    exact id.head?_text (by rw [← text, String.toList_append]; rfl)
  cases scope with
  | everyone =>
    cases scope' with
    | everyone => rfl
    | databaseName name => exact absurd h (longer (by decide))
    | database id => exact absurd h (longer (by decide))
  | databaseName name =>
    cases scope' with
    | everyone => exact absurd h.symm (longer (by decide))
    | databaseName name' => rw [names _ h]
    | database id => exact absurd h (apart name id)
  | database id =>
    cases scope' with
    | everyone => exact absurd h.symm (longer (by decide))
    | databaseName name => exact absurd h.symm (apart name id)
    | database id' => rw [Uuid.text_injective (names _ h)]

end HistoryScope

/-! ## The keys of the policy -/

namespace HistoryPolicy

/-- The keys of the settings that the policy is read from. -/
def keys : List String :=
  [granularityKey, limitsItemsKey, itemSizeKey, limitsHistoryKey, historySizeKey]

end HistoryPolicy

namespace History

/-- No key of the policy is one that a history owns. -/
theorem Owns.not_mem_keys {name key : String} (h : Owns name key) : key ∉ HistoryPolicy.keys := by
  obtain ⟨sign, digits, -, -, text⟩ := h
  have other : ∀ key ∈ HistoryPolicy.keys, key.toList.head? ≠ some 'H' := by decide
  refine fun among => other key among ?_
  rw [text, toList_keyOpening]
  rfl

end History

theorem HistoryPolicy.keys_ne_key {key : String} (hk : key ∈ HistoryPolicy.keys) (name : String)
    (n : Nat) : History.key name n ≠ key :=
  fun same => (History.owns_key name n).not_mem_keys (same ▸ hk)

end MetaCatalog
