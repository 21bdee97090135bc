import MetaCatalog.Json
import MetaCatalog.Number.Decimal
import MetaCatalog.Text.Blank
import MetaCatalog.Text.Search

/-!
# Settings

A flat list of texts under keys, in ascending order of the keys. Truth values
and integers are kept as text; a text that is none reads as the default.
-/

namespace MetaCatalog

/-- Texts under keys, in ascending order of the keys. -/
structure Settings where
  entries : List (String × String)
  sorted : entries.Pairwise (fun a b => a.1 < b.1)

namespace Settings

/-- No settings. -/
def empty : Settings := ⟨[], .nil⟩

instance : Inhabited Settings := ⟨empty⟩

/-- The text under a key. -/
def get? (settings : Settings) (key : String) : Option String := settings.entries.lookup key

/-- The number of keys. -/
def size (settings : Settings) : Nat := settings.entries.length

/-- The entries with a text put under a key. -/
def put (key value : String) : List (String × String) → List (String × String)
  | [] => [(key, value)]
  | (k, v) :: rest =>
    if key < k then (key, value) :: (k, v) :: rest
    else if key = k then (key, value) :: rest
    else (k, v) :: put key value rest

theorem mem_put {key value : String} {entries : List (String × String)} {e : String × String}
    (h : e ∈ put key value entries) : e = (key, value) ∨ e ∈ entries := by
  induction entries with
  | nil => exact Or.inl (List.mem_singleton.mp h)
  | cons head rest ih =>
    obtain ⟨k, v⟩ := head
    simp only [put] at h
    split at h
    · exact List.mem_cons.mp h
    · split at h
      · rcases List.mem_cons.mp h with rfl | h
        · exact Or.inl rfl
        · exact Or.inr (List.mem_cons_of_mem _ h)
      · rcases List.mem_cons.mp h with rfl | h
        · exact Or.inr List.mem_cons_self
        · exact (ih h).imp id (List.mem_cons_of_mem _)

theorem pairwise_put (key value : String) {entries : List (String × String)}
    (h : entries.Pairwise (fun a b => a.1 < b.1)) :
    (put key value entries).Pairwise (fun a b => a.1 < b.1) := by
  induction entries with
  | nil => exact List.pairwise_singleton ..
  | cons head rest ih =>
    obtain ⟨k, v⟩ := head
    obtain ⟨hk, hrest⟩ := List.pairwise_cons.mp h
    simp only [put]
    split
    · next hlt =>
      refine List.pairwise_cons.mpr ⟨fun e he => ?_, h⟩
      rcases List.mem_cons.mp he with rfl | he
      · exact hlt
      · exact String.lt_trans hlt (hk e he)
    · next hge =>
      split
      · next heq =>
        subst heq
        exact List.pairwise_cons.mpr ⟨hk, hrest⟩
      · next hne =>
        refine List.pairwise_cons.mpr ⟨fun e he => ?_, ih hrest⟩
        rcases mem_put he with rfl | he
        · exact Classical.byContradiction fun hnot =>
            hne (String.le_antisymm (String.not_lt.mp hnot) (String.not_lt.mp hge))
        · exact hk e he

/-- Puts a text under a key. -/
def set (settings : Settings) (key value : String) : Settings :=
  ⟨put key value settings.entries, pairwise_put key value settings.sorted⟩

/-- Removes a key. -/
def remove (settings : Settings) (key : String) : Settings :=
  ⟨settings.entries.filter (·.1 != key), settings.sorted.filter _⟩

/-- Whether a key is there. -/
def has (settings : Settings) (key : String) : Bool := (settings.get? key).isSome

/-- The keys that begin with a text, in ascending order. They stand together,
because the keys are sorted: the search starts at the first key that is not
below the text and ends at the first that does not begin with it. -/
def keysFrom (settings : Settings) (opening : String) : List String :=
  ((settings.entries.map (·.1)).dropWhile (· < opening)).takeWhile (Text.startsWith · opening)

/-- The truth value that a text stands for. -/
def boolOf? (text : String) : Option Bool :=
  if text = "true" ∨ text = "1" then some true
  else if text = "false" ∨ text = "0" then some false
  else none

/-- The truth value under a key. -/
def getBool (settings : Settings) (key : String) (default : Bool) : Bool :=
  ((settings.get? key).bind fun text => boolOf? (Text.trim text)).getD default

/-- The integer under a key. -/
def getInt (settings : Settings) (key : String) (default : Int64) : Int64 :=
  ((settings.get? key).bind fun text => Decimal.readInt64? (Text.trim text)).getD default

/-- Puts a truth value under a key. -/
def setBool (settings : Settings) (key : String) (value : Bool) : Settings :=
  settings.set key (if value then "true" else "false")

/-- Puts an integer under a key. -/
def setInt (settings : Settings) (key : String) (value : Int64) : Settings :=
  settings.set key (Decimal.ofInt64 value)

/-- Adds the members of a JSON object, all of which have to be texts. The last
of several members with one key stays. -/
def addMembers? (settings : Settings) : List (Option String × Json) → Option Settings
  | [] => some settings
  | (some key, .text (some value)) :: rest => (settings.set key value).addMembers? rest
  | _ => none

/-- The settings that a JSON value stands for. -/
def ofJson? : Json → Option Settings
  | .object members => addMembers? empty members
  | _ => none

end Settings

end MetaCatalog
