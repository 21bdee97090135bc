import MetaCatalog.Proofs.Settings.Documents
import MetaCatalog.Proofs.Settings.Utf8

/-!
# Settings come back from their file

A directory that is there stays there whatever is saved (`Disk.Keeps`), so a path
that has led to a file goes on leading there. Whether settings can be saved does not
depend on what they are (`Disk.takes_iff_saved`). Once they are saved they can be
saved again, and what is loaded are the settings (`Disk.Takes.save`).
-/

namespace MetaCatalog

namespace Disk

/-! ## Places -/

theorem lookup_filter_ne {entries : List (List String × DiskEntry)} {place p : List String}
    (h : p ≠ place) : (entries.filter (·.1 != place)).lookup p = entries.lookup p := by
  induction entries with
  | nil => rfl
  | cons entry rest ih =>
    obtain ⟨q, found⟩ := entry
    by_cases removed : q = place
    · have other : (p == q) = false := beq_false_of_ne fun same => h (same.trans removed)
      rw [List.filter_cons_of_neg (by simp [removed]), ih, List.lookup_cons, other]
    · rw [List.filter_cons_of_pos (by simp [removed]), List.lookup_cons, List.lookup_cons, ih]

theorem at?_put (disk : Disk) {place : List String} (named : place ≠ []) (entry : DiskEntry)
    (p : List String) :
    (disk.put place entry).at? p = if p = place then some entry else disk.at? p := by
  cases p with
  | nil => rw [if_neg named.symm, at?, at?]
  | cons name names =>
    show List.lookup (name :: names) ((place, entry) :: disk.entries.filter _) = _
    rw [List.lookup_cons]
    by_cases same : name :: names = place
    · rw [if_pos same, beq_iff_eq.mpr same]
    · rw [if_neg same, beq_false_of_ne same]
      exact lookup_filter_ne same

/-- Directories are still there. -/
def Keeps (disk disk' : Disk) : Prop :=
  ∀ place, disk.at? place = some .directory → disk'.at? place = some .directory

variable {disk disk' disk'' : Disk}

theorem Keeps.refl (disk : Disk) : disk.Keeps disk := fun _ h => h

theorem Keeps.trans (h : disk.Keeps disk') (h' : disk'.Keeps disk'') : disk.Keeps disk'' :=
  fun place there => h' place (h place there)

theorem keeps_put_directory (disk : Disk) (here : List String) (part : String) :
    disk.Keeps (disk.put (here ++ [part]) .directory) := by
  intro place there
  rw [at?_put disk (by simp)]
  split
  · rfl
  · exact there

/-- The root is a directory. -/
theorem ne_root {place : List String} (free : disk.at? place ≠ some .directory) : place ≠ [] :=
  fun root => free (root ▸ rfl)

theorem keeps_put_file {place : List String} (free : disk.at? place ≠ some .directory)
    (content : List UInt8) : disk.Keeps (disk.put place (.file content)) := by
  intro p there
  have other : p ≠ place := fun same => free (same ▸ there)
  rw [at?_put disk (ne_root free), if_neg other]
  exact there

/-- A path goes on leading where it leads. The recursion follows the parts. -/
theorem Keeps.follow? (h : disk.Keeps disk') {here parts place : List String}
    (leads : disk.follow? here parts = some place) : disk'.follow? here parts = some place := by
  fun_induction Disk.follow? disk here parts with
  | case1 => exact leads
  | case2 here part rest stays ih =>
    rw [Disk.follow?, if_pos stays]
    exact ih leads
  | case3 here rest stays ih =>
    rw [Disk.follow?, if_neg stays, if_pos rfl]
    exact ih leads
  | case4 => cases leads
  | case5 here part rest stays up short last =>
    rw [Disk.follow?, if_neg stays, if_neg up, if_neg short, if_pos last]
    exact leads
  | case6 here part rest stays up short last there ih =>
    rw [Disk.follow?, if_neg stays, if_neg up, if_neg short, if_neg last, if_pos (h _ there)]
    exact ih leads
  | case7 => cases leads

theorem Keeps.place? (h : disk.Keeps disk') {path : Path} {place : List String}
    (leads : disk.place? path = some place) : disk'.place? path = some place := by
  unfold Disk.place? at leads ⊢
  split at leads
  · next usable =>
    rw [if_pos usable]
    exact h.follow? leads
  · cases leads

/-! ## Directories -/

/-- No directory is lost while others are made. -/
theorem keeps_makeAlong (disk : Disk) (here parts : List String) :
    disk.Keeps (disk.makeAlong here parts).2 := by
  fun_induction makeAlong disk here parts with
  | case1 | case4 | case6 | case7 => exact .refl _
  | case2 disk here part rest stays ih => exact ih
  | case3 disk here rest stays ih => exact ih
  | case5 disk here part rest stays up short there ih => exact ih
  | case8 disk here part rest stays up short free still ih =>
    exact (keeps_put_directory disk here part).trans ih

/-- Directories that have been made need not be made again. -/
theorem Keeps.makeAlong {here parts : List String}
    (made : disk.makeAlong here parts = (true, disk')) (h : disk'.Keeps disk'') :
    disk''.makeAlong here parts = (true, disk'') := by
  fun_induction Disk.makeAlong disk here parts with
  | case1 => rfl
  | case4 | case6 | case7 => cases made
  | case2 disk here part rest stays ih =>
    rw [Disk.makeAlong, if_pos stays]
    exact ih made
  | case3 disk here rest stays ih =>
    rw [Disk.makeAlong, if_neg stays, if_pos rfl]
    exact ih made
  | case5 disk here part rest stays up short there ih =>
    have kept := keeps_makeAlong disk (here ++ [part]) rest
    rw [made] at kept
    rw [Disk.makeAlong, if_neg stays, if_neg up, if_neg short, h _ (kept _ there)]
    exact ih made
  | case8 disk here part rest stays up short free still ih =>
    have kept := keeps_makeAlong (disk.put (here ++ [part]) .directory) (here ++ [part]) rest
    rw [made] at kept
    have there : (disk.put (here ++ [part]) .directory).at? (here ++ [part]) = some .directory := by
      rw [at?_put disk (by simp), if_pos rfl]
    rw [Disk.makeAlong, if_neg stays, if_neg up, if_neg short, h _ (kept _ there)]
    exact ih made

theorem Keeps.makeDirectory {path : Path} (made : disk.makeDirectory path = (true, disk'))
    (h : disk'.Keeps disk'') : disk''.makeDirectory path = (true, disk'') := by
  unfold Disk.makeDirectory at made ⊢
  split at made
  · next usable =>
    rw [if_pos usable]
    exact h.makeAlong made
  · cases made

/-! ## Saving -/

/-- A file can be written under the path once its directories are made. -/
def Takes (disk : Disk) (path : Path) : Prop :=
  ∃ made place, disk.makeDirectory path.parent = (true, made) ∧ made.place? path = some place ∧
    made.at? place ≠ some .directory

/-- What is saved is loaded, and can be saved again. -/
theorem Takes.save {path : Path} (h : disk.Takes path) (settings : Settings) :
    ∃ disk', settings.save disk path = (.ok (), disk') ∧ disk'.Takes path ∧
      Settings.load disk' path = .ok settings := by
  obtain ⟨made, place, directory, leads, free⟩ := h
  have keeps := keeps_put_file free (Utf8.encode settings.print)
  have written : made.write? path (Utf8.encode settings.print) =
      some (made.put place (.file (Utf8.encode settings.print))) := by
    rw [write?, leads]
    exact if_neg free
  have there : (made.put place (.file (Utf8.encode settings.print))).at? place =
      some (.file (Utf8.encode settings.print)) := by
    rw [at?_put made (ne_root free), if_pos rfl]
  refine ⟨_, ?_, ⟨_, place, keeps.makeDirectory directory, keeps.place? leads, ?_⟩, ?_⟩
  · unfold Settings.save
    rw [directory]
    dsimp only
    rw [written]
  · rw [there]
    nofun
  · rw [Settings.load, entry?, keeps.place? leads, Option.bind_some, there]
    dsimp only
    rw [Utf8.decode?_encode]
    dsimp only
    rw [Settings.read?_print]

/-- Whether settings can be saved does not depend on what they are. -/
theorem takes_iff_saved {path : Path} {settings : Settings} :
    disk.Takes path ↔ (settings.save disk path).1 = .ok () := by
  constructor
  · intro takes
    obtain ⟨disk', saved, -⟩ := takes.save settings
    rw [saved]
  · intro saved
    unfold Settings.save at saved
    split at saved
    · cases saved
    · next made directory =>
      unfold write? at saved
      cases leads : made.place? path with
      | none =>
        rw [leads] at saved
        cases saved
      | some place =>
        rw [leads] at saved
        refine ⟨made, place, directory, leads, fun there => ?_⟩
        dsimp only at saved
        rw [if_pos there] at saved
        cases saved

end Disk

end MetaCatalog
