import MetaCatalog.Proofs.Client.Regrouping

/-!
# Indices and their segments

The catalog gives an index one row for each of its segments, and a table puts the rows
of one name together again (`Client.Reachable.indices_reassembled`). The segments that
are named all come out, in the order of the rows. But only in the first row of an index
is a blank name left out: in any later one it becomes an empty segment
(`Client.Reachable.indices_reassembled_blank`).
-/

namespace MetaCatalog

namespace Index

/-- The segments that rows name. -/
def namedIn (run : List Row) : List String := (run.map (·.text 6)).filter (· ≠ "")

variable {index : Index} {run : List Row}

theorem toList_nonEmpty? (text : String) :
    (Row.nonEmpty? text).toList = [text].filter (· ≠ "") := by
  rw [Row.nonEmpty?]
  by_cases empty : text = ""
  · subst empty
    rfl
  · rw [if_neg (by simpa using empty), List.filter_cons_of_pos (by simpa using empty)]
    rfl

/-- Leaving out the empty segments gives those that the rows name. -/
theorem MadeOf.segments_named (h : index.MadeOf run) :
    index.segments.filter (· ≠ "") = namedIn run := by
  obtain ⟨first, later, rfl, -, segments⟩ := h.rows
  show _ = ([first.text 6] ++ later.map (·.text 6)).filter (· ≠ "")
  rw [segments, toList_nonEmpty?, List.filter_append, List.filter_filter, List.filter_append]
  simp only [Bool.and_self]

/-- An empty segment comes from a row that is not the first. -/
theorem MadeOf.empty_iff (h : index.MadeOf run) :
    "" ∈ index.segments ↔ ∃ row ∈ run.tail, row.text 6 = "" := by
  obtain ⟨first, later, rfl, -, segments⟩ := h.rows
  have notFirst : "" ∉ (Row.nonEmpty? (first.text 6)).toList := by
    rw [toList_nonEmpty?, List.mem_filter]
    simp
  rw [segments, List.mem_append, or_iff_right notFirst, List.mem_map, List.tail_cons]

end Index

namespace Client

variable {permits : Client → Step → Prop} {client : Client}

/-- Indices are put together from their rows. After a load that succeeds there is one for
each run of rows with one name, with the flags, the statistics and the expression of the
first row, and if none were loaded before, the rows are those that the catalog answers
with. The segments are, in order, those that the rows name, and none of them is empty,
exactly if no row but the first leaves its segment blank. -/
theorem Reachable.indices_reassembled (h : Reachable permits client) {table : Table}
    (ht : .table table ∈ client.workspace.everyObject) :
    let world := client.world
    let loaded := table.loadIndices world
    loaded.1.1 = .ok () → ∃ rows indices,
      loaded.1.2.indices = .loaded indices ∧
      List.Forall₂ (fun index run => index.MadeOf run ∧
        index.segments.filter (· ≠ "") = Index.namedIn run ∧
        ("" ∈ index.segments ↔ ∃ row ∈ run.tail, row.text 6 = "")) indices
          (runsBy Row.name rows) ∧
      (table.indices.isLoaded = false → ∃ l, table.item.loader = some l ∧
        (world.catalogOf l).answer Table.indexSql [.text table.name.raw] = .ok rows) := by
  intro world loaded ok
  have upheld := h.upheld (coherence_admits permits)
  obtain ⟨rows, indices, there, made, answer⟩ :=
    (Index.reader_makes.regroups ..).load_ok upheld.upholds.sound
      (upheld.fits.everyObject _ ht).knows (h.table_regrouped ht).indices ok
  exact ⟨rows, indices, there,
    made.imp fun _ _ made => ⟨made, made.segments_named, made.empty_iff⟩, answer⟩

/-- The rows of an index over two columns, and of one over an expression. -/
def indexRows : List Row :=
  [[.text "NAMES ", .int64 1, .int64 0, .int64 0, .null, .text "FIRST ", .null, .null],
    [.text "NAMES", .int64 0, .int64 0, .int64 0, .null, .text "LAST", .null, .null],
    [.text "UPPER", .int64 0, .int64 0, .int64 1, .null, .null, .null, .text "UPPER(LAST)"]]

theorem Reachable.indices_reassembled_names :
    let world := (answering indexRows).world
    ∃ table, .table table ∈ (answering indexRows).workspace.everyObject ∧
      ∃ indices, (table.loadIndices world).1.2.indices = .loaded indices ∧
        List.Forall₂ (fun index run => index.MadeOf run ∧ "" ∉ index.segments) indices
          [indexRows.take 2, indexRows.drop 2] := by
  have new : (answering indexRows).hasNewTable "T" = true := by decide +kernel
  obtain ⟨newest, grouped⟩ : ∃ newest, indexRows.foldlM Index.reader.step [] = .ok newest :=
    exists_of_isOk (by decide +kernel)
  have runs : runsBy Row.name indexRows = [indexRows.take 2, indexRows.drop 2] := rfl
  have named : ∀ run ∈ runsBy Row.name indexRows, ¬ ∃ row ∈ run.tail, row.text 6 = "" := by
    rw [runs]
    decide +kernel
  -- From here on only what the catalog answers matters.
  have reachable := answering_reachable indexRows
  have answer := answering_answer indexRows
  have idle := answering_idle indexRows
  generalize answering indexRows = client at *
  generalize indexRows = rows at *
  intro world
  obtain ⟨t, member, -, loader, -, -, absent⟩ := exists_newTable new
  have ok : (t.loadIndices client.world).1.1 = .ok () :=
    (RunReader.load_idle .indices (idle _) loader absent
      ((Catalog.readRows_ok (answer _ _) _ _).trans grouped)).1
  obtain ⟨_, indices, loaded, made, fresh⟩ := Reachable.indices_reassembled reachable member ok
  obtain ⟨l, hl, answered⟩ := fresh absent
  cases loader.symm.trans hl
  cases (answer _ _).symm.trans answered
  refine ⟨t, member, indices, loaded, ?_⟩
  rw [← runs]
  refine ((List.forall₂_and_left _ _).mpr ⟨named, made.flip⟩).flip.imp ?_
  exact fun index run h => ⟨h.2.1, fun empty => h.1 (h.2.2.2.mp empty)⟩

/-- The rows of an index whose second segment is blank. -/
def blankRows : List Row :=
  [[.text "I", .int64 1, .int64 0, .int64 0, .null, .text "A", .null, .null],
    [.text "I", .int64 1, .int64 0, .int64 0, .null, .null, .null, .null]]

/-- An index does get an empty segment. -/
theorem Reachable.indices_reassembled_blank :
    let world := (answering blankRows).world
    ∃ table, .table table ∈ (answering blankRows).workspace.everyObject ∧
      (table.loadIndices world).1.1 = .ok () ∧
      ∃ index, (table.loadIndices world).1.2.indices = .loaded [index] ∧
        index.segments = ["A", ""] := by
  have new : (answering blankRows).hasNewTable "T" = true := by decide +kernel
  obtain ⟨newest, grouped⟩ : ∃ newest, blankRows.foldlM Index.reader.step [] = .ok newest :=
    exists_of_isOk (by decide +kernel)
  have segments : (blankRows.foldlM Index.reader.step []).map
      (fun indices => indices.map (·.segments)) = .ok [["A", ""]] := rfl
  have answer := answering_answer blankRows
  have idle := answering_idle blankRows
  generalize answering blankRows = client at *
  generalize blankRows = rows at *
  intro world
  obtain ⟨t, member, -, loader, -, -, absent⟩ := exists_newTable new
  obtain ⟨ok, loaded⟩ : (t.loadIndices client.world).1.1 = .ok () ∧
      (t.loadIndices client.world).1.2.indices = .loaded newest.reverse :=
    RunReader.load_idle .indices (idle _) loader absent
      ((Catalog.readRows_ok (answer _ _) _ _).trans grouped)
  rw [grouped] at segments
  obtain ⟨index, rfl, alone⟩ := List.map_eq_singleton_iff.mp (Except.ok.inj segments)
  exact ⟨t, member, ok, index, loaded, alone⟩

end Client

end MetaCatalog
