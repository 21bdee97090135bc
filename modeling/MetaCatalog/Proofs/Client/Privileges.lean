import MetaCatalog.Proofs.Client.Regrouping

/-!
# Rights and their holders

The catalog gives one row for each right on a procedure, and a procedure puts the rows of
one holder together. No right is lost on the way, and none comes to another holder:
`Client.Reachable.privileges_reassembled`.
-/

namespace MetaCatalog

namespace Privilege

variable {rows : List Row} {records : List Privilege}

/-- Every right that a row grants is in the record of its holder. -/
theorem granted_of_made (made : List.Forall₂ MadeOf records (runsBy Row.holder rows)) {row : Row}
    (hr : row ∈ rows) {code : Char} (granted : row.code? = some code) :
    ∃ record ∈ records, (record.grantee, record.granteeType) = row.holder ∧
      code ∈ record.codes := by
  rw [← flatten_runsBy Row.holder rows] at hr
  obtain ⟨run, inRows, inRun⟩ := List.mem_flatten.mp hr
  obtain ⟨record, member, of⟩ := exists_of_mem_left made.flip inRows
  exact ⟨record, member, (of.holder row inRun).symm, (of.codes code).mpr ⟨row, inRun, granted⟩⟩

/-- Every right in a record is granted to its holder by a row. -/
theorem grants_of_made (made : List.Forall₂ MadeOf records (runsBy Row.holder rows))
    {record : Privilege} (hr : record ∈ records) {code : Char} (held : code ∈ record.codes) :
    ∃ row ∈ rows, row.holder = (record.grantee, record.granteeType) ∧ row.code? = some code := by
  obtain ⟨run, inRows, of⟩ := exists_of_mem_left made hr
  obtain ⟨row, inRun, granted⟩ := (of.codes code).mp held
  refine ⟨row, ?_, of.holder row inRun, granted⟩
  rw [← flatten_runsBy Row.holder rows]
  exact List.mem_flatten.mpr ⟨run, inRows, inRun⟩

end Privilege

namespace Client

variable {permits : Client → Step → Prop} {client : Client}

/-- Records of rights are put together from their rows. After a load that succeeds there
is one for each run of rows with one holder, and if none were loaded before, the rows are
those that the catalog answers with. Every right that a row grants is in a record of its
own holder, and a record has no other rights than those that rows grant to its holder. -/
theorem Reachable.privileges_reassembled (h : Reachable permits client) {procedure : Procedure}
    (hp : .procedure procedure ∈ client.workspace.everyObject) :
    let world := client.world
    let loaded := procedure.loadPrivileges world
    loaded.1.1 = .ok () → ∃ rows records,
      loaded.1.2.privileges = .loaded records ∧
      List.Forall₂ Privilege.MadeOf records (runsBy Row.holder rows) ∧
      (∀ row ∈ rows, ∀ code, row.code? = some code → ∃ record ∈ records,
        (record.grantee, record.granteeType) = row.holder ∧ code ∈ record.codes) ∧
      (∀ record ∈ records, ∀ code ∈ record.codes, ∃ row ∈ rows,
        row.holder = (record.grantee, record.granteeType) ∧ row.code? = some code) ∧
      (procedure.privileges.isLoaded = false → ∃ l, procedure.item.loader = some l ∧
        (world.catalogOf l).answer Procedure.privilegeSql [.text procedure.item.name.raw] =
          .ok rows) := by
  intro world loaded ok
  have upheld := h.upheld (coherence_admits permits)
  obtain ⟨rows, records, there, made, answer⟩ :=
    (Privilege.reader_makes.regroups ..).load_ok upheld.upholds.sound
      (upheld.fits.everyObject _ hp).knows (h.procedure_regrouped hp) ok
  exact ⟨rows, records, there, made, fun _ hr _ => Privilege.granted_of_made made hr,
    fun _ hr _ => Privilege.grants_of_made made hr, answer⟩

/-- Two users have rights on a procedure, and so has a role with the name of one of them;
what another row grants is blank. -/
def rightRows : List Row :=
  [[.text "ANNE  ", .int64 8, .text "SYSDBA", .text "X", .int64 0],
    [.text "ANNE", .int64 8, .text "", .text "G ", .int64 1],
    [.text "ANNE", .int64 13, .text "SYSDBA", .text "X", .int64 1],
    [.text "BERT", .int64 8, .text "SYSDBA", .text "  ", .int64 0]]

/-- Both rights of the user Anne come to her, and Bert has none. -/
theorem Reachable.privileges_reassembled_rights :
    let world := (answering rightRows).world
    ∃ procedure, .procedure procedure ∈ (answering rightRows).workspace.everyObject ∧
      ∃ records, (procedure.loadPrivileges world).1.2.privileges = .loaded records ∧
        List.Forall₂ Privilege.MadeOf records
          [rightRows.take 2, (rightRows.drop 2).take 1, rightRows.drop 3] ∧
        (∃ record ∈ records, (record.grantee, record.granteeType) = ("ANNE", 8) ∧
          'G' ∈ record.codes) ∧
        ∀ record ∈ records, record.grantee = "BERT" → record.codes = [] := by
  have new : (answering rightRows).hasNewProcedure = true := by decide +kernel
  obtain ⟨newest, grouped⟩ : ∃ newest, rightRows.foldlM Privilege.reader.step [] = .ok newest :=
    exists_of_isOk (by decide +kernel)
  have runs : runsBy Row.holder rightRows =
    [rightRows.take 2, (rightRows.drop 2).take 1, rightRows.drop 3] := rfl
  have granted : ∃ row ∈ rightRows, row.holder = ("ANNE", 8) ∧ row.code? = some 'G' := by
    decide +kernel
  have blank : ∀ row ∈ rightRows, row.holder.1 = "BERT" → row.code? = none := by decide +kernel
  -- From here on only what the catalog answers matters.
  have reachable := answering_reachable rightRows
  have answer := answering_answer rightRows
  have idle := answering_idle rightRows
  generalize answering rightRows = client at *
  generalize rightRows = rows at *
  intro world
  obtain ⟨p, member, loader, absent⟩ := exists_newProcedure new
  have ok : (p.loadPrivileges client.world).1.1 = .ok () :=
    (RunReader.load_idle .privileges (idle _) loader absent
      ((Catalog.readRows_ok (answer _ _) _ _).trans grouped)).1
  obtain ⟨_, records, loaded, made, given, held, fresh⟩ :=
    Reachable.privileges_reassembled reachable member ok
  obtain ⟨l, hl, answered⟩ := fresh absent
  cases loader.symm.trans hl
  cases (answer _ _).symm.trans answered
  refine ⟨p, member, records, loaded, runs ▸ made, ?_, fun record hr bert => ?_⟩
  · obtain ⟨row, hr, hers, right⟩ := granted
    rw [← hers]
    exact given row hr 'G' right
  · refine List.eq_nil_iff_forall_not_mem.mpr fun code member => ?_
    obtain ⟨row, inRows, his, right⟩ := held record hr code member
    rw [blank row inRows ((congrArg Prod.fst his).trans bert)] at right
    cases right

end Client

end MetaCatalog
