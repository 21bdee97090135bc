import MetaCatalog.Proofs.Framework.Calls
import MetaCatalog.Report

/-!
# What calls tell

Who makes a call is told the value that was asked for, or that the call was done, or
its error. `TableCall.tell` and its like run a call and give what is told as a document;
to the object and to the world they do what the call does (`TableCall.tell_does`).
-/

namespace MetaCatalog

/-- Tells the outcome of an operation that may fail. -/
def telling (encode : α → Json) (operation : Engine (Except Error α × σ)) :
    Engine (Json × σ) := do
  let (outcome, object) ← operation
  pure (.outcome encode outcome, object)

/-- Tells what an operation has found. -/
def showing (encode : α → Json) (operation : Engine (α × σ)) : Engine (Json × σ) := do
  let (value, object) ← operation
  pure (.ok (encode value), object)

/-- Tells that a change was made. -/
def noting (operation : Engine σ) : Engine (Json × σ) := do
  pure (.ok .null, ← operation)

/-- The operations leave the same object in the same world. -/
def Does (m : Engine (α × σ)) (m' : Engine (β × σ)) : Prop :=
  ∀ w, ((m w).1.2, (m w).2) = ((m' w).1.2, (m' w).2)

/-- Operations do the same to an object if they do to the part of it that they change. -/
theorem Does.within {m : Engine (α × σ)} {m' : Engine (β × σ)} (h : Does m m') (put : σ → τ)
    {n : Engine (γ × τ)} {n' : Engine (δ × τ)}
    (hn : ∀ w, ((n w).1.2, (n w).2) = (put (m w).1.2, (m w).2))
    (hn' : ∀ w, ((n' w).1.2, (n' w).2) = (put (m' w).1.2, (m' w).2)) : Does n n' := by
  intro w
  obtain ⟨object, world⟩ := Prod.mk.inj (h w)
  rw [hn, hn', object, world]

/-! ## Tables -/

/-- Reads a facet and tells what it is. -/
def Table.tell (table : Table) : FacetKind → Engine (Json × Table)
  | .columns => showing (.list Column.report) table.readColumns
  | .primaryKey => showing (.opt PrimaryKey.report) table.readPrimaryKey
  | .foreignKeys => showing (.list ForeignKey.report) table.readForeignKeys
  | .checkConstraints => showing (.list CheckConstraint.report) table.readCheckConstraints
  | .uniqueConstraints => showing (.list UniqueConstraint.report) table.readUniqueConstraints
  | .indices => showing (.list Index.report) table.readIndices
  | .externalPath => showing .str table.readExternalPath
  | .description => showing (.opt .str) table.readDescription
  | .source | .parameters | .privileges => pure (.ok .null, table)

/-- Runs a call on a table and tells what comes of it. -/
def TableCall.tell (table : Table) : TableCall → Engine (Json × Table)
  | load facet => telling (fun _ => .null) (table.load facet)
  | read facet => table.tell facet
  | findColumn name => showing (.opt Column.report) (table.findColumn name)
  | insertStatement => showing .str table.insertStatement
  | procedureTemplate usualCharset => showing .str (table.procedureTemplate usualCharset)
  | invalidate asked => noting (table.invalidate asked)
  | invalidateIndices name => noting (table.invalidateIndices name)
  | item call => noting (do pure (table.withItem (← call.run table.item)))

theorem TableCall.tell_does (table : Table) (call : TableCall) :
    Does (call.tell table) (call.run table) := by
  cases call with
  | read facet => cases facet <;> exact fun _ => rfl
  | _ => exact fun _ => rfl

/-! ## Views -/

/-- Reads a facet and tells what it is. -/
def View.tell (view : View) : FacetKind → Engine (Json × View)
  | .columns => showing (.list Column.report) view.readColumns
  | .source => showing .str view.readSource
  | .description => showing (.opt .str) view.readDescription
  | .primaryKey | .foreignKeys | .checkConstraints | .uniqueConstraints | .indices
  | .externalPath | .parameters | .privileges => pure (.ok .null, view)

/-- Runs a call on a view and tells what comes of it. -/
def ViewCall.tell (view : View) : ViewCall → Engine (Json × View)
  | load facet => telling (fun _ => .null) (view.load facet)
  | read facet => view.tell facet
  | createStatement => telling .str view.createStatement
  | invalidate asked => noting (view.invalidate asked)
  | item call => noting (do pure (view.withItem (← call.run view.item)))

theorem ViewCall.tell_does (view : View) (call : ViewCall) :
    Does (call.tell view) (call.run view) := by
  cases call with
  | read facet => cases facet <;> exact fun _ => rfl
  | _ => exact fun _ => rfl

/-! ## Procedures -/

/-- Reads a facet and tells what it is. -/
def Procedure.tell (procedure : Procedure) : FacetKind → Engine (Json × Procedure)
  | .parameters => showing (.list Parameter.report) procedure.readParameters
  | .source => showing .str procedure.readSource
  | .privileges => showing (.list Privilege.report) procedure.readPrivileges
  | .description => showing (.opt .str) procedure.readDescription
  | .columns | .primaryKey | .foreignKeys | .checkConstraints | .uniqueConstraints | .indices
  | .externalPath => pure (.ok .null, procedure)

/-- Runs a call on a procedure and tells what comes of it. -/
def ProcedureCall.tell (procedure : Procedure) : ProcedureCall → Engine (Json × Procedure)
  | load facet => telling (fun _ => .null) (procedure.load facet)
  | read facet => procedure.tell facet
  | checkParameters force => showing .bool (procedure.checkParameters force)
  | isSelectable => showing .bool procedure.isSelectable
  | selectStatement withColumns => showing .str (procedure.selectStatement withColumns)
  | executeStatement => showing .str procedure.executeStatement
  | definition => showing .str procedure.definition
  | alterStatement => telling .str procedure.alterStatement
  | invalidate asked => noting (procedure.invalidate asked)
  | item call => noting (do pure (procedure.withItem (← call.run procedure.item)))

theorem ProcedureCall.tell_does (procedure : Procedure) (call : ProcedureCall) :
    Does (call.tell procedure) (call.run procedure) := by
  cases call with
  | read facet => cases facet <;> exact fun _ => rfl
  | _ => exact fun _ => rfl

/-! ## Databases -/

/-- Runs a call on a database and tells what comes of it. -/
def DatabaseCall.tell (database : Database) : DatabaseCall → Engine (Json × Database)
  | disconnect => noting database.disconnect
  | setLogin username password => noting (database.setLogin username password)
  | loadObjects => telling (fun _ => .null) database.loadObjects
  | loadMembers =>
    showing (fun loaded => .list (.list .bool) [loaded.1, loaded.2.1, loaded.2.2])
      database.loadMembers
  | addTable name => noting (database.addTable name)
  | addView name => noting (database.addView name)
  | addProcedure name => noting (database.addProcedure name)
  | dependencies name kind dependsOn =>
    telling (.list Dependency.report) do
      pure (← (database.dependencies name kind dependsOn).run, database)
  | links names name => telling (.list ForeignKey.report) (database.links names name)
  | invalidate asked => noting (database.invalidate asked)
  | item call => noting (do pure { database with item := ← call.run database.item })

theorem DatabaseCall.tell_does (database : Database) (call : DatabaseCall) :
    Does (call.tell database) (call.run database) := by
  cases call <;> exact fun _ => rfl

/-! ## Servers -/

/-- The document of the use of a service: what came of it, the logins that were tried, and
what the indicator was shown, if there is one. -/
def Server.ServiceRun.report (run : ServiceRun α) (encode : α → Json)
    (indicator : Option Indicator) : Json :=
  let shown := (ServiceEvent.calls run.events).filterMap ProgressCall.report?
  (Json.outcome encode run.outcome).withFields
    (("attempts", .list Login.report (ServiceEvent.attempts run.events)) ::
      if indicator.isSome then [("progress", .array shown)] else [])

/-- Runs a call on a server and tells what comes of it. -/
def ServerCall.tell (server : Server) : ServerCall → Engine (Json × Server)
  | rename name => noting (server.rename name)
  | setHost host => noting (server.setHost host)
  | setPort port => noting (server.setPort port)
  | rememberLogin username password => noting (pure (server.rememberLogin username password))
  | rememberAdministrator password => noting (pure (server.rememberAdministrator password))
  | lockChildren => noting (pure server.lockChildren)
  | unlockChildren => noting server.unlockChildren
  | disconnectAll => noting server.disconnectAll
  | invalidate asked => noting (server.invalidate asked)
  | openSession connector indicator asAdministrator => do
    let run := server.openSession (← get) connector indicator asAdministrator
    pure (run.report (fun _ => .null) indicator, run.server)
  | readAccounts connector indicator => do
    let run := server.readAccounts (← get) connector indicator
    pure (run.report (.list Account.report) indicator, run.server)
  | item call => noting (do pure { server with item := ← call.run server.item })

theorem ServerCall.tell_does (server : Server) (call : ServerCall) :
    Does (call.tell server) (call.run server) := by
  cases call <;> exact fun _ => rfl

end MetaCatalog
