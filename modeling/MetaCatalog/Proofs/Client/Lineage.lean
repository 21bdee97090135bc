import MetaCatalog.Proofs.Client.Inventory
import MetaCatalog.Proofs.Framework.Lineage

/-!
# Lineages of clients

Clients do nothing with objects but what lineages are kept by. So whatever new
objects have and calls keep, all objects have that a client can come by
(`Client.Reachable.lineage`).
-/

namespace MetaCatalog

open World (Anyhow)

namespace Lineage

variable {L : Lineage}

/-! ## Workspaces -/

/-- All objects of a workspace have the property. -/
structure InWorkspace (L : Lineage) (s : Workspace) : Prop where
  databases : ∀ p ∈ s.databases, L.InDatabase p.2
  tables : ∀ p ∈ s.tables, L.table p.2
  views : ∀ p ∈ s.views, L.view p.2
  procedures : ∀ p ∈ s.procedures, L.procedure p.2
  servers : ∀ p ∈ s.servers, L.InServer p.2

/-- A computation keeps the property in a workspace, and its result has another
one. -/
structure Tends (L : Lineage) (m : Working α) (Q : α → Prop) : Prop where
  kept {s : Workspace} : L.InWorkspace s → L.InWorkspace (m s).2
  result {s : Workspace} : L.InWorkspace s → Q (m s).1

namespace Tends

variable {P : α → Prop}

theorem pure {a : α} (h : P a) : L.Tends (Pure.pure a) P :=
  ⟨id, fun _ => h⟩

theorem bind {m : Working α} {f : α → Working β} {Q : β → Prop} (hm : L.Tends m P)
    (hf : ∀ a, P a → L.Tends (f a) Q) : L.Tends (m >>= f) Q :=
  ⟨fun hs => (hf _ (hm.result hs)).kept (hm.kept hs),
    fun hs => (hf _ (hm.result hs)).result (hm.kept hs)⟩

/-- A computation of which only the workspace matters. -/
theorem quiet {m : Working α} {f : α → β} (hm : L.Tends m P) :
    L.Tends (do Pure.pure (f (← m))) fun _ => True :=
  ⟨hm.kept, fun _ => trivial⟩

/-- A computation that reads the workspace. -/
theorem reading {f : Workspace → Working α} (hf : ∀ s, L.InWorkspace s → L.Tends (f s) P) :
    L.Tends (do f (← get)) P :=
  ⟨fun {s} hs => (hf s hs).kept hs, fun {s} hs => (hf s hs).result hs⟩

theorem change {f : Workspace → Workspace} (hf : ∀ {s}, L.InWorkspace s → L.InWorkspace (f s)) :
    L.Tends (modify f : Working PUnit) fun _ => True :=
  ⟨hf, fun _ => trivial⟩

/-- What is done in the world does not touch the objects of the workspace. -/
theorem engine {m : Engine α} (hm : Leads Anyhow m P) : L.Tends (Workspace.engine m) P :=
  ⟨fun hs => { hs with }, fun {s} _ => hm.result s.world⟩

/-- What is done in the world, whatever comes of it. -/
theorem anyhow (m : Engine α) : L.Tends (Workspace.engine m) fun _ => True :=
  engine (.always fun _ => trivial)

theorem withNamed {named : Workspace → Named α} {name : String}
    {use : α → Working (Option Error)} (hn : ∀ {s}, L.InWorkspace s → ∀ p ∈ named s, P p.2)
    (hu : ∀ a, P a → L.Tends (use a) fun _ => True) :
    L.Tends (Step.withNamed named name use) fun _ => True := by
  refine reading fun s hs => ?_
  cases hl : (named s).lookup name with
  | none => exact pure trivial
  | some a => exact hu a (hn hs _ (mem_of_lookup hl))

/-- Something is done with what is found under a name, of which nothing need be
known. -/
theorem withAny {named : Workspace → Named α} {name : String}
    {use : α → Working (Option Error)} (hu : ∀ a, L.Tends (use a) fun _ => True) :
    L.Tends (Step.withNamed named name use) fun _ => True :=
  withNamed (P := fun _ => True) (fun _ _ _ => trivial) fun a _ => hu a

/-- An operation on the thing under a name. `get` and `set` have to read and write
things of one kind, which have the property `K`. -/
theorem onNamed {get : Workspace → Named σ} {set : Named σ → Workspace → Workspace}
    {operation : σ → Engine (α × σ)} {K : σ → Prop}
    (hk : ∀ {s}, L.InWorkspace s → ∀ p ∈ get s, K p.2)
    (hs : ∀ {s named}, L.InWorkspace s → (∀ p ∈ named, K p.2) → L.InWorkspace (set named s))
    (ho : ∀ a, K a → Leads Anyhow (operation a) fun r => K r.2 ∧ P r.1) (name : String) :
    L.Tends (Workspace.onNamed get set name operation) fun r => ∀ a, r = some a → P a := by
  unfold Workspace.onNamed
  refine reading fun s h => ?_
  cases hl : (get s).lookup name with
  | none => exact pure nofun
  | some a =>
    refine (engine (ho a (hk h _ (mem_of_lookup hl)))).bind fun r hr => ?_
    refine (change fun h => hs h ?_).bind fun _ _ => pure ?_
    · exact Discipline.forall_put (hk h) hr.1
    · exact fun _ ha => Option.some.inj ha ▸ hr.2

theorem onServer {operation : Server → Engine (α × Server)}
    (ho : ∀ s, L.InServer s → Leads Anyhow (operation s) fun r => L.InServer r.2 ∧ P r.1)
    (name : String) :
    L.Tends (Workspace.onServer name operation) fun r => ∀ a, r = some a → P a := by
  refine onNamed (·.servers) ?_ ho name
  exact fun hs hn => { hs with servers := hn }

/-- The same, whatever the result is. -/
theorem onKept {operation : σ → Engine (α × σ)} {K : σ → Prop}
    {get : Workspace → Named σ} {set : Named σ → Workspace → Workspace}
    (hk : ∀ {s}, L.InWorkspace s → ∀ p ∈ get s, K p.2)
    (hs : ∀ {s named}, L.InWorkspace s → (∀ p ∈ named, K p.2) → L.InWorkspace (set named s))
    (ho : ∀ a, K a → Leads Anyhow (operation a) fun r => K r.2) (name : String) :
    L.Tends (Workspace.onNamed get set name operation) fun _ => True :=
  ⟨(onNamed (P := fun _ => True) hk hs (fun a ha => (ho a ha).mono fun _ hr => ⟨hr, trivial⟩)
    name).kept, fun _ => trivial⟩

theorem onDatabase {operation : Database → Engine (α × Database)}
    (ho : ∀ d, L.InDatabase d → Leads Anyhow (operation d) fun r => L.InDatabase r.2)
    (name : String) : L.Tends (Workspace.onDatabase name operation) fun _ => True := by
  refine reading fun s _ => ?_
  split
  · refine onKept (·.databases) ?_ ho name
    exact fun hs hn => { hs with databases := hn }
  · split
    · exact pure trivial
    · next owner id _ =>
      exact (onServer (P := fun _ => True) (fun _ h => (server_onDatabase h ho id).mono fun _ hr =>
        ⟨hr, trivial⟩) owner).quiet

theorem onTable {operation : Table → Engine (α × Table)}
    (ho : ∀ t, L.table t → Leads Anyhow (operation t) fun r => L.table r.2) (address : Address) :
    L.Tends (Workspace.onTable address operation) fun _ => True := by
  unfold Workspace.onTable
  split
  · exact pure trivial
  · exact (onDatabase (fun _ hd => database_onTable hd ho _) _).quiet
  · refine onKept (·.tables) ?_ ho _
    exact fun hs hn => { hs with tables := hn }

theorem onView {operation : View → Engine (α × View)}
    (ho : ∀ v, L.view v → Leads Anyhow (operation v) fun r => L.view r.2) (address : Address) :
    L.Tends (Workspace.onView address operation) fun _ => True := by
  unfold Workspace.onView
  split
  · exact pure trivial
  · exact (onDatabase (fun _ hd => database_onView hd ho _) _).quiet
  · refine onKept (·.views) ?_ ho _
    exact fun hs hn => { hs with views := hn }

theorem onProcedure {operation : Procedure → Engine (α × Procedure)}
    (ho : ∀ p, L.procedure p → Leads Anyhow (operation p) fun r => L.procedure r.2)
    (address : Address) : L.Tends (Workspace.onProcedure address operation) fun _ => True := by
  unfold Workspace.onProcedure
  split
  · exact pure trivial
  · exact (onDatabase (fun _ hd => database_onProcedure hd ho _) _).quiet
  · refine onKept (·.procedures) ?_ ho _
    exact fun hs hn => { hs with procedures := hn }

/-- Free items are no objects. -/
theorem onFreeItem (operation : Item → Engine (α × Item)) (name : String) :
    L.Tends (Workspace.onFreeItem name operation) fun _ => True := by
  unfold Workspace.onFreeItem
  refine onKept (K := fun _ => True) (fun _ _ _ => trivial) ?_ (fun _ _ => .always fun _ => trivial)
    name
  exact fun hs _ => { hs with }

/-! ## Steps -/

theorem addDatabase (name : String) {database : Database} (hd : L.InDatabase database) :
    L.Tends (Workspace.addDatabase name database) fun _ => True :=
  change fun hs => { hs with databases := Discipline.forall_put hs.databases hd }

theorem giveTo (owner name : String) {database : Database} (hd : L.InDatabase database) :
    L.Tends (Workspace.giveTo owner name database) fun _ => True := by
  refine (onServer (P := fun _ => True) (fun _ h => (server_addDatabase h hd).map fun _ hs =>
    ⟨hs, trivial⟩) owner).bind fun _ _ => ?_
  exact change fun hs => { hs with databases := Discipline.forall_drop hs.databases }

theorem takeFrom (owner : String) (id : Uuid) (name : String) :
    L.Tends (Workspace.takeFrom owner id name) fun _ => True := by
  refine (onServer (P := fun r => ∀ d, r = some d → L.InDatabase d)
    (fun _ h => server_removeDatabase h id) owner).bind fun r hr => ?_
  rcases r with _ | _ | database
  · exact pure trivial
  · exact pure trivial
  · exact (addDatabase name (hr _ rfl database rfl)).quiet

/-- A workspace with the same objects. -/
theorem same {m : Working α} (databases : ∀ s, (m s).2.databases = s.databases := by intro; rfl)
    (tables : ∀ s, (m s).2.tables = s.tables := by intro; rfl)
    (views : ∀ s, (m s).2.views = s.views := by intro; rfl)
    (procedures : ∀ s, (m s).2.procedures = s.procedures := by intro; rfl)
    (servers : ∀ s, (m s).2.servers = s.servers := by intro; rfl) :
    L.Tends m fun _ => True := by
  refine ⟨fun {s} hs => ⟨?_, ?_, ?_, ?_, ?_⟩, fun _ => trivial⟩
  · exact databases s ▸ hs.databases
  · exact tables s ▸ hs.tables
  · exact views s ▸ hs.views
  · exact procedures s ▸ hs.procedures
  · exact servers s ▸ hs.servers

/-- One case for each step. Most of them touch no object. -/
theorem work (step : Step) : L.Tends step.work fun _ => True := by
  cases step with
  | openCatalog => exact same
  | script catalog change' => exact withAny fun _ => same
  | direct catalog call => exact withAny fun _ => (anyhow _).quiet
  | newLoader name catalog => exact withAny fun _ => same
  | keepLoader name owner =>
    refine (onDatabase (fun _ hd => .pure hd) owner).bind fun loader _ => ?_
    cases loader.join with
    | none => exact pure trivial
    | some l => exact same
  | clearStatements loader => exact withAny fun _ => same
  | prepare name loader sql =>
    refine withAny fun _ => (anyhow _).bind fun r _ => ?_
    cases r with
    | error e => exact pure trivial
    | ok handle => exact same
  | useHandle handle call => exact withAny fun _ => (anyhow _).quiet
  | enter loader => exact pure trivial
  | leave guard => exact pure trivial
  | newDatabase name id raw path =>
    have made : Leads Anyhow (Database.register raw path) fun d =>
        L.InDatabase { d with item := Step.identified id d.item } :=
      .always fun _ => database_empty rfl rfl rfl
    exact (engine made).bind fun _ hd => (addDatabase name hd).quiet
  | connect name catalog =>
    exact withAny fun c =>
      (onDatabase (fun _ hd => (database_connect hd c).changing) name).quiet
  | database name call => exact (onDatabase (fun _ hd => database_call hd call) name).quiet
  | newTable name raw =>
    refine (engine (Leads.always fun _ => L.newTable _)).bind fun _ ht => ?_
    refine (change fun {s} hs => ?_).quiet
    exact { hs with tables := Discipline.forall_put hs.tables ht }
  | table address call =>
    exact (onTable (fun _ ht => .always fun w => L.tableCall ht call w) address).quiet
  | newView name raw =>
    refine (engine (Leads.always fun _ => L.newView _)).bind fun _ hv => ?_
    refine (change fun {s} hs => ?_).quiet
    exact { hs with views := Discipline.forall_put hs.views hv }
  | view address call =>
    exact (onView (fun _ hv => .always fun w => L.viewCall hv call w) address).quiet
  | newProcedure name raw =>
    refine (engine (Leads.always fun _ => L.newProcedure _)).bind fun _ hp => ?_
    refine (change fun {s} hs => ?_).quiet
    exact { hs with procedures := Discipline.forall_put hs.procedures hp }
  | procedure address call =>
    exact (onProcedure (fun _ hp => .always fun w => L.procedureCall hp call w) address).quiet
  | newItem name id kind raw parent loader => exact same
  | renameItem name raw => exact (onFreeItem _ name).quiet
  | item name call => exact (onFreeItem _ name).quiet
  | newServer name host port =>
    have made : Leads Anyhow (Server.register host port) L.InServer :=
      .always fun _ => List.forall_mem_nil _
    refine (engine made).bind fun _ hn => ?_
    refine (change fun {s} hs => ?_).quiet
    exact { hs with servers := Discipline.forall_put hs.servers hn }
  | giveTo owner name =>
    exact withAny fun _ => withNamed (·.databases) fun d hd => (giveTo owner name hd).quiet
  | takeFrom owner name =>
    refine reading fun s _ => ?_
    cases s.databaseId? name with
    | none => exact pure trivial
    | some id => exact (takeFrom owner id name).quiet
  | server name call =>
    exact (onServer (P := fun _ => True) (fun _ h => (server_call h call).mono fun _ hs =>
      ⟨hs, trivial⟩) name).quiet
  | newObserver name => exact same
  | dropObserver name =>
    have dropped : L.Tends (Workspace.dropObserver name) fun _ => True := by
      unfold Workspace.dropObserver
      refine reading fun s _ => ?_
      cases s.observers.lookup name with
      | none => exact pure trivial
      | some id => exact same
    exact dropped.quiet

end Tends

end Lineage

/-! ## Clients -/

namespace Client

variable {L : Lineage}

theorem perform_lineage {client : Client} (h : L.InWorkspace client.workspace) (step : Step) :
    L.InWorkspace (step.perform client).2.workspace := by
  cases hs : step.isGuard
  · rw [Discipline.perform_work client hs]
    exact (Lineage.Tends.work step).kept h
  · cases step
    case enter name =>
      rw [Step.perform]
      split
      · exact h
      · next l _ =>
        have entered := (Lineage.Tends.anyhow (L := L) l.enter.run).kept h
        split
        all_goals
          next he =>
          rw [he] at entered
          exact entered
    case leave guard =>
      rw [Step.perform]
      split
      · exact h
      · next l _ => exact (Lineage.Tends.anyhow (L := L) l.leave).kept h
    all_goals cases hs

theorem Reachable.inWorkspace {permits : Client → Step → Prop} {client : Client}
    (h : Reachable permits client) : L.InWorkspace client.workspace := by
  induction h with
  | start seed => constructor <;> exact List.forall_mem_nil _
  | step step _ _ ih => exact perform_lineage ih step

/-- What new objects have and every call keeps, all objects have that a client can
come by. -/
theorem Reachable.lineage (L : Lineage) {permits : Client → Step → Prop} {client : Client}
    (h : Reachable permits client) : ∀ object ∈ client.workspace.everyObject,
      match object with
      | .table t => L.table t
      | .view v => L.view v
      | .procedure p => L.procedure p := by
  have kept := h.inWorkspace (L := L)
  intro object ho
  have owned (d : Database) (hd : d ∈ client.workspace.everyDatabase) : L.InDatabase d := by
    simp only [Workspace.everyDatabase, List.mem_append, List.mem_map, List.mem_flatMap] at hd
    rcases hd with ⟨p, hp, rfl⟩ | ⟨p, hp, hd⟩
    · exact kept.databases p hp
    · exact kept.servers p hp d hd
  simp only [Workspace.everyObject, List.mem_append, List.mem_map, List.mem_flatMap] at ho
  rcases ho with ((⟨p, hp, rfl⟩ | ⟨p, hp, rfl⟩) | ⟨p, hp, rfl⟩) | ⟨d, hd, ho⟩
  · exact kept.tables p hp
  · exact kept.views p hp
  · exact kept.procedures p hp
  · simp only [Database.objects, List.mem_append, List.mem_map] at ho
    rcases ho with (⟨t, ht, rfl⟩ | ⟨v, hv, rfl⟩) | ⟨p, hp, rfl⟩
    · exact (owned d hd).tables t ht
    · exact (owned d hd).views v hv
    · exact (owned d hd).procedures p hp

end Client

end MetaCatalog
