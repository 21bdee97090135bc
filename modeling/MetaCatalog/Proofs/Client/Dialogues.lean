import MetaCatalog.Proofs.Client.Runs
import MetaCatalog.Proofs.Client.Sessions

/-!
# Dialogues with a client

What a client is told, step by step (`Step.tell`, `Client.session`): what the calls on
objects and statements return, and the errors of all other steps. To be told changes
nothing: the client becomes what its steps lead to (`Client.session_after`).
-/

namespace MetaCatalog

namespace Step

/-- What comes of a step that takes and drops no guard: what the call on an object or on a
statement tells, nothing if there is none under the name, and the error of any other step,
if it reports one. -/
def answer : Step → Working (Option Json)
  | useHandle name call => do
    match (← get).handles.lookup name with
    | none => pure none
    | some handle => do pure (some (← Workspace.engine (call.tell handle)))
  | database name call => Workspace.onDatabase name call.tell
  | table address call => Workspace.onTable address call.tell
  | view address call => Workspace.onView address call.tell
  | procedure address call => Workspace.onProcedure address call.tell
  | server name call => Workspace.onServer name call.tell
  | step => do pure ((← step.work).map Error.report)

/-- Performs a step and tells what comes of it. -/
def tell (client : Client) (step : Step) : Option Json × Client :=
  if step.isGuard then
    let (error, client) := step.perform client
    (error.map Error.report, client)
  else
    let (told, workspace) := step.answer client.workspace
    (told, { client with workspace })

end Step

/-- What a client is told that performs steps one after the other, and what becomes of it. -/
def Client.session (client : Client) : List Step → List (Option Json) × Client
  | [] => ([], client)
  | step :: rest =>
    let (told, client) := step.tell client
    let (more, client) := client.session rest
    (told :: more, client)

/-! ## What steps do -/

theorem HandleCall.tell_does (handle : Handle) (call : HandleCall) (w : World) :
    (call.tell handle w).2 = ((call.run handle).run w).2 := by
  cases call with
  | bind | execute | fetch => rfl
  | row =>
    show w = ((do let _ ← handle.row; pure () : Query Unit).run w).2
    have stands : handle.row.run w = ((w.statement handle.statement).row, w) := rfl
    rw [Query.run_bind, stands]
    cases (w.statement handle.statement).row <;> rfl

theorem Server.onDatabase_does {m : Database → Engine (α × Database)}
    {m' : Database → Engine (β × Database)} (h : ∀ d, Does (m d) (m' d)) (server : Server)
    (id : Uuid) : Does (server.onDatabase id m) (server.onDatabase id m') :=
  (Database.onFirst_does h server.databases).within (fun databases => { server with databases })
    (fun _ => rfl) fun _ => rfl

open Discipline (Working.run_reading)

namespace Workspace

/-- Operations that leave the same objects leave the same workspace. -/
theorem onNamed_does {get : Workspace → Named σ} {set : Named σ → Workspace → Workspace}
    {m : σ → Engine (α × σ)} {m' : σ → Engine (β × σ)} (h : ∀ a, Does (m a) (m' a))
    (name : String) (s : Workspace) :
    (onNamed get set name m s).2 = (onNamed get set name m' s).2 := by
  unfold onNamed
  rw [Working.run_reading, Working.run_reading]
  cases (get s).lookup name with
  | none => rfl
  | some a =>
    obtain ⟨object, world⟩ := Prod.mk.inj (h a s.world)
    show set (Named.put name (m a s.world).1.2 (get { s with world := (m a s.world).2 }))
      { s with world := (m a s.world).2 } = _
    rw [object, world]
    rfl

theorem onServer_does {m : Server → Engine (α × Server)} {m' : Server → Engine (β × Server)}
    (h : ∀ s, Does (m s) (m' s)) (name : String) (s : Workspace) :
    (onServer name m s).2 = (onServer name m' s).2 :=
  onNamed_does h name s

theorem onDatabase_does {m : Database → Engine (α × Database)}
    {m' : Database → Engine (β × Database)} (h : ∀ d, Does (m d) (m' d)) (name : String)
    (s : Workspace) : (onDatabase name m s).2 = (onDatabase name m' s).2 := by
  unfold onDatabase
  rw [Working.run_reading, Working.run_reading]
  split
  · exact onNamed_does h name s
  · cases s.owned.lookup name with
    | none => rfl
    | some place =>
      obtain ⟨owner, id⟩ := place
      exact onServer_does (fun server => server.onDatabase_does h id) owner s

theorem onTable_does {m : Table → Engine (α × Table)} {m' : Table → Engine (β × Table)}
    (h : ∀ t, Does (m t) (m' t)) (address : Address) (s : Workspace) :
    (onTable address m s).2 = (onTable address m' s).2 := by
  unfold onTable
  cases address.table with
  | none => rfl
  | some name =>
    cases address.database with
    | none => exact onNamed_does h name s
    | some database => exact onDatabase_does (fun d => Database.onTable_does h d name) database s

theorem onView_does {m : View → Engine (α × View)} {m' : View → Engine (β × View)}
    (h : ∀ v, Does (m v) (m' v)) (address : Address) (s : Workspace) :
    (onView address m s).2 = (onView address m' s).2 := by
  unfold onView
  cases address.view with
  | none => rfl
  | some name =>
    cases address.database with
    | none => exact onNamed_does h name s
    | some database => exact onDatabase_does (fun d => Database.onView_does h d name) database s

theorem onProcedure_does {m : Procedure → Engine (α × Procedure)}
    {m' : Procedure → Engine (β × Procedure)} (h : ∀ p, Does (m p) (m' p)) (address : Address)
    (s : Workspace) : (onProcedure address m s).2 = (onProcedure address m' s).2 := by
  unfold onProcedure
  cases address.procedure with
  | none => rfl
  | some name =>
    cases address.database with
    | none => exact onNamed_does h name s
    | some place => exact onDatabase_does (fun d => Database.onProcedure_does h d name) place s

end Workspace

/-- A step that tells does in the workspace what the step does. -/
theorem Step.answer_does (step : Step) (s : Workspace) : (step.answer s).2 = (step.work s).2 := by
  cases step with
  | useHandle name call =>
    rw [answer, work, withNamed, Working.run_reading, Working.run_reading]
    cases s.handles.lookup name with
    | none => rfl
    | some handle => exact congrArg (fun world => { s with world }) (call.tell_does handle s.world)
  | database name call => exact Workspace.onDatabase_does call.tell_does name s
  | table address call => exact Workspace.onTable_does call.tell_does address s
  | view address call => exact Workspace.onView_does call.tell_does address s
  | procedure address call => exact Workspace.onProcedure_does call.tell_does address s
  | server name call => exact Workspace.onServer_does call.tell_does name s
  | _ => rfl

theorem Step.tell_performs (client : Client) (step : Step) :
    (step.tell client).2 = (step.perform client).2 := by
  unfold tell
  cases guard : step.isGuard with
  | true => rfl
  | false =>
    rw [Discipline.perform_work client guard]
    exact congrArg (Client.mk · client.guards) (step.answer_does client.workspace)

/-- A session leaves the client that its steps lead to. -/
theorem Client.session_after (client : Client) (steps : List Step) :
    (client.session steps).2 = client.after steps := by
  induction steps generalizing client with
  | nil => rfl
  | cons step rest ih =>
    show ((step.tell client).2.session rest).2 = (step.perform client).2.after rest
    rw [ih, step.tell_performs]

end MetaCatalog
