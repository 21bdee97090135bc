import MetaCatalog.Proofs.Framework.LikeDatabases
import MetaCatalog.Proofs.Framework.Selection

/-!
# Calls that are blind to interleaving

A computation is `Blind` if it gives the same whether the scripts of the catalogs are
interleaved in one way or in another, and leaves worlds that differ in no other way. What is
put together from blind computations is blind. Every call on an object is
(`TableCall.tell_blind` and so on): calls on objects that are alike run alike, and objects
that are alike with the same identifiers are the same (`Tables.eq` and so on).
-/

namespace MetaCatalog

open Likeness

/-! ## Objects that are alike -/

theorem SameOutcome.eq {outcome outcome' : Except Error α} (h : SameOutcome Eq outcome outcome') :
    outcome = outcome' := by
  cases h with
  | ok same => rw [same]
  | error e => rfl

theorem SameAnswer.eq {R : σ → σ → Prop} (hR : ∀ s t, R s t → s = t) {r r' : α × σ}
    (h : SameAnswer R r r') : r = r' :=
  Prod.ext h.answer.symm (hR _ _ h.object)

namespace Likeness

theorem eq_of_forall₂ {R : α → α → Prop} (hR : ∀ a b, R a b → a = b) {as bs : List α}
    (h : List.Forall₂ R as bs) : as = bs := by
  rw [← List.forall₂_eq_eq_eq]
  exact h.imp hR

theorem eq_of_option {R : α → α → Prop} (hR : ∀ a b, R a b → a = b) {a b : Option α}
    (h : Option.Rel R a b) : a = b := by
  cases h with
  | none => rfl
  | some same => rw [hR _ _ same]

theorem eq_of_facet {R : α → α → Prop} (hR : ∀ a b, R a b → a = b) {facet facet' : Facet α}
    (h : SameFacet R facet facet') : facet = facet' := by
  cases h with
  | unloaded | loading => rfl
  | loaded same => rw [hR _ _ same]

section Rigidity

variable {L : Likeness} (rigid : ∀ id id', L.ids id id' → id = id')

include rigid

theorem Items.eq (item item' : Item) (h : L.Items item item') : item = item' := by
  obtain ⟨⟨same⟩, above⟩ := h
  rw [← rigid _ _ same, ← eq_of_option rigid above]

theorem Deliveries.eq (delivery delivery' : Delivery) (h : L.Deliveries delivery delivery') :
    delivery = delivery' := by
  rw [Delivery.mk.injEq]
  exact ⟨rigid _ _ h.subject, h.receivers.symm⟩

theorem Columns.eq (column column' : Column) (h : L.Columns column column') : column = column' := by
  obtain ⟨same⟩ := h
  rw [← Items.eq rigid _ _ same]

theorem Parameters.eq (parameter parameter' : Parameter) (h : L.Parameters parameter parameter') :
    parameter = parameter' := by
  obtain ⟨same⟩ := h
  rw [← Items.eq rigid _ _ same]

theorem Relations.eq (relation relation' : Relation) (h : L.Relations relation relation') :
    relation = relation' := by
  obtain ⟨same, members⟩ := h
  rw [← Items.eq rigid _ _ same,
    ← eq_of_facet (fun _ _ => eq_of_forall₂ (Columns.eq rigid)) members]

theorem Tables.eq (table table' : Table) (h : L.Tables table table') : table = table' := by
  obtain ⟨same⟩ := h
  rw [← Relations.eq rigid _ _ same]

theorem Views.eq (view view' : View) (h : L.Views view view') : view = view' := by
  obtain ⟨same⟩ := h
  rw [← Relations.eq rigid _ _ same]

theorem Procedures.eq (procedure procedure' : Procedure) (h : L.Procedures procedure procedure') :
    procedure = procedure' := by
  obtain ⟨same, members⟩ := h
  rw [← Items.eq rigid _ _ same,
    ← eq_of_facet (fun _ _ => eq_of_forall₂ (Parameters.eq rigid)) members]

theorem Databases.eq (database database' : Database) (h : L.Databases database database') :
    database = database' := by
  obtain ⟨same, ts, vs, ps⟩ := h
  rw [← Items.eq rigid _ _ same, ← eq_of_forall₂ (Tables.eq rigid) ts,
    ← eq_of_forall₂ (Views.eq rigid) vs, ← eq_of_forall₂ (Procedures.eq rigid) ps]

end Rigidity

end Likeness

/-! ## Blind computations -/

/-- The computation gives the same, however the scripts are interleaved. -/
def Blind (m : Engine α) : Prop := interleaved.Runs m m Eq

namespace Blind

theorem pure (a : α) : Blind (Pure.pure a) := Runs.pure rfl

theorem bind {m : Engine α} {f : α → Engine β} (hm : Blind m) (hf : ∀ a, Blind (f a)) :
    Blind (m >>= f) :=
  Runs.bind hm fun a _ same => same ▸ hf a

theorem map {m : Engine α} (f : α → β) (hm : Blind m) : Blind (do Pure.pure (f (← m))) :=
  hm.bind fun _ => .pure _

/-- A query that finds the same. -/
theorem query {query : Query α} (h : interleaved.Finds query query Eq) : Blind query.run :=
  h.mono fun _ _ same => same.eq

/-- What is read of the world. -/
theorem reading {f : World → α}
    (h : ∀ {w w'}, interleaved.Worlds w w' → f w' = f w) : Blind (do Pure.pure (f (← get))) :=
  fun _ _ alike => ⟨(h alike).symm, alike⟩

theorem mapM {f : α → Engine β} (hf : ∀ a, Blind (f a)) (as : List α) : Blind (as.mapM f) :=
  (Runs.mapM (R := Eq) (fun a _ same => same ▸ hf a) (List.forall₂_refl as)).mono
    fun _ _ => eq_of_forall₂ fun _ _ same => same

theorem onFirst {operation : α → Engine (β × α)} (p : α → Bool) (ho : ∀ a, Blind (operation a))
    (as : List α) : Blind (Database.onFirst p operation as) := by
  induction as with
  | nil => exact .pure _
  | cons a rest ih =>
    rw [Database.onFirst]
    split
    · exact (ho a).map _
    · exact ih.map _

end Blind

/-! ## Calls -/

theorem interleaved_same (id : Uuid) : interleaved.ids id id := rfl

theorem interleaved_rigid (id id' : Uuid) (h : interleaved.ids id id') : id = id' := h

theorem Item.announce_blind (item : Item) : Blind item.announce :=
  (Items.refl interleaved_same item).announce.mono (Items.eq interleaved_rigid)

theorem Item.unlock_blind (item : Item) : Blind item.unlock :=
  (Items.refl interleaved_same item).unlock.mono (Items.eq interleaved_rigid)

theorem Item.fresh_blind (kind : ItemKind) (name : Identifier) : Blind (Item.fresh kind name) :=
  (Items.fresh kind name).mono (Items.eq interleaved_rigid)

theorem ItemCall.run_blind (item : Item) (call : ItemCall) : Blind (call.run item) :=
  ((Items.refl interleaved_same item).call call).mono (Items.eq interleaved_rigid)

theorem TableCall.tell_blind (table : Table) (call : TableCall) : Blind (call.tell table) :=
  ((Tables.refl interleaved_same table).tell call).mono fun _ _ =>
    SameAnswer.eq (Tables.eq interleaved_rigid)

theorem ViewCall.tell_blind (view : View) (call : ViewCall) : Blind (call.tell view) :=
  ((Views.refl interleaved_same view).tell call).mono fun _ _ =>
    SameAnswer.eq (Views.eq interleaved_rigid)

theorem ProcedureCall.tell_blind (procedure : Procedure) (call : ProcedureCall) :
    Blind (call.tell procedure) :=
  ((Procedures.refl interleaved_same procedure).tell call).mono fun _ _ =>
    SameAnswer.eq (Procedures.eq interleaved_rigid)

theorem DatabaseCall.tell_blind (database : Database) (call : DatabaseCall) :
    Blind (call.tell database) :=
  ((Databases.refl interleaved_same database).tell call).mono fun _ _ =>
    SameAnswer.eq (Databases.eq interleaved_rigid)

theorem Database.connect_blind (database : Database) (c : ConnectionId) :
    Blind (database.connect c) :=
  ((Databases.refl interleaved_same database).connect c).mono (Databases.eq interleaved_rigid)

theorem Database.disconnect_blind (database : Database) : Blind database.disconnect :=
  (Databases.refl interleaved_same database).disconnect.mono (Databases.eq interleaved_rigid)

theorem Database.invalidate_blind (database : Database) (asked : Option FacetKind) :
    Blind (database.invalidate asked) :=
  ((Databases.refl interleaved_same database).invalidate asked).mono
    (Databases.eq interleaved_rigid)

/-! ## Servers -/

theorem Database.catalog_same (database : Database) {w w' : World}
    (alike : interleaved.Worlds w w') :
    database.connectedUser? w' = database.connectedUser? w ∧
      database.connectedPassword? w' = database.connectedPassword? w ∧
      database.isConnected w' = database.isConnected w := by
  have catalogs := (Databases.refl interleaved_same database).catalogs alike
  unfold connectedUser? connectedPassword? isConnected
  generalize database.catalog? w = catalog at catalogs ⊢
  generalize database.catalog? w' = catalog' at catalogs ⊢
  cases catalogs with
  | none => exact ⟨rfl, rfl, rfl⟩
  | some same =>
    obtain ⟨_, _, rfl⟩ := same
    exact ⟨rfl, rfl, rfl⟩

namespace Server

theorem announce_blind (server : Server) : Blind server.announce :=
  server.item.announce_blind.map _

theorem addDatabase_blind (server : Server) (database : Database) :
    Blind (server.addDatabase database) :=
  announce_blind _

theorem removeDatabase_blind (server : Server) (id : Uuid) : Blind (server.removeDatabase id) := by
  unfold removeDatabase
  split
  · exact .pure _
  · exact (announce_blind _).map _

theorem onDatabase_blind (server : Server) (id : Uuid)
    {operation : Database → Engine (α × Database)} (ho : ∀ d, Blind (operation d)) :
    Blind (server.onDatabase id operation) :=
  (Blind.onFirst _ ho server.databases).map _

/-- The logins of databases are looked up in their catalogs, but not in the replies. -/
theorem openSession_same (server : Server) (connector : Connector) (indicator : Option Indicator)
    (asAdministrator : Bool) {w w' : World} (alike : interleaved.Worlds w w') :
    server.openSession w' connector indicator asAdministrator =
      server.openSession w connector indicator asAdministrator := by
  have connected :
      connectedCandidate w' asAdministrator = connectedCandidate w asAdministrator := by
    funext database
    obtain ⟨user, password, on⟩ := database.catalog_same alike
    unfold connectedCandidate
    rw [user, password, on]
  have stored : storedCandidate w' asAdministrator = storedCandidate w asAdministrator := by
    funext database
    obtain ⟨-, -, on⟩ := database.catalog_same alike
    unfold storedCandidate
    rw [on]
  unfold openSession
  rw [connected, stored]

theorem readAccounts_same (server : Server) (connector : Connector) (indicator : Option Indicator)
    {w w' : World} (alike : interleaved.Worlds w w') :
    server.readAccounts w' connector indicator = server.readAccounts w connector indicator := by
  unfold readAccounts
  rw [openSession_same _ connector indicator true alike]

end Server

theorem ServerCall.tell_blind (server : Server) (call : ServerCall) : Blind (call.tell server) := by
  cases call with
  | rename name => exact Blind.map _ (Blind.map _ (Item.announce_blind _))
  | setHost host => exact (Server.announce_blind _).map _
  | setPort port => exact (Server.announce_blind _).map _
  | rememberLogin username password => exact .pure _
  | rememberAdministrator password => exact .pure _
  | lockChildren => exact .pure _
  | unlockChildren =>
    exact Blind.map _ (Blind.map _ (Blind.mapM (fun d => d.item.unlock_blind.map _) _))
  | disconnectAll => exact Blind.map _ (Blind.map _ (Blind.mapM Database.disconnect_blind _))
  | invalidate asked =>
    exact Blind.map _ (Blind.map _ (Blind.mapM (fun d => d.invalidate_blind asked) _))
  | openSession connector indicator asAdministrator =>
    refine Blind.reading (f := fun w =>
      let run := server.openSession w connector indicator asAdministrator
      (run.report (fun _ => .null) indicator, run.server)) fun alike => ?_
    rw [server.openSession_same connector indicator asAdministrator alike]
  | readAccounts connector indicator =>
    refine Blind.reading (f := fun w =>
      let run := server.readAccounts w connector indicator
      (run.report (.list Account.report) indicator, run.server)) fun alike => ?_
    rw [server.readAccounts_same connector indicator alike]
  | item call => exact Blind.map _ (Blind.map _ (call.run_blind server.item))

end MetaCatalog
