import MetaCatalog.Proofs.Client.Independence
import MetaCatalog.Proofs.Framework.Ownership

/-!
# Workspaces in which everything is in its place

An object is in place if the table, view or procedure that it is is. Then each of
its parts was read with its loader (`Object.At.part`). A workspace is in place if
all that it holds is: free databases belong to no server, those of a server to
it, and no two servers have the same identifier as long as identifiers do not
recur. `Houses` says that a computation leaves a workspace in place; it is
established once for looking something up by its name and changing it.
-/

namespace MetaCatalog

open World (Issues Course)

/-! ## Objects -/

/-- A facet of a table, if tables have it. -/
def Table.part? (table : Table) : FacetKind → Option (Facet FacetValue)
  | .columns => some (table.relation.columns.map .columns)
  | kind => table.facet? kind

/-- A facet of a view, if views have it. -/
def View.part? (view : View) : FacetKind → Option (Facet FacetValue)
  | .columns => some (view.relation.columns.map .columns)
  | kind => view.facet? kind

/-- A facet of a procedure, if procedures have it. -/
def Procedure.part? (procedure : Procedure) : FacetKind → Option (Facet FacetValue)
  | .parameters => some (procedure.parameters.map .parameters)
  | kind => procedure.facet? kind

/-- What is made of a facet was read with its loader. -/
theorem Facet.ReadBy.map {loader : Option LoaderId} {Q : LoaderId → α → Prop} {facet : Facet α}
    (h : facet.ReadBy loader Q) (f : α → β) : (facet.map f).Rests loader := by
  cases facet with
  | unloaded => trivial
  | loading => cases h
  | loaded a =>
    obtain ⟨l, hl, -⟩ := h
    exact ⟨l, hl, trivial⟩

/-- What was read of an object has its identifier for a parent. -/
theorem Facet.ReadBy.members {owner : Uuid} {loader : Option LoaderId} {facet : Facet (List α)}
    {item : α → Item}
    (h : facet.ReadBy loader fun l as => ∀ a ∈ as, (item a).Belongs (some owner) (some l)) :
    ∀ member ∈ facet.items.map item, member.parent = some owner ∧ member.loader = loader := by
  cases facet with
  | unloaded => exact List.forall_mem_nil _
  | loading => cases h
  | loaded as =>
    obtain ⟨l, rfl, read⟩ := h
    refine List.forall_mem_map.mpr fun a ha => ?_
    obtain ⟨_, place⟩ := read a ha
    exact ⟨place.parent, place.loader⟩

namespace Object

/-- A facet of the object with its value in full, if such objects have it. -/
def part? : Object → FacetKind → Option (Facet FacetValue)
  | table t => t.part?
  | view v => v.part?
  | procedure p => p.part?

/-- The columns or parameters that were read of the object. -/
def members : Object → List Item
  | table t => t.relation.columns.items.map (·.item)
  | view v => v.relation.columns.items.map (·.item)
  | procedure p => p.parameters.items.map (·.item)

/-- The object is in its place. -/
def At (place : Place) : Object → Prop
  | table t => t.At place
  | view v => v.At place
  | procedure p => p.At place

variable {place : Place} {object : Object}

theorem At.item (h : object.At place) : object.item.At place := by
  cases object with
  | table t => exact Relation.At.item (Table.At.relation h)
  | view v => exact Relation.At.item (View.At.relation h)
  | procedure p => exact Procedure.At.item h

theorem At.members (h : object.At place) : ∀ member ∈ object.members,
    member.parent = some place.id ∧ member.loader = place.loader := by
  cases object with
  | table t => exact (Relation.At.columns (Table.At.relation h)).members
  | view v => exact (Relation.At.columns (View.At.relation h)).members
  | procedure p => exact (Procedure.At.parameters h).members

/-- Whatever part there is was read with the loader of the place. -/
theorem At.part (h : object.At place) {kind : FacetKind} {facet : Facet FacetValue}
    (hf : object.part? kind = some facet) : facet.Rests place.loader := by
  cases object with
  | table t =>
    obtain ⟨relation, primaryKey, foreignKeys, checkConstraints, uniqueConstraints, indices,
      externalPath⟩ := h
    cases kind <;> cases hf
    · exact relation.columns.map _
    · exact primaryKey.map _
    · exact foreignKeys.map _
    · exact checkConstraints.map _
    · exact uniqueConstraints.map _
    · exact indices.map _
    · exact externalPath.map _
    · exact relation.description.map _
  | view v =>
    obtain ⟨relation, source⟩ := h
    cases kind <;> cases hf
    · exact relation.columns.map _
    · exact source.map _
    · exact relation.description.map _
  | procedure p =>
    obtain ⟨_, parameters, source, privileges, description⟩ := h
    cases kind <;> cases hf
    · exact source.map _
    · exact parameters.map _
    · exact privileges.map _
    · exact description.map _

/-- Loading a facet leaves the object in its place. -/
theorem At.load (h : object.At place) (kind : FacetKind) :
    Leads Issues (object.load kind) fun r => r.2.At place := by
  cases object with
  | table t => exact (Table.At.load h kind).map fun _ hr => hr
  | view v => exact (View.At.load h kind).map fun _ hr => hr
  | procedure p => exact (Procedure.At.load h kind).map fun _ hr => hr

end Object

/-- The objects of a database belong to it, and have its loader. -/
theorem Database.At.object {place : Place} {database : Database} (h : database.At place)
    {object : Object} (ho : object ∈ database.objects) :
    ∃ id, object.At ⟨id, some place.id, place.loader⟩ := by
  simp only [Database.objects, List.mem_append, List.mem_map] at ho
  rcases ho with (⟨t, ht, rfl⟩ | ⟨v, hv, rfl⟩) | ⟨p, hp, rfl⟩
  · exact h.tables t ht
  · exact h.views v hv
  · exact h.procedures p hp

/-! ## Identifiers -/

/-- Identifiers do not recur before all have been in use. -/
theorem Uuid.numbered_injective {seed : BitVec 64} {m n : Nat} (hm : m < UInt64.size)
    (hn : n < UInt64.size) (h : numbered seed m = numbered seed n) : m = n := by
  have low := congrArg (fun id : Uuid => id.bits.setWidth 64) h
  simp only [numbered, BitVec.setWidth_append_eq_right] at low
  have count := congrArg BitVec.toNat low
  simp only [BitVec.toNat_ofNat] at count
  rw [UInt64.size] at hm hn
  omega

namespace Workspace

/-- Each server has an identifier that was handed out, and none has that of
another one. -/
structure Numbers (world : World) (servers : Named Server) : Prop where
  issued : ∀ p ∈ servers, ∃ n < world.issued, p.2.id = Uuid.numbered world.seed n
  apart : world.issued ≤ UInt64.size → ∀ p ∈ servers, ∀ q ∈ servers, p.2.id = q.2.id → p = q

theorem Numbers.issues {w w' : World} {servers : Named Server} (h : Numbers w servers)
    (hw : w.Issues w') : Numbers w' servers where
  issued p hp := by
    obtain ⟨n, bound, id⟩ := h.issued p hp
    exact ⟨n, Nat.lt_of_lt_of_le bound hw.issued, by rw [id, hw.seed]⟩
  apart bound := h.apart (Nat.le_trans hw.issued bound)

/-- A server that is put in the place of itself keeps its number. -/
theorem Numbers.put {w : World} {servers : Named Server} {name : String} {server server' : Server}
    (h : Numbers w servers) (hs : (name, server) ∈ servers) (same : server'.id = server.id) :
    Numbers w (Named.put name server' servers) := by
  have other {q : String × Server} (hq : q ∈ servers.filter (·.1 != name)) :
      q ∈ servers ∧ q.1 ≠ name :=
    ⟨(List.mem_filter.mp hq).1, bne_iff_ne.mp (List.mem_filter.mp hq).2⟩
  have alone (bound : w.issued ≤ UInt64.size) {q : String × Server}
      (hq : q ∈ servers.filter (·.1 != name)) : server.id ≠ q.2.id := fun id =>
    (other hq).2 (congrArg Prod.fst (h.apart bound _ hs q (other hq).1 id)).symm
  refine ⟨Discipline.forall_put (P := fun s : Server => ∃ n < w.issued, s.id = .numbered w.seed n)
    h.issued ?_, fun bound p hp q hq id => ?_⟩
  · obtain ⟨n, bound, id⟩ := h.issued _ hs
    exact ⟨n, bound, same.trans id⟩
  · rcases List.mem_cons.mp hp with rfl | hp <;> rcases List.mem_cons.mp hq with rfl | hq
    · rfl
    · exact absurd (same.symm.trans id) (alone bound hq)
    · exact absurd (same.symm.trans id.symm) (alone bound hp)
    · exact h.apart bound p (other hp).1 q (other hq).1 id

/-- A new server takes the next number. -/
theorem Numbers.new {w : World} {servers : Named Server} {name : String}
    (h : Numbers w servers) (server : Server) (id : server.id = Uuid.numbered w.seed w.issued) :
    Numbers { w with issued := w.issued + 1 } (Named.put name server servers) := by
  have next : Numbers { w with issued := w.issued + 1 } servers := h.issues ⟨rfl, Nat.le_succ _⟩
  have alone (bound : w.issued + 1 ≤ UInt64.size) {q : String × Server} (hq : q ∈ servers) :
      server.id ≠ q.2.id := by
    obtain ⟨n, before, number⟩ := h.issued q hq
    rw [id, number]
    intro same
    have := Uuid.numbered_injective (by omega) (by omega) same
    omega
  have old {q : String × Server} (hq : q ∈ servers.filter (·.1 != name)) : q ∈ servers :=
    (List.mem_filter.mp hq).1
  refine ⟨Discipline.forall_put
    (P := fun s : Server => ∃ n < w.issued + 1, s.id = .numbered w.seed n) next.issued
    ⟨w.issued, Nat.lt_succ_self _, id⟩, fun bound p hp q hq same => ?_⟩
  rcases List.mem_cons.mp hp with rfl | hp <;> rcases List.mem_cons.mp hq with rfl | hq
  · rfl
  · exact absurd same (alone bound (old hq))
  · exact absurd same.symm (alone bound (old hp))
  · exact next.apart bound p (old hp) q (old hq) same

/-! ## Workspaces -/

/-- All that the workspace holds is in its place. -/
structure InPlace (s : Workspace) : Prop where
  databases : ∀ p ∈ s.databases, p.2.Belongs none
  tables : ∀ p ∈ s.tables, p.2.Belongs none none
  views : ∀ p ∈ s.views, p.2.Belongs none none
  procedures : ∀ p ∈ s.procedures, p.2.Belongs none none
  items : ∀ p ∈ s.items, ∃ place, p.2.At place
  servers : ∀ p ∈ s.servers, p.2.At ⟨p.2.id, none, none⟩
  numbers : Numbers s.world s.servers

/-- A database is free or belongs to a server that has it. -/
theorem InPlace.everyDatabase {s : Workspace} (h : s.InPlace) {database : Database}
    (hd : database ∈ s.everyDatabase) : database.Belongs none ∨
      ∃ p ∈ s.servers, database ∈ p.2.databases ∧ database.Belongs (some p.2.id) := by
  simp only [Workspace.everyDatabase, List.mem_append, List.mem_map, List.mem_flatMap] at hd
  rcases hd with ⟨p, hp, rfl⟩ | ⟨p, hp, hd⟩
  · exact .inl (h.databases p hp)
  · exact .inr ⟨p, hp, hd, (h.servers p hp).databases database hd⟩

theorem InPlace.everyObject {s : Workspace} (h : s.InPlace) {object : Object}
    (ho : object ∈ s.everyObject) : ∃ place, object.At place := by
  simp only [Workspace.everyObject, List.mem_append, List.mem_map, List.mem_flatMap] at ho
  rcases ho with ((⟨t, ht, rfl⟩ | ⟨v, hv, rfl⟩) | ⟨p, hp, rfl⟩) | ⟨d, hd, ho⟩
  · obtain ⟨id, place⟩ := h.tables t ht
    exact ⟨_, place⟩
  · obtain ⟨id, place⟩ := h.views v hv
    exact ⟨_, place⟩
  · obtain ⟨id, place⟩ := h.procedures p hp
    exact ⟨_, place⟩
  · obtain ⟨id, loader, place⟩ | ⟨_, _, _, id, loader, place⟩ := h.everyDatabase hd
    all_goals
      obtain ⟨_, place⟩ := place.object ho
      exact ⟨_, place⟩

theorem InPlace.issues {s : Workspace} (h : s.InPlace) {w : World} (hw : s.world.Issues w) :
    InPlace { s with world := w } :=
  { h with numbers := h.numbers.issues hw }

/-- A computation leaves a workspace in place, and its result has a property. -/
structure Houses (m : Working α) (Q : α → Prop) : Prop where
  inPlace (s : Workspace) : s.InPlace → (m s).2.InPlace
  result (s : Workspace) : s.InPlace → Q (m s).1

namespace Houses

variable {P : α → Prop}

theorem pure {a : α} (h : P a) : Houses (Pure.pure a) P :=
  ⟨fun _ hs => hs, fun _ _ => h⟩

theorem bind {m : Working α} {f : α → Working β} {Q : β → Prop} (hm : Houses m P)
    (hf : ∀ a, P a → Houses (f a) Q) : Houses (m >>= f) Q :=
  ⟨fun s hs => (hf _ (hm.result s hs)).inPlace _ (hm.inPlace s hs),
    fun s hs => (hf _ (hm.result s hs)).result _ (hm.inPlace s hs)⟩

theorem map {m : Working α} {f : α → β} {Q : β → Prop} (hm : Houses m P)
    (hf : ∀ a, P a → Q (f a)) : Houses (do Pure.pure (f (← m))) Q :=
  ⟨hm.inPlace, fun s hs => hf _ (hm.result s hs)⟩

theorem mono {m : Working α} {Q : α → Prop} (hm : Houses m P) (h : ∀ a, P a → Q a) :
    Houses m Q :=
  ⟨hm.inPlace, fun s hs => h _ (hm.result s hs)⟩

/-- A computation of which only the workspace matters. -/
theorem quiet {m : Working α} {f : α → β} (hm : Houses m P) :
    Houses (do Pure.pure (f (← m))) fun _ => True :=
  hm.map fun _ _ => trivial

/-- A computation that reads the workspace. -/
theorem reading {f : Workspace → Working α} (hf : ∀ s : Workspace, s.InPlace → Houses (f s) P) :
    Houses (do f (← get)) P :=
  ⟨fun s hs => (hf s hs).inPlace s hs, fun s hs => (hf s hs).result s hs⟩

theorem change {f : Workspace → Workspace} (hf : ∀ s : Workspace, s.InPlace → (f s).InPlace) :
    Houses (modify f : Working PUnit) fun _ => True :=
  ⟨hf, fun _ _ => trivial⟩

theorem engine {m : Engine α} (hm : Leads Issues m P) : Houses (Workspace.engine m) P :=
  ⟨fun s hs => hs.issues (hm.course s.world), fun s _ => hm.result s.world⟩

/-- A new thing that is put under a name. -/
theorem made {m : Engine α} (hm : Leads Issues m P) {f : α → Workspace → Workspace}
    (hf : ∀ a, P a → ∀ s : Workspace, s.InPlace → (f a s).InPlace) :
    Houses (do
      let a ← Workspace.engine m
      modify (f a)
      Pure.pure (none : Option Error)) fun _ => True :=
  (engine hm).bind fun a ha => (change (f := f a) (hf a ha)).quiet

theorem attempt {query : Query Unit} (hq : Leads Issues query.run fun _ => True) :
    Houses (Step.attempt query) fun _ => True :=
  (engine hq).quiet

theorem withNamed {named : Workspace → Named α} {name : String}
    {use : α → Working (Option Error)} (hn : ∀ s : Workspace, s.InPlace → ∀ p ∈ named s, P p.2)
    (hu : ∀ a, P a → Houses (use a) fun _ => True) :
    Houses (Step.withNamed named name use) fun _ => True := by
  refine reading fun s hs => ?_
  cases hl : (named s).lookup name with
  | none => exact pure trivial
  | some a => exact hu a (hn s hs _ (mem_of_lookup hl))

/-! ## Operations in place -/

/-- An operation on the thing under a name, which it changes as `M` says. `get`
and `set` have to read and write things of one kind. -/
theorem onNamed {get : Workspace → Named σ} {set : Named σ → Workspace → Workspace}
    {operation : σ → Engine (α × σ)} {M : σ → σ → Prop}
    (hg : ∀ (s : Workspace) (world : World), get { s with world } = get s)
    (hs : ∀ (s : Workspace) (name : String) (a a' : σ), s.InPlace → (name, a) ∈ get s → M a a' →
      (set (Named.put name a' (get s)) s).InPlace)
    (ho : ∀ (s : Workspace) (p : String × σ), s.InPlace → p ∈ get s →
      Leads Issues (operation p.2) fun r => M p.2 r.2 ∧ P r.1)
    (name : String) :
    Houses (Workspace.onNamed get set name operation) fun r => ∀ a, r = some a → P a := by
  have run (s : Workspace) (h : s.InPlace) :
      (Workspace.onNamed get set name operation s).2.InPlace ∧
        ∀ a, (Workspace.onNamed get set name operation s).1 = some a → P a := by
    unfold Workspace.onNamed
    rw [Discipline.Working.run_reading]
    cases hl : (get s).lookup name with
    | none => exact ⟨h, fun _ ha => absurd ha (Option.some_ne_none _).symm⟩
    | some a =>
      have member := mem_of_lookup hl
      have leads := ho s _ h member
      refine ⟨hs _ name a _ (h.issues (leads.course s.world)) ?_ (leads.result s.world).1, ?_⟩
      · rw [hg]
        exact member
      · exact fun _ hb => Option.some.inj hb ▸ (leads.result s.world).2
  exact ⟨fun s h => (run s h).1, fun s h => (run s h).2⟩

theorem onServer {operation : Server → Engine (α × Server)}
    (ho : ∀ {place server}, Server.At place server →
      Leads Issues (operation server) fun r => r.2.At place ∧ P r.1) (name : String) :
    Houses (Workspace.onServer name operation) fun r => ∀ a, r = some a → P a := by
  refine onNamed (M := fun s s' => s'.At ⟨s.id, none, none⟩) (fun _ _ => rfl) ?_
    (fun s p hs hp => ho (hs.servers p hp)) name
  intro s name server server' hs hm moved
  have same : server'.id = server.id := moved.item.id
  refine { hs with servers := ?_, numbers := hs.numbers.put hm same }
  exact Discipline.forall_put (P := fun s : Server => s.At ⟨s.id, none, none⟩) hs.servers
    (same ▸ moved)

/-- An operation on a thing that no other one owns. -/
theorem onFree {get : Workspace → Named σ} {set : Named σ → Workspace → Workspace}
    {operation : σ → Engine (α × σ)} {K : σ → Prop}
    (hg : ∀ (s : Workspace) (world : World), get { s with world } = get s)
    (hk : ∀ s : Workspace, s.InPlace → ∀ p ∈ get s, K p.2)
    (hs : ∀ (s : Workspace) (named : Named σ), s.InPlace → (∀ p ∈ named, K p.2) →
      (set named s).InPlace)
    (ho : ∀ a, K a → Leads Issues (operation a) fun r => K r.2) (name : String) :
    Houses (Workspace.onNamed get set name operation) fun _ => True :=
  (onNamed (M := fun _ a => K a) (P := fun _ => True) hg
    (fun s _ _ _ h _ ha => hs s _ h (Discipline.forall_put (hk s h) ha))
    (fun s p h hp => (ho p.2 (hk s h p hp)).mono fun _ hr => ⟨hr, trivial⟩) name).mono
    fun _ _ => trivial

theorem onFreeItem {operation : Item → Engine (α × Item)}
    (ho : ∀ {place item}, Item.At place item → Leads Issues (operation item) fun r => r.2.At place)
    (name : String) : Houses (Workspace.onFreeItem name operation) fun _ => True := by
  unfold Workspace.onFreeItem
  refine onFree (K := fun item : Item => ∃ place, item.At place) (fun _ _ => rfl) ?_ ?_ ?_ name
  · exact fun _ hs => hs.items
  · exact fun _ _ hs hn => { hs with items := hn }
  · exact fun _ ⟨place, h⟩ => (ho h).mono fun _ hr => ⟨place, hr⟩

theorem onDatabase {operation : Database → Engine (α × Database)}
    (ho : ∀ parent d, Database.Belongs parent d →
      Leads Issues (operation d) fun r => r.2.Belongs parent) (name : String) :
    Houses (Workspace.onDatabase name operation) fun _ => True := by
  refine reading fun s hs => ?_
  split
  · refine onFree (K := Database.Belongs none) (fun _ _ => rfl) ?_ ?_ (ho none) name
    · exact fun _ hs => hs.databases
    · exact fun _ _ hs hn => { hs with databases := hn }
  · split
    · exact pure trivial
    · next owner id _ =>
      exact (onServer (P := fun _ => True) (fun h => (h.onDatabase ho id).mono fun _ hr =>
        ⟨hr, trivial⟩) owner).quiet

/-- Operations on the objects of databases are operations on databases. -/
theorem onMember {operation : Database → Engine (Option α × Database)}
    (ho : ∀ {place d}, Database.At place d → Leads Issues (operation d) fun r => r.2.At place)
    (name : String) :
    Houses (do Pure.pure (← Workspace.onDatabase name operation).join) fun _ => True :=
  (onDatabase (fun _ _ ⟨_, _, h⟩ => (ho h).mono fun _ hr => hr.belongs) name).quiet

theorem onTable {operation : Table → Engine (α × Table)}
    (ho : ∀ place t, Table.At place t → Leads Issues (operation t) fun r => r.2.At place)
    (address : Address) : Houses (Workspace.onTable address operation) fun _ => True := by
  unfold Workspace.onTable
  split
  · exact pure trivial
  · exact onMember (·.onTable ho _) _
  · refine onFree (K := Table.Belongs none none) (fun _ _ => rfl) ?_ ?_ ?_ _
    · exact fun _ hs => hs.tables
    · exact fun _ _ hs hn => { hs with tables := hn }
    · exact fun _ ⟨id, h⟩ => (ho _ _ h).mono fun _ hr => ⟨id, hr⟩

theorem onView {operation : View → Engine (α × View)}
    (ho : ∀ place v, View.At place v → Leads Issues (operation v) fun r => r.2.At place)
    (address : Address) : Houses (Workspace.onView address operation) fun _ => True := by
  unfold Workspace.onView
  split
  · exact pure trivial
  · exact onMember (·.onView ho _) _
  · refine onFree (K := View.Belongs none none) (fun _ _ => rfl) ?_ ?_ ?_ _
    · exact fun _ hs => hs.views
    · exact fun _ _ hs hn => { hs with views := hn }
    · exact fun _ ⟨id, h⟩ => (ho _ _ h).mono fun _ hr => ⟨id, hr⟩

theorem onProcedure {operation : Procedure → Engine (α × Procedure)}
    (ho : ∀ place p, Procedure.At place p → Leads Issues (operation p) fun r => r.2.At place)
    (address : Address) : Houses (Workspace.onProcedure address operation) fun _ => True := by
  unfold Workspace.onProcedure
  split
  · exact pure trivial
  · exact onMember (·.onProcedure ho _) _
  · refine onFree (K := Procedure.Belongs none none) (fun _ _ => rfl) ?_ ?_ ?_ _
    · exact fun _ hs => hs.procedures
    · exact fun _ _ hs hn => { hs with procedures := hn }
    · exact fun _ ⟨id, h⟩ => (ho _ _ h).mono fun _ hr => ⟨id, hr⟩

end Houses

end Workspace

end MetaCatalog
