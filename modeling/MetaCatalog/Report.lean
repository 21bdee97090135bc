import MetaCatalog.History.Policy
import MetaCatalog.Logging
import MetaCatalog.Node
import MetaCatalog.Value.Document

/-!
# Reports

What is told about objects, as JSON documents.
-/

namespace MetaCatalog

/-! ## Outcomes -/

/-- The document of a result. -/
def Json.ok (value : Json) : Json := .fields [("ok", value)]

/-- The document of a failure. -/
def Json.failure (kind message : String) : Json :=
  .fields [("error", .str kind), ("message", .str message)]

/-- The document of an error. -/
def Error.report (error : Error) : Json := .failure error.kind error.message

/-- The document of an outcome. -/
def Json.outcome (encode : α → Json) : Except Error α → Json
  | .ok value => .ok (encode value)
  | .error e => e.report

/-- An object with further members. -/
def Json.withFields (value : Json) (more : List (String × Json)) : Json :=
  .fields (value.members ++ more)

/-! ## Names, rows and settings -/

/-- The document of a name. -/
def Identifier.report (name : Identifier) : Json :=
  .fields [("raw", .str name.raw), ("quoted", .str name.quoted), ("display", .str name.raw),
    ("empty", .bool name.isEmpty), ("system", .bool name.isSystem)]

/-- The document of how a value reads. -/
def Value.readings (value : Value) : Json :=
  .fields [("is_null", .bool value.isNull), ("as_str", .opt .str value.text?),
    ("as_i64", .opt .ofInt64 value.integer?), ("as_f64", .opt (fun x => .str x.hex) value.number?),
    ("display", .str value.toText), ("value", value.report)]

/-- The document of how a column of a row reads. -/
def Row.readings (row : Row) (default : Int64) (position : Nat) : Json :=
  .fields [("get", .outcome Value.report (row.cell position)),
    ("null", .outcome .bool (row.isNull position)),
    ("blob", .outcome .str (row.blob position)),
    ("trimmed", .outcome .str (row.trimmed position)),
    ("i64", .outcome .ofInt64 (row.integer position default)),
    ("optional", .outcome (.opt .str) (row.optional position))]

/-- The members that tell a history policy and which statements of the given
lengths it accepts. -/
def HistoryPolicy.readings (policy : HistoryPolicy) (lengths : List Nat) : List (String × Json) :=
  [("settings", policy.report), ("max_items", .opt .nat policy.maxEntries?),
    ("accepts", .list (fun length => .bool (policy.accepts length)) lengths)]

/-- The document of a logging profile. -/
def LoggingProfile.report (profile : LoggingProfile) : Json :=
  .fields [("json_file", .bool profile.toFile), ("console", .bool profile.toConsole),
    ("filter", .str profile.filter), ("log_dir", .str profile.directory.text)]

/-! ## Columns, parameters and what belongs to tables -/

/-- The document of a field type. -/
def FieldType.report (type : FieldType) : Json :=
  .fields [("field_type", .ofInt64 type.code), ("sub_type", .ofInt64 type.subType),
    ("length", .ofInt64 type.length), ("precision", .ofInt64 type.precision),
    ("scale", .ofInt64 type.scale), ("char_length", .opt .ofInt64 type.charLength)]

/-- The document of a column. -/
def Column.report (column : Column) : Json :=
  let definition := column.definition
  .fields [("name", .str column.item.name.raw), ("quoted", .str column.item.quotedName),
    ("position", .ofInt64 definition.position), ("domain", .str definition.domain),
    ("datatype", .str definition.type.sql), ("field_type", definition.type.report),
    ("nullable", .bool definition.nullable), ("default", .opt .str definition.default),
    ("computed_source", .opt .str definition.computedSource),
    ("collation", .opt .str definition.collation), ("charset", .opt .str definition.charset),
    ("description", .opt .str definition.description),
    ("user_domain", .bool definition.hasUserDomain),
    ("has_default", .bool definition.hasDefault), ("computed", .bool definition.isComputed),
    ("has_loader", .bool column.item.loader.isSome)]

/-- The document of a parameter. -/
def Parameter.report (parameter : Parameter) : Json :=
  let definition := parameter.definition
  .fields [("name", .str parameter.item.name.raw), ("quoted", .str parameter.item.quotedName),
    ("direction", .str definition.direction.label), ("position", .ofInt64 definition.position),
    ("domain", .str definition.domain), ("datatype", .str definition.type.sql),
    ("field_type", definition.type.report), ("charset", .opt .str definition.charset),
    ("input", .bool definition.isInput), ("output", .bool definition.isOutput)]

/-- The document of a primary key. -/
def PrimaryKey.report (key : PrimaryKey) : Json :=
  .fields [("name", .str key.name), ("columns", .list .str key.columns),
    ("index_name", .str key.indexName)]

/-- The document of a unique constraint. -/
def UniqueConstraint.report (constraint : UniqueConstraint) : Json :=
  .fields [("name", .str constraint.name), ("columns", .list .str constraint.columns),
    ("index_name", .str constraint.indexName)]

/-- The document of a foreign key. -/
def ForeignKey.report (key : ForeignKey) : Json :=
  .fields [("name", .str key.name), ("table", .str key.table),
    ("columns", .list .str key.columns), ("referenced_table", .str key.referencedTable),
    ("referenced_columns", .list .str key.referencedColumns),
    ("update_action", .str key.updateAction.label), ("delete_action", .str key.deleteAction.label),
    ("index_name", .str key.indexName), ("join", .str key.joinCondition)]

/-- The document of a check constraint. -/
def CheckConstraint.report (constraint : CheckConstraint) : Json :=
  .fields [("name", .str constraint.name), ("source", .str constraint.source)]

/-- The document of an index. -/
def Index.report (index : Index) : Json :=
  .fields [("name", .str index.name), ("unique", .bool index.unique),
    ("active", .bool index.active), ("direction", .str index.direction.label),
    ("statistics", .str index.statistics.hex), ("system", .bool index.isSystem),
    ("expression", .str index.expression), ("segments", .list .str index.segments),
    ("columns", .str index.columnText)]

/-- The document of the rights of one holder. -/
def Privilege.report (privilege : Privilege) : Json :=
  .fields [("grantee", .str privilege.grantee), ("grantee_type", .ofInt64 privilege.granteeType),
    ("grantor", .str privilege.grantor), ("grant_option", .bool privilege.grantOption),
    ("privileges", .list (fun code => .str (String.ofList [code])) privilege.codes)]

/-- The document of a dependency. -/
def Dependency.report (dependency : Dependency) : Json :=
  .fields [("name", .str dependency.name), ("kind", .str dependency.kind.label)]

/-! ## Catalogs and items -/

/-- The document of a query that was run. -/
def Execution.report (execution : Execution) : Json :=
  .fields [("sql", .str execution.sql), ("params", .list Value.report execution.parameters)]

/-- The document of what a catalog has counted. -/
def Catalog.report (catalog : Catalog) : Json :=
  .fields [("database", .str catalog.database), ("user", .str catalog.user),
    ("password", .str catalog.password), ("connected", .bool catalog.connected),
    ("in_transaction", .bool catalog.inTransaction), ("started", .nat catalog.started),
    ("commits", .nat catalog.commits), ("rollbacks", .nat catalog.rollbacks),
    ("prepared", .nat catalog.prepared), ("executed", .nat catalog.journal.length)]

/-- The document of a loader. -/
def LoaderId.report (id : LoaderId) (world : World) : Json :=
  let loader := world.loader id
  .fields [("statements", .nat loader.statements.length), ("depth", .nat loader.depth),
    ("database", .str (world.catalogOf id).database)]

/-- A diagnostic with a word in the place of each identifier of an item. -/
def Item.anonymous (item : Item) (diagnostic : String) : String :=
  let diagnostic := diagnostic.replace item.id.text "<id>"
  match item.parent with
  | some parent => diagnostic.replace parent.text "<parent>"
  | none => diagnostic

/-- The document of an item. -/
def Item.report (item : Item) (world : World) : Json :=
  .fields [("kind", .str item.kind.label), ("type_name", .str item.kind.typeName),
    ("name", .str item.name.raw), ("quoted", .str item.quotedName),
    ("has_parent", .bool item.parent.isSome), ("has_loader", .bool item.loader.isSome),
    ("last_error", .opt .str item.lastError), ("locked", .bool item.subject.isLocked),
    ("observers", .nat (item.subject.observerCount world.isAlive)),
    ("same_id", .bool (item.subject.id == item.id)),
    ("debug", .str (item.anonymous item.diagnostic))]

/-- The document of the nodes directly below a node. -/
def Node.childReport (node : Node) : Json :=
  let entry (child : Node) : Json :=
    .array [.str child.item.kind.typeName, .str child.item.name.raw,
      .bool (child.item.parent == some node.item.id)]
  .fields [("any", .bool node.hasChildren), ("list", .list entry node.children)]

/-! ## Databases and servers -/

/-- The document of a database. -/
def Database.report (database : Database) (world : World) : Json :=
  let loader := database.loader.map world.loader
  .fields [("name", .str database.name.raw), ("path", .str database.path),
    ("username", .str database.username), ("password", .str database.password),
    ("role", .str database.role), ("charset", .str database.charset),
    ("connected", .bool (database.isConnected world)),
    ("connected_username", .opt .str (database.connectedUser? world)),
    ("connected_password", .opt .str (database.connectedPassword? world)),
    ("has_loader", .bool loader.isSome),
    ("statements", .opt .nat (loader.map (·.statements.length))),
    ("depth", .opt .nat (loader.map (·.depth))),
    ("tables", .list .str (database.tables.map (·.name.raw))),
    ("views", .list .str (database.views.map (·.name.raw))),
    ("procedures", .list .str (database.procedures.map (·.name.raw))),
    ("has_parent", .bool database.item.parent.isSome)]

/-- The document of an account. -/
def Account.report (account : Account) : Json :=
  .fields [("username", .str account.username), ("first_name", .str account.firstName),
    ("middle_name", .str account.middleName), ("last_name", .str account.lastName),
    ("user_id", .ofInt64 account.userId), ("group_id", .ofInt64 account.groupId)]

/-- The document of a server. -/
def Server.report (server : Server) (world : World) : Json :=
  let entry (database : Database) : Json :=
    .array [.str database.name.raw, .bool (database.item.parent == some server.id)]
  .fields [("name", .str server.name.raw), ("host", .str server.host), ("port", .str server.port),
    ("connection_string", .str server.endpoint), ("service_user", .str server.known.username),
    ("service_password", .str server.known.password),
    ("sysdba_password", .str server.known.administratorPassword),
    ("connected", .bool (server.hasConnectedDatabase world)),
    ("databases", .list entry server.databases), ("users", .list Account.report server.accounts)]

/-- The document of a login that was tried. -/
def Login.report (login : Login) : Json :=
  .list .str [login.endpoint, login.username, login.password]

/-- The document of what an indicator was shown. -/
def ProgressCall.report? : ProgressCall → Option Json
  | start text steps => some (.array [.str "init", .str text, .nat steps])
  | message text => some (.array [.str "message", .str text])
  | step => some (.array [.str "step"])
  | poll => none

end MetaCatalog
