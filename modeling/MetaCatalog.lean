import MetaCatalog.Json.Printer
import MetaCatalog.Logging
import MetaCatalog.Procedure.Script
import MetaCatalog.Proofs.Client.Announcements
import MetaCatalog.Proofs.Client.ChildLocks
import MetaCatalog.Proofs.Client.Connecting
import MetaCatalog.Proofs.Client.Constraints
import MetaCatalog.Proofs.Client.Dialogues
import MetaCatalog.Proofs.Client.FailedLoads
import MetaCatalog.Proofs.Client.Freshness
import MetaCatalog.Proofs.Client.Independence
import MetaCatalog.Proofs.Client.Indices
import MetaCatalog.Proofs.Client.Interleavings
import MetaCatalog.Proofs.Client.Invalidations
import MetaCatalog.Proofs.Client.Inventory
import MetaCatalog.Proofs.Client.Lineage
import MetaCatalog.Proofs.Client.Links
import MetaCatalog.Proofs.Client.Loads
import MetaCatalog.Proofs.Client.Locks
import MetaCatalog.Proofs.Client.ObjectLists
import MetaCatalog.Proofs.Client.Oblivious
import MetaCatalog.Proofs.Client.Ownership
import MetaCatalog.Proofs.Client.Places
import MetaCatalog.Proofs.Client.Privileges
import MetaCatalog.Proofs.Client.Regrouping
import MetaCatalog.Proofs.Client.Releases
import MetaCatalog.Proofs.Client.Runs
import MetaCatalog.Proofs.Client.Sessions
import MetaCatalog.Proofs.Client.Steps
import MetaCatalog.Proofs.Client.Transactions
import MetaCatalog.Proofs.Client.Walks
import MetaCatalog.Proofs.Client.Workspaces
import MetaCatalog.Proofs.Framework.Answers
import MetaCatalog.Proofs.Framework.Balance
import MetaCatalog.Proofs.Framework.Blind
import MetaCatalog.Proofs.Framework.Bracket
import MetaCatalog.Proofs.Framework.Calls
import MetaCatalog.Proofs.Framework.Databases
import MetaCatalog.Proofs.Framework.Discipline
import MetaCatalog.Proofs.Framework.Engine
import MetaCatalog.Proofs.Framework.Executions
import MetaCatalog.Proofs.Framework.Fetch
import MetaCatalog.Proofs.Framework.ForeignKeys
import MetaCatalog.Proofs.Framework.Leads
import MetaCatalog.Proofs.Framework.LikeDatabases
import MetaCatalog.Proofs.Framework.LikeItems
import MetaCatalog.Proofs.Framework.LikeObjects
import MetaCatalog.Proofs.Framework.Likeness
import MetaCatalog.Proofs.Framework.Lineage
import MetaCatalog.Proofs.Framework.Links
import MetaCatalog.Proofs.Framework.Lookups
import MetaCatalog.Proofs.Framework.Names
import MetaCatalog.Proofs.Framework.Objects
import MetaCatalog.Proofs.Framework.Ownership
import MetaCatalog.Proofs.Framework.Places
import MetaCatalog.Proofs.Framework.Positions
import MetaCatalog.Proofs.Framework.Reads
import MetaCatalog.Proofs.Framework.Regrouping
import MetaCatalog.Proofs.Framework.Selection
import MetaCatalog.Proofs.Framework.Tellings
import MetaCatalog.Proofs.Framework.Tidy
import MetaCatalog.Proofs.History.Additions
import MetaCatalog.Proofs.History.Interference
import MetaCatalog.Proofs.History.Keys
import MetaCatalog.Proofs.History.Lifetimes
import MetaCatalog.Proofs.History.Loading
import MetaCatalog.Proofs.History.Numerals
import MetaCatalog.Proofs.History.Policies
import MetaCatalog.Proofs.History.Registry
import MetaCatalog.Proofs.History.Settings
import MetaCatalog.Proofs.History.Storage
import MetaCatalog.Proofs.Identifier.CatalogForm
import MetaCatalog.Proofs.Identifier.Lists
import MetaCatalog.Proofs.Identifier.Quoting
import MetaCatalog.Proofs.Identifier.Reserved
import MetaCatalog.Proofs.Loader.Periods
import MetaCatalog.Proofs.Loader.Shelves
import MetaCatalog.Proofs.Rows.Readers
import MetaCatalog.Proofs.Rows.Runs
import MetaCatalog.Proofs.Service.Accounts
import MetaCatalog.Proofs.Service.Fallback
import MetaCatalog.Proofs.Service.Isolation
import MetaCatalog.Proofs.Service.Parts
import MetaCatalog.Proofs.Service.Polls
import MetaCatalog.Proofs.Service.Repeats
import MetaCatalog.Proofs.Service.Sources
import MetaCatalog.Proofs.Settings.Documents
import MetaCatalog.Proofs.Settings.Files
import MetaCatalog.Proofs.Settings.Restarts
import MetaCatalog.Proofs.Settings.Utf8
import MetaCatalog.Proofs.Statements.Alterations
import MetaCatalog.Proofs.Statements.Parameters
import MetaCatalog.Proofs.Subject.Coalescing
import MetaCatalog.Proofs.Subject.Nesting
import MetaCatalog.Proofs.Subject.Receivers
import MetaCatalog.Report
import MetaCatalog.Subject.Audience
import MetaCatalog.Table.Script
import MetaCatalog.Workspace
