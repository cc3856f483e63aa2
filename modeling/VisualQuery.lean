import VisualQuery.Host.Tree
import VisualQuery.Main
import VisualQuery.Query.Summary
import VisualQuery.Session
import VisualQuery.Proofs.JoinRegistry.Changes
import VisualQuery.Proofs.Housing
import VisualQuery.Proofs.Query.Listing
import VisualQuery.Proofs.Query.Coherent
import VisualQuery.Proofs.Query.Items
import VisualQuery.Proofs.Query.Adding
import VisualQuery.Proofs.Query.Removing
import VisualQuery.Proofs.Query.Joins
import VisualQuery.Proofs.Query.Settings
import VisualQuery.Proofs.History
import VisualQuery.Proofs.Query.Refusals
import VisualQuery.Proofs.JoinGraph
import VisualQuery.Proofs.JoinGraph.Visits
import VisualQuery.Proofs.JoinRegistry.Built
import VisualQuery.Proofs.JoinGraph.Cycles
import VisualQuery.Proofs.JoinGraph.Steps
import VisualQuery.Proofs.JoinGraph.CrossJoins
import VisualQuery.Proofs.Sql.FromClause
import VisualQuery.Proofs.Document.Alike
import VisualQuery.Proofs.Document.Load
import VisualQuery.Proofs.JoinGraph.Connected
import VisualQuery.Proofs.JoinGraph.Roots
import VisualQuery.Proofs.Document.Checks
import VisualQuery.Proofs.Document.WellFormed
import VisualQuery.Proofs.JoinGraph.ListOrder
import VisualQuery.Proofs.Document.Loaded
import VisualQuery.Proofs.JoinRegistry.Flags
import VisualQuery.Proofs.Document.Normal
import VisualQuery.Proofs.JoinGraph.Relabel
import VisualQuery.Proofs.Sql.Relabel
import VisualQuery.Proofs.Query.Relabel
import VisualQuery.Proofs.Query.Duplicate
import VisualQuery.Proofs.Document.Copies
import VisualQuery.Proofs.EventLog
import VisualQuery.Proofs.Query.Ordinary
import VisualQuery.Proofs.Query.Steady
import VisualQuery.Proofs.CompoundEdits.Moves
import VisualQuery.Proofs.CompoundEdits.Log
import VisualQuery.Proofs.Accounts.Values
import VisualQuery.Proofs.Accounts.Recounts
import VisualQuery.Proofs.Accounts.Joins
import VisualQuery.Proofs.Accounts.Adding
import VisualQuery.Proofs.Accounts.Changes
import VisualQuery.Proofs.Accounts.Cascades
import VisualQuery.Proofs.Accounts.Reset
import VisualQuery.Proofs.Accounts.Log
import VisualQuery.Proofs.FailingListeners
import VisualQuery.Proofs.Query.UniqueItems
import VisualQuery.Proofs.Query.Undoing
import VisualQuery.Proofs.Document.Same
import VisualQuery.Proofs.Query.Shown
import VisualQuery.Proofs.Sql.ReadBack
import VisualQuery.Proofs.Sql.TablesReadBack
import VisualQuery.Proofs.Sql.Clauses
import VisualQuery.Proofs.Sql.Grouping
import VisualQuery.Proofs.Sql.JoinConditions
import VisualQuery.Proofs.Sql.JoinKeywords
import VisualQuery.Proofs.Uuid
import VisualQuery.Proofs.Json.Scalars
import VisualQuery.Proofs.Json.ReadBack
import VisualQuery.Proofs.Json.Records
import VisualQuery.Proofs.Document.ReadBack
import VisualQuery.Proofs.Query.Heard
import VisualQuery.Proofs.Query.TableRemoval
import VisualQuery.Proofs.Query.ItemRemoval
import VisualQuery.Proofs.Query.Resetting
import VisualQuery.Proofs.Query.DeadBranches
import VisualQuery.Proofs.Query.Blind
import VisualQuery.Proofs.Document.Pinned
import VisualQuery.Proofs.Query.AddedJoins
import VisualQuery.Proofs.Query.SortKeys
import VisualQuery.Proofs.Sql.Blanks
import VisualQuery.Proofs.Decimal.Shortest
import VisualQuery.Proofs.Json.NumberText
import VisualQuery.Proofs.Json.Compact
import VisualQuery.Proofs.Query.AnnouncedValues
import VisualQuery.Proofs.Sql.Quoting
import VisualQuery.Proofs.Sql.Dialects
import VisualQuery.Proofs.Settings.Expansion
import VisualQuery.Proofs.Subscriptions
import VisualQuery.Proofs.JoinGraph.DepthFirst
