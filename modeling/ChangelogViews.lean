import ChangelogViews.Config.Arguments
import ChangelogViews.Main
import ChangelogViews.Proofs.Views.Places
import ChangelogViews.Proofs.Views.Walks
import ChangelogViews.Proofs.Views.Keys
import ChangelogViews.Proofs.Views.ArrayNodes
import ChangelogViews.Proofs.Views.ArrayViews
import ChangelogViews.Proofs.Attempts
import ChangelogViews.Proofs.Views.LaidOut
import ChangelogViews.Proofs.Views.Correspondence
import ChangelogViews.Proofs.Sql.Regular
import ChangelogViews.Proofs.Views.Parity
import ChangelogViews.Proofs.Views.Anchoring
import ChangelogViews.Proofs.Batch.Settled
import ChangelogViews.Proofs.Batch.Isolation
import ChangelogViews.Proofs.Views.Declarations
import ChangelogViews.Proofs.Views.Nesting
import ChangelogViews.Proofs.Views.Unnesting
import ChangelogViews.Proofs.Views.Labels
import ChangelogViews.Proofs.Views.Outputs
import ChangelogViews.Proofs.Views.Shorthand
import ChangelogViews.Proofs.Views.Deletion
import ChangelogViews.Proofs.Views.Evolution
import ChangelogViews.Proofs.Batch.Replies
import ChangelogViews.Proofs.Batch.Submissions
import ChangelogViews.Proofs.Batch.Progress
import ChangelogViews.Proofs.Batch.Record
import ChangelogViews.Proofs.Batch.Acceptance
import ChangelogViews.Proofs.Store.Written
import ChangelogViews.Proofs.Program.Statements
import ChangelogViews.Proofs.Program.DryRun
import ChangelogViews.Proofs.Views.Legality
import ChangelogViews.Proofs.Sql.Escapes
import ChangelogViews.Proofs.Views.Spellings
import ChangelogViews.Proofs.Views.Origins
import ChangelogViews.Proofs.Views.Alphabet
import ChangelogViews.Proofs.Batch.LetterCase
import ChangelogViews.Proofs.Store.Calls
import ChangelogViews.Proofs.Schema.Faults
import ChangelogViews.Proofs.Store.Tables
import ChangelogViews.Proofs.Schema.Edits
import ChangelogViews.Proofs.Views.Flattened
import ChangelogViews.Proofs.Views.Refusals
import ChangelogViews.Proofs.Sql.Doubled
import ChangelogViews.Proofs.Sql.Snapshot
import ChangelogViews.Proofs.Views.SubSelects
import ChangelogViews.Proofs.Views.Layering
import ChangelogViews.Proofs.Config.Settings
import ChangelogViews.Proofs.Console.Questions
import ChangelogViews.Proofs.Console.Interview
import ChangelogViews.Proofs.Files.Expansion
import ChangelogViews.Proofs.Schema.Reading
import ChangelogViews.Proofs.Views.Descent
import ChangelogViews.Proofs.Views.Guards
import ChangelogViews.Proofs.Contexts
