import StagedQuery.Main
import StagedQuery.Proofs.Database.Aborts
import StagedQuery.Proofs.Database.Answer
import StagedQuery.Proofs.Database.Bounds
import StagedQuery.Proofs.Database.ColumnNames
import StagedQuery.Proofs.Database.Faults
import StagedQuery.Proofs.Database.Insertion
import StagedQuery.Proofs.Database.Locality
import StagedQuery.Proofs.Database.Lookups
import StagedQuery.Proofs.Database.Matching
import StagedQuery.Proofs.Database.OneFile
import StagedQuery.Proofs.Database.Paging
import StagedQuery.Proofs.Database.Repetition
import StagedQuery.Proofs.Database.Routing
import StagedQuery.Proofs.Database.SaveLoad
import StagedQuery.Proofs.Database.Tracing
import StagedQuery.Proofs.Dispatch.Budget
import StagedQuery.Proofs.Predicate.Expansion
import StagedQuery.Proofs.Predicate.Wildcard
import StagedQuery.Proofs.Query.Arrangement
import StagedQuery.Proofs.Query.Distinct
import StagedQuery.Proofs.Query.ReadBack
import StagedQuery.Proofs.Shell.BlankLines
import StagedQuery.Proofs.Shell.Lines
import StagedQuery.Proofs.Sql.ClauseErrors
import StagedQuery.Proofs.Sql.Containment
import StagedQuery.Proofs.Sql.Layout
import StagedQuery.Proofs.Sql.Positions
import StagedQuery.Proofs.Sql.WrittenConditions
import StagedQuery.Proofs.Storage.Stability
import StagedQuery.Proofs.Storage.Validity
import StagedQuery.Proofs.Value.DecimalTexts
import StagedQuery.Proofs.Value.Equality
