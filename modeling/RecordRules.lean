import RecordRules.Main
import RecordRules.Settings.Assigned
import RecordRules.System.Step
import RecordRules.Fault.Arguments
import RecordRules.Proofs.Outcome
import RecordRules.Proofs.Store.Growth
import RecordRules.Proofs.Store.Inserts
import RecordRules.Proofs.Store.Statements
import RecordRules.Proofs.Workflow.Course
import RecordRules.Proofs.System.Operations
import RecordRules.Proofs.System.Changes
import RecordRules.Proofs.System.Journal
import RecordRules.Proofs.System.Locks
import RecordRules.Proofs.System.Runs
import RecordRules.Proofs.System.Direct
import RecordRules.Proofs.Schema.Named
import RecordRules.Proofs.System.Consistency
import RecordRules.Proofs.System.Exactness
import RecordRules.Proofs.System.Interference
import RecordRules.Proofs.System.Atomicity
import RecordRules.Proofs.System.Justification
import RecordRules.Proofs.Validation.Independence
import RecordRules.Proofs.Expression.Agreement
import RecordRules.Proofs.Measure.Caching
import RecordRules.Proofs.Expression.Likeness
import RecordRules.Proofs.Expression.Mentions
import RecordRules.Proofs.Validation.Relevance
import RecordRules.Proofs.Validation.Thresholds
import RecordRules.Proofs.Validation.SingleField
import RecordRules.Proofs.System.Listing
import RecordRules.Proofs.Expression.Nesting
import RecordRules.Proofs.Store.Rows
import RecordRules.Proofs.System.Saving
import RecordRules.Proofs.System.AuditLog
import RecordRules.Proofs.System.Declared
import RecordRules.Proofs.Text.Pieces
import RecordRules.Proofs.Expression.Conjunction
import RecordRules.Proofs.Validation.RuleOrder
import RecordRules.Proofs.Json.Exact
import RecordRules.Proofs.Measure.Parameters
import RecordRules.Proofs.Calculation
import RecordRules.Proofs.Validator.Tables
import RecordRules.Proofs.Validator.Failures
import RecordRules.Proofs.Measure.Resolution
import RecordRules.Proofs.Measure.Declaration
import RecordRules.Proofs.Measure.Versions
import RecordRules.Proofs.Measure.Accounting
import RecordRules.Proofs.Expression.Totals
import RecordRules.Proofs.Expression.Integers
import RecordRules.Proofs.Expression.LiteralForms
