import EntityStore.Action
import EntityStore.Calendar
import EntityStore.Casing
import EntityStore.Client
import EntityStore.Config
import EntityStore.Convert.From
import EntityStore.Convert.Into
import EntityStore.Document
import EntityStore.Entity
import EntityStore.Environment
import EntityStore.Error
import EntityStore.Key
import EntityStore.Mutation
import EntityStore.Native
import EntityStore.Number.Double
import EntityStore.Number.Literal
import EntityStore.Number.Shortest
import EntityStore.Operation
import EntityStore.Policy
import EntityStore.Policy.File
import EntityStore.Proofs.Association
import EntityStore.Proofs.Calendar
import EntityStore.Proofs.Convert.Instance
import EntityStore.Proofs.Convert.Parts
import EntityStore.Proofs.Convert.RoundTrip
import EntityStore.Proofs.Key
import EntityStore.Proofs.Outcome
import EntityStore.Proofs.Schema
import EntityStore.Proofs.Value
import EntityStore.Proofs.Wire.Key
import EntityStore.Proofs.Wire.Value
import EntityStore.Query
import EntityStore.Schema
import EntityStore.Script
import EntityStore.Supplier
import EntityStore.Text.Blank
import EntityStore.Text.Case
import EntityStore.Text.CaseTable
import EntityStore.Text.Digit
import EntityStore.Text.PrintTable
import EntityStore.Text.Quoted
import EntityStore.Text.Similar
import EntityStore.Transaction
import EntityStore.Transport
import EntityStore.Value
import EntityStore.Wire.Entity
import EntityStore.Wire.Key
import EntityStore.Wire.Message
import EntityStore.Wire.Value
import EntityStore.Yaml.Atom
import EntityStore.Yaml.Cursor
import EntityStore.Yaml.Document
import EntityStore.Yaml.Node
import EntityStore.Yaml.Scalar
import EntityStore.Yaml.Tag
import EntityStore.Yaml.Token
import EntityStore.Proofs.Query.Pages
import EntityStore.Proofs.Query.Batches
import EntityStore.Proofs.Lookup.Rounds
import EntityStore.Proofs.Transaction.Calls
import EntityStore.Proofs.Mutation
import EntityStore.Proofs.Lookup.Deferral
import EntityStore.Proofs.Transaction.Staging
import EntityStore.Proofs.Transaction.Failure
import EntityStore.Proofs.Transaction.Completion
import EntityStore.Proofs.Transaction.Lifecycle
import EntityStore.Proofs.Key.Construction
import EntityStore.Proofs.Wire.KeyCodec
import EntityStore.Proofs.Native
import EntityStore.Proofs.Convert.Stored
import EntityStore.Proofs.Convert.Agreement
import EntityStore.Proofs.Dispatch
import EntityStore.Proofs.Operation
import EntityStore.Proofs.Activity
import EntityStore.Proofs.Authorization
import EntityStore.Proofs.Transaction.Scope
import EntityStore.Proofs.Wire.Flags
import EntityStore.Proofs.Policy.Document
import EntityStore.Proofs.Policy.Exclusion
import EntityStore.Proofs.Policy.File
import EntityStore.Proofs.Wire.Normal
import EntityStore.Proofs.Writes
import EntityStore.Proofs.Lookup.Reports
import EntityStore.Proofs.Convert.Decision
import EntityStore.Proofs.Convert.Fit
import EntityStore.Proofs.Convert.Fields
import EntityStore.Proofs.Convert.Evolution
import EntityStore.Proofs.Convert.Members
import EntityStore.Proofs.Convert.SharedNames
import EntityStore.Proofs.Convert.Recovery
import EntityStore.Proofs.Wire.Faults
import EntityStore.Proofs.Unreadable
import EntityStore.Proofs.Convert.Visits
import EntityStore.Proofs.Query.Builders
import EntityStore.Proofs.Wire.Equality
import EntityStore.Proofs.Query.Compilation
import EntityStore.Proofs.Channel
import EntityStore.Proofs.Encryption
import EntityStore.Proofs.Refresh
import EntityStore.Proofs.Convert.Instants
import EntityStore.Proofs.Casing.Letters
import EntityStore.Proofs.Casing.Words
import EntityStore.Proofs.Casing.Distinct
import EntityStore.Proofs.Casing.Decomposition
import EntityStore.Proofs.Casing.Interchange
import EntityStore.Proofs.Composition
import EntityStore.Proofs.Connection
