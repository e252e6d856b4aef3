import Brokerage.Broker.Basic
import Brokerage.Broker.Bind
import Brokerage.Broker.Deprovision
import Brokerage.Broker.LastOperation
import Brokerage.Broker.Provision
import Brokerage.Broker.Unbind
import Brokerage.Broker.Update
import Brokerage.Call
import Brokerage.Catalog.Definition
import Brokerage.Catalog.Document
import Brokerage.Catalog.Registry
import Brokerage.Config.Basic
import Brokerage.Config.Document
import Brokerage.Conformance.Bindings
import Brokerage.Conformance.Instances
import Brokerage.Conformance.Races
import Brokerage.Conformance.Refusals
import Brokerage.Conformance.Report
import Brokerage.Conformance.Requests
import Brokerage.Conformance.Trial
import Brokerage.Details
import Brokerage.Error
import Brokerage.Host.Direction
import Brokerage.Host.Label
import Brokerage.Host.Name
import Brokerage.Host.Number
import Brokerage.Host.Punycode
import Brokerage.Host.Repertoire
import Brokerage.Json.Access
import Brokerage.Json.Basic
import Brokerage.Json.Members
import Brokerage.Json.Numeral
import Brokerage.Json.Parser
import Brokerage.Json.Printer
import Brokerage.Json.Quotation
import Brokerage.Json.Reader
import Brokerage.Json.Skip
import Brokerage.Main
import Brokerage.Number.Double
import Brokerage.Number.Shortest
import Brokerage.Parameters
import Brokerage.Pattern.Basic
import Brokerage.Pattern.Bracket
import Brokerage.Pattern.Edge
import Brokerage.Pattern.Escape
import Brokerage.Pattern.Grammar
import Brokerage.Pattern.Linear
import Brokerage.Pattern.Matching
import Brokerage.Pattern.Program
import Brokerage.Pattern.Reader
import Brokerage.Pattern.Repeated
import Brokerage.Pattern.Spelled
import Brokerage.Pattern.Spelling
import Brokerage.Program
import Brokerage.Proofs.Account
import Brokerage.Proofs.Agreement
import Brokerage.Proofs.Answers
import Brokerage.Proofs.Atomicity
import Brokerage.Proofs.BindOrder
import Brokerage.Proofs.BindRace
import Brokerage.Proofs.Condemned
import Brokerage.Proofs.Configuration
import Brokerage.Proofs.Conformance.Backend
import Brokerage.Proofs.Conformance.Checks
import Brokerage.Proofs.Conformance.Races
import Brokerage.Proofs.Conformance.Suite
import Brokerage.Proofs.Contract
import Brokerage.Proofs.Course.Bind
import Brokerage.Proofs.Course.Deprovision
import Brokerage.Proofs.Course.LastOperation
import Brokerage.Proofs.Course.Load
import Brokerage.Proofs.Course.Provision
import Brokerage.Proofs.Course.Unbind
import Brokerage.Proofs.Course.Update
import Brokerage.Proofs.DryRun
import Brokerage.Proofs.Exchange
import Brokerage.Proofs.FailedBind
import Brokerage.Proofs.FailedOperation
import Brokerage.Proofs.Frame
import Brokerage.Proofs.HandOff
import Brokerage.Proofs.Interference
import Brokerage.Proofs.Isolation
import Brokerage.Proofs.Json.Denotation
import Brokerage.Proofs.Json.Grammar
import Brokerage.Proofs.Json.Meaning
import Brokerage.Proofs.Json.Numerals
import Brokerage.Proofs.Json.Printing
import Brokerage.Proofs.Json.Reading
import Brokerage.Proofs.Json.Skipping
import Brokerage.Proofs.LifeCycle
import Brokerage.Proofs.LostDeletion
import Brokerage.Proofs.Negotiation
import Brokerage.Proofs.Number.Shortest
import Brokerage.Proofs.Output
import Brokerage.Proofs.Parameters
import Brokerage.Proofs.PollRace
import Brokerage.Proofs.Polling
import Brokerage.Proofs.Pool
import Brokerage.Proofs.Precedence
import Brokerage.Proofs.ProvisionRace
import Brokerage.Proofs.Race
import Brokerage.Proofs.Reconciliation
import Brokerage.Proofs.Recovery
import Brokerage.Proofs.References
import Brokerage.Proofs.Refusal
import Brokerage.Proofs.Registration
import Brokerage.Proofs.Removal
import Brokerage.Proofs.RequestHistory
import Brokerage.Proofs.Secrets
import Brokerage.Proofs.Serving
import Brokerage.Proofs.Shape.Fitting
import Brokerage.Proofs.Shape.Printing
import Brokerage.Proofs.Shape.Reading
import Brokerage.Proofs.Shape.Record
import Brokerage.Proofs.Standing
import Brokerage.Proofs.Steps
import Brokerage.Proofs.StoredDetails
import Brokerage.Proofs.Timeless
import Brokerage.Proofs.UpdatePolicy
import Brokerage.Proofs.Validity
import Brokerage.Proofs.Variables
import Brokerage.Proofs.VaultAnswers
import Brokerage.Proofs.VaultContract
import Brokerage.Proofs.VaultNames
import Brokerage.Proofs.VaultedBind
import Brokerage.Proofs.Wire
import Brokerage.Proofs.World
import Brokerage.Proofs.Writes
import Brokerage.Provider
import Brokerage.Record
import Brokerage.Record.Diagnostic
import Brokerage.Rehearsal.Fault
import Brokerage.Rehearsal.Script
import Brokerage.Rehearsal.Stage
import Brokerage.Response
import Brokerage.Schema.Address
import Brokerage.Schema.Basic
import Brokerage.Schema.Content
import Brokerage.Schema.Coverage
import Brokerage.Schema.Defect
import Brokerage.Schema.Draft
import Brokerage.Schema.Format
import Brokerage.Schema.Format.Mail
import Brokerage.Schema.Format.Moment
import Brokerage.Schema.Format.Template
import Brokerage.Schema.Inspection
import Brokerage.Schema.Judgement
import Brokerage.Schema.Metaschema.Basic
import Brokerage.Schema.Metaschema.Early
import Brokerage.Schema.Metaschema.Late
import Brokerage.Schema.Quantity
import Brokerage.Schema.Reference
import Brokerage.Schema.Registry
import Brokerage.Schema.Site
import Brokerage.Schema.Standard
import Brokerage.Schema.Subschema
import Brokerage.Schema.Validation
import Brokerage.Schema.Violation
import Brokerage.Shape.Basic
import Brokerage.Shape.Document
import Brokerage.Shape.Shaped
import Brokerage.Shape.Value
import Brokerage.Store.Basic
import Brokerage.Store.Error
import Brokerage.Store.Request
import Brokerage.Table
import Brokerage.Text.Blank
import Brokerage.Text.Calendar
import Brokerage.Text.Digit
import Brokerage.Text.Encoding
import Brokerage.Text.Hidden
import Brokerage.Text.Location
import Brokerage.Text.Octets
import Brokerage.Text.Parts
import Brokerage.Text.Quoted
import Brokerage.Text.Reading
import Brokerage.Toml.Assembly
import Brokerage.Toml.Basic
import Brokerage.Toml.Document
import Brokerage.Toml.Moment
import Brokerage.Toml.Numeral
import Brokerage.Toml.Quotation
import Brokerage.Toml.Value
import Brokerage.Tool.Arguments
import Brokerage.Tool.Catalog
import Brokerage.Tool.Check
import Brokerage.Tool.Command
import Brokerage.Tool.Preview
import Brokerage.Tool.Report
import Brokerage.Unicode.Age
import Brokerage.Unicode.CaseOrbit
import Brokerage.Unicode.Category
import Brokerage.Unicode.Lookup
import Brokerage.Unicode.Property
import Brokerage.Unicode.Ranges
import Brokerage.Unicode.Script
import Brokerage.Unicode.ScriptExtension
import Brokerage.Unicode.Segmentation
import Brokerage.Vault
