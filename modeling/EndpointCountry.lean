import EndpointCountry.CaselessTable
import EndpointCountry.Command.Arguments
import EndpointCountry.Command.Batch
import EndpointCountry.Command.Lookup
import EndpointCountry.Config.Batch
import EndpointCountry.Config.Fields
import EndpointCountry.Config.Load
import EndpointCountry.Config.Resolver
import EndpointCountry.Country
import EndpointCountry.Datum
import EndpointCountry.Datum.Json
import EndpointCountry.Datum.Json.Number
import EndpointCountry.Datum.Json.Reader
import EndpointCountry.Delimited.Reader
import EndpointCountry.Delimited.Table
import EndpointCountry.Delimited.Writer
import EndpointCountry.Double
import EndpointCountry.Endpoint
import EndpointCountry.Fault
import EndpointCountry.Gln.Allocation
import EndpointCountry.Gln.Rule
import EndpointCountry.Gln.Table
import EndpointCountry.Main
import EndpointCountry.Path
import EndpointCountry.Proofs.CaselessTable
import EndpointCountry.Proofs.Command.Arguments
import EndpointCountry.Proofs.Command.Batch
import EndpointCountry.Proofs.Command.Lookup
import EndpointCountry.Proofs.Config.Acceptance
import EndpointCountry.Proofs.Config.Batch
import EndpointCountry.Proofs.Config.Checks
import EndpointCountry.Proofs.Config.Environment
import EndpointCountry.Proofs.Config.Faults
import EndpointCountry.Proofs.Config.Reference
import EndpointCountry.Proofs.Config.Substitution
import EndpointCountry.Proofs.Country
import EndpointCountry.Proofs.Country.Forms
import EndpointCountry.Proofs.Datum.Json
import EndpointCountry.Proofs.Delimited.Reading
import EndpointCountry.Proofs.Delimited.RoundTrip
import EndpointCountry.Proofs.Delimited.Splitting
import EndpointCountry.Proofs.Endpoint
import EndpointCountry.Proofs.Entries
import EndpointCountry.Proofs.Gln.Coverage
import EndpointCountry.Proofs.Gln.PrefixMap
import EndpointCountry.Proofs.Gln.Run
import EndpointCountry.Proofs.Gln.Table
import EndpointCountry.Proofs.Path
import EndpointCountry.Proofs.Resolver.Builder
import EndpointCountry.Proofs.Resolver.Calls
import EndpointCountry.Proofs.Resolver.Certificate
import EndpointCountry.Proofs.Resolver.LetterCase
import EndpointCountry.Proofs.Resolver.Order
import EndpointCountry.Proofs.Resolver.Placement
import EndpointCountry.Proofs.Resolver.Sources
import EndpointCountry.Proofs.Resolver.Stability
import EndpointCountry.Proofs.Scheme.Table
import EndpointCountry.Proofs.Steps
import EndpointCountry.Proofs.Storage
import EndpointCountry.Proofs.Storage.FileTree
import EndpointCountry.Proofs.Tagging.Accounting
import EndpointCountry.Proofs.Tagging.Columns
import EndpointCountry.Proofs.Tagging.Concatenation
import EndpointCountry.Proofs.Tagging.Course
import EndpointCountry.Proofs.Tagging.Failures
import EndpointCountry.Proofs.Tagging.Files
import EndpointCountry.Proofs.Tagging.Frame
import EndpointCountry.Proofs.Tagging.Policies
import EndpointCountry.Proofs.Tagging.ReadBack
import EndpointCountry.Proofs.Tagging.Repetition
import EndpointCountry.Proofs.Tagging.Rows
import EndpointCountry.Proofs.Tagging.Tally
import EndpointCountry.Proofs.Tagging.Writes
import EndpointCountry.Proofs.Text
import EndpointCountry.Proofs.Toml.Document
import EndpointCountry.Proofs.Toml.Lexical
import EndpointCountry.Proofs.Toml.Line
import EndpointCountry.Proofs.Toml.LongText
import EndpointCountry.Proofs.Toml.Quoted
import EndpointCountry.Proofs.Toml.Sections
import EndpointCountry.Proofs.Toml.Table
import EndpointCountry.Proofs.Toml.Value
import EndpointCountry.Proofs.Unicode.Lowercase
import EndpointCountry.Proofs.Unicode.Uppercase
import EndpointCountry.Resolver
import EndpointCountry.Resolver.Builder
import EndpointCountry.Scheme.Registry
import EndpointCountry.Scheme.Table
import EndpointCountry.Storage
import EndpointCountry.Storage.FileTree
import EndpointCountry.Tagging.Run
import EndpointCountry.Tagging.Summary
import EndpointCountry.Tagging.Transform
import EndpointCountry.Text
import EndpointCountry.Toml.Document
import EndpointCountry.Toml.Lexical
import EndpointCountry.Toml.Moment
import EndpointCountry.Toml.Number
import EndpointCountry.Toml.Quoted
import EndpointCountry.Toml.Table
import EndpointCountry.Toml.Value
import EndpointCountry.Unicode.Lowercase
import EndpointCountry.Unicode.Lowercase.Words
import EndpointCountry.Unicode.Uppercase
