import OriginRegistry.Action
import OriginRegistry.Address
import OriginRegistry.Configuration.Basic
import OriginRegistry.Configuration.Tables
import OriginRegistry.Database.Basic
import OriginRegistry.Database.Error
import OriginRegistry.Database.Pool
import OriginRegistry.Database.Table
import OriginRegistry.Decimal.Binary64
import OriginRegistry.Decimal.Shortest
import OriginRegistry.Digest.Sha256
import OriginRegistry.Directory
import OriginRegistry.Distinct
import OriginRegistry.Host
import OriginRegistry.Host.Domain
import OriginRegistry.Host.IPv4
import OriginRegistry.Host.IPv6
import OriginRegistry.Host.Punycode
import OriginRegistry.Json.Basic
import OriginRegistry.Json.Codec
import OriginRegistry.Json.Fault
import OriginRegistry.Json.Printer
import OriginRegistry.Json.Reader
import OriginRegistry.Json.Scalar
import OriginRegistry.Json.Schema
import OriginRegistry.Log.Filter
import OriginRegistry.Main
import OriginRegistry.Management.Error
import OriginRegistry.Management.Service
import OriginRegistry.Model.Id
import OriginRegistry.Model.Policy
import OriginRegistry.Model.RegisteredOrigin
import OriginRegistry.Model.Resource
import OriginRegistry.Model.StorageError
import OriginRegistry.Moment
import OriginRegistry.Origin
import OriginRegistry.OriginStore.Basic
import OriginRegistry.OriginStore.Listing
import OriginRegistry.OriginStore.Statements
import OriginRegistry.OriginStore.Tables
import OriginRegistry.PolicyStore.Basic
import OriginRegistry.PolicyStore.Resources
import OriginRegistry.Proofs.Action
import OriginRegistry.Proofs.Configuration.Frame
import OriginRegistry.Proofs.Directory.Lookup
import OriginRegistry.Proofs.Directory.Registration
import OriginRegistry.Proofs.Distinct
import OriginRegistry.Proofs.Management.Atomicity
import OriginRegistry.Proofs.Management.Checks
import OriginRegistry.Proofs.Management.Ledger
import OriginRegistry.Proofs.Management.Listings
import OriginRegistry.Proofs.Management.Plans
import OriginRegistry.Proofs.Management.Runs
import OriginRegistry.Proofs.Management.Verdicts
import OriginRegistry.Proofs.Origin.Reading
import OriginRegistry.Proofs.OriginStore.Consistency
import OriginRegistry.Proofs.OriginStore.Edits
import OriginRegistry.Proofs.OriginStore.Effects
import OriginRegistry.Proofs.OriginStore.Isolation
import OriginRegistry.Proofs.OriginStore.Listing
import OriginRegistry.Proofs.OriginStore.Requests
import OriginRegistry.Proofs.OriginStore.Scopes
import OriginRegistry.Proofs.OriginStore.Statements
import OriginRegistry.Proofs.OriginStore.Success
import OriginRegistry.Provision.Command
import OriginRegistry.Provision.Connect
import OriginRegistry.Provision.DatabaseUrl
import OriginRegistry.Provision.Files
import OriginRegistry.Settings
import OriginRegistry.Text.Blank
import OriginRegistry.Text.Digit
import OriginRegistry.Text.Length
import OriginRegistry.Text.Percent
import OriginRegistry.Text.Quoted
import OriginRegistry.Text.Split
import OriginRegistry.Unicode.CodeSet
import OriginRegistry.Unicode.Composition
import OriginRegistry.Unicode.Direction
import OriginRegistry.Unicode.HostMapping
import OriginRegistry.Unicode.Joining
import OriginRegistry.Unicode.Mark
import OriginRegistry.Unicode.Printable
import OriginRegistry.UrlList.Basic
import OriginRegistry.UrlList.Service
import OriginRegistry.Proofs.Configuration.Contents
import OriginRegistry.Proofs.Configuration.Transactions
import OriginRegistry.Proofs.Configuration.Requests
import OriginRegistry.Proofs.Configuration.Runs
import OriginRegistry.Proofs.UrlList.Outcomes
import OriginRegistry.Proofs.PolicyStore.Outcomes
import OriginRegistry.Proofs.Management.Reads
import OriginRegistry.Proofs.OriginStore.Continuation
import OriginRegistry.Proofs.Registry.Runs
import OriginRegistry.Proofs.Registry.Permanence
import OriginRegistry.Proofs.UrlList.Replies
import OriginRegistry.Proofs.UrlList.Ledger
import OriginRegistry.Proofs.Registry.Views
import OriginRegistry.Proofs.Registry.Isolation
import OriginRegistry.Proofs.Management.Discipline
import OriginRegistry.Proofs.UrlList.Interruption
import OriginRegistry.Proofs.Management.Exchanges
import OriginRegistry.Proofs.Configuration.Catalogue
import OriginRegistry.Proofs.Configuration.Holdings
import OriginRegistry.Proofs.Configuration.CatalogueRuns
import OriginRegistry.Proofs.Json.Scalars
import OriginRegistry.Proofs.Json.RoundTrip
import OriginRegistry.Proofs.Json.Records
import OriginRegistry.Proofs.PolicyStore.RoundTrip
import OriginRegistry.Proofs.Json.Shapes
import OriginRegistry.Proofs.Moment
import OriginRegistry.Proofs.Model.Texts
import OriginRegistry.Proofs.Model.StorageErrors
import OriginRegistry.Proofs.OriginStore.NewRows
import OriginRegistry.Proofs.OriginStore.TenantReplacement
import OriginRegistry.Proofs.OriginStore.ApplicationReplacement
import OriginRegistry.Proofs.OriginStore.Withdrawal
import OriginRegistry.Proofs.OriginStore.KeyOrder
import OriginRegistry.Proofs.Management.Entries
import OriginRegistry.Proofs.Management.Undoing
import OriginRegistry.Proofs.Address.Parts
import OriginRegistry.Proofs.Address.Bare
import OriginRegistry.Proofs.Origin.Spelling
import OriginRegistry.Proofs.Directory.Resolution
import OriginRegistry.Proofs.Json.Dictionaries
import OriginRegistry.Proofs.PolicyStore.Fields
import OriginRegistry.Proofs.Text.Basic
import OriginRegistry.Proofs.Host.Internet
import OriginRegistry.Proofs.Host.Domain
import OriginRegistry.Proofs.Host.NormalForm
import OriginRegistry.Proofs.Host.LetterCase
import OriginRegistry.Proofs.Origin.NormalForm
import OriginRegistry.Proofs.Origin.LetterCase
import OriginRegistry.Proofs.Origin.Respelling
import OriginRegistry.Proofs.OriginStore.Collection
import OriginRegistry.Proofs.Management.OriginTexts
import OriginRegistry.Proofs.Settings
import OriginRegistry.Proofs.Management.Selection
import OriginRegistry.Proofs.Management.StoreCalls
