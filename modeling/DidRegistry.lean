import DidRegistry.AnonCreds.StatusList
import DidRegistry.Did.Lifecycle
import DidRegistry.Interaction.Script
import DidRegistry.Json.Writer
import DidRegistry.Keyring
import DidRegistry.Settings.Environment
import DidRegistry.Proofs.AnonCreds.Advance
import DidRegistry.Proofs.AnonCreds.BulkRevocation
import DidRegistry.Proofs.AnonCreds.Codec
import DidRegistry.Proofs.AnonCreds.Contents
import DidRegistry.Proofs.AnonCreds.Coordinates
import DidRegistry.Proofs.AnonCreds.ListQuery
import DidRegistry.Proofs.AnonCreds.Naming
import DidRegistry.Proofs.AnonCreds.PointInTime
import DidRegistry.Proofs.AnonCreds.Posting
import DidRegistry.Proofs.AnonCreds.Prerequisites
import DidRegistry.Proofs.AnonCreds.Race
import DidRegistry.Proofs.AnonCreds.ReadBack
import DidRegistry.Proofs.AnonCreds.Recording
import DidRegistry.Proofs.AnonCreds.Reporting
import DidRegistry.Proofs.AnonCreds.Revocation
import DidRegistry.Proofs.AnonCreds.RoundTrip
import DidRegistry.Proofs.AnonCreds.Session
import DidRegistry.Proofs.AnonCreds.StatusList
import DidRegistry.Proofs.Calendar.Date
import DidRegistry.Proofs.Calendar.Timestamp
import DidRegistry.Proofs.Did.Aliases
import DidRegistry.Proofs.Did.Composition
import DidRegistry.Proofs.Did.Creation
import DidRegistry.Proofs.Did.Draft
import DidRegistry.Proofs.Did.Grammar
import DidRegistry.Proofs.Did.Guard
import DidRegistry.Proofs.Did.Identifier
import DidRegistry.Proofs.Did.Lifecycle
import DidRegistry.Proofs.Did.Seed
import DidRegistry.Proofs.Did.Supported
import DidRegistry.Proofs.Fault.Attribution
import DidRegistry.Proofs.Fault.Steps
import DidRegistry.Proofs.Interaction.Ensures
import DidRegistry.Proofs.Interaction.Submission
import DidRegistry.Proofs.Job.Bounds
import DidRegistry.Proofs.Job.Conformance
import DidRegistry.Proofs.Job.Context
import DidRegistry.Proofs.Job.Counter
import DidRegistry.Proofs.Job.Dialogue
import DidRegistry.Proofs.Job.Exhaustion
import DidRegistry.Proofs.Job.Opening
import DidRegistry.Proofs.Job.Protocol
import DidRegistry.Proofs.Job.Replies
import DidRegistry.Proofs.Job.Rewording
import DidRegistry.Proofs.Json.Exact
import DidRegistry.Proofs.Json.Record
import DidRegistry.Proofs.Json.Rewording
import DidRegistry.Proofs.Json.Shuffle
import DidRegistry.Proofs.Json.WireForms
import DidRegistry.Proofs.Keyring.Bindings
import DidRegistry.Proofs.Keyring.Contract
import DidRegistry.Proofs.Keyring.Log
import DidRegistry.Proofs.Keyring.State
import DidRegistry.Proofs.Resource.Ledger
import DidRegistry.Proofs.Resource.Publishing
import DidRegistry.Proofs.Settings.Construction
import DidRegistry.Proofs.Settings.Endpoints
import DidRegistry.Proofs.Signing.Check
import DidRegistry.Proofs.Signing.Gate
import DidRegistry.Proofs.Text.Base64
import DidRegistry.Proofs.Text.FixedWidth
import DidRegistry.Proofs.Text.Form
import DidRegistry.Proofs.Text.Percent
import DidRegistry.Proofs.Text.Split
import DidRegistry.Proofs.Url.AddedSlash
import DidRegistry.Proofs.Url.Authority
import DidRegistry.Proofs.Url.Beneath
import DidRegistry.Proofs.Url.Continuation
import DidRegistry.Proofs.Url.DomainName
import DidRegistry.Proofs.Url.Path
import DidRegistry.Proofs.Url.Query
