import CredentialOperator.Admission.Failure
import CredentialOperator.Admission.GrantRules
import CredentialOperator.Admission.Pod
import CredentialOperator.Admission.PodInjection
import CredentialOperator.Admission.Review
import CredentialOperator.Admission.Routes
import CredentialOperator.Cluster.Memory
import CredentialOperator.Cluster.Program
import CredentialOperator.Cluster.Request
import CredentialOperator.Condition
import CredentialOperator.Event
import CredentialOperator.ExternalSecret.Basic
import CredentialOperator.ExternalSecret.Sync
import CredentialOperator.Failure.Api
import CredentialOperator.Failure.Basic
import CredentialOperator.Grant.Basic
import CredentialOperator.Grant.Codec
import CredentialOperator.Http.Backend
import CredentialOperator.Http.Client
import CredentialOperator.Http.EventRecorder
import CredentialOperator.Http.Exchange
import CredentialOperator.Http.Reply
import CredentialOperator.Http.Script
import CredentialOperator.Install.CommonSchema
import CredentialOperator.Install.Definition
import CredentialOperator.Install.GrantSchema
import CredentialOperator.Install.Installation
import CredentialOperator.Install.ProviderSchema
import CredentialOperator.Install.Schema
import CredentialOperator.Install.Yaml
import CredentialOperator.Json.Basic
import CredentialOperator.Json.MergePatch
import CredentialOperator.Json.Number
import CredentialOperator.Json.Patch
import CredentialOperator.Json.Reader
import CredentialOperator.Json.Record
import CredentialOperator.Json.Shape
import CredentialOperator.Json.Writer
import CredentialOperator.Main
import CredentialOperator.Measurement
import CredentialOperator.Names
import CredentialOperator.Proofs.Admission.Answers
import CredentialOperator.Proofs.Admission.Equipment
import CredentialOperator.Proofs.Admission.GrantReading
import CredentialOperator.Proofs.Admission.Injection
import CredentialOperator.Proofs.Admission.PodPatch
import CredentialOperator.Proofs.Admission.PodReading
import CredentialOperator.Proofs.Admission.Reinjection
import CredentialOperator.Proofs.Admission.ReleaseReview
import CredentialOperator.Proofs.Admission.Rereading
import CredentialOperator.Proofs.Admission.Rules
import CredentialOperator.Proofs.Admission.Validation
import CredentialOperator.Proofs.Admission.Wiring
import CredentialOperator.Proofs.Cluster.Alike
import CredentialOperator.Proofs.Cluster.Effects
import CredentialOperator.Proofs.Cluster.Places
import CredentialOperator.Proofs.Cluster.Readings
import CredentialOperator.Proofs.Cluster.Runs
import CredentialOperator.Proofs.Condition.Entries
import CredentialOperator.Proofs.Condition.Histories
import CredentialOperator.Proofs.ExternalSecret.Progress
import CredentialOperator.Proofs.ExternalSecret.RoundTrip
import CredentialOperator.Proofs.Failure.Verdicts
import CredentialOperator.Proofs.Grant.RoundTrip
import CredentialOperator.Proofs.Grant.StoredMetadata
import CredentialOperator.Proofs.Grant.StoredStatus
import CredentialOperator.Proofs.Http.FinalizerEdits
import CredentialOperator.Proofs.Http.Messages
import CredentialOperator.Proofs.Http.Talks
import CredentialOperator.Proofs.Http.VersionedStore
import CredentialOperator.Proofs.Json.Lossless
import CredentialOperator.Proofs.Json.NormalForm
import CredentialOperator.Proofs.Json.PatchDocument
import CredentialOperator.Proofs.Json.Patches
import CredentialOperator.Proofs.Json.Records
import CredentialOperator.Proofs.Json.Retouched
import CredentialOperator.Proofs.Json.Steady
import CredentialOperator.Proofs.Provider.RoundTrip
import CredentialOperator.Proofs.Provider.StoredStatus
import CredentialOperator.Proofs.Provision.Attempt
import CredentialOperator.Proofs.Provision.Copies
import CredentialOperator.Proofs.Provision.RefreshIntervals
import CredentialOperator.Proofs.Reconcile.Announcements
import CredentialOperator.Proofs.Reconcile.Authority
import CredentialOperator.Proofs.Reconcile.Commuting
import CredentialOperator.Proofs.Reconcile.Counters
import CredentialOperator.Proofs.Reconcile.Courses
import CredentialOperator.Proofs.Reconcile.Custody
import CredentialOperator.Proofs.Reconcile.Discretion
import CredentialOperator.Proofs.Reconcile.Footprint
import CredentialOperator.Proofs.Reconcile.Gates
import CredentialOperator.Proofs.Reconcile.Gauges
import CredentialOperator.Proofs.Reconcile.Leftovers
import CredentialOperator.Proofs.Reconcile.Lifetimes
import CredentialOperator.Proofs.Reconcile.Outcomes
import CredentialOperator.Proofs.Reconcile.Persistence
import CredentialOperator.Proofs.Reconcile.ProviderChecks
import CredentialOperator.Proofs.Reconcile.ProviderCourses
import CredentialOperator.Proofs.Reconcile.ProviderEvents
import CredentialOperator.Proofs.Reconcile.ProviderFreshness
import CredentialOperator.Proofs.Reconcile.Readiness
import CredentialOperator.Proofs.Reconcile.Release
import CredentialOperator.Proofs.Reconcile.Schedule
import CredentialOperator.Proofs.Reconcile.Sessions
import CredentialOperator.Proofs.Reconcile.Setbacks
import CredentialOperator.Proofs.Reconcile.Settling
import CredentialOperator.Proofs.Reconcile.Statuses
import CredentialOperator.Proofs.Reconcile.Waits
import CredentialOperator.Proofs.Selector.Faults
import CredentialOperator.Proofs.Selector.Terms
import CredentialOperator.Proofs.Text.Blanks
import CredentialOperator.Proofs.Text.Numerals
import CredentialOperator.Proofs.Time.Dates
import CredentialOperator.Proofs.Time.Instants
import CredentialOperator.Proofs.Time.IntervalGrammar
import CredentialOperator.Proofs.Time.Intervals
import CredentialOperator.Proofs.Time.Rfc3339
import CredentialOperator.Provider.Basic
import CredentialOperator.Provider.Codec
import CredentialOperator.Provision.Artifact
import CredentialOperator.Provision.DelegatedSync
import CredentialOperator.Provision.DirectCopy
import CredentialOperator.Provision.Strategy
import CredentialOperator.Reconcile.Grant
import CredentialOperator.Reconcile.Pass
import CredentialOperator.Reconcile.Provider
import CredentialOperator.Reconcile.Rotation
import CredentialOperator.Reconcile.Trigger
import CredentialOperator.Resource.Dynamic
import CredentialOperator.Resource.Kind
import CredentialOperator.Resource.Metadata
import CredentialOperator.Resource.Owner
import CredentialOperator.Resource.Secret
import CredentialOperator.Selector
import CredentialOperator.Startup.CommandLine
import CredentialOperator.Startup.Files
import CredentialOperator.Startup.Help
import CredentialOperator.Startup.LogFilter
import CredentialOperator.Startup.Run
import CredentialOperator.Startup.ServerConfig
import CredentialOperator.Startup.Settings
import CredentialOperator.Startup.SocketAddress
import CredentialOperator.Startup.Telemetry
import CredentialOperator.Text.Base64
import CredentialOperator.Text.Blank
import CredentialOperator.Text.CaseTable
import CredentialOperator.Text.CodeRange
import CredentialOperator.Text.Lowercase
import CredentialOperator.Text.PrintTable
import CredentialOperator.Text.Quoted
import CredentialOperator.Time.Calendar
import CredentialOperator.Time.Interval
import CredentialOperator.Time.Rfc3339
import CredentialOperator.Time.Timestamp
