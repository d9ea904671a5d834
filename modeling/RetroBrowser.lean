import RetroBrowser.Foundation.ActionSystem
import RetroBrowser.Foundation.Json
import RetroBrowser.Foundation.Pattern
import RetroBrowser.Foundation.PurePath
import RetroBrowser.Foundation.Sha2
import RetroBrowser.SessionManager.Properties.Quotas
import RetroBrowser.SessionManager.Properties.Recovery
import RetroBrowser.SessionManager.Properties.HostTopology
import RetroBrowser.SessionManager.Properties.OrphanRuntimes
import RetroBrowser.SessionManager.Properties.RetirementOrder
import RetroBrowser.SessionManager.Properties.SweepOrder
import RetroBrowser.SessionManager.Properties.Isolation
import RetroBrowser.SessionManager.Properties.Launches
import RetroBrowser.SessionManager.Properties.Lease
import RetroBrowser.SessionManager.Properties.Validity
import RetroBrowser.SessionManager.Properties.Slots
import RetroBrowser.SessionManager.Properties.Readiness
import RetroBrowser.SessionManager.Properties.Repetition
import RetroBrowser.SessionManager.Properties.FailedStartup
import RetroBrowser.SessionManager.Properties.Retries
import RetroBrowser.RuntimeAgent.Calls
import RetroBrowser.RuntimeAgent.Limits
import RetroBrowser.RuntimeAgent.Properties.Ownership
import RetroBrowser.RuntimeAgent.Properties.Publication
import RetroBrowser.SessionManager.Properties.ExactSweep
import RetroBrowser.Foundation.Delimited
import RetroBrowser.Foundation.JsonText
import RetroBrowser.RuntimeAgent.Properties.Duplicates
import RetroBrowser.RuntimeAgent.Properties.Rollback
import RetroBrowser.RuntimeAgent.Properties.Listing
import RetroBrowser.RuntimeAgent.Properties.Reconciliation
import RetroBrowser.SessionEntrypoint.Properties.Credentials
import RetroBrowser.Foundation.Hostname
import RetroBrowser.SessionEntrypoint.Models
import RetroBrowser.SessionEntrypoint.Properties.NetplayHost
import RetroBrowser.Foundation.PathJoin
import RetroBrowser.Foundation.PathFlavour
import RetroBrowser.SessionEntrypoint.Properties.Configuration
import RetroBrowser.Foundation.WindowsPath
import RetroBrowser.RuntimeAgent.Properties.BindSources
import RetroBrowser.SessionManager.Properties.Names
import RetroBrowser.SessionManager.Properties.Answers
import RetroBrowser.RuntimeAgent.Properties.Removal
import RetroBrowser.RuntimeAgent.Api.Server
import RetroBrowser.Foundation.JsonReader
import RetroBrowser.Foundation.Clients
import RetroBrowser.Foundation.Script
import RetroBrowser.Foundation.Validation
import RetroBrowser.RuntimeAgent.Properties.Hosting
import RetroBrowser.SessionEntrypoint.Properties.Coherence
import RetroBrowser.SessionEntrypoint.Properties.Handover
import RetroBrowser.SessionManager.Properties.AgentCalls
import RetroBrowser.SessionManager.Properties.Concurrency
import RetroBrowser.SessionManager.Properties.Index
import RetroBrowser.SessionManager.Properties.Passage
import RetroBrowser.SessionManager.Properties.Provision
import RetroBrowser.SessionManager.Properties.Retention
