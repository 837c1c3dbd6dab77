import Reconciler.Main
import Reconciler.Proofs.Controller.Classification
import Reconciler.Proofs.Controller.Notices
import Reconciler.Proofs.Controller.Repetition
import Reconciler.Proofs.Controller.RetryBudget
import Reconciler.Proofs.Controller.Visits
import Reconciler.Proofs.Reconciliation.Release
import Reconciler.Proofs.Reconciliation.Steadiness
import Reconciler.Proofs.Redaction.Values
import Reconciler.Proofs.WorkQueue.Delays
import Reconciler.Simulation.Stage
import Reconciler.Text.Quoted
import Reconciler.Proofs.Redaction.Recognition
import Reconciler.Proofs.Redaction.Sweep
import Reconciler.Proofs.Redaction.Rules
import Reconciler.Proofs.Redaction.Assignment
import Reconciler.Proofs.Backend.Requests
import Reconciler.Proofs.Description.References
import Reconciler.Proofs.Json.Escapes
import Reconciler.Proofs.Redaction.Password
import Reconciler.Proofs.Backend.Outcomes
import Reconciler.Proofs.Reconciliation.Addressing
import Reconciler.Proofs.Controller.Deletion
import Reconciler.Proofs.Reconciliation.Messages
import Reconciler.Proofs.Backend.Templates
import Reconciler.Proofs.Backend.Binding
import Reconciler.Proofs.Reconciliation.Identifiers
import Reconciler.Proofs.Document.Lens
import Reconciler.Proofs.Document.Conditions
import Reconciler.Proofs.Reconciliation.Ownership
import Reconciler.Proofs.Chart.Manifest
import Reconciler.Proofs.Session.Surroundings
import Reconciler.Proofs.Reconciliation.Availability
import Reconciler.Proofs.Cache.History
import Reconciler.Proofs.Backend.Drift
import Reconciler.Proofs.Description.Parameters
import Reconciler.Proofs.Description.BodyFields
import Reconciler.Proofs.RateLimiter.Bucket
import Reconciler.Proofs.RateLimiter.Backoff
import Reconciler.Proofs.Backend.Search
import Reconciler.Proofs.Cluster.Definitions
import Reconciler.Proofs.Backend.Performance
import Reconciler.Proofs.Description.Pointers
import Reconciler.Proofs.Secret
import Reconciler.Proofs.Description.Chains
import Reconciler.Proofs.Description.Walk
