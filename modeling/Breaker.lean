import Breaker.Session.Run
import Breaker.Session.Mapper
import Breaker.Json.Parser
import Breaker.Proofs.Traffic.Trial
import Breaker.Proofs.Traffic.Cooldown
import Breaker.Proofs.Traffic.Window
import Breaker.Proofs.Traffic.Stale
import Breaker.Proofs.Traffic.WellFormed
import Breaker.Proofs.Session.Traffic
import Breaker.Proofs.Session.OneShot
import Breaker.Proofs.Session.Ways
import Breaker.Proofs.Circuit.Story
import Breaker.Proofs.Traffic.Story
import Breaker.Proofs.Circuit.Ageless
import Breaker.Proofs.Traffic.Renewal
import Breaker.Proofs.Circuit.Does
import Breaker.Proofs.Registry.Deeds
import Breaker.Proofs.Session.Script
import Breaker.Proofs.Session.Likeness
import Breaker.Proofs.Text.Bytes
import Breaker.Proofs.Session.Deeds
import Breaker.Proofs.Session.Names
import Breaker.Proofs.Circuit.Subject
import Breaker.Proofs.Metrics
import Breaker.Proofs.Registry.Local
import Breaker.Proofs.Session.View
import Breaker.Proofs.Session.Addressed
import Breaker.Proofs.Session.Isolation
import Breaker.Proofs.Traffic.Account
import Breaker.Proofs.Session.Listeners
import Breaker.Proofs.Session.Cancel
import Breaker.Proofs.Policy.Loading
import Breaker.Proofs.Traffic.Forecast
import Breaker.Proofs.Traffic.Uncounted
import Breaker.Proofs.Session.Expired
import Breaker.Proofs.Session.Snapshots
import Breaker.Proofs.Gateway
import Breaker.Proofs.Session.Mappers
import Breaker.Proofs.Session.Reports
import Breaker.Proofs.Session.Results
import Breaker.Proofs.Session.Unseen
import Breaker.Proofs.Classification
import Breaker.Proofs.Policy.Constructed
import Breaker.Proofs.Circuit.Candid
import Breaker.Proofs.Session.OpenCircuits
import Breaker.Proofs.Session.Readiness
import Breaker.Proofs.Session.Journal
import Breaker.Proofs.Circuit.Delivery
import Breaker.Proofs.Session.Delivery
