import Gatehouse.Gateway.Background
import Gatehouse.Main
import Gatehouse.Pool.Schedule
import Gatehouse.Proofs.Answer.Attachment
import Gatehouse.Proofs.Forward.Addressing
import Gatehouse.Proofs.Forward.Deadlines
import Gatehouse.Proofs.Gateway.Preconditions
import Gatehouse.Proofs.Gateway.Reloading
import Gatehouse.Proofs.Gateway.Stopping
import Gatehouse.Proofs.Pool.Eviction
import Gatehouse.Proofs.Pool.Gauge
import Gatehouse.Proofs.Pool.HandingOut
import Gatehouse.Proofs.Registry.Interleaving
import Gatehouse.Proofs.Registry.Refreshing
import Gatehouse.Proofs.Registry.Static
import Gatehouse.Proofs.Registry.Sweeping
import Gatehouse.Proofs.Request.Arguments
import Gatehouse.Proofs.Request.Opening
import Gatehouse.Proofs.Retry.Delays
import Gatehouse.Proofs.Route.Agreement
import Gatehouse.Proofs.Security.Binding
import Gatehouse.Proofs.Security.Throughput
import Gatehouse.Proofs.Security.Verification
import Gatehouse.Proofs.Server.Messages
import Gatehouse.Proofs.Server.Rights
import Gatehouse.Proofs.Server.Signing
import Gatehouse.Proofs.Session.Merging
import Gatehouse.Proofs.Upload.Receipt
import Gatehouse.Proofs.Wire.Concatenation
import Gatehouse.Proofs.Wire.Family
import Gatehouse.Registry.Schedule
import Gatehouse.Security.LimiterSchedule
