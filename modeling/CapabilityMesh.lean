import CapabilityMesh.Agent.Identity
import CapabilityMesh.Agent.State
import CapabilityMesh.Config.Source
import CapabilityMesh.Json.Any
import CapabilityMesh.Log.Filter
import CapabilityMesh.Log.Retention
import CapabilityMesh.Registry.Http
import CapabilityMesh.Simulation.Run
import CapabilityMesh.Proofs.Injection.Settling
import CapabilityMesh.Proofs.Injection.Table
import CapabilityMesh.Proofs.Injection.Writing
import CapabilityMesh.Proofs.Agent.Accounts
import CapabilityMesh.Proofs.Agent.Standing
import CapabilityMesh.Proofs.Agent.Bindings
import CapabilityMesh.Proofs.Agent.Declaration
import CapabilityMesh.Proofs.Agent.Sync
import CapabilityMesh.Proofs.Agent.Bookkeeping
import CapabilityMesh.Proofs.Agent.Leaks
import CapabilityMesh.Proofs.Agent.Locking
import CapabilityMesh.Proofs.Injection.Chronicle
import CapabilityMesh.Proofs.Agent.Effect
import CapabilityMesh.Proofs.Agent.Strays
import CapabilityMesh.Proofs.Agent.Fruitless
import CapabilityMesh.Proofs.Simulation.SingleFlight
import CapabilityMesh.Proofs.Simulation.Shutdown
import CapabilityMesh.Proofs.Simulation.Tenure
import CapabilityMesh.Proofs.Config.Soundness
import CapabilityMesh.Proofs.Wire.RoundTrip
import CapabilityMesh.Proofs.Registry.Verdict
import CapabilityMesh.Proofs.Simulation.Cadence
import CapabilityMesh.Proofs.Config.Safety
import CapabilityMesh.Proofs.Registry.Addressing
import CapabilityMesh.Proofs.Injection.Call
import CapabilityMesh.Proofs.Config.Naming
import CapabilityMesh.Proofs.Config.Layering
import CapabilityMesh.Proofs.Agent.Confinement
import CapabilityMesh.Proofs.Agent.Payload
import CapabilityMesh.Proofs.Agent.Living
import CapabilityMesh.Proofs.Wire.Bindings
import CapabilityMesh.Proofs.Agent.Following
import CapabilityMesh.Proofs.Agent.Health
import CapabilityMesh.Proofs.Url.Redaction
import CapabilityMesh.Proofs.Config.Report
import CapabilityMesh.Proofs.Log.Retention
import CapabilityMesh.Proofs.Log.Filter
