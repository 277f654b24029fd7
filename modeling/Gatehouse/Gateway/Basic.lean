import Gatehouse.Forward.Call
import Gatehouse.Server.Basic

/-!
A gateway as it is built from its configuration.

Building a gateway reads no file and dials no backend. Another configuration that comes later only
replaces the table of services.
-/

namespace Gatehouse

/-- The parts of a gateway that requests share. -/
structure Gateway where
  gate : Gate
  registry : Registry
  pool : Pool Line
  caller : Caller Double
  /-- The time between two passes over the pool. -/
  evictionInterval : Nat

namespace Gateway

def build (config : Config) : Gateway where
  gate := .ofConfig config.security
  registry := .ofConfig config
  pool := { ttl := Duration.ofSecs config.pool.ttlSecs }
  caller := .ofConfig config
  evictionInterval := Duration.ofSecs config.pool.evictionIntervalSecs

/-- Take the services of another configuration. -/
def reload (gateway : Gateway) (config : Config) : Gateway :=
  { gateway with registry := gateway.registry.reload config.services }

/-- How long a call and an upload to a service may take. -/
def timeouts (gateway : Gateway) (service : String) : CallTimeouts where
  unary := gateway.caller.callTimeout gateway.registry.table service
  stream := gateway.caller.streamTimeout gateway.registry.table service

/-- What calls share at the start, on a network in this state. -/
def client {σ : Type} (gateway : Gateway) (network : σ) : Client σ where
  registry := gateway.registry
  pool := gateway.pool
  network := network

/-- What backends are reached with. -/
def forwarder {σ : Type} (gateway : Gateway) (network : Network σ) (files : Net.Files)
    (clock : Nat → Int) : Forwarder Double σ where
  caller := gateway.caller
  gate := gateway.gate
  network := network
  files := files
  clock := clock

/-- The HTTP side of the gateway. -/
def server (gateway : Gateway) (config : Config) (files : Net.Files) : Server Double :=
  .ofConfig config gateway.gate files

end Gateway

end Gatehouse
