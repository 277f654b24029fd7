import Gatehouse.Config.Basic

/-!
What is logged.

The configured level holds for the gateway itself and for the traces of its requests; everything
else is logged from warnings on.
-/

namespace Gatehouse.Config

/-- The filter of the log. -/
def Observability.directives (o : Observability) : String :=
  "warn,api_gateway=" ++ o.logLevel ++ ",tower_http=" ++ o.logLevel

/-- What is said of a gateway when it starts. -/
def announcement (config : Config) : String :=
  let tls := if config.listener.tls.isSome then "true" else "false"
  "api-gateway starting bind_address=" ++ config.listener.bindAddress ++
    " registry=" ++ config.registry.mode.word ++
    " services=" ++ Numeral.natText config.services.size ++ " tls=" ++ tls

end Gatehouse.Config
