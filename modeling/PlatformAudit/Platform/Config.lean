import PlatformAudit.Platform.Switchboard
import PlatformAudit.Protocol.Base.Service
import PlatformAudit.Protocol.Power.Service

/-!
# Configured platforms

A platform in the same process that answers base commands and, if it is configured so, power
commands.
-/

namespace PlatformAudit

/-- A platform as it is configured. -/
structure PlatformConfig where
  base : Base.Config := {}
  /-- Nothing if the platform has no power protocol. -/
  power : Option Power.Config := none
deriving Repr

/-- A protocol of a configured platform. -/
inductive Service where
  | base (config : Base.Config)
  | power (service : Power.Service)

namespace Service

def protocol : Service → UInt8
  | .base _ => Protocol.base
  | .power _ => Protocol.power

/-- The reply of a part, as a reply of the whole. -/
private def lift {α : Type} (whole : α → Service) (reply : Reply α) : Reply Service where
  response := reply.response
  posts := reply.posts
  next := whole reply.next

instance : Handler Service where
  respond
    | .base config, header, parameters => lift .base (Handler.respond config header parameters)
    | .power service, header, parameters => lift .power (Handler.respond service header parameters)

end Service

namespace PlatformConfig

/-- The stock platform: six listed protocols, two agents and three power domains. -/
def standard : PlatformConfig where
  power := some {}

def services (config : PlatformConfig) : List Service :=
  .base config.base :: (config.power.map fun power => .power (.start power)).toList

def switchboard (config : PlatformConfig) : Switchboard Service :=
  { handlers :=
      config.services.foldl (fun handlers service => handlers.insert service.protocol service)
        .empty }

end PlatformConfig

end PlatformAudit
