import RelayChat.Multiplexer
import RelayChat.Relay

/-!
# The relay behind the multiplexer

The relay as a handler: its calls are written out as lines before they are
queued. How many connections are open plays no part.
-/

namespace RelayChat

namespace IdentitySettings

/-- The relay of an identity, started at a time. -/
def site (identity : IdentitySettings) (created : Int) : Site where
  name := identity.name
  network := identity.network
  version := Site.standardVersion
  created := created
  password := identity.password

end IdentitySettings

namespace Relay

/-- The relay as a handler. -/
def handler (site : Site) : Handler Directory where
  react d _ event :=
    let (after, calls) := step site d event
    (after, calls.map (Outgoing.map Message.render))

end Relay

end RelayChat
