/-!
# The network of a host
-/

namespace ProxySync

structure Network where
  /-- The ports that others listen on. -/
  taken : List UInt16 := []
  /-- Connections to the host come through. -/
  connects : Bool := true
deriving DecidableEq, Repr

end ProxySync
