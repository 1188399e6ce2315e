/-!
# Event loops

A session does not drive timers or sockets. It holds a reference to the loop of its host that does,
and the priority that the loop should give to it. A loop has no behaviour here beyond its identity
and name.
-/

namespace RouterAdvert

/-- An event loop: `serial` tells loops of one name apart. -/
structure EventLoop where
  serial : Nat
  name : String
  /-- Whether it was made as the default loop of the host. -/
  isDefault : Bool
deriving DecidableEq, Repr

/-- Where the loop comes from that somebody wants to attach. -/
inductive LoopSource
  | given (loop : EventLoop)
  | fresh (name : String)
  | perInterface
  /-- The default loop, which is shared as long as anybody holds it. -/
  | threadDefault
deriving DecidableEq, Repr

end RouterAdvert
