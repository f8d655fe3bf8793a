import TestDaemon.Client.Link

/-! # Canned peers

A peer that has said all it will say before the first request, and then keeps what it is sent.
-/

namespace TestDaemon

/-- The state of a canned peer is what it has been sent. -/
def Remote.canned : Remote Bytes where
  react received request := ⟨none, [], .closed, received ++ request⟩

/-- A link to a peer with the given replies. -/
def Link.canned (replies : Bytes) : Link Bytes := ⟨[], replies, .closed⟩

end TestDaemon
