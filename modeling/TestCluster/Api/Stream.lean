/-!
# Streams — the far end of a connection to a pod

    A request to the server can be turned into a connection to a port of a pod. The pod first
    says which port it takes the connection to be for, and then sends what it likes.
-/

namespace TestCluster.Api

/-- What a pod does at its end of a connection. -/
structure Stream where
  /-- The port that the pod says the connection is for. -/
  port : UInt16
  /-- All that the pod sends, given all that it is sent. -/
  reply : List UInt8 → List UInt8

end TestCluster.Api
