import TestCluster.Kubeconfig
import TestCluster.Resource.Mapping
import TestCluster.World

/-!
# Tunnels — a local port that leads to a port of a pod

    A tunnel is set up by binding the local port and then asking the server for a connection to
    the pod; if the latter fails, the port is free again. Each local connection is served by a
    connection to the pod of its own: the first by the one made when the tunnel was set up,
    each later one by a new one. If that cannot be had, or is for another port, the local
    connection ends without data, and the tunnel goes on.
-/

namespace TestCluster

/-- Where a tunnel starts; port 0 stands for any free one. -/
structure TunnelEntry where
  address : IpAddress := .localhost
  port : UInt16 := 0
  deriving DecidableEq, Repr

/-- A pod's port. -/
structure PodPort where
  namespace_ : String
  pod : String
  port : UInt16
  deriving DecidableEq, Repr

namespace PodPort

/-- The failure of a tunnel to a pod's port. -/
def failure (p : PodPort) (reason : String) : Error :=
  .portForward (p.namespace_ ++ "/" ++ p.pod) p.port reason

/-- The resource in which the server keeps pods. -/
def pods : Resource := .ofKind ⟨"", "v1", "Pod"⟩ "pods"

/-- The address at which the server connects to the pod. -/
def address (p : PodPort) : String :=
  pods.objectPath (some p.namespace_) p.pod ++ "/portforward?&ports=" ++ Text.decimal p.port.toNat

end PodPort

/-- A tunnel that has been set up. -/
structure Tunnel where
  /-- The address of the server. -/
  server : String
  entry : TunnelEntry
  exit : PodPort
  target : Api.Target
  /-- The connection to the pod that no local connection uses yet. -/
  ready : Option Api.Stream

namespace Tunnel

/-- Asks the server for a connection to the pod. -/
def connect (server : String) (target : Api.Target) :
    Program World.calls (Except ApiFault Api.Stream) :=
  World.host (.upgrade server target)

/-- Asks the server for the first connection to a pod, whose address may not be well formed. -/
def connectFirst (server : String) (exit : PodPort) :
    Program World.calls (Except ApiFault (Api.Target × Api.Stream)) :=
  match Api.Target.ofText exit.address with
  | .error fault => .done (.error (.address fault))
  | .ok target => Except.map (target, ·) <$> connect server target

/-- Sets a tunnel up, unless that was called off before. -/
def setUp (calledOff : Bool) (server : String) (exit : PodPort) (entry : TunnelEntry) :
    Attempt World.calls Tunnel := do
  if calledOff then throw .cancelled
  else
    match ← World.host (.bind entry.address entry.port) with
    | .error cause =>
      throw (exit.failure ("bind " ++ entry.address.text ++ ":" ++
        Text.decimal entry.port.toNat ++ ": " ++ cause.message))
    | .ok port =>
      match ← ExceptT.lift (connectFirst server exit) with
      | .error fault => do
        let _ ← World.host (.release entry.address port)
        throw (exit.failure fault.message)
      | .ok (target, stream) => pure ⟨server, ⟨entry.address, port⟩, exit, target, some stream⟩

/-- A connection to the pod for the next local connection, if one can be had, and the tunnel
    afterwards. -/
def take (t : Tunnel) : Program World.calls (Option Api.Stream × Tunnel) :=
  match t.ready with
  | some stream => .done (some stream, { t with ready := none })
  | none => (fun s => (s.toOption, t)) <$> connect t.server t.target

/-- All that a local connection gets from the pod, given all that is sent on it. -/
def bridge (port : UInt16) (stream : Option Api.Stream) (sent : List UInt8) : List UInt8 :=
  match stream with
  | none => []
  | some s => if s.port = port then s.reply sent else []

/-- Serves a local connection. -/
def serve (t : Tunnel) (sent : List UInt8) : Program World.calls (List UInt8 × Tunnel) := do
  let (stream, t) ← t.take
  pure (bridge t.exit.port stream sent, t)

/-- Serves local connections one after another. Each is a connection that has been taken: that
    taking one fails, which ends a tunnel, is left out. -/
def serveAll (t : Tunnel) : List (List UInt8) → Program World.calls (List (List UInt8) × Tunnel)
  | [] => .done ([], t)
  | sent :: later => do
    let (got, t) ← t.serve sent
    let (others, t) ← t.serveAll later
    pure (got :: others, t)

/-- Ends a tunnel. -/
def stop (t : Tunnel) : Attempt World.calls Unit :=
  World.host (.release t.entry.address t.entry.port)

end Tunnel

end TestCluster
