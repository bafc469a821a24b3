import TestCluster.Format
import TestCluster.Options

/-!
# The fields of options — what an options document may say

    Eight fields, each at most once and each with a default; other fields are skipped
    unread. A port mapping has two fields, both required. By position, options may break off
    after any field, a port mapping has exactly two.
-/

namespace TestCluster

variable {m : Type → Type} [Monad m] {N : Type}

/-- Reads a port number. -/
def Format.port (f : Format m N) (node : N) : m UInt16 := (UInt16.ofNat ·) <$> f.natBelow UInt16.size node

/-- Reads a port mapping. -/
def NodePort.read (f : Format m N) (node : N) : m NodePort := do
  match ← f.fields node with
  | .inl [node, host] => pure ⟨← f.port node, ← f.port host⟩
  | .inl _ => f.refuse
  | .inr members => do
    let node ← f.once members "nodePort" f.port f.refuse
    let host ← f.once members "hostPort" f.port f.refuse
    pure ⟨node, host⟩

namespace Options

/-- The names of the fields, in their order. -/
def fieldNames : List String :=
  ["rawConfig", "images", "waitSecs", "nodePorts", "workers", "kubernetesVersion", "kubeconfig",
    "etcdRamDisk"]

/-- Reads options from named fields. -/
def readMembers (f : Format m N) (members : List (String × N)) : m Options := do
  let rawConfig ← f.once members "rawConfig" (f.nullable f.text) (pure none)
  let images ← f.once members "images" (f.list f.text) (pure [])
  let waitSeconds ← f.once members "waitSecs" (f.nullable (f.natBelow UInt64.size)) (pure none)
  let nodePorts ← f.once members "nodePorts" (f.list (NodePort.read f)) (pure [])
  let workers ← f.once members "workers" (f.natBelow UInt32.size) (pure 0)
  let version ← f.once members "kubernetesVersion" (f.nullable f.text) (pure none)
  let kubeconfig ← f.once members "kubeconfig" (f.nullable f.text) (pure none)
  let etcdRamDisk ← f.once members "etcdRamDisk" f.bool (pure false)
  pure {
    rawConfig, images, waitSeconds := waitSeconds.map (UInt64.ofNat ·), nodePorts
    workers := .ofNat workers, kubernetesVersion := version, kubeconfig, etcdRamDisk }

/-- Reads options: fields by position are named in their order. -/
def read (f : Format m N) (node : N) : m Options := do
  match ← f.fields node with
  | .inr members => readMembers f members
  | .inl values =>
    if fieldNames.length < values.length then f.refuse
    else readMembers f (fieldNames.zip values)

/-- A text that may be absent, as a value. -/
def textValue : Option String → Value
  | some s => .string s
  | none => .null

/-- A port mapping as a value. -/
def portValue (port : NodePort) : Value :=
  .object [("nodePort", .int port.node.toNat), ("hostPort", .int port.host.toNat)]

/-- The options as a value: all fields, in their order. -/
def toValue (o : Options) : Value :=
  .object [
    ("rawConfig", textValue o.rawConfig),
    ("images", .array (o.images.map .string)),
    ("waitSecs", match o.waitSeconds with
      | some w => .int w.toNat
      | none => .null),
    ("nodePorts", .array (o.nodePorts.map portValue)),
    ("workers", .int o.workers.toNat),
    ("kubernetesVersion", textValue o.kubernetesVersion),
    ("kubeconfig", textValue o.kubeconfig),
    ("etcdRamDisk", .bool o.etcdRamDisk)]

end Options

end TestCluster
