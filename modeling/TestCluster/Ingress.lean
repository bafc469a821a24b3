import TestCluster.Kubeconfig
import TestCluster.Resource.Apply

/-!
# Ingress — the controller that publishes services of a cluster

    The controller is installed from manifests that are fetched and applied one after another,
    each only when all of the one before it is applied. Last comes a service that pins the port
    of the node on which the controller listens. One client does all of it, so that no kind is
    asked for twice.
-/

namespace TestCluster

namespace ClientConfig

/-- Applies a manifest through a client that remembers mappings. -/
def applyManifest (c : ClientConfig) (m : Mappings) (manifest : String) :
    Attempt World.calls (List Object × Mappings) := do
  match ← ExceptT.lift (World.withServer c.server (apply m manifest)) with
  | (.error e, _) => throw e
  | (.ok stored, m) => pure (stored, m)

end ClientConfig

namespace Ingress

/-- The manifests of the controller. -/
def manifestUrls : List String :=
  ["https://raw.githubusercontent.com/kubernetes/ingress-nginx/controller-v1.9.4/deploy/" ++
    "static/provider/baremetal/deploy.yaml"]

/-- The port of the node on which the controller listens. -/
def nodePort : UInt16 := 30080

/-- The port of this machine on which the controller is published, if no other one is chosen. -/
def defaultPort : UInt16 := 8080

/-- The service that pins the controller to its port of the node. -/
def controllerService : String :=
  String.join <| List.map (· ++ "\n") [
    "apiVersion: v1",
    "kind: Service",
    "metadata:",
    "  name: ingress-nginx-controller",
    "  namespace: ingress-nginx",
    "spec:",
    "  type: NodePort",
    "  selector:",
    "    app.kubernetes.io/component: controller",
    "    app.kubernetes.io/instance: ingress-nginx",
    "    app.kubernetes.io/name: ingress-nginx",
    "  ports:",
    "  - name: http",
    "    port: 80",
    "    protocol: TCP",
    "    targetPort: http",
    "    nodePort: 30080"]

/-- Fetches the text at a location. -/
def fetch (url : String) : Attempt World.calls String := do
  match ← World.host (.fetch url) with
  | .error fault => throw (.fetch url fault)
  | .ok text => pure text

/-- Fetches and applies manifests one after another. -/
def applyFetched (c : ClientConfig) (m : Mappings) : List String → Attempt World.calls Mappings
  | [] => pure m
  | url :: urls => do
    let manifest ← fetch url
    let (_, m) ← c.applyManifest m manifest
    applyFetched c m urls

/-- Installs the controller in the cluster that a kubeconfig leads to. -/
def install (kubeconfig : String) (urls : List String) : Attempt World.calls Unit := do
  let c ← ClientConfig.ofFile kubeconfig
  let m ← applyFetched c {} urls
  let _ ← c.applyManifest m controllerService
  pure ()

end Ingress

end TestCluster
