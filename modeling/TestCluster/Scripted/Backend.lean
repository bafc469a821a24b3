import TestCluster.Scripted.Machine

/-!
# A scripted backend — clusters and images in memory

    The backend keeps the names of clusters and images, and writes down every call before it
    carries it out. A call fails if the backend is told so, for all calls of its kind or for
    those with one target.
-/

namespace TestCluster.Scripted

/-- What the backend keeps. -/
structure Backend where
  clusters : List String := []
  /-- The images that are present. -/
  images : List String := []
  /-- The nodes of clusters that do not have the usual ones. -/
  nodes : List (String × List String) := []
  /-- The calls that fail, each with what is said then. -/
  failures : List (String × String) := []
  /-- The kubeconfig that is exported. -/
  kubeconfig : String := ""
  deriving Repr

/-- A call as it is written down. Archives are numbered as they are first seen. -/
inductive Record
  | create (request : CreateRequest)
  | delete (cluster kubeconfig : String) (kubeconfigExists : Bool)
  | list
  | exportKubeconfig (cluster path : String)
  | nodes (cluster : String)
  | load (cluster node : String) (archive : Nat) (content : Option (List UInt8))
  | exists_ (image : String)
  | pull (image : String)
  | save (images : List String) (archive : Nat)
  deriving Repr

/-- A machine with a backend, and what has been seen of both. -/
structure Scene where
  machine : Machine
  backend : Backend := {}
  /-- Whether the hooks to come succeed, one after another. -/
  hooks : List Bool := []
  /-- The calls so far, the last one first. -/
  records : List Record := []
  /-- The hooks that ran, each with its cluster, the last one first. -/
  notes : List String := []
  /-- The archives so far. -/
  archives : List String := []

namespace Backend

/-- The failure of a call, if it is to fail. -/
def failure? (b : Backend) (word target : String) : Option CommandError :=
  (b.failures.lookup word <|> b.failures.lookup (word ++ " " ++ target)).map fun message =>
    ⟨"fake " ++ word ++ " " ++ target, message⟩

/-- The nodes of a cluster. -/
def nodesOf (b : Backend) (cluster : String) : List String :=
  (b.nodes.lookup cluster).getD [cluster ++ "-control-plane", cluster ++ "-worker"]

end Backend

namespace Scene

/-- Carries something out unless it is to fail. -/
def unlessFailing {α : Type} (s : Scene) (word target : String)
    (act : Scene → Except CommandError α × Scene) : Except CommandError α × Scene :=
  match s.backend.failure? word target with
  | some e => (.error e, s)
  | none => act s

/-- Writes a call down. -/
def note (s : Scene) (r : Record) : Scene := { s with records := r :: s.records }

/-- The number of an archive, and the scene in which it has been seen. -/
def seeArchive (s : Scene) (path : String) : Nat × Scene :=
  match s.archives.idxOf? path with
  | some n => (n, s)
  | none => (s.archives.length, { s with archives := s.archives ++ [path] })

/-- Changes the backend. -/
def withBackend (s : Scene) (b : Backend) : Scene := { s with backend := b }

/-- Writes a file, if it is one below the directory of temporary files. -/
def writeBelow (s : Scene) (path : String) (content : List UInt8) : Except FileFault Scene :=
  if Disk.isBelow path s.machine.tempDir then
    (s.machine.disk.write path content).map fun disk =>
      { s with machine := { s.machine with disk } }
  else .ok s

/-- Answers a call to the provider. -/
def handleProvider : Handler Provider.calls Scene
  | .create r, s =>
    (s.note (.create r)).unlessFailing "create" r.name fun s =>
      (.ok (), s.withBackend { s.backend with clusters := s.backend.clusters ++ [r.name] })
  | .delete cluster kubeconfig, s =>
    (s.note (.delete cluster kubeconfig (s.machine.disk.exists_ kubeconfig))).unlessFailing
      "delete" cluster fun s =>
        (.ok (), s.withBackend
          { s.backend with clusters := s.backend.clusters.filter (· != cluster) })
  | .list, s => (s.note .list).unlessFailing "list" "" fun s => (.ok s.backend.clusters, s)
  | .exportKubeconfig cluster path, s =>
    (s.note (.exportKubeconfig cluster path)).unlessFailing "export" cluster fun s =>
      match s.writeBelow path s.backend.kubeconfig.toUTF8.toList with
      | .ok s => (.ok (), s)
      | .error fault => (.error ⟨"fake export " ++ cluster, fault.message⟩, s)
  | .nodes cluster, s =>
    (s.note (.nodes cluster)).unlessFailing "nodes" cluster fun s =>
      (.ok (s.backend.nodesOf cluster), s)
  | .load cluster node archive, s =>
    let (number, s) := s.seeArchive archive
    (s.note (.load cluster node number (s.machine.disk.read archive).toOption)).unlessFailing
      "load" node fun s => (.ok (), s)

/-- Answers a call to the image tool. -/
def handleImages : Handler ImageTool.calls Scene
  | .exists_ image, s =>
    (s.note (.exists_ image)).unlessFailing "exists" image fun s =>
      (.ok (s.backend.images.contains image), s)
  | .pull image, s =>
    (s.note (.pull image)).unlessFailing "pull" image fun s =>
      (.ok (), s.withBackend { s.backend with images := image :: s.backend.images })
  | .save images archive, s =>
    let (number, s) := s.seeArchive archive
    (s.note (.save images number)).unlessFailing "save" "" fun s =>
      match s.writeBelow archive (",".intercalate images).toUTF8.toList with
      | .ok s => (.ok (), s)
      | .error fault => (.error ⟨"fake save ", fault.message⟩, s)

/-- Answers a call. -/
def handle : Handler World.calls Scene
  | .provider c, s => s.handleProvider c
  | .images c, s => s.handleImages c
  | .host c, s =>
    let (answer, machine) := Machine.handle c s.machine
    (answer, { s with machine })
  | .hook name cluster, s =>
    let succeeds := s.hooks.headD true
    (if succeeds then .ok () else .error .emptyManifest,
      { s with hooks := s.hooks.drop 1, notes := (name ++ " " ++ cluster) :: s.notes })

end Scene

end TestCluster.Scripted
