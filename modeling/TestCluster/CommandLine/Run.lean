import TestCluster.CommandLine.Task
import TestCluster.Lease
import TestCluster.Options.File

/-!
# Running a task — what the program does, prints and reports

    A task is carried out and gives the text that the program prints, or fails. The options of
    a cluster come from its options file first; what the command line says then replaces them,
    except that its node ports and images come after those of the file and that it can only
    turn the RAM disk on.
-/

namespace TestCluster.CommandLine

/-- What the program finds around it. -/
structure Surroundings where
  environment : Environment
  /-- The directory of temporary files. -/
  tempDir : String

/-- Why a task fails. -/
inductive Failure
  | library (cause : Error)
  | optionsFile (path : String) (cause : Error)
  | manifestFile (path : String) (cause : FileFault)
  | noCluster (name : String)
  deriving DecidableEq, Repr

/-- The failure in words. -/
def Failure.message : Failure → String
  | .library cause => cause.message
  | .optionsFile path _ => "Failed to load options from " ++ path
  | .manifestFile path _ => "Failed to read " ++ path
  | .noCluster name => "Cluster " ++ name ++ " not found"

/-- The carrying out of a task. -/
abbrev Work := ExceptT Failure (Program World.calls)

/-- Work that fails as an attempt fails. -/
def attempt {α : Type} (a : Attempt World.calls α) : Work α :=
  ExceptT.mk (Except.mapError .library <$> a.run)

/-- The options in a file, or the default ones. -/
def fileOptions : Option String → Work Options
  | none => pure {}
  | some path => ExceptT.mk (Except.mapError (.optionsFile path) <$> (Options.load path).run)

/-- Options as the command line changes them. -/
def ClusterArguments.change (a : ClusterArguments) (o : Options) : Options :=
  { o with
    kubernetesVersion := a.kubernetesVersion <|> o.kubernetesVersion
    workers := a.workers.getD o.workers
    waitSeconds := a.wait <|> o.waitSeconds
    kubeconfig := a.kubeconfig <|> o.kubeconfig
    etcdRamDisk := a.etcdRamDisk || o.etcdRamDisk
    nodePorts := o.nodePorts ++ a.nodePorts
    images := o.images ++ a.images }

/-- The options that the command line asks for. -/
def ClusterArguments.options (a : ClusterArguments) : Work Options := do
  let o ← fileOptions a.config
  pure (a.change o)

/-- The text of a file that is named on the command line. -/
def readManifest (path : String) : Work String := do
  match ← World.host (.readFile path) with
  | .error fault => throw (.manifestFile path fault)
  | .ok bytes =>
    match Text.decode? bytes with
    | some text => pure text
    | none => throw (.manifestFile path .notText)

/-- The kubeconfig files that the environment names. -/
def kubeconfigPaths (env : Environment) : List String :=
  let named := ((env "KUBECONFIG").map fun value =>
    ((Path.piecesAt ':' value.toList).map String.ofList).filter (· != "")).getD []
  if named.isEmpty then
    match env "HOME" with
    | some home => [Path.join home ".kube/config"]
    | none => []
  else named

/-- Finds out which server to talk to. -/
def clientConfig (around : Surroundings) : Option String → Work ClientConfig
  | some path => attempt (ClientConfig.ofFile path)
  | none => attempt (ClientConfig.ofFiles (kubeconfigPaths around.environment))

/-- A line of output. -/
def line (s : String) : String := s ++ "\n"

/-- The cluster that a command line describes. -/
def describedCluster (a : ClusterArguments) : Work ClusterConfig := do
  let options ← a.options
  match ClusterConfig.ofOptions (a.name.getD defaultClusterName) options with
  | .error fault => throw (.library (.invalidConfig fault))
  | .ok config => pure config

/-- Creates a cluster, or shows the document that would describe it. -/
def create (around : Surroundings) (a : ClusterArguments) (dryRun : Bool) : Work String := do
  let config ← describedCluster a
  if dryRun then pure config.render
  else
    let cluster ← attempt (Cluster.create around.tempDir config)
    pure (line cluster.kubeconfig)

/-- Exports the kubeconfig of a cluster. -/
def get (around : Surroundings) (name kubeconfig : Option String) : Work String := do
  let name := name.getD defaultClusterName
  match ← attempt (Cluster.find? around.tempDir name kubeconfig) with
  | some cluster => pure (line cluster.kubeconfig)
  | none => throw (.noCluster name)

/-- The hooks that apply manifest files. -/
def manifestHooks : List String → Work (List Hook)
  | [] => pure []
  | path :: paths => do
    let text ← readManifest path
    let others ← manifestHooks paths
    pure (.manifest path text :: others)

/-- Reuses or creates a cluster; the cluster is left as it is. -/
def up (around : Surroundings) (a : ClusterArguments) (ingress : Bool)
    (ingressPort : Option UInt16) (reuse : Bool) (manifests : List String) : Work String := do
  let options ← a.options
  let hooks ← manifestHooks manifests
  let lease ← attempt (Lease.start around.tempDir around.environment {
    name := a.name.getD defaultClusterName, options, ingress
    ingressPort := ingressPort.getD Ingress.defaultPort
    hooks, reuse, cleanup := false, heedsEnvironment := true })
  pure (line lease.cluster.kubeconfig ++ if ingress then line lease.ingressUrl else "")

/-- What is said of an object that has been applied. -/
def appliedLine (o : Object) : String :=
  line (Text.lowercase (o.types.elim "?" Types.kind) ++ "/" ++ o.name ++ " applied")

/-- Applies a manifest file. -/
def apply (around : Surroundings) (file : String) (kubeconfig : Option String) : Work String := do
  let manifest ← readManifest file
  let client ← clientConfig around kubeconfig
  let (stored, _) ← attempt (client.applyManifest {} manifest)
  pure (String.join (stored.map appliedLine))

/-- Forwards a port, and says so. -/
def portForward (around : Surroundings) (exit : PodPort) (entry : TunnelEntry)
    (kubeconfig : Option String) : Work String := do
  let client ← clientConfig around kubeconfig
  let t ← attempt (Tunnel.setUp false client.server exit entry)
  pure (line ("Forwarding " ++ entry.address.text ++ ":" ++ Text.decimal t.entry.port.toNat ++
    " -> " ++ exit.namespace_ ++ "/" ++ exit.pod ++ ":" ++ Text.decimal exit.port.toNat))

/-- The settings of the environment. -/
def environmentHelp : String :=
  String.join <| List.map line [
    "Environment Variables (honoured when env overrides are enabled):",
    "",
    "  " ++ Overrides.variableName "CLEANUP" ++ "        Delete the cluster on cleanup (true/false)",
    "  " ++ Overrides.variableName "REUSE" ++
      "          Reuse an existing cluster with the same name (true/false)",
    "  " ++ Overrides.variableName "NAME" ++ "           Cluster name",
    "  " ++ Overrides.variableName "INGRESS_PORT" ++
      "   Host port mapped to the ingress controller",
    "",
    "Example:",
    "  export " ++ Overrides.variableName "REUSE" ++ "=true",
    "  export " ++ Overrides.variableName "CLEANUP" ++ "=false",
    "  e2e-cluster up --ingress"]

/-- Carries a task out, and gives the text that is printed. -/
def Task.run (around : Surroundings) : Task → Work String
  | .create cluster dryRun => CommandLine.create around cluster dryRun
  | .delete name quiet => do
    attempt (Cluster.deleteNamed (name.getD defaultClusterName) quiet)
    pure ""
  | .get name kubeconfig => CommandLine.get around name kubeconfig
  | .up cluster ingress ingressPort reuse manifests =>
    CommandLine.up around cluster ingress ingressPort reuse manifests
  | .apply file kubeconfig => CommandLine.apply around file kubeconfig
  | .portForward exit entry kubeconfig => CommandLine.portForward around exit entry kubeconfig
  | .environment => pure environmentHelp

/-- How the program ends. -/
structure Report where
  code : UInt8
  output : String := ""
  /-- What the program says of its failure. -/
  error : String := ""
  deriving DecidableEq, Repr

/-- The program's name and version. -/
def versionLine : String := line "e2e-cluster 0.1.0"

/-- How the program ends when there is no task to carry out. -/
def Stop.report : Stop → Report
  | .usage => { code := 2 }
  | .help => { code := 0 }
  | .version => { code := 0, output := versionLine }

/-- How the program ends after a task. A failure is reported by its own message; the causes behind
    it, which are listed after the message, are left out. -/
def reportOf : Except Failure String → Report
  | .ok output => { code := 0, output }
  | .error failure => { code := 1, error := "Error: " ++ failure.message }

/-- Does what the words after the program's name say. -/
def perform (around : Surroundings) (words : List String) : Program World.calls Report :=
  match read words with
  | .error stop => .done stop.report
  | .ok invocation => reportOf <$> (invocation.task.run around).run

end TestCluster.CommandLine
