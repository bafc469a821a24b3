import TestCluster.CommandLine.Form
import TestCluster.LogLevel
import TestCluster.Options
import TestCluster.Tunnel

/-!
# Tasks — what the program can be told to do

    A command line names a task and says how it is to be done. Whatever it says has been
    checked for its form when the task is read: numbers for their range, paths for not being
    empty, node ports, levels and addresses for their grammar.
-/

namespace TestCluster.CommandLine

/-- What is said about the shape of a cluster. -/
structure ClusterArguments where
  name : Option String := none
  /-- The path of an options file. -/
  config : Option String := none
  kubernetesVersion : Option String := none
  workers : Option UInt32 := none
  nodePorts : List NodePort := []
  images : List String := []
  /-- How many seconds to wait. -/
  wait : Option UInt64 := none
  etcdRamDisk : Bool := false
  kubeconfig : Option String := none
  deriving DecidableEq, Repr

/-- What the program is told to do. -/
inductive Task
  | create (cluster : ClusterArguments) (dryRun : Bool)
  | delete (name : Option String) (quiet : Bool)
  | get (name kubeconfig : Option String)
  | up (cluster : ClusterArguments) (ingress : Bool) (ingressPort : Option UInt16) (reuse : Bool)
      (manifests : List String)
  | apply (file : String) (kubeconfig : Option String)
  | portForward (exit : PodPort) (entry : TunnelEntry) (kubeconfig : Option String)
  | environment
  deriving DecidableEq, Repr

/-- A task, and how much is logged while it is done. -/
structure Invocation where
  level : LogLevel
  task : Task
  deriving DecidableEq, Repr

/-! ## The forms of values -/

/-- Reads a number below a bound. Zero may have a minus sign. -/
def readNumber (bound : Nat) (s : String) : Option Nat :=
  match s.toList with
  | '-' :: cs => if cs ≠ [] ∧ cs.all (· == '0') then some 0 else none
  | cs => (Text.readBelow bound cs).toOption

/-- Reads a port number. -/
def readPort (s : String) : Option UInt16 := (readNumber UInt16.size s).map .ofNat

/-- Reads the number of worker nodes. -/
def readWorkers (s : String) : Option UInt32 := (readNumber UInt32.size s).map .ofNat

/-- Reads a number of seconds. -/
def readSeconds (s : String) : Option UInt64 :=
  (Text.readBelow UInt64.size s.toList).toOption.map .ofNat

/-- Reads a node port. -/
def readNodePort (s : String) : Option NodePort := (NodePort.ofText s).toOption

/-- Reads a log level. -/
def readLevel (s : String) : Option LogLevel := (LogLevel.ofText s).toOption

/-- Whether a text is a path. -/
def isPath (s : String) : Bool := s != ""

/-- Whether a text is anything. -/
def isAny (_ : String) : Bool := true

/-! ## The forms of options -/

/-- An option with a value that may be given once. -/
def single (name : String) (letter : Option Char) (accepts : String → Bool) : OptionForm :=
  ⟨name, letter, .value accepts false⟩

/-- An option with a value that may be given again. -/
def repeated (name : String) (letter : Option Char) (accepts : String → Bool) : OptionForm :=
  ⟨name, letter, .value accepts true⟩

/-- An option without a value. -/
def switch (name : String) (letter : Option Char) : OptionForm := ⟨name, letter, .switch⟩

/-- The options that every command has. -/
def commonOptions : List OptionForm :=
  [switch "verbose" 'v', single "log-level" none fun s => (readLevel s).isSome,
    ⟨"help", 'h', .stop .help⟩]

/-- The options that come before the command. -/
def leadingOptions : List OptionForm := commonOptions ++ [⟨"version", 'V', .stop .version⟩]

/-- The name of a cluster. -/
def nameOption : OptionForm := single "name" 'n' isAny

/-- The path of a kubeconfig. -/
def kubeconfigOption : OptionForm := single "kubeconfig" 'k' isPath

/-- The options about the shape of a cluster. -/
def clusterOptions : List OptionForm :=
  [nameOption, single "config" 'c' isPath, single "kubernetes-version" none isAny,
    single "workers" 'w' fun s => (readWorkers s).isSome,
    repeated "node-port" 'p' fun s => (readNodePort s).isSome,
    repeated "image" 'i' isAny, single "wait" none fun s => (readSeconds s).isSome,
    switch "etcd-ram-disk" none, kubeconfigOption]

/-- What is said about the shape of a cluster. -/
def ClusterArguments.ofGiven (g : Given) : ClusterArguments where
  name := g.value? "name"
  config := g.value? "config"
  kubernetesVersion := g.value? "kubernetes-version"
  workers := g.value? "workers" >>= readWorkers
  nodePorts := (g.values "node-port").filterMap readNodePort
  images := g.values "image"
  wait := g.value? "wait" >>= readSeconds
  etcdRamDisk := g.has "etcd-ram-disk"
  kubeconfig := g.value? "kubeconfig"

/-! ## The commands -/

/-- A command: its form, and the task that it names, unless something is missing. -/
structure CommandEntry where
  name : String
  form : CommandForm
  task : Given → Option Task

/-- The command that creates a cluster. -/
def createEntry : CommandEntry where
  name := "create"
  form := { options := clusterOptions ++ [switch "dry-run" none] }
  task g := some (.create (.ofGiven g) (g.has "dry-run"))

/-- The command that deletes a cluster. -/
def deleteEntry : CommandEntry where
  name := "delete"
  form := { options := [nameOption, switch "quiet" 'q'] }
  task g := some (.delete (g.value? "name") (g.has "quiet"))

/-- The command that exports a kubeconfig. -/
def getEntry : CommandEntry where
  name := "get"
  form := { options := [nameOption, kubeconfigOption] }
  task g := some (.get (g.value? "name") (g.value? "kubeconfig"))

/-- The command that reuses or creates a cluster. -/
def upEntry : CommandEntry where
  name := "up"
  form := { options := clusterOptions ++
    [switch "ingress" none, single "ingress-port" none fun s => (readPort s).isSome,
      switch "reuse" none, repeated "manifest" 'f' isPath] }
  task g := some (.up (.ofGiven g) (g.has "ingress") (g.value? "ingress-port" >>= readPort)
    (g.has "reuse") (g.values "manifest"))

/-- The command that applies a manifest. -/
def applyEntry : CommandEntry where
  name := "apply"
  form := { options := [single "file" 'f' isPath, kubeconfigOption] }
  task g := (g.value? "file").map fun file => .apply file (g.value? "kubeconfig")

/-- The namespace of a pod when none is given. -/
def podNamespace : String := "default"

/-- The command that forwards a port. -/
def portForwardEntry : CommandEntry where
  name := "port-forward"
  form := {
    options := [single "namespace" 'n' isAny,
      single "local-port" 'l' fun s => (readPort s).isSome,
      single "address" none fun s => (IpAddress.ofText? s).isSome, kubeconfigOption]
    words := [isAny, fun s => (readPort s).isSome] }
  task g := do
    let pod ← g.words[0]?
    let port ← g.words[1]? >>= readPort
    let entry : TunnelEntry := {
      address := (g.value? "address" >>= IpAddress.ofText?).getD .localhost
      port := (g.value? "local-port" >>= readPort).getD 0 }
    some (.portForward ⟨(g.value? "namespace").getD podNamespace, pod, port⟩ entry
      (g.value? "kubeconfig"))

/-- The command that lists the settings of the environment. -/
def environmentEntry : CommandEntry where
  name := "env"
  form := { options := [] }
  task _ := some .environment

/-- The commands. -/
def entries : List CommandEntry :=
  [createEntry, deleteEntry, getEntry, upEntry, applyEntry, portForwardEntry, environmentEntry]

/-- The command that asks for help. -/
def helpCommand : String := "help"

/-- How it ends when help is asked for: there is help on the program and on each command. -/
def helpOn : List String → Stop
  | [] => .help
  | [name] => if name == helpCommand || entries.any (·.name == name) then .help else .usage
  | _ => .usage

/-- Reads the words after the program's name. -/
def read (words : List String) : Except Stop Invocation := do
  let (before, name, words) ← CommandForm.readAhead ⟨leadingOptions, []⟩ {} none words
  match entries.find? (·.name == name) with
  | none => throw (if name == helpCommand then helpOn words else .usage)
  | some entry =>
    let given ← CommandForm.read
      { entry.form with options := entry.form.options ++ commonOptions } words
    let level := (given.value? "log-level" <|> before.value? "log-level") >>= readLevel
    match entry.task given with
    | some task => pure ⟨.resolve (given.has "verbose" || before.has "verbose") level, task⟩
    | none => throw .usage

end TestCluster.CommandLine
