import TestCluster.Api.Exchange
import TestCluster.Api.Stream
import TestCluster.Docker.Tool
import TestCluster.Error
import TestCluster.IpAddress
import TestCluster.Kind.Tool

/-!
# The world outside — everything that the life of a cluster asks for

    Besides the provider and the image tool there is the machine with its ports, files and
    clock, there are the servers that are reached over the network, and there are hooks, about
    which nothing is known but their name and whether they succeed.
-/

namespace TestCluster

namespace Host

/-- A call to the machine, or over its network. -/
inductive Call
  /-- Binds a port of an address; port 0 stands for any free one. -/
  | bind (address : IpAddress) (port : UInt16)
  /-- Frees a bound port. -/
  | release (address : IpAddress) (port : UInt16)
  /-- Makes a file with a new name, of which the start and the end are given. -/
  | makeTemporary (nameStart nameEnd : String)
  | remove (path : String)
  | readFile (path : String)
  | writeFile (path : String) (content : List UInt8)
  /-- Sends a request to the API server at an address. -/
  | exchange (server : String) (request : Api.Request)
  /-- Asks the API server at an address to turn a request into a connection. -/
  | upgrade (server : String) (target : Api.Target)
  /-- Fetches the text at a location. -/
  | fetch (url : String)
  | pause (seconds : UInt64)
  deriving DecidableEq, Repr

/-- What a call to the machine is answered with. -/
def Answer : Call → Type
  | .bind .. => Except OsError UInt16
  | .release .. => Unit
  | .makeTemporary .. => Except FileFault String
  | .remove _ => Unit
  | .readFile _ => Except FileFault (List UInt8)
  | .writeFile .. => Except FileFault Unit
  | .exchange .. => Except OsError Api.Reply
  | .upgrade .. => Except ApiFault Api.Stream
  | .fetch _ => Except FetchFault String
  | .pause _ => Unit

/-- The calls to the machine, with their answers. -/
def calls : Interface := ⟨Call, Answer⟩

end Host

namespace World

/-- A call to the world outside. -/
inductive Call
  | provider (call : Provider.Call)
  | images (call : ImageTool.Call)
  | host (call : Host.Call)
  /-- Runs a hook on a cluster. -/
  | hook (name cluster : String)
  deriving DecidableEq, Repr

/-- What a call is answered with. -/
def Answer : Call → Type
  | .provider c => Provider.calls.Answer c
  | .images c => ImageTool.calls.Answer c
  | .host c => Host.Answer c
  | .hook .. => Except Error Unit

/-- The calls to the world outside, with their answers. -/
def calls : Interface := ⟨Call, Answer⟩

end World

/-- A computation that fails with an error, over an interface. -/
abbrev Attempt (I : Interface) (α : Type) := ExceptT Error (Program I) α

namespace World

/-- Asks the provider. -/
def provider (c : Provider.Call) : Program calls (Except CommandError (Provider.Result c)) :=
  Program.call (I := calls) (.provider c)

/-- Asks the image tool. -/
def images (c : ImageTool.Call) : Program calls (Except CommandError (ImageTool.Result c)) :=
  Program.call (I := calls) (.images c)

/-- Asks the machine. -/
def host (c : Host.Call) : Program calls (Host.Answer c) := Program.call (I := calls) (.host c)

/-- Runs a hook. -/
def hook (name cluster : String) : Program calls (Except Error Unit) :=
  Program.call (I := calls) (.hook name cluster)

/-- Does with the API server at an address what a computation over exchanges does. -/
def withServer {α : Type} (server : String) (p : Program Api.exchange α) : Program calls α :=
  p.expand fun request => host (.exchange server request)

/-- Asks the provider; a failure becomes an error. -/
def tryProvider (c : Provider.Call) (onFailure : CommandError → Error) :
    Attempt calls (Provider.Result c) :=
  ExceptT.mk (Except.mapError onFailure <$> provider c)

/-- Asks the image tool; a failure becomes an error. -/
def tryImages (c : ImageTool.Call) (onFailure : CommandError → Error) :
    Attempt calls (ImageTool.Result c) :=
  ExceptT.mk (Except.mapError onFailure <$> images c)

end World

/-! ## The world with external tools in place of provider and image tool -/

namespace Shell

/-- A call to the world, where provider and image tool are commands. -/
inductive Call
  | command (command : Command)
  | host (call : Host.Call)
  deriving DecidableEq, Repr

/-- What a call is answered with. -/
def Answer : Call → Type
  | .command _ => Command.Outcome
  | .host c => Host.Answer c

/-- The calls, with their answers. -/
def calls : Interface := ⟨Call, Answer⟩

/-- Asks the machine. -/
def host (c : Host.Call) : Program calls (Host.Answer c) := Program.call (I := calls) (.host c)

/-- Runs commands one after another. -/
def withCommands {α : Type} (p : Program Command.execution α) : Program calls α :=
  p.expand fun command => Program.call (I := calls) (.command command)

/-- The names of the programs that are called as provider and as image tool. -/
structure Tools where
  kind : String := Kind.defaultBinary
  docker : String := Docker.defaultBinary
  deriving DecidableEq, Repr

/-- Answers a call to the world by external tools. A hook that is only known by its name does
    nothing. -/
def answer (tools : Tools) : (call : World.Call) → Program calls (World.Answer call)
  | .provider c => withCommands (Kind.answer tools.kind c)
  | .images c => withCommands (Docker.answer tools.docker c)
  | .host c => host c
  | .hook .. => .done (.ok ())

/-- Does with given tools what a computation over the world does. -/
def runWith {α : Type} (tools : Tools) (p : Program World.calls α) : Program calls α :=
  p.expand (answer tools)

/-- Does with the usual tools what a computation over the world does. -/
def run {α : Type} (p : Program World.calls α) : Program calls α := runWith {} p

end Shell

end TestCluster
