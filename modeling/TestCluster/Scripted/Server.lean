import TestCluster.Api.Exchange
import TestCluster.Json.Printer

/-!
# A scripted API server — replies from a table

    The server replies to a request as its table says. Without an entry it stores every
    object that it is sent, lists the resources of the groups that it knows, and knows
    nothing else.
-/

namespace TestCluster.Scripted

/-- An API server with prepared replies. -/
structure Server where
  /-- The resources of each group and version, as they stand in its list. -/
  groups : List (String × List (List (String × Value))) := []
  /-- The replies to requests, by method and path. -/
  replies : List (String × Api.Reply) := []

namespace Server

/-- A reply that holds a document. -/
def document (status : Nat) (v : Value) : Api.Reply := ⟨status, (Json.compact v).toUTF8.toList⟩

/-- The list of the resources of a group and version. -/
def listing (groupVersion : String) (resources : List (List (String × Value))) : Value :=
  .object [
    ("kind", .string "APIResourceList"), ("apiVersion", .string "v1"),
    ("groupVersion", .string groupVersion),
    ("resources", .array (resources.map fun members =>
      .object (members ++ [
        ("singularName", .string ""), ("verbs", .array [.string "get", .string "patch"])])))]

/-- The refusal of a request for something that is not there. -/
def absence : Value :=
  .object [
    ("kind", .string "Status"), ("apiVersion", .string "v1"), ("metadata", .object []),
    ("status", .string "Failure"),
    ("message", .string "the server could not find the requested resource"),
    ("reason", .string "NotFound"), ("code", .int 404)]

/-- The group and version that a path asks for. -/
def groupVersionAt? (path : String) : Option String :=
  let cs := path.toList
  if cs.take 5 = "/api/".toList then some (String.ofList (cs.drop 5))
  else if cs.take 6 = "/apis/".toList then some (String.ofList (cs.drop 6))
  else none

/-- The method and path of a request. -/
def keyOf : Api.Request → String
  | .get target => "GET " ++ target.path
  | .patch target _ => "PATCH " ++ target.path

/-- What the server replies to a request. -/
def reply (s : Server) (request : Api.Request) : Api.Reply :=
  match s.replies.lookup (keyOf request), request with
  | some reply, _ => reply
  | none, .patch _ document => ⟨200, document.toUTF8.toList⟩
  | none, .get target =>
    match (groupVersionAt? target.path).bind fun gv => (s.groups.lookup gv).map (gv, ·) with
    | some (gv, resources) => document 200 (listing gv resources)
    | none => document 404 absence

end Server

/-- A server that is reached, and the requests that it has seen, the last one first. -/
structure Exchanges where
  server : Server
  reversed : List Api.Request := []

/-- Replies to a request, and notes it. -/
def Exchanges.handle : Handler Api.exchange Exchanges := fun request e =>
  (.ok (e.server.reply request), { e with reversed := request :: e.reversed })

end TestCluster.Scripted
