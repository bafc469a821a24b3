import TestCluster.Api.Fault
import TestCluster.Api.Status
import TestCluster.Api.Target
import TestCluster.Json.Format
import TestCluster.Program
import TestCluster.Text.Utf8

/-!
# Exchanges — requests to the API server, and its replies

    A request is sent and answered, or the server is not reached. A reply whose status is in
    the four or five hundreds is a refusal; the server should say why in a JSON document, and
    where it does not, the refusal quotes what it said instead.
-/

namespace TestCluster.Api

/-- A request to the server. -/
inductive Request
  | get (target : Target)
  /-- Sends a document that is to be merged into what the server stores. -/
  | patch (target : Target) (document : String)
  deriving DecidableEq, Repr

/-- The kind of document that a patch sends. -/
def patchContentType : String := "application/apply-patch+yaml"

/-- What the server replies. -/
structure Reply where
  status : Nat
  body : List UInt8
  deriving DecidableEq, Repr

/-- Requests, each answered by a reply unless the server is not reached. -/
def exchange : Interface := ⟨Request, fun _ => Except OsError Reply⟩

/-- Reads a refusal. -/
def Refusal.read (place : Json.Place) : Option Refusal := do
  let f := Json.format
  let members ← match ← f.fields place with
    | .inr members => some members
    | .inl [status, message, reason, code] =>
      some [("status", status), ("message", message), ("reason", reason), ("code", code)]
    | .inl _ => none
  let status ← f.once members "status" f.text none
  let message ← f.once members "message" f.text (some "")
  let reason ← f.once members "reason" f.text (some "")
  let code ← f.once members "code" (f.natBelow UInt16.size) none
  some ⟨status, message, reason, .ofNat code⟩

/-- The refusal that a reply's text says, or else one that quotes it. -/
def Refusal.ofText (status : Nat) (s : String) : Refusal :=
  match Json.read (fun _ => Refusal.read) s with
  | some refusal => refusal
  | none => ⟨statusText status, Text.quoted s, "Failed to parse error data", .ofNat status⟩

/-- The text of a reply that is no refusal. -/
def Reply.text (reply : Reply) : Except ApiFault String :=
  match Text.decode? reply.body with
  | none => .error .notText
  | some s => if isRefusal reply.status then .error (.refused (Refusal.ofText reply.status s)) else .ok s

/-- Sends a request, and gives the text of the reply. -/
def send (request : Request) : Program exchange (Except ApiFault String) := do
  match ← Program.call (I := exchange) request with
  | .error cause => pure (.error (.unreachable cause))
  | .ok reply => pure reply.text

end TestCluster.Api
