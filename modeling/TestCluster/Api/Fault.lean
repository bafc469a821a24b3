import TestCluster.Api.Target
import TestCluster.OsError
import TestCluster.Resource.Kind
import TestCluster.Text.Numeral

/-!
# What goes wrong between a client and the API server

    A request may never be sent, its connection may fail, or the server's reply may be a
    refusal or something other than what was asked for. A refusal carries the status that
    the server put into words, or one made up from the reply when there is none.
-/

namespace TestCluster

/-- The status with which the server refuses a request. -/
structure Refusal where
  status : String
  message : String
  reason : String
  code : UInt16
  deriving DecidableEq, Repr

/-- The refusal in words, and again in full. -/
def Refusal.text (r : Refusal) : String :=
  "ApiError: " ++ r.message ++ ": " ++ r.reason ++ " (ErrorResponse \x7b status: " ++
    Text.quoted r.status ++ ", message: " ++ Text.quoted r.message ++ ", reason: " ++
    Text.quoted r.reason ++ ", code: " ++ Text.decimal r.code.toNat ++ " \x7d)"

/-- Why a request to the API server gives no result. -/
inductive ApiFault
  /-- The server refused. -/
  | refused (refusal : Refusal)
  /-- The reply is not a document of the expected shape. -/
  | undecodable
  /-- The reply's bytes are no text. -/
  | notText
  /-- Discovery lists no resource of the kind. -/
  | missingKind (kind : GroupVersionKind)
  /-- The address of the request is not well formed. -/
  | address (cause : Api.AddressFault)
  /-- No connection to the server. -/
  | unreachable (cause : OsError)
  /-- No usable configuration for a client. -/
  | unconfigured
  deriving DecidableEq, Repr

namespace ApiFault

/-- The fault in words; for an unusable configuration only what is common to all of them. -/
def message : ApiFault → String
  | .refused refusal => refusal.text
  | .undecodable => "Error deserializing response"
  | .notText => "UTF-8 Error"
  | .missingKind kind => "Error from discovery: Missing Kind: " ++ kind.display
  | .address cause => "Failed to build request: failed to build request: " ++ cause.message
  | .unreachable cause =>
    "HyperError: error trying to connect: tcp connect error: " ++ cause.message
  | .unconfigured => "Failed to infer configuration"

/-- Whether the server's reply is what is wrong, and not the way to the server. -/
def isAboutReply : ApiFault → Bool
  | .refused _ | .undecodable | .missingKind _ => true
  | .notText | .address _ | .unreachable _ | .unconfigured => false

end ApiFault

end TestCluster
