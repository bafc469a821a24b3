import TestCluster.Api.Fault
import TestCluster.ClusterConfig
import TestCluster.CommandError
import TestCluster.OsError
import TestCluster.Pool

/-!
# Errors — every way in which an operation fails, and its wording

    Each constructor is one cause and names what it is about: the cluster, image, node,
    document, kind or address. The wording is in `message` alone. Some causes lie inside a
    document reader or a transport, whose own words are not part of this library; there
    `message` gives only the words that precede them, and `isWorded` is false.
-/

namespace TestCluster

/-- What was being done to a cluster when its provider failed. -/
inductive ClusterOperation
  | create
  | delete
  | list
  | exportKubeconfig
  | listNodes
  deriving DecidableEq, Repr

/-- The operation as it stands before the word "cluster". -/
def ClusterOperation.text : ClusterOperation → String
  | .create => "create"
  | .delete => "delete"
  | .list => "list"
  | .exportKubeconfig => "export kubeconfig of"
  | .listNodes => "list nodes of"

/-- Why a document of a manifest gives no object. -/
inductive DocumentFault
  /-- The text is no document, or not one of an object's shape. -/
  | unreadable
  | missingTypes
  | missingName
  deriving DecidableEq, Repr

/-- The fault in words; for an unreadable text the reader's own words are left out. -/
def DocumentFault.message : DocumentFault → String
  | .unreadable => ""
  | .missingTypes => "missing apiVersion or kind"
  | .missingName => "missing metadata.name"

/-- Why a file cannot be read or written. -/
inductive FileFault
  | system (cause : OsError)
  /-- The same, for a temporary file that was to be made at a path. -/
  | temporary (cause : OsError) (path : String)
  /-- The file's bytes are no text. -/
  | notText
  /-- A zero character in the file's path. -/
  | zeroCharacter
  deriving DecidableEq, Repr

/-- The fault in words. -/
def FileFault.message : FileFault → String
  | .system cause => cause.message
  | .temporary cause path => cause.message ++ " at path " ++ Text.quoted path
  | .notText => "stream did not contain valid UTF-8"
  | .zeroCharacter => "file name contained an unexpected NUL byte"

/-- Why a manifest could not be fetched. -/
inductive FetchFault
  /-- The server answered with a status that is no success. -/
  | status (code : Nat) (reason : String)
  | unreachable
  deriving DecidableEq, Repr

/-- Why an operation of this library fails. -/
inductive Error
  | invalidConfig (fault : ClusterConfig.Fault)
  | invalidRange (fault : Pool.RangeFault)
  | portUnavailable (port : UInt16) (cause : OsError)
  | nodeImage (image : String) (cause : CommandError)
  | imagePull (image : String) (cause : CommandError)
  | imageSave (cause : CommandError)
  | imageLoad (node : String) (cause : CommandError)
  | backend (operation : ClusterOperation) (cluster : String) (cause : CommandError)
  | clusterNotFound (cluster : String)
  | emptyManifest
  | decode (index : Nat) (reason : DocumentFault)
  | unknownKind (apiVersion kind : String) (reason : ApiFault)
  | apply (kind name : String) (cause : ApiFault)
  | hook (name : String) (cause : Error)
  | fetch (url : String) (cause : FetchFault)
  /-- `target` is the pod with its namespace in front. -/
  | portForward (target : String) (port : UInt16) (reason : String)
  | cancelled
  | client (cause : ApiFault)
  | kubeconfig
  | yaml
  | json
  | file (cause : FileFault)
  deriving DecidableEq, Repr

namespace Error

/-- The error in words, as far as this library words it. -/
def message : Error → String
  | .invalidConfig fault => "Invalid cluster config: " ++ fault.message
  | .invalidRange fault => "Invalid cluster config: " ++ fault.message
  | .portUnavailable port cause =>
    "Host port " ++ Text.decimal port.toNat ++ " is unavailable: " ++ cause.message
  | .nodeImage image cause => "Failed to pull node image " ++ image ++ ": " ++ cause.text
  | .imagePull image cause => "Failed to pull image " ++ image ++ ": " ++ cause.text
  | .imageSave cause => "Failed to save images to archive: " ++ cause.text
  | .imageLoad node cause =>
    "Failed to load image archive into node " ++ node ++ ": " ++ cause.text
  | .backend operation cluster cause =>
    "Failed to " ++ operation.text ++ " cluster " ++ cluster ++ ": " ++ cause.text
  | .clusterNotFound cluster => "Cluster " ++ cluster ++ " not found"
  | .emptyManifest => "Empty manifest"
  | .decode index reason =>
    "Failed to decode manifest document " ++ Text.decimal index ++ ": " ++ reason.message
  | .unknownKind apiVersion kind reason =>
    "No REST mapping for " ++ apiVersion ++ "/" ++ kind ++ ": " ++ reason.message
  | .apply kind name cause =>
    "Failed to apply " ++ kind ++ " " ++ name ++ ": " ++ cause.message
  | .hook name cause => "Post-install hook " ++ name ++ " failed: " ++ cause.message
  | .fetch url cause =>
    "Failed to fetch manifest from " ++ url ++ ": " ++
      match cause with
      | .status code reason =>
        "HTTP status " ++ (if code < 500 then "client" else "server") ++ " error (" ++
          Text.decimal code ++ " " ++ reason ++ ") for url (" ++ url ++ ")"
      | .unreachable => "error sending request for url (" ++ url ++ ")"
  | .portForward target port reason =>
    "Port-forward to " ++ target ++ ":" ++ Text.decimal port.toNat ++ " failed: " ++ reason
  | .cancelled => "Operation cancelled"
  | .client cause => "Kubernetes client error: " ++ cause.message
  | .kubeconfig => "Kubeconfig error: "
  | .yaml => "YAML error: "
  | .json => "JSON error: "
  | .file cause => "I/O error: " ++ cause.message

/-- Whether all the words of the message are this library's own. -/
def isWorded : Error → Bool
  | .decode _ .unreadable | .kubeconfig | .yaml | .json => false
  | .unknownKind _ _ fault | .apply _ _ fault | .client fault => fault.isAboutReply
  | .fetch _ .unreachable => false
  | .file (.system _) => true
  | .file _ => false
  | .hook _ cause => cause.isWorded
  | _ => true

/-- Whether the error says that a cluster was looked up and is not there. -/
def isNotFound : Error → Bool
  | .clusterNotFound _ => true
  | _ => false

end Error

end TestCluster
