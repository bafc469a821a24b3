import TestCluster.Format
import TestCluster.Timestamp

/-!
# Metadata — what every object says of itself

    The fields are those that objects of a cluster have in common. A field that comes twice
    counts where it comes last, null counts as no field, and fields of other names are
    skipped.
-/

namespace TestCluster

/-- Another object that an object belongs to. -/
structure OwnerReference where
  apiVersion : String
  blockOwnerDeletion : Option Bool
  controller : Option Bool
  kind : String
  name : String
  uid : String
  deriving Repr

/-- Which fields of an object a program has set. -/
structure ManagedFields where
  apiVersion : Option String
  fieldsType : Option String
  fields : Option Value
  manager : Option String
  operation : Option String
  subresource : Option String
  time : Option Timestamp
  deriving Repr

/-- What an object says of itself. -/
structure Metadata where
  annotations : Option (List (String × String)) := none
  creationTimestamp : Option Timestamp := none
  deletionGracePeriodSeconds : Option Int := none
  deletionTimestamp : Option Timestamp := none
  finalizers : Option (List String) := none
  generateName : Option String := none
  generation : Option Int := none
  labels : Option (List (String × String)) := none
  managedFields : Option (List ManagedFields) := none
  name : Option String := none
  namespace_ : Option String := none
  ownerReferences : Option (List OwnerReference) := none
  resourceVersion : Option String := none
  selfLink : Option String := none
  uid : Option String := none
  deriving Repr

/-! ## Reading -/

namespace Format

variable {m : Type → Type} [Monad m] {N α : Type}

/-- Reads a timestamp. -/
def timestamp (f : Format m N) (node : N) : m Timestamp := do
  match Timestamp.ofText? (← f.text node) with
  | some t => pure t
  | none => f.refuse

/-- Reads a mapping of texts to texts. -/
def texts (f : Format m N) (node : N) : m (List (String × String)) := do
  Members.ofList <$> (← f.members node).mapM fun (k, v) => do pure (k, ← f.text v)

end Format

variable {m : Type → Type} [Monad m] {N : Type}

/-- Reads a reference to an owner. Its texts are empty where they are absent. -/
def OwnerReference.read (f : Format m N) (node : N) : m OwnerReference := do
  let members ← f.members node
  let text (key : String) : m String := (·.getD "") <$> f.field members key f.text
  let apiVersion ← text "apiVersion"
  let blockOwnerDeletion ← f.field members "blockOwnerDeletion" f.bool
  let controller ← f.field members "controller" f.bool
  let kind ← text "kind"
  let name ← text "name"
  let uid ← text "uid"
  pure { apiVersion, blockOwnerDeletion, controller, kind, name, uid }

/-- Reads which fields a program has set. -/
def ManagedFields.read (f : Format m N) (node : N) : m ManagedFields := do
  let members ← f.members node
  let apiVersion ← f.field members "apiVersion" f.text
  let fieldsType ← f.field members "fieldsType" f.text
  let fields ← f.field members "fieldsV1" f.openValue
  let manager ← f.field members "manager" f.text
  let operation ← f.field members "operation" f.text
  let subresource ← f.field members "subresource" f.text
  let time ← f.field members "time" f.timestamp
  pure { apiVersion, fieldsType, fields, manager, operation, subresource, time }

/-- Reads what an object says of itself. -/
def Metadata.read (f : Format m N) (node : N) : m Metadata := do
  let members ← f.members node
  let annotations ← f.field members "annotations" f.texts
  let creationTimestamp ← f.field members "creationTimestamp" f.timestamp
  let deletionGracePeriodSeconds ← f.field members "deletionGracePeriodSeconds" f.int64
  let deletionTimestamp ← f.field members "deletionTimestamp" f.timestamp
  let finalizers ← f.field members "finalizers" (f.list f.text)
  let generateName ← f.field members "generateName" f.text
  let generation ← f.field members "generation" f.int64
  let labels ← f.field members "labels" f.texts
  let managedFields ← f.field members "managedFields" (f.list (ManagedFields.read f))
  let name ← f.field members "name" f.text
  let namespace_ ← f.field members "namespace" f.text
  let ownerReferences ← f.field members "ownerReferences" (f.list (OwnerReference.read f))
  let resourceVersion ← f.field members "resourceVersion" f.text
  let selfLink ← f.field members "selfLink" f.text
  let uid ← f.field members "uid" f.text
  pure {
    annotations, creationTimestamp, deletionGracePeriodSeconds, deletionTimestamp, finalizers
    generateName, generation, labels, managedFields, name, namespace_, ownerReferences
    resourceVersion, selfLink, uid }

/-! ## Writing -/

/-- The members that are there, of those that may be. -/
def presentMembers (members : List (String × Option Value)) : List (String × Value) :=
  members.filterMap fun (k, v) => v.map (k, ·)

/-- A mapping of texts to texts as a value. -/
def textsValue (members : List (String × String)) : Value :=
  .object (members.map fun (k, v) => (k, .string v))

/-- A timestamp as a value. -/
def Timestamp.toValue (t : Timestamp) : Value := .string t.text

/-- The members of a written reference to an owner. -/
def OwnerReference.members (r : OwnerReference) : List (String × Option Value) :=
  [("apiVersion", some (.string r.apiVersion)),
    ("blockOwnerDeletion", r.blockOwnerDeletion.map .bool),
    ("controller", r.controller.map .bool),
    ("kind", some (.string r.kind)),
    ("name", some (.string r.name)),
    ("uid", some (.string r.uid))]

/-- A reference to an owner as a value. -/
def OwnerReference.toValue (r : OwnerReference) : Value := .object (presentMembers r.members)

/-- The members that the fields of a program may be written as. -/
def ManagedFields.members (s : ManagedFields) : List (String × Option Value) :=
  [("apiVersion", s.apiVersion.map .string),
    ("fieldsType", s.fieldsType.map .string),
    ("fieldsV1", s.fields),
    ("manager", s.manager.map .string),
    ("operation", s.operation.map .string),
    ("subresource", s.subresource.map .string),
    ("time", s.time.map Timestamp.toValue)]

/-- The fields that a program has set as a value. -/
def ManagedFields.toValue (s : ManagedFields) : Value := .object (presentMembers s.members)

/-- The members that what an object says of itself may be written as. -/
def Metadata.members (d : Metadata) : List (String × Option Value) :=
  [("annotations", d.annotations.map textsValue),
    ("creationTimestamp", d.creationTimestamp.map Timestamp.toValue),
    ("deletionGracePeriodSeconds", d.deletionGracePeriodSeconds.map .int),
    ("deletionTimestamp", d.deletionTimestamp.map Timestamp.toValue),
    ("finalizers", d.finalizers.map fun ts => .array (ts.map .string)),
    ("generateName", d.generateName.map .string),
    ("generation", d.generation.map .int),
    ("labels", d.labels.map textsValue),
    ("managedFields", d.managedFields.map fun ss => .array (ss.map ManagedFields.toValue)),
    ("name", d.name.map .string),
    ("namespace", d.namespace_.map .string),
    ("ownerReferences", d.ownerReferences.map fun rs => .array (rs.map OwnerReference.toValue)),
    ("resourceVersion", d.resourceVersion.map .string),
    ("selfLink", d.selfLink.map .string),
    ("uid", d.uid.map .string)]

/-- What an object says of itself as a value: the fields that are there. -/
def Metadata.toValue (d : Metadata) : Value := .object (presentMembers d.members)

end TestCluster
