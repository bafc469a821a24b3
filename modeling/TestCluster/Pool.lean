import TestCluster.NodePort

/-!
# A pool of node ports — one holder per slot at a time

    A pool is a row of slots, each with a mapping and whether it is held. Allocation takes
    the first free slot; a release names a mapping, not a slot, and frees the first held
    slot with that mapping. When a mapping stands in several slots, the slot freed may be
    another than the one that was handed out: only how many are held matters.
-/

namespace TestCluster

/-- One mapping of a pool, and whether somebody holds it. -/
structure Slot where
  port : NodePort
  held : Bool
  deriving DecidableEq, Repr

/-- The slots of a pool, in the order in which they are handed out. -/
structure Pool where
  slots : List Slot
  deriving DecidableEq, Repr

namespace Pool

/-- A pool of the mappings, all free. -/
def ofPorts (ports : List NodePort) : Pool := ⟨ports.map fun p => ⟨p, false⟩⟩

/-- Why a range of consecutive ports makes no pool. -/
inductive RangeFault
  | startsAtZero
  | pastEnd (first count : UInt16)
  deriving DecidableEq, Repr

/-- The fault in words. -/
def RangeFault.message : RangeFault → String
  | .startsAtZero => "node port range must not start at 0"
  | .pastEnd first count =>
    "node port range " ++ Text.decimal first.toNat ++ "+" ++ Text.decimal count.toNat
      ++ " exceeds port 65535"

/-- A pool of consecutive ports, each mapped to itself. The end of the range is computed in a
    wider word, as it may be one past the last port. -/
def sequential (first count : UInt16) : Except RangeFault Pool :=
  if first = 0 then .error .startsAtZero
  else if (65535 : UInt16).toUInt32 + 1 < first.toUInt32 + count.toUInt32 then
    .error (.pastEnd first count)
  else .ok <| ofPorts <| (List.range count.toNat).map fun offset =>
    ⟨first + .ofNat offset, first + .ofNat offset⟩

/-- Holds the first free slot of a row, if there is one. -/
def holdFirst : List Slot → Option (NodePort × List Slot)
  | [] => none
  | slot :: rest =>
    if slot.held then (holdFirst rest).map fun (p, rest') => (p, slot :: rest')
    else some (slot.port, { slot with held := true } :: rest)

/-- Frees the first held slot of a row that has the mapping, if there is one. -/
def freeFirst (port : NodePort) : List Slot → Option (List Slot)
  | [] => none
  | slot :: rest =>
    if slot.held ∧ slot.port = port then some ({ slot with held := false } :: rest)
    else (freeFirst port rest).map (slot :: ·)

/-- Takes the first free mapping; nothing when all are held. -/
def allocate (pool : Pool) : Option NodePort × Pool :=
  match holdFirst pool.slots with
  | some (port, slots) => (some port, ⟨slots⟩)
  | none => (none, pool)

/-- Gives a mapping back; false when nobody held it. -/
def release (pool : Pool) (port : NodePort) : Bool × Pool :=
  match freeFirst port pool.slots with
  | some slots => (true, ⟨slots⟩)
  | none => (false, pool)

/-- All mappings, in pool order. -/
def ports (pool : Pool) : List NodePort := pool.slots.map (·.port)

/-- How many mappings the pool has, held or free. -/
def size (pool : Pool) : Nat := pool.slots.length

/-- Whether the pool has no mapping at all. -/
def isEmpty (pool : Pool) : Bool := pool.size == 0

/-- How many mappings are free. -/
def available (pool : Pool) : Nat := pool.slots.countP fun slot => !slot.held

/-- Allocates at most `n` times, and stops when nothing is free. -/
def allocateUpTo : Nat → Pool → List NodePort × Pool
  | 0, pool => ([], pool)
  | n + 1, pool =>
    match pool.allocate with
    | (some port, pool') =>
      let (more, last) := allocateUpTo n pool'
      (port :: more, last)
    | (none, pool') => ([], pool')

/-- Allocates until nothing is free. -/
def drain (pool : Pool) : List NodePort × Pool := allocateUpTo (pool.size + 1) pool

end Pool

end TestCluster
