import TestCluster.Scripted.Disk
import TestCluster.World

/-!
# A scripted machine — ports, files and a clock, but no network

    The machine keeps a table of bound ports, a disk and the time that was spent waiting.
    Nothing is reached over its network.
-/

namespace TestCluster.Scripted

/-- A machine without a network. -/
structure Machine where
  disk : Disk := {}
  /-- The directory of temporary files. -/
  tempDir : String
  /-- How many temporary files have been made. -/
  temporaries : Nat := 0
  /-- The bound ports, each of an address. -/
  bound : List (IpAddress × UInt16) := []
  /-- How many seconds were spent waiting. -/
  slept : Nat := 0
  deriving Repr

namespace Machine

/-- Whether an address stands for another one too. -/
def covers : IpAddress → IpAddress → Bool
  | .v4 0 0 0 0, .v4 .. => true
  | address, _ => address == .every

/-- Whether a port of an address cannot be bound when the same port of the other is. -/
def collide (a b : IpAddress) : Bool := a == b || covers a b || covers b a

/-- Whether a port of an address is free. -/
def isFree (m : Machine) (address : IpAddress) (port : UInt16) : Bool :=
  m.bound.all fun (a, p) => !(p == port && collide a address)

/-- The first port that is given to those who ask for any. -/
def firstFreePort : Nat := 32768

/-- Some free port. -/
def anyFreePort? (m : Machine) (address : IpAddress) : Option UInt16 :=
  ((List.range (65536 - firstFreePort)).map fun i => UInt16.ofNat (firstFreePort + i)).find?
    (m.isFree address)

/-- Binds a port, or any free one if the port is 0. -/
def bind (m : Machine) (address : IpAddress) (port : UInt16) : Except OsError UInt16 × Machine :=
  match if port = 0 then m.anyFreePort? address else some port with
  | none => (.error .addressInUse, m)
  | some p =>
    if m.isFree address p then (.ok p, { m with bound := (address, p) :: m.bound })
    else (.error .addressInUse, m)

/-- Frees a port. -/
def release (m : Machine) (address : IpAddress) (port : UInt16) : Machine :=
  { m with bound := m.bound.erase (address, port) }

/-- The character with which the chosen part of a temporary name starts: one to which no meaning
    has been given. -/
def temporaryMark : Char := Char.ofNat 0x10A5C3

/-- How many digits follow the mark. -/
def temporaryDigits : Nat := 2

/-- The chosen part of the name of a temporary file, which no other name has. -/
def temporaryPart (n : Nat) : String :=
  let digits := Text.decimal n
  String.ofList (temporaryMark :: List.replicate (temporaryDigits - digits.length) '0') ++ digits

/-- Makes an empty file with a new name. -/
def makeTemporary (m : Machine) (nameStart nameEnd : String) :
    Except FileFault String × Machine :=
  let path := Path.join m.tempDir (nameStart ++ temporaryPart m.temporaries ++ nameEnd)
  match m.disk.write path [] with
  | .ok disk => (.ok path, { m with disk, temporaries := m.temporaries + 1 })
  | .error (.system cause) => (.error (.temporary cause path), m)
  | .error fault => (.error fault, m)

/-- Answers a call. -/
def handle : Handler Host.calls Machine
  | .bind address port, m => m.bind address port
  | .release address port, m => ((), m.release address port)
  | .makeTemporary nameStart nameEnd, m => m.makeTemporary nameStart nameEnd
  | .remove path, m => ((), { m with disk := m.disk.remove path })
  | .readFile path, m => (m.disk.read path, m)
  | .writeFile path content, m =>
    match m.disk.write path content with
    | .ok disk => (.ok (), { m with disk })
    | .error fault => (.error fault, m)
  | .exchange .., m => (.error .networkUnreachable, m)
  | .upgrade .., m => (.error (.unreachable .networkUnreachable), m)
  | .fetch _, m => (.error .unreachable, m)
  | .pause seconds, m => ((), { m with slept := m.slept + seconds.toNat })

end Machine

end TestCluster.Scripted
