import TestCluster.Scripted.Machine

/-!
# Scripted tools — a machine whose external programs answer from rules

    The tools are found by their names. The first rule that fits a call says what the tool
    prints and how it ends; without one it prints nothing and succeeds. No other program can
    be started.
-/

namespace TestCluster.Scripted

/-- What a tool does when it is called in a certain way. -/
structure ToolRule where
  /-- The tool that the rule is for, or else every tool. -/
  tool : Option String := none
  /-- What the arguments of the call start with. -/
  args : List String := []
  output : List UInt8 := []
  errors : List UInt8 := []
  /-- How the tool ends; a multiple of 256 stands for success. -/
  code : Nat := 0
  /-- What the tool writes into the kubeconfig that it is pointed to. -/
  kubeconfig : Option String := none
  deriving Repr

/-- Whether a rule is for a call. -/
def ToolRule.fits (r : ToolRule) (c : Command) : Bool :=
  (r.tool.all (· == c.program)) && r.args.isPrefixOf c.args

/-- A machine with tools, and the calls to them so far, the last one first. -/
structure Workshop where
  machine : Machine
  rules : List ToolRule := []
  calls : List Command := []
  deriving Repr

namespace Workshop

/-- The tools that are there. -/
def tools : List String := ["kind", "docker"]

/-- Why a program does not start, if it does not. -/
def startFault? (w : Workshop) (c : Command) : Option StartFault :=
  if (c.program :: c.args).any fun s => decide ('\x00' ∈ s.toList) then some .zeroCharacter
  else if tools.contains c.program then none
  else if '/' ∈ c.program.toList then
    match w.machine.disk.find c.program with
    | .ok (.directory _) | .ok (.file ..) => some (.system .accessDenied)
    | .ok (.nothing ..) => some (.system .noEntry)
    | .error (.system cause) => some (.system cause)
    | .error _ => some .zeroCharacter
  else if Disk.longestName < c.program.utf8ByteSize then some (.system .nameTooLong)
  else some (.system .noEntry)

/-- What follows an argument, where it first stands. -/
def argumentAfter? (name : String) : List String → Option String
  | [] => none
  | a :: as => if a = name then as.head? else argumentAfter? name as

/-- The workshop after a tool has written a kubeconfig to where it is pointed to. -/
def writeKubeconfig (w : Workshop) (c : Command) (text : Option String) : Workshop :=
  match text, argumentAfter? "--kubeconfig" c.args with
  | some text, some path =>
    match w.machine.disk.write path text.toUTF8.toList with
    | .ok disk => { w with machine := { w.machine with disk } }
    | .error _ => w
  | _, _ => w

/-- Runs a command. -/
def execute (w : Workshop) (c : Command) : Command.Outcome × Workshop :=
  match w.startFault? c with
  | some fault => (.notStarted fault, w)
  | none =>
    let w := { w with calls := c :: w.calls }
    match w.rules.find? (·.fits c) with
    | none => (.ended true [] [], w)
    | some r => (.ended (r.code % 256 == 0) r.output r.errors, w.writeKubeconfig c r.kubeconfig)

/-- Answers a call. -/
def handle : Handler Shell.calls Workshop
  | .command c, w => w.execute c
  | .host c, w =>
    let (answer, machine) := Machine.handle c w.machine
    (answer, { w with machine })

end Workshop

end TestCluster.Scripted
