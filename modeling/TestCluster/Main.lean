import TestCluster.CommandLine.Run

/-!
# The program — the command line, carried out on this machine

    The files, the environment and the clock are those of the machine. External programs and
    servers are out of reach from here: a tool is answered for as one that is not installed,
    a server as one to which there is no network. Ports are taken to be free.
-/

namespace TestCluster.Main

/-- The machine's reason for refusing a call. -/
def systemError : IO.Error → OsError
  | .permissionDenied .. => .accessDenied
  | .inappropriateType .. => .isDirectory
  | .resourceExhausted .. => .nameTooLong
  | .invalidArgument .. => .notDirectory
  | _ => .noEntry

/-- Does something with a file. -/
def withFile {α : Type} (act : IO α) : IO (Except FileFault α) := do
  try
    return .ok (← act)
  catch e => return .error (.system (systemError e))

/-- Makes an empty file with a new name. -/
def makeTemporary (tempDir nameStart nameEnd : String) : IO (Except FileFault String) := do
  let number ← IO.rand 100000 999999
  let path := Path.join tempDir (nameStart ++ toString number ++ nameEnd)
  try
    let _ ← IO.FS.Handle.mk path .writeNew
    return .ok path
  catch e => return .error (.temporary (systemError e) path)

/-- Answers a call to the machine. -/
def answerHost (tempDir : String) : (call : Host.Call) → IO (Host.Answer call)
  | .bind _ port => return .ok port
  | .release .. => return ()
  | .makeTemporary nameStart nameEnd => makeTemporary tempDir nameStart nameEnd
  | .remove path => do
    try IO.FS.removeFile path catch _ => return ()
  | .readFile path => withFile do return (← IO.FS.readBinFile path).toList
  | .writeFile path content => withFile (IO.FS.writeBinFile path ⟨content.toArray⟩)
  | .exchange .. => return .error .networkUnreachable
  | .upgrade .. => return .error (.unreachable .networkUnreachable)
  | .fetch _ => return .error .unreachable
  | .pause seconds => IO.sleep (.ofNat (seconds.toNat * 1000))

/-- Answers a call. -/
def answer (tempDir : String) : (call : Shell.Call) → IO (Shell.Answer call)
  | .command _ => return .notStarted (.system .noEntry)
  | .host c => answerHost tempDir c

/-- Runs a program against the machine. -/
def carryOut {α : Type} (tempDir : String) : Program Shell.calls α → IO α
  | .done a => return a
  | .ask call next => do carryOut tempDir (next (← answer tempDir call))

/-- The variables that are read. -/
def variableNames : List String :=
  ["KUBECONFIG", "HOME"] ++
    ["CLEANUP", "REUSE", "NAME", "INGRESS_PORT"].map Overrides.variableName

end TestCluster.Main

/-- Does what the command line says. -/
def main (words : List String) : IO UInt32 := do
  let tempDir := (← IO.getEnv "TMPDIR").getD "/tmp"
  let settings ← TestCluster.Main.variableNames.mapM fun name => return (name, ← IO.getEnv name)
  let environment : TestCluster.Environment := fun name => (settings.lookup name).join
  let work := TestCluster.CommandLine.perform ⟨environment, tempDir⟩ words
  let report ← TestCluster.Main.carryOut tempDir (TestCluster.Shell.run work)
  IO.print report.output
  if report.error != "" then IO.eprintln report.error
  return report.code.toUInt32
