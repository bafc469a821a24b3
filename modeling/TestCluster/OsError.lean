/-!
# System errors — why the machine refuses an operation on a file or a socket
-/

namespace TestCluster

/-- Why the operating system refuses a call. -/
inductive OsError
  | noEntry
  | accessDenied
  | notDirectory
  | isDirectory
  | nameTooLong
  | addressInUse
  | addressUnavailable
  | networkUnreachable
  | connectionRefused
  deriving DecidableEq, Repr

/-- The system's number of the error, and its wording. -/
def OsError.entry : OsError → Nat × String
  | .noEntry => (2, "No such file or directory")
  | .accessDenied => (13, "Permission denied")
  | .notDirectory => (20, "Not a directory")
  | .isDirectory => (21, "Is a directory")
  | .nameTooLong => (36, "File name too long")
  | .addressInUse => (98, "Address already in use")
  | .addressUnavailable => (99, "Cannot assign requested address")
  | .networkUnreachable => (101, "Network is unreachable")
  | .connectionRefused => (111, "Connection refused")

/-- The error in words. -/
def OsError.message (e : OsError) : String :=
  e.entry.2 ++ " (os error " ++ toString e.entry.1 ++ ")"

end TestCluster
