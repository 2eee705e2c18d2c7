import DhcpRelay.CommandLine.Run

/-!
# The program

Files are read from disk.  Control sockets and the sockets of a relay cannot be
opened from here, so commands that need them end with a failure.
-/

namespace DhcpRelay.CommandLine

/-- The failure that reading a file ended with. -/
def fileError : IO.Error → SystemFault
  | .noFileOrDirectory .. => .noSuchFile
  | .permissionDenied .. => .permissionDenied
  | .inappropriateType .. => .isADirectory
  | fault => ⟨.uncategorized, toString fault⟩

/-- The file that the arguments name, if they name one. -/
def fileOf (arguments : List String) : Option String :=
  match readArguments arguments with
  | .ok invocation =>
      match invocation.action with
      | .run path => some path
      | .checkFile path => some path
      | .ask _ => none
  | .error _ => none

/-- Read a file. -/
def readBytes (path : String) : IO (Except SystemFault Bytes) := do
  try
    return .ok (← IO.FS.readBinFile path).toList
  catch fault =>
    return .error (fileError fault)

end DhcpRelay.CommandLine

open DhcpRelay CommandLine in
/-- Run the program on its arguments. -/
def main (arguments : List String) : IO UInt32 := do
  let content ← match fileOf arguments with
    | some path => readBytes path
    | none => pure (.error .noSuchFile)
  let host : Host := {
    file := fun _ => content
    ask := fun _ _ => .error .connectionRefused
    sockets := .unprivileged
    links := .ofLinks []
    access := ⟨fun _ => none, fun _ => none⟩ }
  match run host arguments with
  | .success output =>
      IO.print output
      return 0
  | .usage =>
      IO.eprintln (helpText none)
      return 2
  | .refused => return 101
  | .failure reason logged =>
      if logged then
        IO.println (failureNotice reason).render
      return 1
