/-!
# Failures of the operating system
-/

namespace DhcpRelay

/-- The kinds of failures that are told apart. -/
inductive SystemFaultKind where
  | notFound
  | permissionDenied
  | connectionRefused
  | connectionReset
  | addressInUse
  | addressNotAvailable
  | isADirectory
  | notADirectory
  | invalidInput
  | invalidData
  | uncategorized
  deriving DecidableEq, Repr

/-- A failure with its text. -/
structure SystemFault where
  kind : SystemFaultKind
  text : String
  deriving DecidableEq, Repr

namespace SystemFault

/-- A failure with the text that the system has for its number. -/
def numbered (kind : SystemFaultKind) (number : Nat) (meaning : String) : SystemFault :=
  ⟨kind, s!"{meaning} (os error {number})"⟩

def notPermitted : SystemFault := numbered .permissionDenied 1 "Operation not permitted"

def noSuchFile : SystemFault := numbered .notFound 2 "No such file or directory"

def noSuchAddress : SystemFault := numbered .uncategorized 6 "No such device or address"

def permissionDenied : SystemFault := numbered .permissionDenied 13 "Permission denied"

def noSuchDevice : SystemFault := numbered .uncategorized 19 "No such device"

def notADirectory : SystemFault := numbered .notADirectory 20 "Not a directory"

def isADirectory : SystemFault := numbered .isADirectory 21 "Is a directory"

def nameTooLong : SystemFault := numbered .uncategorized 36 "File name too long"

def addressInUse : SystemFault := numbered .addressInUse 98 "Address already in use"

def addressNotAvailable : SystemFault :=
  numbered .addressNotAvailable 99 "Cannot assign requested address"

def connectionReset : SystemFault := numbered .connectionReset 104 "Connection reset by peer"

def connectionRefused : SystemFault := numbered .connectionRefused 111 "Connection refused"

/-- The path of a socket is longer than the system allows. -/
def socketPathTooLong : SystemFault := ⟨.invalidInput, "path must be shorter than SUN_LEN"⟩

/-- A file or stream that should be text is not. -/
def notText : SystemFault := ⟨.invalidData, "stream did not contain valid UTF-8"⟩

end SystemFault

end DhcpRelay
