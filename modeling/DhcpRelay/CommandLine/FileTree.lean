import DhcpRelay.Bytes
import DhcpRelay.SystemFault

/-!
# Files in memory

A tree of files, and how a path finds one of them from a directory of the tree.
Nothing is found behind something that is no directory, `..` at the root stays
there, and a slash at the end asks for a directory.
-/

namespace DhcpRelay

/-- A file, a directory or the socket of a running relay. -/
inductive FileNode where
  | file (content : Bytes)
  | directory (entries : List (String × FileNode))
  | socket

/-- A directory of a tree, and the directories around it from the nearest to the
root. -/
structure FilePlace where
  here : FileNode
  around : List FileNode

namespace FilePlace

/-- Names are not longer, in bytes. -/
def longestName : Nat := 255

/-- Paths are shorter, in bytes. -/
def pathLimit : Nat := 4096

/-- The root of the tree. -/
def root (place : FilePlace) : FilePlace :=
  ⟨place.around.getLastD place.here, []⟩

/-- Go on by one part of a path. -/
def enter (place : FilePlace) (part : String) : Except SystemFault FilePlace :=
  match place.here with
  | .directory entries =>
      if part = "" ∨ part = "." then
        .ok place
      else if part = ".." then
        match place.around with
        | [] => .ok place
        | parent :: rest => .ok ⟨parent, rest⟩
      else if longestName < part.utf8ByteSize then
        .error .nameTooLong
      else
        match entries.find? (·.1 == part) with
        | some (_, node) => .ok ⟨node, place.here :: place.around⟩
        | none => .error .noSuchFile
  | _ => .error .notADirectory

/-- What stands at a path. -/
def find (place : FilePlace) (path : String) : Except SystemFault FileNode := do
  if pathLimit ≤ path.utf8ByteSize then
    throw .nameTooLong
  let start := if path.startsWith "/" then place.root else place
  let parts := (path.toList.splitOn '/').map String.ofList
  return (← parts.foldlM enter start).here

/-- The content of the file at a path. -/
def content (place : FilePlace) (path : String) : Except SystemFault Bytes := do
  match ← place.find path with
  | .file content => return content
  | .directory _ => throw .isADirectory
  | .socket => throw .noSuchAddress

/-- Connect to the socket at a path. -/
def connect (place : FilePlace) (path : String) : Except SystemFault Unit := do
  match ← place.find path with
  | .socket => return ()
  | _ => throw .connectionRefused

end FilePlace

end DhcpRelay
