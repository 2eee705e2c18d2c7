/-!
# Byte offsets

A place in a text may be given by the number of bytes in front of it, which is not the
number of characters.  An offset within a character, or behind the end, is no place of
the text.
-/

namespace DhcpRelay.Text

/-- The number of bytes of a text. -/
def byteLength : List Char → Nat
  | [] => 0
  | char :: rest => char.utf8Size + byteLength rest

/-- The text in front of an offset and the text behind it. -/
def splitAt? : Nat → List Char → Option (List Char × List Char)
  | 0, chars => some ([], chars)
  | _ + 1, [] => none
  | offset + 1, char :: rest =>
      if char.utf8Size ≤ offset + 1 then
        (splitAt? (offset + 1 - char.utf8Size) rest).map fun (front, back) =>
          (char :: front, back)
      else
        none

/-- The text between two offsets. -/
def between? (start stop : Nat) (chars : List Char) : Option (List Char) := do
  let (_, rest) ← splitAt? start chars
  let (part, _) ← splitAt? (stop - start) rest
  return part

end DhcpRelay.Text
