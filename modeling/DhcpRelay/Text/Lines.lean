/-!
# Texts of several lines
-/

namespace DhcpRelay.Text

/-- The lines of a text.  A newline stands between two lines, and a carriage return at
the end of a line is no part of it. -/
def splitLines (chars : List Char) : List (List Char) :=
  (chars.splitOn '\n').map fun line =>
    if line.getLast? = some '\r' then line.dropLast else line

/-- Lines, each with its end. -/
def lines (texts : List String) : String :=
  String.join (texts.map (· ++ "\n"))

end DhcpRelay.Text
