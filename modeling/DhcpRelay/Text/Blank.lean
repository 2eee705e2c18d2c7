/-!
# White space

The Unicode property White_Space, and the two ways text is taken apart by it:
cutting blanks at both ends and splitting into words.
-/

namespace DhcpRelay.Text

/-- The character has the Unicode property White_Space. -/
def isBlank (char : Char) : Bool :=
  let code := char.toNat
  (9 ≤ code && code ≤ 13) || code == 32 || code == 133 || code == 160 || code == 5760 ||
    (8192 ≤ code && code ≤ 8202) || code == 8232 || code == 8233 || code == 8239 ||
    code == 8287 || code == 12288

/-- The characters without the blanks at either end. -/
def trimBlanks (chars : List Char) : List Char :=
  ((chars.dropWhile isBlank).reverse.dropWhile isBlank).reverse

/-- The text without the blanks at either end. -/
def trim (text : String) : String :=
  String.ofList (trimBlanks text.toList)

/-- The runs of characters that are not blank, in order.  The first argument is
the word being read, last character first. -/
def wordsFrom : List Char → List Char → List (List Char)
  | [], [] => []
  | word, [] => [word.reverse]
  | word, char :: rest =>
      if isBlank char then
        match word with
        | [] => wordsFrom [] rest
        | word => word.reverse :: wordsFrom [] rest
      else
        wordsFrom (char :: word) rest

/-- The words of a text. -/
def words (text : String) : List String :=
  (wordsFrom [] text.toList).map String.ofList

end DhcpRelay.Text
