import DhcpRelay.Address.IPv6

/-!
# JSON texts

`read` accepts exactly the texts of the JSON grammar.  A string whose escapes name
half of a surrogate pair is valid JSON but stands for no text, so it is kept
without content.  A number is kept as it is written.

`text` writes a value with each item and each member on a line of its own.
-/

namespace DhcpRelay

/-- A JSON value.  Members keep their order and their repetitions. -/
inductive Json where
  | null
  | bool (value : Bool)
  | number (written : String)
  | string (content : Option String)
  | array (items : List Json)
  | object (members : List (Option String × Json))

namespace Json

/-- White space between tokens. -/
def isSpace (char : Char) : Bool :=
  char == ' ' || char == '\n' || char == '\t' || char == '\r'

/-- The text behind white space. -/
def skipSpace (chars : List Char) : List Char :=
  chars.dropWhile isSpace

/-! ## Strings -/

/-- The number written by four hexadecimal digits. -/
def readHex (digits : List Char) : Option Nat :=
  digits.foldlM (fun value char => (IPv6.hexValue? char).map (value * 16 + ·)) 0

/-- The character of a short escape. -/
def escaped? : Char → Option Char
  | '"' => some '"'
  | '\\' => some '\\'
  | '/' => some '/'
  | 'b' => some '\x08'
  | 'f' => some '\x0c'
  | 'n' => some '\n'
  | 'r' => some '\r'
  | 't' => some '\t'
  | _ => none

/-- Read a string behind its opening quote: the codes it is made of, in which
halves of surrogate pairs still stand alone, and the text behind it. -/
def readCodes : List Char → Option (List Nat × List Char)
  | [] => none
  | '"' :: rest => some ([], rest)
  | '\\' :: 'u' :: first :: second :: third :: fourth :: rest => do
      let code ← readHex [first, second, third, fourth]
      let (codes, rest) ← readCodes rest
      return (code :: codes, rest)
  | '\\' :: char :: rest => do
      let code ← escaped? char
      let (codes, rest) ← readCodes rest
      return (code.toNat :: codes, rest)
  | char :: rest =>
      if char.toNat < 32 then
        none
      else do
        let (codes, rest) ← readCodes rest
        return (char.toNat :: codes, rest)

/-- The code is the first half of a surrogate pair. -/
def isHighHalf (code : Nat) : Bool :=
  55296 ≤ code && code ≤ 56319

/-- The code is the second half of a surrogate pair. -/
def isLowHalf (code : Nat) : Bool :=
  56320 ≤ code && code ≤ 57343

/-- The characters of a string, if every half of a pair has its other half. -/
def joinHalves : List Nat → Option (List Char)
  | [] => some []
  | high :: low :: rest =>
      if isHighHalf high then
        if isLowHalf low then
          (joinHalves rest).map
            (Char.ofNat (65536 + (high - 55296) * 1024 + (low - 56320)) :: ·)
        else
          none
      else if isLowHalf high then
        none
      else
        (joinHalves (low :: rest)).map (Char.ofNat high :: ·)
  | [code] => if isHighHalf code || isLowHalf code then none else some [Char.ofNat code]

/-- Read a string behind its opening quote. -/
def readString (chars : List Char) : Option (Option String × List Char) :=
  (readCodes chars).map fun (codes, rest) => ((joinHalves codes).map String.ofList, rest)

/-! ## Numbers -/

/-- The character is an ASCII digit. -/
def isDigit (char : Char) : Bool :=
  (Decimal.digitValue? char).isSome

/-- The text behind one digit or more. -/
def skipDigits : List Char → Option (List Char)
  | char :: rest => if isDigit char then some (rest.dropWhile isDigit) else none
  | [] => none

/-- The text behind the whole part of a number, which has no leading zero. -/
def skipWhole : List Char → Option (List Char)
  | '0' :: rest => some rest
  | chars => skipDigits chars

/-- The text behind a fraction, if there is one. -/
def skipFraction : List Char → Option (List Char)
  | '.' :: rest => skipDigits rest
  | chars => some chars

/-- The text behind an exponent, if there is one. -/
def skipExponent : List Char → Option (List Char)
  | mark :: rest =>
      if mark == 'e' || mark == 'E' then
        match rest with
        | '+' :: rest => skipDigits rest
        | '-' :: rest => skipDigits rest
        | rest => skipDigits rest
      else
        some (mark :: rest)
  | [] => some []

/-- The text behind a number. -/
def skipNumber (chars : List Char) : Option (List Char) := do
  let unsigned := match chars with
    | '-' :: rest => rest
    | chars => chars
  skipExponent (← skipFraction (← skipWhole unsigned))

/-- A number as it is written, and the text behind it. -/
def readNumber (chars : List Char) : Option (String × List Char) :=
  (skipNumber chars).map fun rest =>
    (String.ofList (chars.take (chars.length - rest.length)), rest)

/-! ## Values -/

mutual

/-- Read a value and what is behind it.  The first argument bounds the steps. -/
def readValue : Nat → List Char → Option (Json × List Char)
  | 0, _ => none
  | fuel + 1, chars =>
      match skipSpace chars with
      | 'n' :: 'u' :: 'l' :: 'l' :: rest => some (.null, rest)
      | 't' :: 'r' :: 'u' :: 'e' :: rest => some (.bool true, rest)
      | 'f' :: 'a' :: 'l' :: 's' :: 'e' :: rest => some (.bool false, rest)
      | '"' :: rest => (readString rest).map fun (content, rest) => (.string content, rest)
      | '[' :: rest =>
          match skipSpace rest with
          | ']' :: rest => some (.array [], rest)
          | rest => (readItems fuel rest).map fun (items, rest) => (.array items, rest)
      | '\x7b' :: rest =>
          match skipSpace rest with
          | '\x7d' :: rest => some (.object [], rest)
          | rest => (readMembers fuel rest).map fun (members, rest) => (.object members, rest)
      | chars => (readNumber chars).map fun (written, rest) => (.number written, rest)

/-- Read one item or more up to the end of their array. -/
def readItems : Nat → List Char → Option (List Json × List Char)
  | 0, _ => none
  | fuel + 1, chars => do
      let (item, rest) ← readValue fuel chars
      match skipSpace rest with
      | ']' :: rest => return ([item], rest)
      | ',' :: rest =>
          let (items, rest) ← readItems fuel rest
          return (item :: items, rest)
      | _ => none

/-- Read one member or more up to the end of their object. -/
def readMembers : Nat → List Char → Option (List (Option String × Json) × List Char)
  | 0, _ => none
  | fuel + 1, chars =>
      match skipSpace chars with
      | '"' :: rest => do
          let (key, rest) ← readString rest
          match skipSpace rest with
          | ':' :: rest =>
              let (value, rest) ← readValue fuel rest
              match skipSpace rest with
              | '\x7d' :: rest => return ([(key, value)], rest)
              | ',' :: rest =>
                  let (members, rest) ← readMembers fuel rest
                  return ((key, value) :: members, rest)
              | _ => none
          | _ => none
      | _ => none

end

/-- Read a text that is one value.  Each step of the reader takes a character or
enters an array or object, so twice the length is enough steps. -/
def read (text : String) : Option Json :=
  let chars := text.toList
  match readValue (2 * chars.length + 2) chars with
  | some (value, rest) => if skipSpace rest = [] then some value else none
  | none => none

/-! ## Typed reading -/

/-- The text of a string. -/
def asString : Json → Option String
  | .string content => content
  | _ => none

/-- The items of an array, each read by `item`. -/
def asList {Value : Type} (item : Json → Option Value) : Json → Option (List Value)
  | .array items => items.mapM item
  | _ => none

/-- Null, or a value that `value` reads. -/
def asOption {Value : Type} (value : Json → Option Value) : Json → Option (Option Value)
  | .null => some none
  | json => (value json).map some

/-- The members of an object whose keys are all text. -/
def namedMembers (members : List (Option String × Json)) : Option (List (String × Json)) :=
  members.mapM fun (key, value) => key.map fun key => (key, value)

/-- The values of a record's fields.  A record is an object in which none of its
fields is repeated and other members are passed over, or an array of the values
in the order of the fields, in which the last ones may be missing. -/
def fields (names : List String) : Json → Option (List (Option Json))
  | .object members => do
      let members ← namedMembers members
      names.mapM fun name =>
        match members.filter (·.1 == name) with
        | [] => some none
        | [(_, value)] => some (some value)
        | _ => none
  | .array items =>
      if items.length ≤ names.length then
        some (items.map some ++ List.replicate (names.length - items.length) none)
      else
        none
  | _ => none

/-- Read a field, or take its default if it is missing. -/
def field {Value : Type} (read : Json → Option Value) (default : Value) :
    Option Json → Option Value
  | none => some default
  | some json => read json

/-! ## Writing -/

/-- A character of a string as it is written. -/
def quoteChar (char : Char) : List Char :=
  match char with
  | '"' => ['\\', '"']
  | '\\' => ['\\', '\\']
  | '\x08' => ['\\', 'b']
  | '\x0c' => ['\\', 'f']
  | '\n' => ['\\', 'n']
  | '\r' => ['\\', 'r']
  | '\t' => ['\\', 't']
  | char =>
      if char.toNat < 32 then
        ['\\', 'u', '0', '0', IPv6.hexDigit (char.toNat / 16), IPv6.hexDigit (char.toNat % 16)]
      else
        [char]

/-- A string as it is written. -/
def quote (text : String) : String :=
  String.ofList ('"' :: text.toList.flatMap quoteChar ++ ['"'])

/-- The blanks in front of a line. -/
def indentation (depth : Nat) : String :=
  String.ofList (List.replicate (2 * depth) ' ')

/-- Entries between an opening and a closing bracket, indented by one step more
than the brackets. -/
def bracketed (opening closing : String) (depth : Nat) : List String → String
  | [] => opening ++ closing
  | entries =>
      opening ++ "\n" ++ ",\n".intercalate (entries.map (indentation (depth + 1) ++ ·)) ++
        "\n" ++ indentation depth ++ closing

mutual

/-- The text of a value within `depth` arrays and objects.  A string without
content is written like an empty one. -/
def textAt (depth : Nat) : Json → String
  | .null => "null"
  | .bool value => if value then "true" else "false"
  | .number written => written
  | .string content => quote (content.getD "")
  | .array items => bracketed "[" "]" depth (itemTexts (depth + 1) items)
  | .object members => bracketed "\x7b" "\x7d" depth (memberTexts (depth + 1) members)

/-- The texts of the items of an array. -/
def itemTexts (depth : Nat) : List Json → List String
  | [] => []
  | item :: rest => textAt depth item :: itemTexts depth rest

/-- The texts of the members of an object. -/
def memberTexts (depth : Nat) : List (Option String × Json) → List String
  | [] => []
  | (key, value) :: rest =>
      (quote (key.getD "") ++ ": " ++ textAt depth value) :: memberTexts depth rest

end

/-- The text of a value. -/
def text (json : Json) : String :=
  json.textAt 0

/-- The value of a text. -/
def ofText (content : String) : Json :=
  .string (some content)

/-- The value of a number. -/
def ofNat (value : Nat) : Json :=
  .number (Decimal.text value)

/-- The array of texts. -/
def ofTexts (contents : List String) : Json :=
  .array (contents.map ofText)

/-- The object with named members. -/
def ofMembers (members : List (String × Json)) : Json :=
  .object (members.map fun (key, value) => (some key, value))

end Json

end DhcpRelay
