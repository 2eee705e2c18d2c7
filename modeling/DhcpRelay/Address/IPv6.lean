import DhcpRelay.Address.IPv4

/-!
# IPv6 addresses

An address is sixteen octets.  It has one text: groups in lower case without
leading zeros, the first longest run of two or more zero groups written `::`, and
dotted form for IPv4-mapped addresses only.  The reader accepts leading zeros,
either case, any elision and a dotted end as well, but no zone.
-/

namespace DhcpRelay

/-- An IPv6 address by its sixteen octets. -/
structure IPv6 where
  octets : Bytes
  length_octets : octets.length = 16
  deriving DecidableEq, Repr

namespace IPv6

/-- `::`, used for "no address". -/
def unspecified : IPv6 := ⟨List.replicate 16 0, rfl⟩

/-- The address whose octets these bytes are. -/
def ofOctets? (bytes : Bytes) : Option IPv6 :=
  if length_bytes : bytes.length = 16 then some ⟨bytes, length_bytes⟩ else none

/-- The address at `index` of a message. -/
def readAt (bytes : Bytes) (index : Nat) : IPv6 :=
  ⟨Bytes.padTo ((bytes.drop index).take 16) 16, by
    simp only [Bytes.padTo, List.length_append, List.length_take, List.length_drop,
      List.length_replicate]
    omega⟩

/-- Octet number `index` of sixteen. -/
def octet (address : IPv6) (index : Nat) : UInt8 :=
  address.octets.byteAt index

/-- Group number `index` of eight. -/
def group (address : IPv6) (index : Nat) : Nat :=
  (address.octet (2 * index)).toNat * 256 + (address.octet (2 * index + 1)).toNat

/-- All eight groups. -/
def groups (address : IPv6) : List Nat :=
  (List.range 8).map address.group

/-- The address with these eight groups. -/
def ofGroups? (groups : List Nat) : Option IPv6 :=
  ofOctets? (groups.flatMap fun group => [UInt8.ofNat (group / 256), UInt8.ofNat group])

/-- An address of `fe80::/10`. -/
def isLinkLocal (address : IPv6) : Bool :=
  address.octet 0 == 254 && (address.octet 1).toNat / 64 == 2

/-- An address of `ff00::/8`. -/
def isMulticast (address : IPv6) : Bool :=
  address.octet 0 == 255

/-- The address `::1`. -/
def isLoopback (address : IPv6) : Bool :=
  address.octets == List.replicate 15 0 ++ [1]

/-- The IPv4 address inside an address of `::ffff:0:0/96`. -/
def mappedIPv4? (address : IPv6) : Option IPv4 :=
  if address.octets.take 12 = List.replicate 10 0 ++ [255, 255] then
    IPv4.ofOctets? (address.octets.drop 12)
  else
    none

/-! ## Writing -/

/-- A hexadecimal digit in lower case. -/
def hexDigit (value : Nat) : Char :=
  if value < 10 then Char.ofNat (48 + value) else Char.ofNat (87 + value)

/-- A group without leading zeros. -/
def hexGroup (group : Nat) : List Char :=
  let digits := [group / 4096 % 16, group / 256 % 16, group / 16 % 16]
  (digits.dropWhile (· == 0)).map hexDigit ++ [hexDigit (group % 16)]

/-- Groups with colons between them. -/
def joinGroups (groups : List Nat) : List Char :=
  [':'].intercalate (groups.map hexGroup)

/-- The length of the run of zero groups that starts each position. -/
def zeroRuns : List Nat → List Nat
  | [] => []
  | group :: rest =>
      let runs := zeroRuns rest
      (if group = 0 then runs.headD 0 + 1 else 0) :: runs

/-- Where the first longest run of zero groups starts, and its length. -/
def longestZeroRun (groups : List Nat) : Nat × Nat :=
  let runs := zeroRuns groups
  let longest := runs.foldl max 0
  (runs.findIdx (· == longest), longest)

/-- The text of eight groups. -/
def groupsText (groups : List Nat) : List Char :=
  let (start, length) := longestZeroRun groups
  if length < 2 then
    joinGroups groups
  else
    joinGroups (groups.take start) ++ [':', ':'] ++ joinGroups (groups.drop (start + length))

/-- The text of an address. -/
def text (address : IPv6) : String :=
  match address.mappedIPv4? with
  | some inner => "::ffff:" ++ inner.text
  | none => String.ofList (groupsText address.groups)

instance : ToString IPv6 := ⟨text⟩

/-! ## Reading -/

/-- The value of a hexadecimal digit of either case. -/
def hexValue? (char : Char) : Option Nat :=
  let code := char.toNat
  if 48 ≤ code ∧ code ≤ 57 then some (code - 48)
  else if 65 ≤ code ∧ code ≤ 70 then some (code - 55)
  else if 97 ≤ code ∧ code ≤ 102 then some (code - 87)
  else none

/-- Read a group of one to four hexadecimal digits. -/
def readGroup (field : List Char) : Option Nat :=
  if 1 ≤ field.length ∧ field.length ≤ 4 then
    field.foldlM (fun value char => (hexValue? char).map (value * 16 + ·)) 0
  else
    none

/-- Read fields as groups; where `dotted` holds the last one may be an IPv4
address, which stands for two groups. -/
def readFields (dotted : Bool) : List (List Char) → Option (List Nat)
  | [] => some []
  | [field] =>
      match readGroup field with
      | some group => some [group]
      | none =>
          if dotted then
            (IPv4.readChars field).map fun inner =>
              [inner.first.toNat * 256 + inner.second.toNat,
                inner.third.toNat * 256 + inner.fourth.toNat]
          else
            none
  | field :: rest => do
      return (← readGroup field) :: (← readFields dotted rest)

/-- Read groups separated by single colons; no characters are no groups. -/
def readGroups (dotted : Bool) (chars : List Char) : Option (List Nat) :=
  if chars = [] then some [] else readFields dotted (chars.splitOn ':')

/-- The characters before and after the first `::`. -/
def splitElision : List Char → Option (List Char × List Char)
  | ':' :: ':' :: rest => some ([], rest)
  | char :: rest => (splitElision rest).map fun (front, back) => (char :: front, back)
  | [] => none

/-- Read an address. -/
def readChars (written : List Char) : Option IPv6 := do
  match splitElision written with
  | none => ofGroups? (← readGroups true written)
  | some (front, back) =>
      let front ← readGroups false front
      let back ← readGroups true back
      if front.length + back.length < 8 then
        ofGroups? (front ++ List.replicate (8 - (front.length + back.length)) 0 ++ back)
      else
        none

/-- Read an address. -/
def read (written : String) : Option IPv6 :=
  readChars written.toList

end IPv6

end DhcpRelay
