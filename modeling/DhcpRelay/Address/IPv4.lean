import DhcpRelay.Bytes
import DhcpRelay.Text.Decimal

/-!
# IPv4 addresses and subnets

The text of an address is four decimal fields; a field has no leading zero and
at most three digits, so an address has one text only.
-/

namespace DhcpRelay

/-- An IPv4 address by its four octets. -/
structure IPv4 where
  first : UInt8
  second : UInt8
  third : UInt8
  fourth : UInt8
  deriving DecidableEq, Repr

namespace IPv4

/-- `0.0.0.0`, used for "no address". -/
def unspecified : IPv4 := ⟨0, 0, 0, 0⟩

/-- `255.255.255.255`, all stations on the link. -/
def broadcast : IPv4 := ⟨255, 255, 255, 255⟩

/-- The octets in the order they are sent. -/
def octets (address : IPv4) : Bytes :=
  [address.first, address.second, address.third, address.fourth]

/-- The address whose octets these bytes are. -/
def ofOctets? : Bytes → Option IPv4
  | [first, second, third, fourth] => some ⟨first, second, third, fourth⟩
  | _ => none

/-- The address at `index` of a message. -/
def readAt (bytes : Bytes) (index : Nat) : IPv4 :=
  ⟨bytes.byteAt index, bytes.byteAt (index + 1), bytes.byteAt (index + 2),
    bytes.byteAt (index + 3)⟩

theorem ofOctets?_eq_some_iff {bytes : Bytes} {address : IPv4} :
    ofOctets? bytes = some address ↔ bytes = address.octets := by
  constructor
  · intro read
    unfold ofOctets? at read
    split at read
    · simp only [Option.some.injEq] at read
      subst read
      rfl
    · simp at read
  · rintro rfl
    rfl

/-- The address as one number. -/
def number (address : IPv4) : Nat :=
  Bytes.number address.octets

/-- The text of an address. -/
def chars (address : IPv4) : List Char :=
  Decimal.digits address.first.toNat ++ '.' :: Decimal.digits address.second.toNat ++
    '.' :: Decimal.digits address.third.toNat ++ '.' :: Decimal.digits address.fourth.toNat

/-- The text of an address. -/
def text (address : IPv4) : String :=
  String.ofList address.chars

instance : ToString IPv4 := ⟨text⟩

/-- Read one field: up to three digits, no leading zero, at most 255. -/
def readOctet (field : List Char) : Option UInt8 :=
  if field.length ≤ 3 ∧ (field.head? = some '0' → field = ['0']) then
    ((Decimal.readUnsigned field).filter (· ≤ 255)).map UInt8.ofNat
  else
    none

/-- Read an address. -/
def readChars (written : List Char) : Option IPv4 :=
  match written.splitOn '.' with
  | [first, second, third, fourth] => do
      return ⟨← readOctet first, ← readOctet second, ← readOctet third, ← readOctet fourth⟩
  | _ => none

/-- Read an address. -/
def read (written : String) : Option IPv4 :=
  readChars written.toList

end IPv4

/-- An interface address together with the length of its network part. -/
structure Subnet where
  address : IPv4
  length : Nat
  deriving DecidableEq, Repr

namespace Subnet

/-- The text `address/length`. -/
def text (subnet : Subnet) : String :=
  subnet.address.text ++ "/" ++ Decimal.text subnet.length

/-- Read `address/length` with a length of at most 32. -/
def read (written : String) : Option Subnet :=
  match written.toList.splitOn '/' with
  | [address, length] => do
      return ⟨← IPv4.readChars address, ← Decimal.readUpTo 32 length⟩
  | _ => none

/-- Whether `address` has every host bit of this subnet set.  Networks of one or
two addresses have no broadcast address. -/
def hasBroadcast (subnet : Subnet) (address : IPv4) : Bool :=
  let size := 1 <<< (32 - subnet.length)
  subnet.length < 31 &&
    address.number == subnet.address.number / size * size + (size - 1)

end Subnet

end DhcpRelay
