import DhcpRelay.Bytes

/-!
# Ethernet addresses
-/

namespace DhcpRelay

/-- An Ethernet address by its six octets. -/
structure Mac where
  octets : Bytes
  length_octets : octets.length = 6
  deriving DecidableEq, Repr

namespace Mac

/-- The address of all zeros, which stands for "unknown". -/
def zero : Mac := ⟨List.replicate 6 0, rfl⟩

/-- The address whose octets these bytes are. -/
def ofOctets? (bytes : Bytes) : Option Mac :=
  if length_bytes : bytes.length = 6 then some ⟨bytes, length_bytes⟩ else none

/-- The address names a station. -/
def isKnown (mac : Mac) : Bool :=
  mac.octets.any (· != 0)

@[simp] theorem ofOctets?_octets (mac : Mac) : ofOctets? mac.octets = some mac := by
  simp [ofOctets?, mac.length_octets]

theorem ofOctets?_eq_some_iff {bytes : Bytes} {mac : Mac} :
    ofOctets? bytes = some mac ↔ bytes = mac.octets := by
  constructor
  · intro read
    unfold ofOctets? at read
    split at read
    · simp only [Option.some.injEq] at read
      subst read
      rfl
    · simp at read
  · rintro rfl
    exact ofOctets?_octets mac

end Mac

end DhcpRelay
