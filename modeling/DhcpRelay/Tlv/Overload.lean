import DhcpRelay.Tlv.Cursor

/-!
# Option overload

A DHCPv4 message may continue its options in the `file` and `sname` fields.
Option 52 says in which.  `search` looks for one option and reports the overload
that stands before it.
-/

namespace DhcpRelay

/-- The code of the overload option. -/
def overloadCode : UInt16 := 52

/-- The header fields that carry options. -/
inductive Overload where
  | none
  | file
  | sname
  | both
  deriving DecidableEq, Repr

namespace Overload

/-- The meaning of the option's first byte. -/
def ofByte (value : UInt8) : Overload :=
  if value = 1 then .file
  else if value = 2 then .sname
  else if value = 3 then .both
  else .none

/-- The `file` field holds options. -/
def usesFile : Overload → Bool
  | .file | .both => true
  | .none | .sname => false

/-- The `sname` field holds options. -/
def usesSname : Overload → Bool
  | .sname | .both => true
  | .none | .file => false

/-- The overload after one more option; an empty option 52 says nothing. -/
def after (overload : Overload) (option : Tlv) : Overload :=
  if option.code = overloadCode then
    match option.value with
    | [] => overload
    | value :: _ => ofByte value
  else
    overload

end Overload

/-- What a look for one option gave. -/
structure Search where
  found : Option Tlv
  overload : Overload
  deriving DecidableEq, Repr

namespace Search

/-- Look through the options of a walk, given the overload so far. -/
def throughOptions (code : UInt16) (overload : Overload) (ending : Ending) :
    List Tlv → Except OptionFault Search
  | [] =>
      match ending with
      | .truncated offset => .error (.truncated offset)
      | _ => .ok ⟨none, overload⟩
  | option :: rest =>
      if option.code = code then
        .ok ⟨some option, overload.after option⟩
      else
        throughOptions code (overload.after option) ending rest

end Search

/-- Look for the first option of code `code` in a DHCPv4 area.  A truncated area
is a fault unless the option stands before the truncation. -/
def search (area : Bytes) (code : UInt16) : Except OptionFault Search :=
  let walk := Framing.dhcp4.walk area
  Search.throughOptions code .none walk.ending walk.options

end DhcpRelay
