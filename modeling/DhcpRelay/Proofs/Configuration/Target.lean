import DhcpRelay.Configuration.Target
import DhcpRelay.Proofs.Address.Text
import DhcpRelay.Proofs.Except
import Mathlib.Data.List.TakeWhile

/-!
# Which texts are read as a target

A target is read from the text of its address, a colon and what stands for its port, and from
nothing else.  An address alone is refused, and so is an IPv6 address, whatever port is behind it.
-/

namespace DhcpRelay

namespace UdpPort

variable {written : String} {port : UInt16}

/-- The text is the number of the port, which is not zero, or the name of a service there. -/
inductive StandsFor (port : UInt16) (written : String) : Prop where
  | number (positive : port ≠ 0) (numeral : Decimal.IsNumeral port.toNat written.toList)
  | name (known : (written, port) ∈ names)

/-- Names are no numbers, and no service has two ports or port zero. -/
theorem read_name : ∀ service ∈ names,
    read service.1 = .ok service.2 ∧ service.2 ≠ 0 ∧ ':' ∉ service.1.toList := by
  decide +kernel

theorem read_eq_ok_iff : read written = .ok port ↔ StandsFor port written := by
  constructor
  · intro done
    rw [read] at done
    split at done
    · rename_i number numeral
      split at done
      · cases done
      · rename_i positive
        cases done
        exact .number positive (Decimal.readWord16_eq_some_iff.1 numeral)
    · split at done
      · rename_i name known found
        cases done
        have same : name = written := by simpa using List.find?_some found
        exact .name (same ▸ List.mem_of_find?_eq_some found)
      · cases done
  · intro standsFor
    cases standsFor with
    | number positive numeral =>
        rw [read, Decimal.readWord16_eq_some_iff.2 numeral]
        exact if_neg positive
    | name known => exact (read_name _ known).1

theorem StandsFor.ne_zero (standsFor : StandsFor port written) : port ≠ 0 := by
  cases standsFor with
  | number positive _ => exact positive
  | name known => exact (read_name _ known).2.1

theorem StandsFor.colon_not_mem (standsFor : StandsFor port written) :
    ':' ∉ written.toList := by
  cases standsFor with
  | number _ numeral => exact numeral.not_mem (by decide) (by decide)
  | name known => exact (read_name _ known).2.2

theorem standsFor_text (positive : port ≠ 0) : StandsFor port (Decimal.text port.toNat) :=
  .number positive (Decimal.isNumeral_text port.toNat)

end UdpPort

namespace Server4

variable {written : String} {server : Server4} {front behind : List Char}

/-! ## The last colon -/

theorem ne_colon_of_mem_reverse (noColon : ':' ∉ behind) :
    ∀ char ∈ behind.reverse, (char != ':') = true := by
  intro char member
  rw [bne_iff_ne]
  exact ne_of_mem_of_not_mem (List.mem_reverse.1 member) noColon

theorem splitLastColon_append (front : List Char) (noColon : ':' ∉ behind) :
    splitLastColon (front ++ ':' :: behind) = some (front, behind) := by
  have others := ne_colon_of_mem_reverse noColon
  have last : (front ++ ':' :: behind).reverse.takeWhile (· != ':') = behind.reverse := by
    rw [List.reverse_append, List.reverse_cons, List.append_assoc,
      List.takeWhile_append_of_pos others]
    simp
  have size : (front ++ ':' :: behind).length - behind.length - 1 = front.length := by
    rw [List.length_append, List.length_cons]
    omega
  rw [splitLastColon, last]
  simp only [List.length_reverse, List.reverse_reverse]
  rw [if_neg (by rw [List.length_append, List.length_cons]; omega), size, List.take_left']
  rfl

theorem splitLastColon_of_not_mem (noColon : ':' ∉ behind) : splitLastColon behind = none := by
  rw [splitLastColon, List.takeWhile_eq_self_iff.2 (ne_colon_of_mem_reverse noColon)]
  exact if_pos List.length_reverse

theorem exists_lastColon {chars : List Char} (colon : ':' ∈ chars) :
    ∃ front behind, chars = front ++ ':' :: behind ∧ ':' ∉ behind := by
  rcases List.eq_append_cons_of_mem (List.mem_reverse.2 colon) with ⟨behind, front, whole, noColon⟩
  refine ⟨front.reverse, behind.reverse, ?_, mt List.mem_reverse.1 noColon⟩
  rw [← List.reverse_reverse chars, whole]
  simp

/-! ## Targets -/

/-- What is in front of the last colon has to be an IPv4 address. -/
theorem read_append (front : String) {behind : String} (noColon : ':' ∉ behind.toList) :
    read (front ++ ":" ++ behind) =
      match IPv4.read front with
      | none => .error (.invalidAddress (front ++ ":" ++ behind))
      | some address => (UdpPort.read behind).map (⟨address, ·⟩) := by
  have chars : (front ++ ":" ++ behind).toList = front.toList ++ ':' :: behind.toList := by
    rw [String.toList_append, String.toList_append, List.append_assoc]
    rfl
  rw [read, chars, splitLastColon_append front.toList noColon, IPv4.read]
  simp only [String.ofList_toList]
  cases IPv4.readChars front.toList with
  | none => rfl
  | some address =>
      cases UdpPort.read behind with
      | error fault => rfl
      | ok port => rfl

theorem read_of_not_mem (noColon : ':' ∉ written.toList) :
    read written = .error (.invalidAddress written) := by
  rw [read, splitLastColon_of_not_mem noColon]

theorem read_eq_ok_iff : read written = .ok server ↔
    ∃ port, UdpPort.StandsFor server.port port ∧
      written = server.address.text ++ ":" ++ port := by
  constructor
  · intro done
    by_cases colon : ':' ∈ written.toList
    · rcases exists_lastColon colon with ⟨front, behind, whole, noColon⟩
      have parts : written = String.ofList front ++ ":" ++ String.ofList behind := by
        rw [← String.toList_inj, whole]
        simp
      rw [← String.toList_ofList (l := behind)] at noColon
      rw [parts, read_append _ noColon] at done
      split at done
      · cases done
      · rename_i address found
        rcases map_eq_ok_iff.1 done with ⟨port, standsFor, rfl⟩
        refine ⟨String.ofList behind, UdpPort.read_eq_ok_iff.1 standsFor, ?_⟩
        rw [IPv4.read, String.toList_ofList, IPv4.readChars_eq_some_iff] at found
        rw [parts, found]
        rfl
    · cases (read_of_not_mem colon).symm.trans done
  · rintro ⟨port, standsFor, rfl⟩
    have address : IPv4.read server.address.text = some server.address := by
      rw [IPv4.read, IPv4.text, String.toList_ofList, IPv4.readChars_eq_some_iff]
    rw [read_append _ standsFor.colon_not_mem, address, UdpPort.read_eq_ok_iff.2 standsFor]
    rfl

theorem read_text (positive : server.port ≠ 0) : read server.text = .ok server :=
  read_eq_ok_iff.2 ⟨_, UdpPort.standsFor_text positive, rfl⟩

/-- An IPv6 address is no IPv4 address. -/
theorem read_of_ipv6 {front behind : String} (isAddress : (IPv6.read front).isSome = true)
    (noColon : ':' ∉ behind.toList) :
    read (front ++ ":" ++ behind) = .error (.invalidAddress (front ++ ":" ++ behind)) := by
  rcases Option.isSome_iff_exists.1 isAddress with ⟨address, found⟩
  have colon : ':' ∈ front.toList := IPv6.colon_mem_of_readChars found
  have other : IPv4.read front = none := by
    refine Option.eq_none_iff_forall_ne_some.2 fun inner read => ?_
    rw [IPv4.readChars_eq_some_iff.1 read] at colon
    exact inner.colon_not_mem_chars colon
  rw [read_append front noColon, other]

/-- A target with a port other than zero is read from its text, and with the name of a service in
place of the port as the target at the port of that.  Whatever is read as a target has such a
port, so it is read again from its text; all these texts are those of an IPv4 address, a colon and
what stands for the port.  What has no colon is refused, and an IPv6 address before the last. -/
theorem texts_read_back :
    (∀ address port, port ≠ 0 → read (text ⟨address, port⟩) = .ok ⟨address, port⟩) ∧
    (∀ (address : IPv4) name port, (name, port) ∈ UdpPort.names →
      read (address.text ++ ":" ++ name) = .ok ⟨address, port⟩) ∧
    (∀ written server, read written = .ok server →
      server.port ≠ 0 ∧ read server.text = .ok server) ∧
    (∀ written server, read written = .ok server ↔
      ∃ port, UdpPort.StandsFor server.port port ∧
        written = server.address.text ++ ":" ++ port) ∧
    (∀ written, ':' ∉ written.toList → read written = .error (.invalidAddress written)) ∧
    ∀ front behind, (IPv6.read front).isSome = true → ':' ∉ behind.toList →
      read (front ++ ":" ++ behind) = .error (.invalidAddress (front ++ ":" ++ behind)) := by
  refine ⟨fun address port positive => read_text positive, fun address name port known => ?_,
    fun written server done => ?_, fun _ _ => read_eq_ok_iff, fun _ => read_of_not_mem,
    fun _ _ => read_of_ipv6⟩
  · exact read_eq_ok_iff.2 ⟨name, .name known, rfl⟩
  · rcases read_eq_ok_iff.1 done with ⟨port, standsFor, _⟩
    exact ⟨standsFor.ne_zero, read_text standsFor.ne_zero⟩

/-- A target at the port of a name, one at a port with a sign and a zero, an address alone and an
IPv6 address. -/
theorem texts_read_back_namedPort :
    let address : IPv4 := ⟨10, 0, 0, 9⟩
    read "10.0.0.9:65535" = .ok ⟨address, 65535⟩ ∧ read "10.0.0.9:ntp" = .ok ⟨address, 123⟩ ∧
      read "10.0.0.9:+053" = .ok ⟨address, 53⟩ ∧ read "10.0.0.9:53" = .ok ⟨address, 53⟩ ∧
      read "10.0.0.9" = .error (.invalidAddress "10.0.0.9") ∧
      read "::1:53" = .error (.invalidAddress "::1:53") := by
  intro address
  rcases texts_read_back with ⟨ofText, ofName, again, _, alone, ipv6⟩
  have signed : read "10.0.0.9:+053" = .ok ⟨address, 53⟩ := by decide +kernel
  have highest : text ⟨address, 65535⟩ = "10.0.0.9:65535" := by decide +kernel
  have plain : text ⟨address, 53⟩ = "10.0.0.9:53" := by decide +kernel
  have named : address.text ++ ":" ++ "ntp" = "10.0.0.9:ntp" := by decide +kernel
  have colons : (IPv6.read "::1").isSome = true := by decide +kernel
  rw [← highest, ← named, ← plain]
  exact ⟨ofText address 65535 (by decide), ofName address "ntp" 123 (by decide), signed,
    (again _ _ signed).2, alone "10.0.0.9" (by decide), ipv6 "::1" "53" colons (by decide)⟩

end Server4

end DhcpRelay
