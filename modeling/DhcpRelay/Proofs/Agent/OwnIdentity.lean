import DhcpRelay.Proofs.Agent.RequestPath
import DhcpRelay.Proofs.Dhcp4.OwnOption

/-!
# Identities that are written and identities that are recognized

Requests are marked with the hardware address of this machine, if it is known, or with the
first address of the interface that they came in on.  In replies a relay recognizes more than
that: any address that an interface has.
-/

namespace DhcpRelay

open Dhcp4

/-- The identity is nothing but zeros. -/
def Dhcp4.Identity.IsBlank (identity : Identity) : Prop :=
  ∀ byte ∈ identity.bytes, byte = 0

instance (identity : Identity) : Decidable identity.IsBlank :=
  List.decidableBAll (· = 0) identity.bytes

/-- The identity that counts in the value of an agent option. -/
def Dhcp4.AgentInfo.Identifies (value : Bytes) (identity : Identity) : Prop :=
  ∃ found, ConsistsOf value found ∧ HasLast identityTag identity.bytes found

namespace Topology

variable {links : Topology} {address : IPv4} {identity : Identity}

/-- Requests may be marked with the identity. -/
def CouldWrite (links : Topology) : Identity → Prop
  | .mac own => own.isKnown = true ∧ links.ownMac = own
  | .ip own => own ≠ .unspecified ∧ ∃ interface, links.ipv4? interface = some own

/-- An interface has the address, but behind its first one, or it is not the one that is found
by its name. -/
def IsFurther (links : Topology) (address : IPv4) : Prop :=
  ∃ link ∈ links.links, ∃ subnet ∈ link.ipv4, subnet.address = address ∧
    (subnet ∈ link.ipv4.tail ∨ links.named link.name ≠ some link)

/-- The first address of an interface that is found by its name is the one it is known by. -/
theorem couldWrite_or_isFurther_of_owns (owned : links.Owns address)
    (usable : address ≠ .unspecified) :
    links.CouldWrite (.ip address) ∨ links.IsFurther address := by
  rcases owned with ⟨link, member, subnet, among, rfl⟩
  -- Of interfaces with one name, only the first is found by it.
  by_cases found : links.named link.name = some link
  · by_cases further : subnet ∈ link.ipv4.tail
    · exact .inr ⟨link, member, subnet, among, rfl, .inl further⟩
    · left
      have first : link.ipv4.head? = some subnet := by
        cases listed : link.ipv4 with
        | nil =>
            rw [listed] at among
            cases among
        | cons head later =>
            rw [listed] at among further
            rcases List.mem_cons.1 among with rfl | behind
            · rfl
            · exact absurd behind further
      have known : links.ipv4? link.name = some subnet.address := by
        rw [ipv4?, found, Option.bind_some, first, Option.map_some]
      exact ⟨usable, link.name, known⟩
  · exact .inr ⟨link, member, subnet, among, rfl, .inr found⟩

theorem owns_of_ipv4? {interface : String} (first : links.ipv4? interface = some address) :
    links.Owns address := by
  rcases Option.bind_eq_some_iff.1 first with ⟨link, found, listed⟩
  rcases Option.map_eq_some_iff.1 listed with ⟨subnet, head, same⟩
  exact ⟨link, List.mem_of_find?_eq_some found, subnet, List.mem_of_head? head, same⟩

theorem CouldWrite.has (could : links.CouldWrite identity) : links.Has identity := by
  cases identity with
  | mac own => exact could.2
  | ip own =>
      rcases could with ⟨_, interface, first⟩
      exact owns_of_ipv4? first

theorem isBlank_of_not_isKnown {mac : Mac} (unknown : mac.isKnown = false) :
    Identity.IsBlank (.mac mac) := by
  intro byte member
  rw [Mac.isKnown, List.any_eq_false] at unknown
  simpa using unknown byte member

theorem couldWrite_or_isFurther_of_has (owned : links.Has identity) (filled : ¬ identity.IsBlank) :
    links.CouldWrite identity ∨ ∃ own, identity = .ip own ∧ links.IsFurther own := by
  cases identity with
  | mac own =>
      left
      have known : own.isKnown = true := by
        rw [← Bool.not_eq_false]
        exact mt isBlank_of_not_isKnown filled
      exact ⟨known, owned⟩
  | ip own =>
      have usable : own ≠ .unspecified := by
        rintro rfl
        exact filled (by decide)
      rcases couldWrite_or_isFurther_of_owns owned usable with first | further
      · exact .inl first
      · exact .inr ⟨own, rfl, further⟩

end Topology

/-! ## Writing -/

/-- A relay that has an address for its requests marks them with what it could write, and with
nothing else. -/
theorem Relay.couldWrite_iff (state : Relay) {identity : Identity}
    (reachable : ∃ interface, state.requestAddress interface ≠ none) :
    (state.links.CouldWrite identity ∧ identity.kind = state.settings.identity) ↔
      ∃ interface address, state.requestAddress interface = some address ∧
        state.identity address = some identity := by
  constructor
  · intro could
    rcases could with ⟨could, kind⟩
    cases identity with
    | mac own =>
        rcases could with ⟨known, rfl⟩
        rcases reachable with ⟨interface, some⟩
        rcases Option.ne_none_iff_exists'.1 some with ⟨address, found⟩
        refine ⟨interface, address, found, ?_⟩
        rw [Relay.identity, ← kind]
        exact if_pos known
    | ip own =>
        rcases could with ⟨usable, interface, first⟩
        refine ⟨interface, own, requestAddress_eq_some_iff.2 ⟨first, usable⟩, ?_⟩
        rw [Relay.identity, ← kind]
        rfl
  · intro written
    rcases written with ⟨interface, address, found, written⟩
    rw [Relay.identity] at written
    split at written
    · rename_i mac
      split at written
      · rename_i known
        cases written
        exact ⟨⟨known, rfl⟩, mac.symm⟩
      · cases written
    · rename_i ip
      cases written
      rcases requestAddress_eq_some_iff.1 found with ⟨first, usable⟩
      exact ⟨⟨usable, interface, first⟩, ip.symm⟩

/-! ## Recognizing -/

namespace Topology

variable {links : Topology} {value : Bytes} {kind : IdentityKind} {circuit : UInt32}
  {address : Option IPv4}

/-- What is recognized identifies this machine. -/
theorem exists_identity_of_ours (ours : AgentInfo.judge value kind links = .ours circuit address) :
    ∃ identity, AgentInfo.Identifies value identity ∧ identity.kind = kind ∧
      identity.address? = address ∧ links.Has identity := by
  rcases AgentInfo.judge_eq_ours_iff.1 ours with ⟨found, part, consists, _, last, own⟩
  cases kind with
  | mac =>
      rcases own with ⟨rfl, rfl⟩
      exact ⟨.mac links.ownMac, ⟨found, consists, last⟩, rfl, rfl, rfl⟩
  | ip =>
      rcases own with ⟨own, rfl, owned, rfl⟩
      exact ⟨.ip own, ⟨found, consists, last⟩, rfl, rfl, owned⟩

/-- While the hardware address is not known, no other one is recognized. -/
theorem Has.isBlank {identity : Identity} (owned : links.Has identity)
    (mac : identity.kind = .mac) (unknown : links.ownMac.isKnown = false) : identity.IsBlank := by
  cases identity with
  | mac own =>
      cases owned
      exact isBlank_of_not_isKnown unknown
  | ip own => cases mac

/-- What could be written into requests is what a relay on these links marks them with, as soon
as it has an address for some of them.  Whatever could be written is recognized.  The other way
round, a value that is recognized identifies this machine by what could be written into requests,
or else by a further address of an interface.  This leaves open identities that are blank, but as
long as the hardware address is not known no other hardware address is recognized. -/
theorem recognizes_couldWrite_or_isFurther (links : Topology) :
    (∀ (state : Relay) identity, state.links = links →
      (∃ interface, state.requestAddress interface ≠ none) →
        ((links.CouldWrite identity ∧ identity.kind = state.settings.identity) ↔
          ∃ interface address, state.requestAddress interface = some address ∧
            state.identity address = some identity)) ∧
    (∀ identity circuit, links.CouldWrite identity →
      AgentInfo.judge (AgentInfo.value circuit identity) identity.kind links =
        .ours circuit identity.address?) ∧
    ∀ kind value circuit address, AgentInfo.judge value kind links = .ours circuit address →
      ∃ identity, AgentInfo.Identifies value identity ∧ identity.kind = kind ∧
        identity.address? = address ∧
        (¬ identity.IsBlank →
          links.CouldWrite identity ∨ ∃ own, identity = .ip own ∧ links.IsFurther own) ∧
        (kind = .mac → links.ownMac.isKnown = false → identity.IsBlank) := by
  refine ⟨?_, ?_, ?_⟩
  · rintro state identity rfl reachable
    exact state.couldWrite_iff reachable
  · intro identity circuit could
    exact AgentInfo.judge_eq_ours_iff.2 (AgentInfo.namesRelay_value could.has)
  · intro kind value circuit address ours
    rcases exists_identity_of_ours ours with ⟨identity, identifies, rfl, known, owned⟩
    exact ⟨identity, identifies, rfl, known, couldWrite_or_isFurther_of_has owned, owned.isBlank⟩

/-- An interface with two addresses. -/
def twoAddresses : Topology :=
  ⟨[⟨3, "eth1", none, false, [⟨⟨192, 168, 1, 1⟩, 24⟩, ⟨⟨192, 168, 2, 1⟩, 24⟩], []⟩], .zero⟩

theorem not_couldWrite_twoAddresses :
    ¬ twoAddresses.CouldWrite (.ip ⟨192, 168, 2, 1⟩) := by
  intro could
  rcases could with ⟨_, interface, first⟩
  rw [ipv4?, Option.bind_eq_some_iff] at first
  rcases first with ⟨link, found, first⟩
  have only : link ∈ twoAddresses.links := List.mem_of_find?_eq_some found
  rw [twoAddresses, List.mem_singleton] at only
  subst only
  revert first
  decide

/-- Both addresses of the interface are recognized.  A relay that goes by addresses marks
requests with the first one; the second one is a further one. -/
theorem recognizes_couldWrite_or_isFurther_twoAddresses :
    let first : IPv4 := ⟨192, 168, 1, 1⟩
    let second : IPv4 := ⟨192, 168, 2, 1⟩
    let state := Relay.start { Settings.default with identity := .ip } twoAddresses
    state.requestAddress "eth1" = some first ∧ state.identity first = some (.ip first) ∧
      twoAddresses.CouldWrite (.ip first) ∧
      AgentInfo.judge (AgentInfo.value 3 (.ip first)) .ip twoAddresses = .ours 3 (some first) ∧
      AgentInfo.judge (AgentInfo.value 3 (.ip second)) .ip twoAddresses =
        .ours 3 (some second) ∧
      twoAddresses.IsFurther second := by
  intro first second state
  rcases recognizes_couldWrite_or_isFurther twoAddresses with ⟨writes, recognizes, recognized⟩
  have address : state.requestAddress "eth1" = some first := by decide
  have reachable : ∃ interface, state.requestAddress interface ≠ none := by
    refine ⟨"eth1", ?_⟩
    rw [address]
    exact Option.some_ne_none first
  have could : twoAddresses.CouldWrite (.ip first) :=
    ((writes state (.ip first) rfl reachable).2 ⟨"eth1", first, address, rfl⟩).1
  have ours : AgentInfo.judge (AgentInfo.value 3 (.ip second)) .ip twoAddresses =
      .ours 3 (some second) := by
    decide +kernel
  refine ⟨address, rfl, could, recognizes (.ip first) 3 could, ours, ?_⟩
  rcases recognized _ _ _ _ ours with ⟨identity, _, _, known, written, _⟩
  cases identity with
  | mac own => cases known
  | ip own =>
      cases known
      rcases written (by decide) with first | ⟨_, same, further⟩
      · exact absurd first not_couldWrite_twoAddresses
      · cases same
        exact further

/-- The second address of an interface is recognized, though no request is marked with it. -/
theorem recognizes_unwritten_twoAddresses :
    ¬ ∀ (links : Topology) (kind : IdentityKind) (value : Bytes) (circuit : UInt32)
        (address : Option IPv4), AgentInfo.judge value kind links = .ours circuit address →
      ∃ identity, AgentInfo.Identifies value identity ∧ identity.kind = kind ∧
        identity.address? = address ∧ links.CouldWrite identity := by
  intro agree
  let second : IPv4 := ⟨192, 168, 2, 1⟩
  have ours : AgentInfo.judge (AgentInfo.value 3 (.ip second)) .ip twoAddresses =
      .ours 3 (some second) := by
    decide +kernel
  rcases agree _ _ _ _ _ ours with ⟨identity, _, _, known, could⟩
  cases identity with
  | mac own => cases known
  | ip own =>
      cases known
      exact not_couldWrite_twoAddresses could

end Topology

end DhcpRelay
