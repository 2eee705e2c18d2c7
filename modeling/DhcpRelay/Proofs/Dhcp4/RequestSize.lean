import DhcpRelay.Proofs.Dhcp4.RequestBytes
import DhcpRelay.Proofs.Dhcp4.RequestFate

/-!
# The size of marked requests

A request gets longer only by the relay's own option, and by zero bytes up to the least size.
With its own option it is shorter than what relays may send, and no longer than the last
maximum size option allows.  This is less than it should be: a maximum size that was named
before is forgotten, also if the last one is too small to be taken seriously.
-/

namespace DhcpRelay

namespace Walk

open Dhcp4

variable {walk : Walk} {size : Nat}

/-- The sizes that the maximum size options of a walk name, in order. -/
def maximumSizes (walk : Walk) : List Nat :=
  (walk.options.filter (·.code == maximumSizeCode)).map (Bytes.number ·.value)

/-- Relays send messages of this size, and all maximum size options allow it, except those that
are not taken seriously. -/
def Allows (walk : Walk) (size : Nat) : Prop :=
  size < sizeLimit ∧ ∀ limit ∈ walk.maximumSizes, smallestMaximum ≤ limit → size ≤ limit

instance (walk : Walk) (size : Nat) : Decidable (walk.Allows size) :=
  inferInstanceAs (Decidable (_ ∧ _))

/-- No limit is forgotten: the last maximum size option names the least of those that are taken
seriously. -/
def LastIsLeast (walk : Walk) : Prop :=
  ∀ limit ∈ walk.maximumSizes, smallestMaximum ≤ limit →
    ∃ last ∈ walk.maximumSizes.getLast?, smallestMaximum ≤ last ∧ last ≤ limit

instance (walk : Walk) : Decidable walk.LastIsLeast :=
  inferInstanceAs (Decidable (∀ limit ∈ walk.maximumSizes, smallestMaximum ≤ limit →
    ∃ last ∈ walk.maximumSizes.getLast?, smallestMaximum ≤ last ∧ last ≤ limit))

theorem Allows.of_mayHave (may : walk.MayHave size) (least : walk.LastIsLeast) :
    walk.Allows size := by
  refine ⟨may.1, ?_⟩
  intro limit named serious
  rcases least limit named serious with ⟨last, found, lastSerious, lower⟩
  rw [maximumSizes, List.getLast?_map] at found
  rcases Option.map_eq_some_iff.1 found with ⟨option, isLast, rfl⟩
  exact Nat.le_trans (may.2 option isLast lastSerious) lower

end Walk

namespace Dhcp4

variable {message : Bytes} {policy : AgentPolicy} {circuit : UInt32} {identity : Option Identity}

/-- The size of a request that is marked with an identity, before it is filled up. -/
def markedSize (message : Bytes) (circuit : UInt32) (own : Identity) : Nat :=
  (keptBytes message ++ AgentInfo.insertion circuit own).length

/-- The relay's option goes into a request: none of its options decides about it, and it may
have the size that it gets. -/
structure IsMarkedWith (message : Bytes) (policy : AgentPolicy) (circuit : UInt32)
    (identity : Option Identity) (own : Identity) : Prop where
  known : identity = some own
  cookie : hasCookie message = true
  undecided : NoneDecides policy (Cursor.start .dhcp4 (message.drop optionsStart)).drain.1
  typed : (optionWalk message).isDhcp = true
  allowed : (optionWalk message).MayHave (markedSize message circuit own)

theorem IsMarkedWith.length_markRequest {own : Identity}
    (marked : IsMarkedWith message policy circuit identity own) :
    (markRequest message policy circuit identity).message.length =
      max minimumSize (markedSize message circuit own) := by
  have yielded := marked.undecided
  rw [Cursor.drain_start] at yielded
  have undecided : decision policy (optionWalk message) = none := decision_eq_none_iff.2 yielded
  have complete := (of_decision_eq_none undecided).2
  have added := (addedIdentity_eq_some_iff marked.cookie complete circuit).2
    ⟨marked.known, marked.typed, marked.allowed⟩
  rw [message_of_decision_eq_none circuit identity marked.cookie undecided, added,
    ← keptBytes_eq complete, Bytes.length_padTo, markedSize]

/-- Without the relay's option a request does not get longer than it was, or than the least
size. -/
theorem length_markRequest_le_or (message : Bytes) (policy : AgentPolicy) (circuit : UInt32)
    (identity : Option Identity) :
    (markRequest message policy circuit identity).message.length ≤
        max minimumSize message.length ∨
      ∃ own, IsMarkedWith message policy circuit identity own := by
  by_cases forwarded : (markRequest message policy circuit identity).result = .ok .forward
  · cases cookie : hasCookie message with
    | false =>
        left
        rw [markRequest_of_plain cookie]
        exact Nat.le_max_right _ _
    | true =>
        have undecided := decision_of_forward cookie forwarded
        have complete := (of_decision_eq_none undecided).2
        cases added : addedIdentity message identity with
        | some own =>
            rcases (addedIdentity_eq_some_iff cookie complete circuit).1 added with
              ⟨known, typed, allowed⟩
            refine .inr ⟨own, known, cookie, ?_, typed, allowed⟩
            rw [Cursor.drain_start]
            exact decision_eq_none_iff.1 undecided
        | none =>
            left
            rw [message_of_decision_eq_none circuit identity cookie undecided, added]
            dsimp only
            split
            · exact Nat.le_max_right _ _
            · rename_i marked
              apply length_ended_le complete marked
              have trimmed := Bytes.length_trimZeros_le (stripped false (optionWalk message).options)
              rw [keptArea]
              omega
  · left
    rcases exists_decision_of_not_forward forwarded with ⟨answer, _, unchanged⟩
    rw [unchanged]
    exact Nat.le_max_right _ _

theorem exists_marked_of_lt
    (grown : max minimumSize message.length <
      (markRequest message policy circuit identity).message.length) :
    ∃ own, IsMarkedWith message policy circuit identity own ∧
      (markRequest message policy circuit identity).message.length =
        markedSize message circuit own := by
  rcases (length_markRequest_le_or message policy circuit identity).resolve_left
    (Nat.not_le.2 grown) with ⟨own, marked⟩
  have filled := marked.length_markRequest
  exact ⟨own, marked, by omega⟩

/-- A request that gets longer stays within the last limit that it names.  It stays within all of
them if the last one is the least, and it fails to exactly if the relay's option takes it past
one of them. -/
theorem length_of_markRequest (message : Bytes) (policy : AgentPolicy) (circuit : UInt32)
    (identity : Option Identity) :
    let received := optionWalk message
    let sent := (markRequest message policy circuit identity).message
    let room := max minimumSize message.length
    (sent.length ≤ room ∨ received.MayHave sent.length) ∧
      (received.LastIsLeast → sent.length ≤ room ∨ received.Allows sent.length) ∧
      (¬ (sent.length ≤ room ∨ received.Allows sent.length) ↔
        ∃ own, IsMarkedWith message policy circuit identity own ∧
          room < markedSize message circuit own ∧
          ∃ limit ∈ received.maximumSizes, smallestMaximum ≤ limit ∧
            limit < markedSize message circuit own) := by
  intro received sent room
  have bounded : sent.length ≤ room ∨ received.MayHave sent.length := by
    rcases Nat.lt_or_ge room sent.length with grown | small
    · rcases exists_marked_of_lt grown with ⟨own, marked, size⟩
      right
      rw [size]
      exact marked.allowed
    · exact .inl small
  refine ⟨bounded, fun least => bounded.imp_right fun may => .of_mayHave may least, ?_⟩
  constructor
  · intro exceeds
    rcases not_or.1 exceeds with ⟨large, forbidden⟩
    have grown := Nat.not_le.1 large
    rcases exists_marked_of_lt grown with ⟨own, marked, size⟩
    rw [size] at grown forbidden
    refine ⟨own, marked, grown, ?_⟩
    by_contra within
    refine forbidden ⟨marked.allowed.1, ?_⟩
    intro limit named serious
    exact Nat.not_lt.1 fun larger => within ⟨limit, named, serious, larger⟩
  · intro exceeds
    rcases exceeds with ⟨own, marked, grown, limit, named, serious, larger⟩
    have filled : sent.length = max minimumSize (markedSize message circuit own) :=
      marked.length_markRequest
    have least : minimumSize ≤ room := Nat.le_max_left _ _
    have size : sent.length = markedSize message circuit own := by omega
    rw [size]
    intro within
    rcases within with small | allowed
    · exact Nat.not_le.2 grown small
    · exact Nat.not_le.2 larger (allowed.2 limit named serious)

/-- A request with these maximum sizes, and with a domain name of this length. -/
def limitedRequest (maxima : List Bytes) (length : Nat) : Bytes :=
  compose ⟨requestOperation, 7, 0, .unspecified, .unspecified, .zero⟩
    ((53, [1]) :: maxima.map (57, ·) ++
      [(12, List.replicate 255 97), (15, List.replicate length 98)])

/-- A request that may have 600 bytes gets just these. -/
theorem length_of_markRequest_limitedRequest :
    let request := limitedRequest [[3, 232], [2, 88]] 75
    let sent := (markRequest request .replace 3 (some (.ip ⟨10, 0, 0, 1⟩))).message
    (optionWalk request).LastIsLeast ∧ request.length = 586 ∧ sent.length = 600 ∧
      (optionWalk request).Allows sent.length := by
  intro request sent
  have least : (optionWalk request).LastIsLeast := by decide +kernel
  have before : request.length = 586 := by decide +kernel
  have after : sent.length = 600 := by decide +kernel
  rcases (length_of_markRequest request .replace 3 (some (.ip ⟨10, 0, 0, 1⟩))).2.1 least with
    small | allowed
  · have same : (markRequest request .replace 3 (some (.ip ⟨10, 0, 0, 1⟩))).message.length = 600 :=
      after
    rw [same, before] at small
    exact absurd small (by decide)
  · exact ⟨least, before, after, allowed⟩

/-- The limit of 600 bytes is forgotten over a maximum size that is not taken seriously, and over
one that is larger. -/
theorem not_allows_limitedRequest :
    let identity : Option Identity := some (.ip ⟨10, 0, 0, 1⟩)
    let ignoring := limitedRequest [[2, 88], [1, 4]] 76
    let ignored := (markRequest ignoring .replace 3 identity).message
    let raising := limitedRequest [[2, 88], [3, 232]] 76
    let raised := (markRequest raising .replace 3 identity).message
    ignored.length = 601 ∧ raised.length = 601 ∧
      ¬ (ignored.length ≤ max minimumSize ignoring.length ∨
        (optionWalk ignoring).Allows ignored.length) ∧
      ¬ (raised.length ≤ max minimumSize raising.length ∨
        (optionWalk raising).Allows raised.length) := by
  decide +kernel

end Dhcp4

end DhcpRelay
