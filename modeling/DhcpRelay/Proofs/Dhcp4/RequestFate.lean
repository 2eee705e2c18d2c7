import DhcpRelay.Proofs.Dhcp4.RequestOptions
import Mathlib.Data.Nat.Find

/-!
# What decides about a request

The options of a request are looked at in their order until one of them decides: one that
breaks off, a maximum size of the wrong length, or an agent option behind the message type
that the policy does not replace.  A request that nothing decides about is forwarded, and
only such a request is ever changed.
-/

namespace DhcpRelay.Dhcp4

variable {policy : AgentPolicy} {met items : List (Except OptionFault Tlv)}
  {item : Except OptionFault Tlv} {option : Tlv} {answer : Except MessageFault RequestFate}

/-- A message type is among what was met. -/
def HoldsType (met : List (Except OptionFault Tlv)) : Prop :=
  ∃ option, .ok option ∈ met ∧ option.code = messageTypeCode

/-- What an item of the option walk decides about a request, if `met` came in front of it. -/
inductive Decides (policy : AgentPolicy) (met : List (Except OptionFault Tlv)) :
    Except OptionFault Tlv → Except MessageFault RequestFate → Prop where
  | truncated (offset : Nat) :
      Decides policy met (.error (.truncated offset))
        (.error (.truncatedOption (optionsStart + offset)))
  | malformed {option : Tlv} (maximum : option.code = maximumSizeCode)
      (size : option.value.length ≠ 2) :
      Decides policy met (.ok option) (.error (.malformedHeader .maximumMessageSize))
  | kept {option : Tlv} (agent : option.code = agentInfoCode) (typed : HoldsType met)
      (keep : policy = .keep) : Decides policy met (.ok option) (.ok .skip)
  | dropped {option : Tlv} (agent : option.code = agentInfoCode) (typed : HoldsType met)
      (drop : policy = .drop) : Decides policy met (.ok option) (.ok .drop)

/-- The first of some items that decides comes to `answer`, if `met` came in front of them. -/
def FirstDecides (policy : AgentPolicy) (met items : List (Except OptionFault Tlv))
    (answer : Except MessageFault RequestFate) : Prop :=
  ∃ index item, items[index]? = some item ∧ Decides policy (met ++ items.take index) item answer ∧
    ∀ earlier < index, ∀ found, items[earlier]? = some found →
      ∀ other, ¬ Decides policy (met ++ items.take earlier) found other

/-- No item decides. -/
def NoneDecides (policy : AgentPolicy) (items : List (Except OptionFault Tlv)) : Prop :=
  ∀ index item, items[index]? = some item → ∀ answer, ¬ Decides policy (items.take index) item answer

/-! ## Item by item -/

theorem holdsType_append_ok :
    HoldsType (met ++ [.ok option]) ↔ HoldsType met ∨ option.code = messageTypeCode := by
  constructor
  · intro holds
    rcases holds with ⟨found, member, type⟩
    rcases List.mem_append.1 member with before | here
    · exact .inl ⟨found, before, type⟩
    · cases List.mem_singleton.1 here
      exact .inr type
  · intro either
    rcases either with ⟨found, before, type⟩ | type
    · exact ⟨found, List.mem_append_left _ before, type⟩
    · exact ⟨option, List.mem_append_right _ (List.mem_singleton_self _), type⟩

theorem decides_truncated_iff {offset : Nat} :
    Decides policy met (.error (.truncated offset)) answer ↔
      answer = .error (.truncatedOption (optionsStart + offset)) := by
  constructor
  · intro decides
    cases decides
    rfl
  · intro same
    exact same ▸ .truncated offset

/-- What an option decides on its own, once it is known whether a message type came before. -/
theorem decisive_eq_some_iff {typed : Bool} (same : typed = true ↔ HoldsType met) :
    decisive policy typed option = some answer ↔ Decides policy met (.ok option) answer := by
  constructor
  · intro decided
    unfold decisive at decided
    split at decided
    · rename_i maximum
      split at decided
      · simp at decided
      · rename_i size
        cases decided
        exact .malformed maximum size
    · split at decided
      · rename_i both
        rcases Bool.and_eq_true_iff.1 both with ⟨typed, agent⟩
        have holds := same.1 typed
        have agent := beq_iff_eq.1 agent
        cases policy with
        | keep =>
            cases decided
            exact .kept agent holds rfl
        | drop =>
            cases decided
            exact .dropped agent holds rfl
        | replace => simp at decided
      · simp at decided
  · intro decides
    have differ : agentInfoCode ≠ maximumSizeCode := by decide
    cases decides with
    | malformed maximum size => simp [decisive, maximum, size]
    | kept agent typed keep => simp [decisive, agent, differ, same.2 typed, keep]
    | dropped agent typed drop => simp [decisive, agent, differ, same.2 typed, drop]

theorem not_firstDecides_nil : ¬ FirstDecides policy met [] answer := by
  intro first
  rcases first with ⟨index, item, found, _⟩
  simp at found

/-- The first item of a list decides, or leaves it to those behind. -/
theorem firstDecides_cons :
    FirstDecides policy met (item :: items) answer ↔
      Decides policy met item answer ∨
        (∀ other, ¬ Decides policy met item other) ∧
          FirstDecides policy (met ++ [item]) items answer := by
  have behind (index : Nat) : met ++ (item :: items).take (index + 1) =
      met ++ [item] ++ items.take index := by
    rw [List.take_succ_cons, List.append_assoc, List.singleton_append]
  constructor
  · intro first
    rcases first with ⟨_ | index, found, here, decides, earlier⟩
    · cases here
      rw [List.take_zero, List.append_nil] at decides
      exact .inl decides
    · refine .inr ⟨?_, index, found, here, behind index ▸ decides, ?_⟩
      · intro other
        have front := earlier 0 (Nat.succ_pos _) item rfl other
        rwa [List.take_zero, List.append_nil] at front
      · intro before less found among other
        rw [← behind]
        exact earlier (before + 1) (Nat.succ_lt_succ less) found among other
  · intro either
    rcases either with decides | ⟨silent, index, found, here, decides, earlier⟩
    · refine ⟨0, item, rfl, ?_, fun _ less => absurd less (Nat.not_lt_zero _)⟩
      rwa [List.take_zero, List.append_nil]
    · refine ⟨index + 1, found, here, behind index ▸ decides, ?_⟩
      intro before less found among other
      rcases before with _ | before
      · cases among
        rw [List.take_zero, List.append_nil]
        exact silent other
      · rw [behind]
        exact earlier before (Nat.lt_of_succ_lt_succ less) found among other

/-- If any item decides, then one is the first. -/
theorem noneDecides_iff :
    NoneDecides policy items ↔ ∀ answer, ¬ FirstDecides policy [] items answer := by
  constructor
  · intro none answer first
    rcases first with ⟨index, item, found, decides, _⟩
    exact none index item found answer decides
  · intro none index item found answer decides
    classical
    have some : ∃ index item answer, items[index]? = some item ∧
        Decides policy (items.take index) item answer := ⟨index, item, answer, found, decides⟩
    rcases Nat.find_spec some with ⟨first, chosen, here, decided⟩
    refine none chosen ⟨Nat.find some, first, here, decided, ?_⟩
    intro earlier less other among answer decides
    exact Nat.find_min some less ⟨other, answer, among, decides⟩

/-! ## The whole walk -/

/-- The decision of a walk is that of the first item a cursor yields that has one. -/
theorem decision_eq_some_iff {walk : Walk} :
    decision policy walk = some answer ↔ FirstDecides policy [] walk.items answer := by
  have holds : false = true ↔ HoldsType [] := by simp [HoldsType]
  rw [decision, Walk.items]
  generalize walk.options = options at *
  generalize walk.truncation? = truncation
  -- What was met so far only matters for whether it holds a message type.
  generalize false = typed, ([] : List (Except OptionFault Tlv)) = met at holds ⊢
  induction options generalizing typed met with
  | nil =>
      cases truncation with
      | none => simp [firstDecision, not_firstDecides_nil]
      | some offset =>
          have nothing := @not_firstDecides_nil policy (met ++ [.error (.truncated offset)]) answer
          simp [firstDecision, firstDecides_cons, decides_truncated_iff, nothing, eq_comm]
  | cons option rest ih =>
      rw [List.map_cons, List.cons_append, firstDecides_cons, firstDecision]
      cases decided : decisive policy typed option with
      | some found =>
          have decides := (decisive_eq_some_iff holds).1 decided
          have spoken : ¬ ∀ other, ¬ Decides policy met (.ok option) other :=
            fun silent => silent found decides
          rw [← decisive_eq_some_iff holds, decided]
          simp [spoken]
      | none =>
          have silent (other : Except MessageFault RequestFate) :
              ¬ Decides policy met (.ok option) other := by
            rw [← decisive_eq_some_iff holds, decided]
            simp
          have typed : (typed || option.code == messageTypeCode) = true ↔
              HoldsType (met ++ [.ok option]) := by
            rw [holdsType_append_ok, Bool.or_eq_true, holds, beq_iff_eq]
          simp only [silent, false_or, not_false_eq_true, implies_true, true_and]
          exact ih _ _ typed

theorem decision_eq_none_iff {walk : Walk} :
    decision policy walk = none ↔ NoneDecides policy walk.items := by
  rw [noneDecides_iff, Option.eq_none_iff_forall_ne_some]
  exact forall_congr' fun answer => not_congr decision_eq_some_iff

/-! ## The fate of a request -/

/-- A request that is not just forwarded was decided about, and stays as it is. -/
theorem exists_decision_of_not_forward {message : Bytes} {circuit : UInt32}
    {identity : Option Identity}
    (other : (markRequest message policy circuit identity).result ≠ .ok .forward) :
    ∃ answer, decision policy (optionWalk message) = some answer ∧
      markRequest message policy circuit identity = ⟨answer, message⟩ := by
  cases cookie : hasCookie message with
  | false => exact absurd (by rw [markRequest_of_plain cookie]) other
  | true =>
      cases decided : decision policy (optionWalk message) with
      | none => exact absurd (result_of_decision_eq_none cookie decided) other
      | some answer => exact ⟨answer, rfl, markRequest_of_decision cookie decided circuit identity⟩

/-- Nothing keeps a request from being forwarded if agent options are to be replaced. -/
theorem FirstDecides.exists_fault (first : FirstDecides .replace met items answer) :
    ∃ fault, answer = .error fault := by
  rcases first with ⟨index, item, found, decides, _⟩
  cases decides with
  | truncated offset => exact ⟨_, rfl⟩
  | malformed maximum size => exact ⟨_, rfl⟩
  | kept agent typed keep => cases keep
  | dropped agent typed drop => cases drop

/-- The first option that decides gives the answer, and a request that none decides about is
forwarded.  Marking changes no other request, and none without a cookie. -/
theorem fate_of_markRequest (message : Bytes) (policy : AgentPolicy) (circuit : UInt32)
    (identity : Option Identity) :
    let items := (Cursor.start .dhcp4 (message.drop optionsStart)).drain.1
    let edited := markRequest message policy circuit identity
    (message.length < optionsStart ∨ hasCookie message = false →
        edited = ⟨.ok .forward, message⟩) ∧
      (hasCookie message = true →
        (∀ answer, FirstDecides policy [] items answer → edited.result = answer) ∧
        (edited.result = .ok .forward ↔ NoneDecides policy items)) ∧
      (policy = .replace → edited.result ≠ .ok .skip ∧ edited.result ≠ .ok .drop) ∧
      (edited.result ≠ .ok .forward → edited.message = message) := by
  intro items edited
  have yielded : items = (optionWalk message).items := Cursor.drain_start .dhcp4 _
  rw [yielded]
  refine ⟨?_, ?_, ?_, ?_⟩
  · intro either
    refine markRequest_of_plain ?_ policy circuit identity
    rcases either with short | plain
    · by_contra cookie
      exact absurd (length_of_hasCookie (Bool.not_eq_false _ ▸ cookie)) (Nat.not_le.2 short)
    · exact plain
  · intro cookie
    refine ⟨?_, ?_, ?_⟩
    · intro answer first
      have decided := decision_eq_some_iff.2 first
      exact congrArg Edited.result (markRequest_of_decision cookie decided circuit identity)
    · intro forward
      exact decision_eq_none_iff.1 (decision_of_forward cookie forward)
    · intro none
      exact result_of_decision_eq_none cookie (decision_eq_none_iff.2 none)
  · intro replaces
    subst replaces
    have faulty : edited.result ≠ .ok .forward → ∃ fault, edited.result = .error fault := by
      intro other
      rcases exists_decision_of_not_forward other with ⟨answer, decided, equal⟩
      rcases (decision_eq_some_iff.1 decided).exists_fault with ⟨fault, rfl⟩
      exact ⟨fault, congrArg Edited.result equal⟩
    constructor
    · intro skip
      rcases faulty (by simp [skip]) with ⟨fault, failed⟩
      simp [skip] at failed
    · intro drop
      rcases faulty (by simp [drop]) with ⟨fault, failed⟩
      simp [drop] at failed
  · intro other
    rcases exists_decision_of_not_forward other with ⟨answer, _, equal⟩
    exact congrArg Edited.message equal

/-- A request with one agent option ahead of its message type and one behind it.  Further on
there is a maximum size of the wrong length, and the last option breaks off. -/
def brokenRequest : Bytes :=
  (compose ⟨requestOperation, 7, 0, .unspecified, .unspecified, .zero⟩ []).take optionsStart ++
    [82, 1, 9, 53, 1, 1, 57, 2, 2, 64, 82, 3, 1, 1, 9, 57, 1, 0, 12, 4, 65]

/-- The second agent option is the first that decides, unless agent options are replaced. -/
theorem fate_of_markRequest_brokenRequest :
    let items := (Cursor.start .dhcp4 (brokenRequest.drop optionsStart)).drain.1
    let kept := markRequest brokenRequest .keep 3 none
    let replaced := markRequest brokenRequest .replace 3 none
    hasCookie brokenRequest = true ∧
      FirstDecides .keep [] items (.ok .skip) ∧
      FirstDecides .replace [] items (.error (.malformedHeader .maximumMessageSize)) ∧
      kept.result = .ok .skip ∧ kept.message = brokenRequest ∧
      replaced.result = .error (.malformedHeader .maximumMessageSize) ∧
      replaced.message = brokenRequest := by
  intro items kept replaced
  have cookie : hasCookie brokenRequest = true := by decide +kernel
  have yielded : items = (optionWalk brokenRequest).items := Cursor.drain_start .dhcp4 _
  have keeps : FirstDecides .keep [] items (.ok .skip) := by
    rw [yielded, ← decision_eq_some_iff]
    decide +kernel
  have fails : FirstDecides .replace [] items
      (.error (.malformedHeader .maximumMessageSize)) := by
    rw [yielded, ← decision_eq_some_iff]
    decide +kernel
  rcases fate_of_markRequest brokenRequest .keep 3 none with ⟨_, answers, _, unchanged⟩
  have skipped : kept.result = .ok .skip := (answers cookie).1 _ keeps
  have sameKept : kept.message = brokenRequest := unchanged (by rw [skipped]; simp)
  rcases fate_of_markRequest brokenRequest .replace 3 none with ⟨_, answers, _, unchanged⟩
  have failed : replaced.result = .error (.malformedHeader .maximumMessageSize) :=
    (answers cookie).1 _ fails
  have sameReplaced : replaced.message = brokenRequest := unchanged (by rw [failed]; simp)
  exact ⟨cookie, keeps, fails, skipped, sameKept, failed, sameReplaced⟩

end DhcpRelay.Dhcp4
