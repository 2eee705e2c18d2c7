import DhcpRelay.Dhcp4.AgentInfo

/-!
# The agent information of relayed messages

On the way to a server the relay handles the option of an earlier relay by its
policy and adds its own.  On the way back it takes the option out again.  Both
leave every other option where it is.

Only agent options behind the message type count: what stands before it belongs
to the client.
-/

namespace DhcpRelay.Dhcp4

/-- What to do with a request that already carries agent information. -/
inductive AgentPolicy where
  | keep
  | drop
  | replace
  deriving DecidableEq, Repr

namespace AgentPolicy

def text : AgentPolicy → String
  | keep => "keep"
  | drop => "drop"
  | replace => "replace"

def read : String → Option AgentPolicy
  | "keep" => some .keep
  | "drop" => some .drop
  | "replace" => some .replace
  | _ => none

end AgentPolicy

/-- Relayed requests stay shorter than this. -/
def sizeLimit : Nat := 1500

/-- A smaller maximum message size is not taken seriously. -/
def smallestMaximum : Nat := 576

end DhcpRelay.Dhcp4

/-! ## The options of a message -/

namespace DhcpRelay.Walk

open Dhcp4

/-- The walk met a message type option. -/
def isDhcp (walk : Walk) : Bool :=
  walk.options.any (·.code == messageTypeCode)

/-- The agent options that stand behind the first message type option. -/
def agentOptions (walk : Walk) : List Tlv :=
  (walk.options.dropWhile (·.code != messageTypeCode)).filter (·.code == agentInfoCode)

/-- The largest message the client takes, as its last word on it says. -/
def maximumSize (walk : Walk) : Option Nat :=
  match (walk.options.filter (·.code == maximumSizeCode)).getLast? with
  | none => none
  | some option =>
      let size := Bytes.number option.value
      if size < smallestMaximum then none else some size

end DhcpRelay.Walk

namespace DhcpRelay.Dhcp4

/-- The bytes of the options without the agent options behind a message type;
padding stays where it is.  `typed` tells that a message type came before. -/
def stripped (typed : Bool) : List Tlv → Bytes
  | [] => []
  | option :: rest =>
      List.replicate option.padding padCode ++
        (if typed && option.code == agentInfoCode then []
          else Tlv.encode4 option.code.toUInt8 option.value) ++
        stripped (typed || option.code == messageTypeCode) rest

/-- The header and the options of a message, without its agent information and
without end marker. -/
def withoutAgentInfo (message : Bytes) (walk : Walk) : Bytes :=
  message.take optionsStart ++ stripped false walk.options ++
    List.replicate (walk.ending.padding) padCode

/-- The message with zero bytes at the end of its options cut off. -/
def trimOptions (message : Bytes) : Bytes :=
  message.take optionsStart ++ Bytes.trimZeros (message.drop optionsStart)

/-! ## Requests -/

/-- What becomes of a request. -/
inductive RequestFate where
  | forward
  /-- Forwarded as it is, because an earlier relay's option is kept. -/
  | skip
  | drop
  deriving DecidableEq, Repr

/-- The result of an edit, and the message afterwards. -/
structure Edited (Result : Type) where
  result : Result
  message : Bytes
  deriving DecidableEq, Repr

/-- What an option decides about a request on its own, if anything.  `typed`
tells that a message type came before. -/
def decisive (policy : AgentPolicy) (typed : Bool) (option : Tlv) :
    Option (Except MessageFault RequestFate) :=
  if option.code = maximumSizeCode then
    if option.value.length = 2 then none else some (.error (.malformedHeader .maximumMessageSize))
  else if typed && option.code == agentInfoCode then
    match policy with
    | .keep => some (.ok .skip)
    | .drop => some (.ok .drop)
    | .replace => none
  else
    none

/-- The first decision among the options. -/
def firstDecision (policy : AgentPolicy) (typed : Bool) :
    List Tlv → Option (Except MessageFault RequestFate)
  | [] => none
  | option :: rest =>
      match decisive policy typed option with
      | some decision => some decision
      | none => firstDecision policy (typed || option.code == messageTypeCode) rest

/-- The first decision of a walk; a truncated area is the last one it can hold. -/
def decision (policy : AgentPolicy) (walk : Walk) :
    Option (Except MessageFault RequestFate) :=
  match firstDecision policy false walk.options with
  | some decision => some decision
  | none => walk.truncation?.map fun offset => .error (.truncatedOption (optionsStart + offset))

/-- A message of this size may be sent to a client with this maximum. -/
def fits (maximum : Option Nat) (size : Nat) : Bool :=
  size < sizeLimit && (maximum.all (size ≤ ·))

/-- Put agent information into a request that is DHCP and that no option decided
about.  Where it does not fit, the request only loses what it had. -/
def replaceAgentInfo (message : Bytes) (walk : Walk) (circuit : UInt32)
    (identity : Option Identity) : Bytes :=
  let base := trimOptions (withoutAgentInfo message walk)
  let unmarked :=
    if walk.agentOptions.isEmpty then message
    else (base ++ [endCode]).padTo minimumSize
  match identity with
  | none => unmarked
  | some identity =>
      if fits walk.maximumSize (base.length + AgentInfo.optionSize identity.kind + 1) then
        (base ++ AgentInfo.insertion circuit identity).padTo minimumSize
      else
        unmarked

/-- Handle the agent information of a request and add this relay's own.  Without
an identity nothing is added; BOOTP and messages without a message type stay as
they are. -/
def markRequest (message : Bytes) (policy : AgentPolicy) (circuit : UInt32)
    (identity : Option Identity) : Edited (Except MessageFault RequestFate) :=
  if !hasCookie message then
    ⟨.ok .forward, message⟩
  else
    let walk := optionWalk message
    match decision policy walk with
    | some decision => ⟨decision, message⟩
    | none =>
        if walk.isDhcp then
          ⟨.ok .forward, replaceAgentInfo message walk circuit identity⟩
        else
          ⟨.ok .forward, message⟩

/-! ## Replies -/

/-- What becomes of a reply. -/
inductive ReplyFate where
  | forward
  /-- The options are truncated, or an agent option is malformed. -/
  | dropInvalid
  /-- No agent option of ours was found and one is asked for. -/
  | dropUnvalidated
  deriving DecidableEq, Repr

/-- Take the agent information out of a reply and check it.  BOOTP and messages
without a message type stay as they are. -/
def unmarkReply (message : Bytes) (validation : Bool) (kind : IdentityKind)
    (links : Topology) : Edited ReplyFate :=
  if !hasCookie message then
    ⟨.forward, message⟩
  else
    let walk := optionWalk message
    let verdicts := walk.agentOptions.map (AgentInfo.judge ·.value kind links)
    if walk.truncation?.isSome || verdicts.any (· == .invalid) then
      ⟨.dropInvalid, message⟩
    else if !walk.isDhcp then
      ⟨.forward, message⟩
    else if validation && verdicts.all (· == .mismatch) then
      ⟨.dropUnvalidated, message⟩
    else if verdicts.isEmpty then
      ⟨.forward, message⟩
    else
      ⟨.forward, (withoutAgentInfo message walk ++ [endCode]).padTo minimumSize⟩

end DhcpRelay.Dhcp4
