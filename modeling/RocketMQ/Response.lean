import RocketMQ.Validation

namespace RocketMQ

/-!
# How a request ends

With the source's bodies, the checkpoint append and the ordered branch are `unimplemented!`,
so every request that reaches either one panics.  Every other request ends without a side
effect: with an `Err` when the header, the extra info's split, the revive queue id or the
broker name does not decode, and otherwise with exactly one validation response.
-/

section Processor

variable (library : Library) (overflowChecks : Bool) (pending : PendingMethods)
  (processor : ChangeInvisibleTimeProcessor) (clock : Nat → U64) (remoteAddress : String)

/-- A request reaches one of the two unimplemented methods: it decodes, passes validation,
its extra info splits, and it is in order mode, or it is not and its revive queue id and broker
name decode. -/
def ReachesPendingMethod (request : HeaderMap) : Prop :=
  ∃ requestHeader extraInfo,
    library.decodeCommandCustomHeader request = .ok requestHeader ∧
    rejection library processor remoteAddress requestHeader = none ∧
    library.extraInfoUtil.split requestHeader.extraInfo = .ok extraInfo ∧
    (library.extraInfoUtil.isOrder extraInfo = true ∨
      ∃ reviveQid brokerName,
        library.extraInfoUtil.getReviveQid extraInfo = .ok reviveQid ∧
        library.extraInfoUtil.getBrokerName extraInfo = .ok brokerName)

/-- A request fails to decode before any side effect: its header, or after validation its
extra info's split, or on the normal branch its revive queue id or broker name. -/
def FailsToDecode (request : HeaderMap) : Prop :=
  (∃ message, library.decodeCommandCustomHeader request = .error message) ∨
  ∃ requestHeader,
    library.decodeCommandCustomHeader request = .ok requestHeader ∧
    rejection library processor remoteAddress requestHeader = none ∧
    ((∃ error, library.extraInfoUtil.split requestHeader.extraInfo = .error error) ∨
      ∃ extraInfo,
        library.extraInfoUtil.split requestHeader.extraInfo = .ok extraInfo ∧
        library.extraInfoUtil.isOrder extraInfo = false ∧
        ((∃ error, library.extraInfoUtil.getReviveQid extraInfo = .error error) ∨
          ∃ reviveQid error, library.extraInfoUtil.getReviveQid extraInfo = .ok reviveQid ∧
            library.extraInfoUtil.getBrokerName extraInfo = .error error))

/-- Every rejection carries one of the three validation codes. -/
theorem rejection_code {requestHeader : ChangeInvisibleTimeRequestHeader}
    {response : RemotingCommand}
    (rejected : rejection library processor remoteAddress requestHeader = some response) :
    response.code = .topicNotExist ∨ response.code = .messageIllegal ∨
      response.code = .noMessage := by
  unfold rejection at rejected
  split at rejected
  · cases rejected
    exact .inl rfl
  split at rejected
  · cases rejected
    exact .inr (.inl rfl)
  dsimp only at rejected
  split at rejected
  · cases rejected
    exact .inr (.inr rfl)
  · cases rejected

/-- The normal branch with the source's unimplemented checkpoint append: an `Err` when the
revive queue id or the broker name does not decode, a panic otherwise. -/
theorem appendAndAck_unimplemented (requestHeader : ChangeInvisibleTimeRequestHeader)
    (extraInfo : List String) :
    appendAndAck library overflowChecks .unimplemented processor clock requestHeader extraInfo =
      match library.extraInfoUtil.getReviveQid extraInfo,
          library.extraInfoUtil.getBrokerName extraInfo with
      | .ok _, .ok _ => Run.lift .panic
      | .error error, _ => Run.lift (.err error)
      | .ok _, .error error => Run.lift (.err error) := by
  unfold appendAndAck
  cases library.extraInfoUtil.getReviveQid extraInfo <;>
    cases library.extraInfoUtil.getBrokerName extraInfo <;> rfl

/-- How a request ends with the source's unimplemented methods: never with a side effect; with
a panic exactly when it reaches one of them; with an `Err` exactly when it fails to decode; and
otherwise with one response carrying a validation code. -/
theorem processRequestInner_unimplemented (request : HeaderMap) :
    let run := processRequestInner library overflowChecks .unimplemented processor clock
      remoteAddress request
    run.effects = [] ∧
      (run.outcome = .panic ↔ ReachesPendingMethod library processor remoteAddress request) ∧
      ((∃ error, run.outcome = .err error) ↔ FailsToDecode library processor remoteAddress request) ∧
      ∀ value, run.outcome = .ok value → ∃ response, value = some response ∧
        (response.code = .topicNotExist ∨ response.code = .messageIllegal ∨
          response.code = .noMessage) := by
  unfold processRequestInner
  split
  · rename_i message decodeFailed
    simp [ReachesPendingMethod, FailsToDecode, decodeFailed]
  rename_i requestHeader decoded
  split
  · rename_i response rejected
    simp [ReachesPendingMethod, FailsToDecode, decoded, rejected,
      rejection_code library processor remoteAddress rejected]
  rename_i validated
  split
  · rename_i error splitFailed
    simp [ReachesPendingMethod, FailsToDecode, decoded, validated, splitFailed]
  rename_i extraInfo splitted
  split
  · rename_i ordered
    simp [ReachesPendingMethod, FailsToDecode, decoded, validated, splitted, ordered,
      PendingMethods.unimplemented]
  rename_i unordered
  rw [appendAndAck_unimplemented]
  cases reviveQidDecoded : library.extraInfoUtil.getReviveQid extraInfo <;>
    cases brokerNameDecoded : library.extraInfoUtil.getBrokerName extraInfo <;>
    simp [ReachesPendingMethod, FailsToDecode, decoded, validated, splitted, unordered,
      reviveQidDecoded, brokerNameDecoded]

end Processor

/-- The worked example's request reaches the unimplemented checkpoint append and panics. -/
theorem processRequestInner_unimplemented_panics :
    (processRequestInner sampleLibrary false .unimplemented (sampleProcessor false) sampleClock
      "10.0.0.1:5000" (sampleRequest "150" "false 3 b1 150 1000 30000")).outcome = .panic := by
  decide

end RocketMQ
