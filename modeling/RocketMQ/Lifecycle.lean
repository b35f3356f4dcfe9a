import RocketMQ.Validation
import RocketMQ.AckOrigin
import RocketMQ.QueueIdText

namespace RocketMQ

/-!
# The handler's lifecycle, and the processor against it

The spec describes the handler as a state machine (§4.5): a received request is decoded and
validated, its extra info is decoded as a whole, the ordered branch is delegated, and the
normal branch appends a checkpoint and, on an acceptable status, runs the acknowledgment
pipeline (§4.4) and answers with the success header.  This module states that machine and the
pipeline on their own terms, from the spec's words and over the same collaborators, and proves
that `process_request_inner` refines them: every run of the processor has the side effects and
the answer that the spec gives to the state its request ends in.

The spec layer has its own vocabulary where the code has one too: the store's answer is read
through the spec's outcome classes (§3) and the appender's acceptable ones (§4.3), and a durable
ack is due when the delay it carries keeps it invisible until `pop_time + invisible_time`
(§4.4), whether the delay counts from the epoch or from the time the store takes the message.

The processor departs from the spec in four places shown elsewhere in this development, and the
refinement holds under one assumption for each: the checkpoint append is implemented, no topic
has `2 ^ 31` read queues or more, an extra info that splits decodes all its fields, and the due
time `pop_time + invisible_time` is not negative and, under overflow checks, fits in `i64`.
-/

/-- The extra info decoded as the spec's record (§3). -/
structure ExtraInfo where
  isOrder : Bool
  reviveQid : I32
  brokerName : String
  ckQueueOffset : I64
  popTime : I64
  invisibleTime : I64
  deriving DecidableEq

namespace ExtraInfo

/-- Modelled from the spec (§4.2): the extra info decodes as a whole or not at all. -/
def decode (util : ExtraInfoUtil) (text : String) : Except RocketmqError ExtraInfo := do
  let fields ← util.split text
  let reviveQid ← util.getReviveQid fields
  let brokerName ← util.getBrokerName fields
  let ckQueueOffset ← util.getCkQueueOffset fields
  let popTime ← util.getPopTime fields
  let invisibleTime ← util.getInvisibleTime fields
  pure ⟨util.isOrder fields, reviveQid, brokerName, ckQueueOffset, popTime, invisibleTime⟩

/-- Modelled from the spec (§3): the acknowledgment record of a request, pairing the request's
offset with the checkpoint's queue offset. -/
def ackRecord (extraInfo : ExtraInfo) (requestHeader : ChangeInvisibleTimeRequestHeader) :
    AckMsg :=
  ⟨requestHeader.offset, extraInfo.ckQueueOffset, requestHeader.consumerGroup, requestHeader.topic,
    requestHeader.queueId, extraInfo.popTime, extraInfo.brokerName⟩

/-- The time the spec's durable ack becomes visible: `pop_time + invisible_time`. -/
def dueTime (extraInfo : ExtraInfo) : Int :=
  extraInfo.popTime.val + extraInfo.invisibleTime.val

/-- A whole decode reads every field from the split tokens. -/
theorem decode_of_split {util : ExtraInfoUtil} {text : String} {fields : List String}
    {extraInfo : ExtraInfo} (splitted : util.split text = .ok fields)
    (decoded : decode util text = .ok extraInfo) :
    util.isOrder fields = extraInfo.isOrder ∧
      util.getReviveQid fields = .ok extraInfo.reviveQid ∧
      util.getBrokerName fields = .ok extraInfo.brokerName ∧
      util.getCkQueueOffset fields = .ok extraInfo.ckQueueOffset ∧
      util.getPopTime fields = .ok extraInfo.popTime ∧
      util.getInvisibleTime fields = .ok extraInfo.invisibleTime := by
  simp only [decode, except_bind_eq_ok, splitted, pure, Except.pure, Except.ok.injEq,
    exists_eq_left'] at decoded
  obtain ⟨reviveQid, reviveQidDecoded, brokerName, brokerNameDecoded, startOffset,
    startOffsetDecoded, popTime, popTimeDecoded, invisibleTime, invisibleTimeDecoded,
    rfl⟩ := decoded
  exact ⟨rfl, reviveQidDecoded, brokerNameDecoded, startOffsetDecoded, popTimeDecoded,
    invisibleTimeDecoded⟩

end ExtraInfo

/-- Modelled from the spec (§3): the classes of a store outcome. -/
inductive StoreOutcome where
  | success
  | degraded
  | serviceUnavailable
  | hardFailure
  deriving DecidableEq

/-- Modelled from the spec (§3): the class of a store status.  A flush or replication timeout
and an unavailable replica are degraded durability; an unavailable service is its own class; the
rest are hard failures. -/
def PutMessageStatus.storeOutcome : PutMessageStatus → StoreOutcome
  | .putOk => .success
  | .flushDiskTimeout | .flushSlaveTimeout | .slaveNotAvailable => .degraded
  | .serviceNotAvailable => .serviceUnavailable
  | .createMappedFileFailed | .messageIllegal | .propertiesSizeExceeded | .osPageCacheBusy
  | .unknownError => .hardFailure

/-- Modelled from the spec (§4.3): the outcomes the checkpoint appender accepts, success and
degraded durability.  §3 also calls an unavailable service acceptable for a checkpoint write; the
appender's own contract, which the handler's transition (§4.5) follows, lists only these two. -/
def StoreOutcome.acceptableForCheckPoint : StoreOutcome → Bool
  | .success | .degraded => true
  | .serviceUnavailable | .hardFailure => false

/-- The processor accepts a checkpoint exactly on the outcomes the spec's appender accepts. -/
theorem PutMessageStatus.isCheckPointAccepted_eq_acceptable (status : PutMessageStatus) :
    status.isCheckPointAccepted = status.storeOutcome.acceptableForCheckPoint := by
  cases status <;> rfl

/-- Why the spec's lifecycle rejected a request. -/
inductive Rejection where
  | protocolError
  | validation (code : ResponseCode)
  | checkPoint (requestHeader : ChangeInvisibleTimeRequestHeader) (extraInfo : ExtraInfo)
      (status : PutMessageStatus)

/-- The states of the spec's handler (§4.5). -/
inductive HandlerState where
  | received (request : HeaderMap)
  | validated (requestHeader : ChangeInvisibleTimeRequestHeader)
  | orderBranch (requestHeader : ChangeInvisibleTimeRequestHeader)
  | normalBranch (requestHeader : ChangeInvisibleTimeRequestHeader) (extraInfo : ExtraInfo)
  | responded (requestHeader : ChangeInvisibleTimeRequestHeader) (extraInfo : ExtraInfo)
      (status : PutMessageStatus)
  | rejected (reason : Rejection)

section Spec

variable (library : Library) (processor : ChangeInvisibleTimeProcessor) (now : U64)
  (appender : ChangeInvisibleTimeRequestHeader → I32 → U64 → String → PutMessageStatus)

/-- Modelled from the spec (§4.5): one transition of the handler, with `now` the time the
normal branch reads and `appender` the checkpoint appender's answer (§4.3).  The ordered
branch, `Responded` and `Rejected` have no transition of their own. -/
def HandlerState.step : HandlerState → HandlerState
  | .received request =>
      match library.decodeCommandCustomHeader request with
      | .error _ => .rejected .protocolError
      | .ok requestHeader =>
          match validationFailure (processor.topicConfigManager.selectTopicConfig requestHeader.topic)
              requestHeader.queueId requestHeader.offset
              (processor.messageStore.getMinOffsetInQueue requestHeader.topic requestHeader.queueId)
              (processor.messageStore.getMaxOffsetInQueue requestHeader.topic requestHeader.queueId) with
          | some code => .rejected (.validation code)
          | none => .validated requestHeader
  | .validated requestHeader =>
      match ExtraInfo.decode library.extraInfoUtil requestHeader.extraInfo with
      | .error _ => .rejected .protocolError
      | .ok extraInfo =>
          if extraInfo.isOrder then .orderBranch requestHeader
          else .normalBranch requestHeader extraInfo
  | .normalBranch requestHeader extraInfo =>
      let status := appender requestHeader extraInfo.reviveQid now extraInfo.brokerName
      if status.storeOutcome.acceptableForCheckPoint then .responded requestHeader extraInfo status
      else .rejected (.checkPoint requestHeader extraInfo status)
  | state => state

/-- The state a received request ends in: three transitions reach a terminal state. -/
def lifecycle (request : HeaderMap) : HandlerState :=
  let step := HandlerState.step library processor now appender
  step (step (step (.received request)))

/-- Modelled from the spec (§4.4): the time a message the store takes at `storedAt` becomes
visible, by the delivery delay it carries, a decimal number of milliseconds under the delay
property counted from `storedAt`; a delay counted from the epoch is the case `storedAt = 0`.
`none` when the message carries no readable delay. -/
def visibleFrom (library : Library) (storedAt : Nat) (inner : MessageExtBrokerInner) :
    Option Nat :=
  (inner.properties.get library.messageConst.propertyTimerDelayMs).bind fun text =>
    (decimalValue text.toList).map (storedAt + ·)

/-- Modelled from the spec (§4.4): the durable ack message of a record serialized to `body`. -/
structure DurableAck (ackMsg : AckMsg) (reviveQid : I32) (dueTime : Int) (body : List UInt8)
    (inner : MessageExtBrokerInner) : Prop where
  toReviveTopic : inner.topic = processor.reviveTopic
  onReviveQueue : inner.queueId = reviveQid
  carriesRecord : inner.body = body
  stampedWithHost : inner.bornHost = processor.storeHost ∧ inner.storeHost = processor.storeHost
  taggedAck : inner.properties.get library.messageConst.propertyTags = some library.ackTag
  notVisibleBeforeDue : ∀ storedAt, ∃ visible,
    visibleFrom library storedAt inner = some visible ∧ dueTime ≤ visible
  keyedByRecord : inner.properties.get library.messageConst.propertyUniqClientMessageIdKeyidx =
    some (library.genAckUniqueId ackMsg)

/-- Modelled from the spec (§4.4): what follows the offer.  An accepted record is left to the
buffer; a declined one is put once as a durable ack, or, when it does not serialize, the
failure is only logged. -/
def DurablePath (ackMsg : AckMsg) (reviveQid : I32) (dueTime : Int) :
    Bool → List Effect → Prop
  | true, durable => durable = []
  | false, durable =>
      match library.encodeAckMsg ackMsg with
      | .error _ => durable = []
      | .ok body => ∃ inner,
          durable = [.putMessageToSpecificQueue inner (processor.escapeBridge.putMessageToSpecificQueue inner)] ∧
          DurableAck library processor ackMsg reviveQid dueTime body inner

/-- Modelled from the spec (§4.4): the acknowledgment pipeline's side effects, both counters
once, then the offer keyed by the revive queue, then the durable path. -/
def AckPipeline (requestHeader : ChangeInvisibleTimeRequestHeader) (extraInfo : ExtraInfo)
    (effects : List Effect) : Prop :=
  let ackMsg := extraInfo.ackRecord requestHeader
  let accepted := processor.popBufferMergeService.addAck extraInfo.reviveQid ackMsg
  ∃ durable,
    effects = .incBrokerAckNums 1 :: .incGroupAckNums requestHeader.consumerGroup requestHeader.topic 1 ::
      .addAck extraInfo.reviveQid ackMsg accepted :: durable ∧
    DurablePath library processor ackMsg extraInfo.reviveQid extraInfo.dueTime accepted durable

/-- Modelled from the spec (§4.5, §7): the runs a terminal state allows.  Protocol errors and
validation rejections have no side effect; a refused checkpoint is the only side effect of a
`SystemError` that echoes the store's status; the ordered branch's result is returned as it is;
a response follows the checkpoint and the acknowledgment pipeline.  A state that is not
terminal allows no run. -/
def LifecycleRun (pending : PendingMethods) : HandlerState → Run (Option RemotingCommand) → Prop
  | .rejected .protocolError, run => run.effects = [] ∧ ∃ error, run.outcome = .err error
  | .rejected (.validation code), run =>
      run.effects = [] ∧ ∃ response, run.outcome = .ok (some response) ∧ response.code = code
  | .rejected (.checkPoint requestHeader extraInfo status), run =>
      run.effects = [.appendCheckPoint requestHeader extraInfo.reviveQid now extraInfo.brokerName
        status] ∧
      ∃ response, run.outcome = .ok (some response) ∧ response.code = .systemError ∧
        ∃ text, response.remark = some (text ++ status.debugText)
  | .orderBranch requestHeader, run =>
      ∃ fields, library.extraInfoUtil.split requestHeader.extraInfo = .ok fields ∧
        run = Run.lift (pending.processChangeInvisibleTimeForOrder requestHeader fields)
  | .responded requestHeader extraInfo status, run =>
      (∃ pipeline, run.effects =
          .appendCheckPoint requestHeader extraInfo.reviveQid now extraInfo.brokerName status ::
            pipeline ∧
        AckPipeline library processor requestHeader extraInfo pipeline) ∧
      ∃ response, run.outcome = .ok (some response) ∧ response.code = .success ∧
        response.customHeader = some ⟨now, extraInfo.reviveQid, requestHeader.invisibleTime⟩
  | _, _ => False

end Spec

/-- The assumptions under which the spec's lifecycle describes the processor's collaborators:
the checkpoint append is implemented and answers as `appender`, and no topic has `2 ^ 31` read
queues or more. -/
structure SpecAssumptions (pending : PendingMethods) (processor : ChangeInvisibleTimeProcessor)
    (appender : ChangeInvisibleTimeRequestHeader → I32 → U64 → String → PutMessageStatus) :
    Prop where
  appends : ∀ requestHeader reviveQid now brokerName,
    pending.appendCheckPoint requestHeader reviveQid now brokerName =
      some (appender requestHeader reviveQid now brokerName)
  fewQueues : ∀ topic config, processor.topicConfigManager.selectTopicConfig topic = some config →
    config.readQueueNums.val < 2 ^ 31

/-- A request whose extra info, once it splits, decodes as a whole, with a due time that is not
negative and, under overflow checks, fits in `i64`. -/
def RequestWellFormed (library : Library) (overflowChecks : Bool) (request : HeaderMap) : Prop :=
  ∀ requestHeader fields, library.decodeCommandCustomHeader request = .ok requestHeader →
    library.extraInfoUtil.split requestHeader.extraInfo = .ok fields →
    ∃ extraInfo, ExtraInfo.decode library.extraInfoUtil requestHeader.extraInfo = .ok extraInfo ∧
      0 ≤ extraInfo.dueTime ∧ (overflowChecks = false ∨ InSignedRange 64 extraInfo.dueTime)

section Refinement

variable (library : Library) (overflowChecks : Bool) (pending : PendingMethods)
  (processor : ChangeInvisibleTimeProcessor) (clock : Nat → U64) (remoteAddress : String)

/-- The durable ack message the processor builds satisfies the spec's description of it. -/
theorem ackMessage_durableAck (ackMsg : AckMsg) (body : List UInt8) (rqId : I32)
    (bornTimestamp : I64) {dueTime : Int} (notNegative : 0 ≤ dueTime)
    (small : dueTime < 2 ^ 64) :
    DurableAck library processor ackMsg rqId dueTime body
      (ackMessage library processor ackMsg body rqId bornTimestamp (Signed.wrap dueTime)) where
  toReviveTopic := rfl
  onReviveQueue := rfl
  carriesRecord := rfl
  stampedWithHost := ⟨rfl, rfl⟩
  taggedAck := by
    simp [ackMessage, ackProperties, library.messageConst.tagsNeDelay.symm,
      library.messageConst.tagsNeUniq.symm]
  notVisibleBeforeDue storedAt := by
    have kept : ((Unsigned.wrap dueTime : U64).val : Int) = dueTime :=
      (Unsigned.wrap_val_eq_iff small).mpr notNegative
    refine ⟨storedAt + (Unsigned.wrap dueTime : U64).val, ?_, by omega⟩
    rw [visibleFrom, ackMessage_timerDelay, Signed.wrap_asUnsigned, Option.some_bind]
    exact congrArg (Option.map _) (decimalValue_decimalDigits _)
  keyedByRecord := by simp [ackMessage, ackProperties]

/-- `ack_origin` on an extra info that decodes as a whole, with a due time the sum can reach,
runs the spec's acknowledgment pipeline and does not panic. -/
theorem ackOrigin_followsPipeline {requestHeader : ChangeInvisibleTimeRequestHeader}
    {fields : List String} {extraInfo : ExtraInfo}
    (splitted : library.extraInfoUtil.split requestHeader.extraInfo = .ok fields)
    (decoded : ExtraInfo.decode library.extraInfoUtil requestHeader.extraInfo = .ok extraInfo)
    (notNegative : 0 ≤ extraInfo.dueTime)
    (returns : overflowChecks = false ∨ InSignedRange 64 extraInfo.dueTime) :
    AckPipeline library processor requestHeader extraInfo
        (ackOrigin library overflowChecks processor clock requestHeader fields).effects ∧
      (ackOrigin library overflowChecks processor clock requestHeader fields).outcome ≠ .panic := by
  obtain ⟨-, reviveQidDecoded, brokerNameDecoded, startOffsetDecoded, popTimeDecoded,
    invisibleTimeDecoded⟩ := ExtraInfo.decode_of_split splitted decoded
  have ackDecoded : decodeAckMsg library requestHeader fields =
      .ok (extraInfo.ackRecord requestHeader, extraInfo.reviveQid) :=
    decodeAckMsg_of_decoded library startOffsetDecoded popTimeDecoded brokerNameDecoded
      reviveQidDecoded
  simp only [ackOrigin_eq, ackDecoded, countAndOffer_eq]
  cases accepted : processor.popBufferMergeService.addAck extraInfo.reviveQid
    (extraInfo.ackRecord requestHeader)
  case true =>
    exact ⟨⟨[], by simp [accepted], by simp [DurablePath, accepted]⟩, by simp [accepted]⟩
  case false =>
    cases encoded : library.encodeAckMsg (extraInfo.ackRecord requestHeader) with
    | error error =>
        obtain ⟨noPut, failure, failed⟩ := putAckMessage_of_failed library overflowChecks processor
          clock fields (extraInfo.ackRecord requestHeader) extraInfo.reviveQid (.inl ⟨error, encoded⟩)
        exact ⟨⟨[], by simp [accepted, noPut], by simp [DurablePath, accepted, encoded]⟩,
          by simp [accepted, failed]⟩
    | ok body =>
        rw [putAckMessage_of_returns library overflowChecks processor clock extraInfo.reviveQid
          encoded popTimeDecoded invisibleTimeDecoded returns]
        simp only [AckPipeline, DurablePath, accepted, encoded, Bool.false_eq_true, if_false,
          List.cons.injEq, true_and, exists_eq_left']
        exact ⟨⟨_, ⟨rfl, trivial⟩, ackMessage_durableAck library processor _ body _ _ notNegative
          (Signed.val_add_lt (by norm_num) _ _)⟩, nofun⟩

/-- From the `NormalBranch` state of a request whose extra info decodes as a whole, the
processor's normal branch runs as the spec's last transition allows. -/
theorem appendAndAck_refines_normalBranch
    {appender : ChangeInvisibleTimeRequestHeader → I32 → U64 → String → PutMessageStatus}
    (assumptions : SpecAssumptions pending processor appender)
    {requestHeader : ChangeInvisibleTimeRequestHeader} {fields : List String}
    {extraInfo : ExtraInfo}
    (splitted : library.extraInfoUtil.split requestHeader.extraInfo = .ok fields)
    (decoded : ExtraInfo.decode library.extraInfoUtil requestHeader.extraInfo = .ok extraInfo)
    (notNegative : 0 ≤ extraInfo.dueTime)
    (returns : overflowChecks = false ∨ InSignedRange 64 extraInfo.dueTime) :
    LifecycleRun library processor (clock 0) pending
      (HandlerState.step library processor (clock 0) appender (.normalBranch requestHeader extraInfo))
      (appendAndAck library overflowChecks pending processor clock requestHeader fields) := by
  obtain ⟨-, reviveQidDecoded, brokerNameDecoded, -⟩ := ExtraInfo.decode_of_split splitted decoded
  rw [appendAndAck_of_appended library overflowChecks pending processor clock reviveQidDecoded
    brokerNameDecoded (assumptions.appends _ _ _ _)]
  obtain ⟨pipeline, noPanic⟩ := ackOrigin_followsPipeline library overflowChecks processor clock
    splitted decoded notNegative returns
  simp only [HandlerState.step, PutMessageStatus.isCheckPointAccepted_eq_acceptable]
  cases (appender requestHeader extraInfo.reviveQid (clock 0)
    extraInfo.brokerName).storeOutcome.acceptableForCheckPoint
  case false =>
    exact ⟨rfl, _, rfl, rfl, _, rfl⟩
  case true =>
    simp only [if_true, noPanic]
    exact ⟨⟨_, rfl, pipeline⟩, _, rfl, rfl, rfl⟩

/-- `process_request_inner` refines the spec's lifecycle: under the assumptions on its
collaborators, every well-formed request is run with exactly the side effects and the answer
the spec allows in the terminal state the request reaches, with `now` the clock's first
reading. -/
theorem processRequestInner_refines_lifecycle
    {appender : ChangeInvisibleTimeRequestHeader → I32 → U64 → String → PutMessageStatus}
    (assumptions : SpecAssumptions pending processor appender) (request : HeaderMap)
    (wellFormed : RequestWellFormed library overflowChecks request) :
    LifecycleRun library processor (clock 0) pending
      (lifecycle library processor (clock 0) appender request)
      (processRequestInner library overflowChecks pending processor clock remoteAddress request) := by
  cases decoded : library.decodeCommandCustomHeader request with
  | error message =>
      simp [lifecycle, HandlerState.step, decoded, LifecycleRun, processRequestInner]
  | ok requestHeader =>
      have codes := rejection_code_eq_validationFailure library processor remoteAddress
        requestHeader (assumptions.fewQueues requestHeader.topic)
      cases rejected : rejection library processor remoteAddress requestHeader with
      | some response =>
          rw [rejected] at codes
          rw [processRequestInner_of_rejected library overflowChecks pending processor clock
            remoteAddress decoded rejected]
          simp only [lifecycle, HandlerState.step, decoded, ← codes]
          exact ⟨rfl, response, rfl, rfl⟩
      | none =>
          rw [rejected] at codes
          cases splitted : library.extraInfoUtil.split requestHeader.extraInfo with
          | error error =>
              simp [lifecycle, HandlerState.step, decoded, ← codes, ExtraInfo.decode, splitted,
                LifecycleRun, processRequestInner, rejected]
          | ok fields =>
              obtain ⟨extraInfo, wholeDecoded, notNegative, returns⟩ :=
                wellFormed requestHeader fields decoded splitted
              have sameOrder := (ExtraInfo.decode_of_split splitted wholeDecoded).1
              simp only [lifecycle, HandlerState.step, decoded, ← codes, Option.map_none',
                wholeDecoded]
              cases ordered : extraInfo.isOrder
              case true =>
                exact ⟨fields, splitted, by
                  simp [processRequestInner, decoded, rejected, splitted, sameOrder, ordered]⟩
              case false =>
                rw [processRequestInner_of_normal library overflowChecks pending processor clock
                  remoteAddress decoded rejected splitted (sameOrder.trans ordered)]
                exact appendAndAck_refines_normalBranch library overflowChecks pending processor
                  clock assumptions splitted wholeDecoded notNegative returns

end Refinement

/-- The worked example's request, in a build without overflow checks and with a store that
accepts every checkpoint, meets the assumptions and runs as the spec's lifecycle says. -/
theorem processRequestInner_refines_lifecycle_sample :
    SpecAssumptions (samplePending .putOk) (sampleProcessor false) (fun _ _ _ _ => .putOk) ∧
      RequestWellFormed sampleLibrary false (sampleRequest "150" "false 3 b1 150 1000 30000") ∧
      LifecycleRun sampleLibrary (sampleProcessor false) (sampleClock 0) (samplePending .putOk)
        (lifecycle sampleLibrary (sampleProcessor false) (sampleClock 0) (fun _ _ _ _ => .putOk)
          (sampleRequest "150" "false 3 b1 150 1000 30000"))
        (processRequestInner sampleLibrary false (samplePending .putOk) (sampleProcessor false)
          sampleClock "10.0.0.1:5000" (sampleRequest "150" "false 3 b1 150 1000 30000")) := by
  have assumptions : SpecAssumptions (samplePending .putOk) (sampleProcessor false)
      (fun _ _ _ _ => .putOk) := by
    refine ⟨fun _ _ _ _ => rfl, fun topic config found => ?_⟩
    simp only [sampleProcessor] at found
    split at found
    · cases found
      decide
    · cases found
  have wellFormed : RequestWellFormed sampleLibrary false
      (sampleRequest "150" "false 3 b1 150 1000 30000") := by
    intro requestHeader fields decoded _
    cases decoded.symm.trans rfl
    exact ⟨_, rfl, by decide, .inl rfl⟩
  exact ⟨assumptions, wellFormed, processRequestInner_refines_lifecycle sampleLibrary false
    (samplePending .putOk) (sampleProcessor false) sampleClock "10.0.0.1:5000" assumptions _
    wellFormed⟩

end RocketMQ
