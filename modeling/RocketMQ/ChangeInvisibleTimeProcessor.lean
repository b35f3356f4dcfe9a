import RocketMQ.Broker

namespace RocketMQ

/-!
# `ChangeInvisibleTimeProcessor::process_request_inner` and `ack_origin`

The handler decodes the request header, validates the topic, the queue id and the offset,
splits the extra info and branches on ordering.  On the normal branch it appends a new
checkpoint first, and only when the store accepts it acknowledges the original delivery
through `ack_origin`, whose `Err` is logged and dropped.  `ack_origin` counts the ack, offers
it to the ack buffer, and when the buffer declines puts a durable ack message to the revive
topic, delivered at the extra info's pop time plus its invisible time.

The handler is cut into the pieces its source is laid out in: `rejection` (validation, lines
126-192), `appendAndAck` (the normal branch, lines 199-247) and `putAckMessage` (the durable
path of `ack_origin`, lines 275-311).
-/

instance : ToString (Signed bits) :=
  ⟨fun value => String.mk value.toText⟩

instance : ToString (Unsigned bits) :=
  ⟨fun value => String.mk value.toText⟩

section Processor

variable (library : Library) (overflowChecks : Bool) (pending : PendingMethods)
  (processor : ChangeInvisibleTimeProcessor) (clock : Nat → U64) (remoteAddress : String)

/-- The remark of a `TopicNotExist` response. -/
def topicNotExistRemark (topic : String) : String :=
  "topic[" ++ topic ++ "] not exist, apply first please! " ++ library.applyTopicHint

/-- The remark of a `MessageIllegal` response. -/
def queueIdIllegalRemark (requestHeader : ChangeInvisibleTimeRequestHeader)
    (topicConfig : TopicConfig) : String :=
  "queueId[" ++ toString requestHeader.queueId ++ "] is illegal, topic:[" ++ requestHeader.topic ++
    "] topicConfig.readQueueNums:[" ++ toString topicConfig.readQueueNums ++ "] consumer:[" ++
    remoteAddress ++ "]"

/-- The remark of a `NoMessage` response. -/
def offsetRangeRemark (requestHeader : ChangeInvisibleTimeRequestHeader)
    (mixOffset maxOffset : I64) : String :=
  "request offset[" ++ toString requestHeader.offset ++ "] not in queue offset range[" ++
    toString mixOffset ++ "-" ++ toString maxOffset ++ "], topic:[" ++ requestHeader.topic ++
    "] consumer:[" ++ remoteAddress ++ "]"

/-- Lines 126-192: the response rejecting a request that fails validation, if it does.  The
queue id is compared with `read_queue_nums as i32`. -/
def rejection (requestHeader : ChangeInvisibleTimeRequestHeader) : Option RemotingCommand :=
  match processor.topicConfigManager.selectTopicConfig requestHeader.topic with
  | none =>
      some (.createResponseCommandWithCodeRemark .topicNotExist
        (topicNotExistRemark library requestHeader.topic))
  | some topicConfig =>
      if requestHeader.queueId.val ≥ topicConfig.readQueueNums.asSigned.val ∨
          requestHeader.queueId.val < 0 then
        some (.createResponseCommandWithCodeRemark .messageIllegal
          (queueIdIllegalRemark remoteAddress requestHeader topicConfig))
      else
        let mixOffset :=
          processor.messageStore.getMinOffsetInQueue requestHeader.topic requestHeader.queueId
        let maxOffset :=
          processor.messageStore.getMaxOffsetInQueue requestHeader.topic requestHeader.queueId
        if requestHeader.offset.val < mixOffset.val ∨ requestHeader.offset.val > maxOffset.val then
          some (.createResponseCommandWithCodeRemark .noMessage
            (offsetRangeRemark remoteAddress requestHeader mixOffset maxOffset))
        else
          none

/-- The message properties of a durable ack: the tags, then the timer delay, then the unique
id (`set_tags`, `set_delay_time_ms`, `put_property`). -/
def ackProperties (ackMsg : AckMsg) (deliverTimeMs : I64) : HeaderMap :=
  ((HeaderMap.empty.insert library.messageConst.propertyTags library.ackTag).insert
      library.messageConst.propertyTimerDelayMs (toString deliverTimeMs.asUnsigned)).insert
    library.messageConst.propertyUniqClientMessageIdKeyidx (library.genAckUniqueId ackMsg)

/-- Lines 275-291: the durable ack message, addressed to the revive topic on queue `rqId`. -/
def ackMessage (ackMsg : AckMsg) (body : List UInt8) (rqId : I32) (bornTimestamp : I64)
    (deliverTimeMs : I64) : MessageExtBrokerInner where
  topic := processor.reviveTopic
  body := body
  queueId := rqId
  properties := ackProperties library ackMsg deliverTimeMs
  bornTimestamp := bornTimestamp
  bornHost := processor.storeHost
  storeHost := processor.storeHost
  propertiesString := library.messagePropertiesToString (ackProperties library ackMsg deliverTimeMs)

/-- Lines 275-311, the durable path of `ack_origin`: encode the ack, read the clock for the
born timestamp, decode the pop time and the invisible time again, add them with `+` on `i64`,
and put the message; the put's status is only logged. -/
def putAckMessage (extraInfo : List String) (ackMsg : AckMsg) (rqId : I32) : Run Unit := do
  let body ← Run.ofExcept (library.encodeAckMsg ackMsg)
  let bornTimestamp := (clock 1).asSigned
  let popTime ← Run.ofExcept (library.extraInfoUtil.getPopTime extraInfo)
  let invisibleTime ← Run.ofExcept (library.extraInfoUtil.getInvisibleTime extraInfo)
  let deliverTimeMs ← Run.lift (Signed.add overflowChecks popTime invisibleTime)
  let inner := ackMessage library processor ackMsg body rqId bornTimestamp deliverTimeMs
  Run.emit (.putMessageToSpecificQueue inner
    (processor.escapeBridge.putMessageToSpecificQueue inner))

/-- Lines 255-265 of `ack_origin`: the ack and the revive queue id decoded from the extra
info.  The struct literal decodes the checkpoint queue offset, the pop time and the broker
name in field order; the revive queue id follows. -/
def decodeAckMsg (requestHeader : ChangeInvisibleTimeRequestHeader) (extraInfo : List String) :
    Except RocketmqError (AckMsg × I32) := do
  let startOffset ← library.extraInfoUtil.getCkQueueOffset extraInfo
  let popTime ← library.extraInfoUtil.getPopTime extraInfo
  let brokerName ← library.extraInfoUtil.getBrokerName extraInfo
  let ackMsg : AckMsg :=
    { ackOffset := requestHeader.offset
      startOffset := startOffset
      consumerGroup := requestHeader.consumerGroup
      topic := requestHeader.topic
      queueId := requestHeader.queueId
      popTime := popTime
      brokerName := brokerName }
  let rqId ← library.extraInfoUtil.getReviveQid extraInfo
  pure (ackMsg, rqId)

/-- Lines 266-311 of `ack_origin`: count the ack, offer it to the ack buffer, and put it
durably when the buffer declines. -/
def countAndOffer (requestHeader : ChangeInvisibleTimeRequestHeader) (extraInfo : List String)
    (ackMsg : AckMsg) (rqId : I32) : Run Unit := do
  Run.emit (.incBrokerAckNums 1)
  Run.emit (.incGroupAckNums requestHeader.consumerGroup requestHeader.topic 1)
  let accepted := processor.popBufferMergeService.addAck rqId ackMsg
  Run.emit (.addAck rqId ackMsg accepted)
  if accepted then
    pure ()
  else
    putAckMessage library overflowChecks processor clock extraInfo ackMsg rqId

/-- `ack_origin` (lines 250-312). -/
def ackOrigin (requestHeader : ChangeInvisibleTimeRequestHeader) (extraInfo : List String) :
    Run Unit := do
  let (ackMsg, rqId) ← Run.ofExcept (decodeAckMsg library requestHeader extraInfo)
  countAndOffer library overflowChecks processor clock requestHeader extraInfo ackMsg rqId

/-- A call of `append_check_point`, recorded with the status it returns; `none` panics. -/
def appendCheckPoint (requestHeader : ChangeInvisibleTimeRequestHeader) (reviveQid : I32)
    (popTime : U64) (brokerName : String) : Run PutMessageStatus :=
  match pending.appendCheckPoint requestHeader reviveQid popTime brokerName with
  | none => Run.lift .panic
  | some status =>
      ⟨[.appendCheckPoint requestHeader reviveQid popTime brokerName status], .ok status⟩

/-- The success response of the normal branch. -/
def changedResponse (now : U64) (reviveQid : I32)
    (requestHeader : ChangeInvisibleTimeRequestHeader) : RemotingCommand :=
  .createResponseCommandWithHeader
    { popTime := now, reviveQid := reviveQid, invisibleTime := requestHeader.invisibleTime }

/-- The response to a checkpoint the store did not accept. -/
def checkPointErrorResponse (status : PutMessageStatus) : RemotingCommand :=
  .createResponseCommandWithCodeRemark .systemError
    ("append check point error, status: " ++ status.debugText)

/-- The success response, field by field: no remark, and the header of the new pop time. -/
theorem changedResponse_eq (now : U64) (reviveQid : I32)
    (requestHeader : ChangeInvisibleTimeRequestHeader) :
    changedResponse now reviveQid requestHeader =
      ⟨.success, none, some ⟨now, reviveQid, requestHeader.invisibleTime⟩⟩ :=
  rfl

/-- Lines 199-247, the normal branch: read the clock, decode the revive queue id and the broker
name, append the checkpoint, and acknowledge the original delivery only if it was accepted. -/
def appendAndAck (requestHeader : ChangeInvisibleTimeRequestHeader) (extraInfo : List String) :
    Run (Option RemotingCommand) := do
  let now := clock 0
  let reviveQid ← Run.ofExcept (library.extraInfoUtil.getReviveQid extraInfo)
  let brokerName ← Run.ofExcept (library.extraInfoUtil.getBrokerName extraInfo)
  let status ← appendCheckPoint pending requestHeader reviveQid now brokerName
  if status.isCheckPointAccepted then do
    Run.logErr (ackOrigin library overflowChecks processor clock requestHeader extraInfo)
    pure (some (changedResponse now reviveQid requestHeader))
  else
    pure (some (checkPointErrorResponse status))

/-- `process_request_inner` (lines 116-248). -/
def processRequestInner (request : HeaderMap) : Run (Option RemotingCommand) :=
  match library.decodeCommandCustomHeader request with
  | .error message => Run.lift (.err ⟨message⟩)
  | .ok requestHeader =>
      match rejection library processor remoteAddress requestHeader with
      | some response => pure (some response)
      | none =>
          match library.extraInfoUtil.split requestHeader.extraInfo with
          | .error error => Run.lift (.err error)
          | .ok extraInfo =>
              if library.extraInfoUtil.isOrder extraInfo then
                Run.lift (pending.processChangeInvisibleTimeForOrder requestHeader extraInfo)
              else
                appendAndAck library overflowChecks pending processor clock requestHeader
                  extraInfo

/-- `process_request` (lines 104-113): `process_request_inner` with `broker_allow_suspend` set,
which it does not read; the channel, the context and the request code are not read either. -/
def processRequest (request : HeaderMap) : Run (Option RemotingCommand) :=
  processRequestInner library overflowChecks pending processor clock remoteAddress request

/-! ## What each piece does -/

/-- The durable path once the ack encodes and both times decode: the addition, then one put. -/
theorem putAckMessage_of_decoded {extraInfo : List String} {ackMsg : AckMsg} (rqId : I32)
    {body : List UInt8} {popTime invisibleTime : I64}
    (encoded : library.encodeAckMsg ackMsg = .ok body)
    (popDecoded : library.extraInfoUtil.getPopTime extraInfo = .ok popTime)
    (invisibleDecoded : library.extraInfoUtil.getInvisibleTime extraInfo = .ok invisibleTime) :
    putAckMessage library overflowChecks processor clock extraInfo ackMsg rqId =
      Run.lift (Signed.add overflowChecks popTime invisibleTime) >>= fun deliverTimeMs =>
        let inner := ackMessage library processor ackMsg body rqId (clock 1).asSigned deliverTimeMs
        Run.emit (.putMessageToSpecificQueue inner
          (processor.escapeBridge.putMessageToSpecificQueue inner)) := by
  simp [putAckMessage, encoded, popDecoded, invisibleDecoded]

/-- The durable path puts nothing and returns the `Err` when the ack does not encode or a
time does not decode. -/
theorem putAckMessage_of_failed (extraInfo : List String) (ackMsg : AckMsg) (rqId : I32)
    (failed : (∃ error, library.encodeAckMsg ackMsg = .error error) ∨
      (∃ error, library.extraInfoUtil.getPopTime extraInfo = .error error) ∨
      (∃ error, library.extraInfoUtil.getInvisibleTime extraInfo = .error error)) :
    (putAckMessage library overflowChecks processor clock extraInfo ackMsg rqId).effects = [] ∧
      ∃ error, (putAckMessage library overflowChecks processor clock extraInfo ackMsg rqId).outcome =
        .err error := by
  unfold putAckMessage
  rcases failed with ⟨error, failure⟩ | ⟨error, failure⟩ | ⟨error, failure⟩
  · simp [failure]
  · cases library.encodeAckMsg ackMsg <;> simp [failure]
  · cases library.encodeAckMsg ackMsg <;> cases library.extraInfoUtil.getPopTime extraInfo <;>
      simp [failure]

/-- The ack decodes to the request's coordinates and the extra info's fields when all four
fields decode. -/
theorem decodeAckMsg_of_decoded {requestHeader : ChangeInvisibleTimeRequestHeader}
    {extraInfo : List String} {startOffset popTime : I64} {brokerName : String} {rqId : I32}
    (startOffsetDecoded : library.extraInfoUtil.getCkQueueOffset extraInfo = .ok startOffset)
    (popTimeDecoded : library.extraInfoUtil.getPopTime extraInfo = .ok popTime)
    (brokerNameDecoded : library.extraInfoUtil.getBrokerName extraInfo = .ok brokerName)
    (reviveQidDecoded : library.extraInfoUtil.getReviveQid extraInfo = .ok rqId) :
    decodeAckMsg library requestHeader extraInfo =
      .ok (⟨requestHeader.offset, startOffset, requestHeader.consumerGroup, requestHeader.topic,
        requestHeader.queueId, popTime, brokerName⟩, rqId) := by
  simp [decodeAckMsg, startOffsetDecoded, popTimeDecoded, brokerNameDecoded, reviveQidDecoded]

/-- The ack does not decode when the checkpoint queue offset or the pop time does not. -/
theorem decodeAckMsg_of_failed (requestHeader : ChangeInvisibleTimeRequestHeader)
    {extraInfo : List String}
    (failed : (∃ error, library.extraInfoUtil.getCkQueueOffset extraInfo = .error error) ∨
      (∃ error, library.extraInfoUtil.getPopTime extraInfo = .error error)) :
    ∃ error, decodeAckMsg library requestHeader extraInfo = .error error := by
  unfold decodeAckMsg
  rcases failed with ⟨error, failure⟩ | ⟨error, failure⟩
  · simp [failure]
  · cases library.extraInfoUtil.getCkQueueOffset extraInfo <;> simp [failure]

/-- The counted part: both counters, the offer, and the durable path only on a decline. -/
theorem countAndOffer_eq (requestHeader : ChangeInvisibleTimeRequestHeader)
    (extraInfo : List String) (ackMsg : AckMsg) (rqId : I32) :
    countAndOffer library overflowChecks processor clock requestHeader extraInfo ackMsg rqId =
      let accepted := processor.popBufferMergeService.addAck rqId ackMsg
      let durable := putAckMessage library overflowChecks processor clock extraInfo ackMsg rqId
      ⟨.incBrokerAckNums 1 :: .incGroupAckNums requestHeader.consumerGroup requestHeader.topic 1 ::
          .addAck rqId ackMsg accepted :: if accepted then [] else durable.effects,
        if accepted then .ok () else durable.outcome⟩ := by
  unfold countAndOffer
  cases processor.popBufferMergeService.addAck rqId ackMsg <;> rfl

/-- `ack_origin` runs its counted part exactly when the ack decodes. -/
theorem ackOrigin_eq (requestHeader : ChangeInvisibleTimeRequestHeader)
    (extraInfo : List String) :
    ackOrigin library overflowChecks processor clock requestHeader extraInfo =
      match decodeAckMsg library requestHeader extraInfo with
      | .error error => Run.lift (.err error)
      | .ok (ackMsg, rqId) =>
          countAndOffer library overflowChecks processor clock requestHeader extraInfo ackMsg rqId := by
  unfold ackOrigin
  cases decodeAckMsg library requestHeader extraInfo <;> rfl

/-- The normal branch once the revive queue id and the broker name decode and the checkpoint
append returns: the checkpoint, then the acknowledgment only if the store accepted it. -/
theorem appendAndAck_of_appended {requestHeader : ChangeInvisibleTimeRequestHeader}
    {extraInfo : List String} {reviveQid : I32} {brokerName : String}
    {status : PutMessageStatus}
    (reviveQidDecoded : library.extraInfoUtil.getReviveQid extraInfo = .ok reviveQid)
    (brokerNameDecoded : library.extraInfoUtil.getBrokerName extraInfo = .ok brokerName)
    (appended : pending.appendCheckPoint requestHeader reviveQid (clock 0) brokerName =
      some status) :
    appendAndAck library overflowChecks pending processor clock requestHeader extraInfo =
      let checkPoint := Effect.appendCheckPoint requestHeader reviveQid (clock 0) brokerName status
      let acknowledged := ackOrigin library overflowChecks processor clock requestHeader extraInfo
      if status.isCheckPointAccepted then
        ⟨checkPoint :: acknowledged.effects,
          match acknowledged.outcome with
          | .panic => .panic
          | _ => .ok (some (changedResponse (clock 0) reviveQid requestHeader))⟩
      else
        ⟨[checkPoint], .ok (some (checkPointErrorResponse status))⟩ := by
  simp only [appendAndAck, reviveQidDecoded, brokerNameDecoded, Run.ofExcept_ok_bind,
    appendCheckPoint, appended, Run.mk_ok_bind]
  generalize ackOrigin library overflowChecks processor clock requestHeader extraInfo = acknowledged
  obtain ⟨effects, outcome⟩ := acknowledged
  cases status.isCheckPointAccepted <;> cases outcome <;> simp [Run.logErr]

/-- The normal branch either has no side effect, or decodes both fields, gets a status from
the checkpoint append and goes on as `appendAndAck_of_appended` says. -/
theorem appendAndAck_cases (requestHeader : ChangeInvisibleTimeRequestHeader)
    (extraInfo : List String) :
    (appendAndAck library overflowChecks pending processor clock requestHeader extraInfo).effects =
        [] ∨
      ∃ reviveQid brokerName status,
        library.extraInfoUtil.getReviveQid extraInfo = .ok reviveQid ∧
        library.extraInfoUtil.getBrokerName extraInfo = .ok brokerName ∧
        pending.appendCheckPoint requestHeader reviveQid (clock 0) brokerName = some status := by
  cases reviveQidDecoded : library.extraInfoUtil.getReviveQid extraInfo with
  | error error =>
      simp [appendAndAck, reviveQidDecoded]
  | ok reviveQid =>
      cases brokerNameDecoded : library.extraInfoUtil.getBrokerName extraInfo with
      | error error =>
          simp [appendAndAck, reviveQidDecoded, brokerNameDecoded]
      | ok brokerName =>
          cases appended : pending.appendCheckPoint requestHeader reviveQid (clock 0) brokerName with
          | none =>
              simp [appendAndAck, reviveQidDecoded, brokerNameDecoded, appendCheckPoint, appended]
          | some status =>
              exact .inr ⟨reviveQid, brokerName, status, rfl, rfl, appended⟩

/-- The durable path puts at most one message, and it is a put of its own ack message. -/
theorem putAckMessage_effects (extraInfo : List String) (ackMsg : AckMsg) (rqId : I32) :
    (putAckMessage library overflowChecks processor clock extraInfo ackMsg rqId).effects = [] ∨
      ∃ inner, (putAckMessage library overflowChecks processor clock extraInfo ackMsg rqId).effects =
        [.putMessageToSpecificQueue inner (processor.escapeBridge.putMessageToSpecificQueue inner)] := by
  unfold putAckMessage
  cases library.encodeAckMsg ackMsg <;> cases library.extraInfoUtil.getPopTime extraInfo <;>
    cases library.extraInfoUtil.getInvisibleTime extraInfo <;> simp
  split <;> simp

/-- A decoded, valid, unordered request runs the normal branch. -/
theorem processRequestInner_of_normal {request : HeaderMap}
    {requestHeader : ChangeInvisibleTimeRequestHeader} {extraInfo : List String}
    (decoded : library.decodeCommandCustomHeader request = .ok requestHeader)
    (validated : rejection library processor remoteAddress requestHeader = none)
    (splitted : library.extraInfoUtil.split requestHeader.extraInfo = .ok extraInfo)
    (unordered : library.extraInfoUtil.isOrder extraInfo = false) :
    processRequestInner library overflowChecks pending processor clock remoteAddress request =
      appendAndAck library overflowChecks pending processor clock requestHeader extraInfo := by
  simp [processRequestInner, decoded, validated, splitted, unordered]

/-- A request either ends without reaching the normal branch, with no side effect, or is a
decoded, valid, unordered request running the normal branch. -/
theorem processRequestInner_cases (request : HeaderMap) :
    (∃ outcome, processRequestInner library overflowChecks pending processor clock remoteAddress
        request = Run.lift outcome) ∨
      ∃ requestHeader extraInfo,
        library.decodeCommandCustomHeader request = .ok requestHeader ∧
        rejection library processor remoteAddress requestHeader = none ∧
        library.extraInfoUtil.split requestHeader.extraInfo = .ok extraInfo ∧
        library.extraInfoUtil.isOrder extraInfo = false ∧
        processRequestInner library overflowChecks pending processor clock remoteAddress request =
          appendAndAck library overflowChecks pending processor clock requestHeader extraInfo := by
  unfold processRequestInner
  split
  · exact .inl ⟨_, rfl⟩
  · rename_i requestHeader decoded
    split
    · exact .inl ⟨_, rfl⟩
    · rename_i validated
      split
      · exact .inl ⟨_, rfl⟩
      · rename_i extraInfo splitted
        split
        · exact .inl ⟨_, rfl⟩
        · rename_i unordered
          exact .inr ⟨requestHeader, extraInfo, decoded, validated, splitted,
            Bool.eq_false_iff.mpr unordered, rfl⟩

end Processor

/-! ## The broker of the spec's worked example

Topic `T` with eight read queues, each holding offsets 100 to 200; the extra info in the spec's
field order joined by spaces; a store that accepts every put; and a clock that always reads
the same instant.  The checkpoint status, the ack buffer's answer and the request's offset and
extra info are left open.
-/

/-- The library of the worked example: the spec's header and extra-info decoders, and a unique
id formatted from the ack's fields. -/
def sampleLibrary : Library where
  decodeCommandCustomHeader := ChangeInvisibleTimeRequestHeader.decode
  extraInfoUtil := ExtraInfoUtil.delimited ' '
  applyTopicHint := "See the topic guide"
  encodeAckMsg ackMsg := .ok (String.toUTF8 (ackMsg.consumerGroup ++ " " ++ ackMsg.topic)).toList
  genAckUniqueId ackMsg :=
    ackMsg.topic ++ "@" ++ toString ackMsg.queueId ++ "@" ++ toString ackMsg.ackOffset ++ "@" ++
      ackMsg.consumerGroup ++ "@" ++ toString ackMsg.popTime ++ "@" ++ ackMsg.brokerName
  messagePropertiesToString properties :=
    String.join (properties.bindings.map fun binding => binding.1 ++ "=" ++ binding.2 ++ ";")
  ackTag := "ack"
  messageConst := ⟨"TAGS", "TIMER_DELAY_MS", "UNIQ_KEY", by decide, by decide, by decide⟩

/-- The processor of the worked example; `ackBufferAccepts` is the ack buffer's answer. -/
def sampleProcessor (ackBufferAccepts : Bool) : ChangeInvisibleTimeProcessor where
  topicConfigManager := ⟨fun topic => if topic = "T" then some ⟨⟨8, by norm_num⟩⟩ else none⟩
  messageStore := ⟨fun _ _ => ⟨100, by decide⟩, fun _ _ => ⟨200, by decide⟩⟩
  popBufferMergeService := ⟨fun _ _ => ackBufferAccepts⟩
  escapeBridge := ⟨fun _ => .putOk⟩
  reviveTopic := "rmq_sys_REVIVE_LOG_DefaultCluster"
  storeHost := .v4 ⟨⟨⟨127, by norm_num⟩, ⟨0, by norm_num⟩, ⟨0, by norm_num⟩, ⟨1, by norm_num⟩⟩,
    ⟨10911, by norm_num⟩⟩

/-- A checkpoint append that returns `status`, and the ordered branch left unimplemented. -/
def samplePending (status : PutMessageStatus) : PendingMethods where
  appendCheckPoint _ _ _ _ := some status
  processChangeInvisibleTimeForOrder _ _ := .panic

/-- A clock that always reads the same instant. -/
def sampleClock : Nat → U64 :=
  fun _ => ⟨1700000000000, by norm_num⟩

/-- A request of group `GID` on queue 0 of topic `T`, with an invisible time of 30000. -/
def sampleRequest (offset extraInfo : String) : HeaderMap :=
  ⟨[("consumerGroup", "GID"), ("topic", "T"), ("queueId", "0"), ("extraInfo", extraInfo),
    ("offset", offset), ("invisibleTime", "30000")]⟩

end RocketMQ
