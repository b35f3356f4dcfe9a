import RocketMQ.Response

namespace RocketMQ

/-!
# The acknowledgment of the original delivery

`ack_origin` builds the ack from the request and the extra info, counts it once on each
counter, offers it to the ack buffer, and on a decline puts it durably to the revive topic
with the pop time plus the invisible time as its timer.  That sum is `+` on `i64`, cast with
`as u64`: under overflow checks it panics when the sum leaves `i64`, and otherwise it records
the sum modulo `2 ^ 64`, which is the sum itself exactly when the sum is not negative.
-/

section Processor

variable (library : Library) (overflowChecks : Bool) (pending : PendingMethods)
  (processor : ChangeInvisibleTimeProcessor) (clock : Nat → U64) (remoteAddress : String)

/-- The timer property of an ack message is its delivery time cast with `as u64`. -/
theorem ackMessage_timerDelay (ackMsg : AckMsg) (body : List UInt8) (rqId : I32)
    (bornTimestamp deliverTimeMs : I64) :
    (ackMessage library processor ackMsg body rqId bornTimestamp deliverTimeMs).properties.get
        library.messageConst.propertyTimerDelayMs = some (toString deliverTimeMs.asUnsigned) := by
  simp [ackMessage, ackProperties, library.messageConst.delayNeUniq.symm]

/-- The durable path puts exactly its ack message, due at the wrapped sum of the two times,
when the ack encodes, both times decode and the sum does not panic. -/
theorem putAckMessage_of_returns {extraInfo : List String} {ackMsg : AckMsg} (rqId : I32)
    {body : List UInt8} {popTime invisibleTime : I64}
    (encoded : library.encodeAckMsg ackMsg = .ok body)
    (popDecoded : library.extraInfoUtil.getPopTime extraInfo = .ok popTime)
    (invisibleDecoded : library.extraInfoUtil.getInvisibleTime extraInfo = .ok invisibleTime)
    (returns : overflowChecks = false ∨ InSignedRange 64 (popTime.val + invisibleTime.val)) :
    putAckMessage library overflowChecks processor clock extraInfo ackMsg rqId =
      let inner := ackMessage library processor ackMsg body rqId (clock 1).asSigned
        (Signed.wrap (popTime.val + invisibleTime.val))
      ⟨[.putMessageToSpecificQueue inner (processor.escapeBridge.putMessageToSpecificQueue inner)],
        .ok ()⟩ := by
  rw [putAckMessage_of_decoded library overflowChecks processor clock rqId encoded popDecoded
    invisibleDecoded, Signed.add_eq_wrap (by norm_num) returns]
  rfl

/-- The durable path panics exactly when overflow checks are on, the ack encodes, both times
decode and their sum leaves `i64`. -/
theorem putAckMessage_outcome_eq_panic_iff (extraInfo : List String) (ackMsg : AckMsg)
    (rqId : I32) :
    (putAckMessage library overflowChecks processor clock extraInfo ackMsg rqId).outcome = .panic ↔
      overflowChecks = true ∧ ∃ body popTime invisibleTime,
        library.encodeAckMsg ackMsg = .ok body ∧
        library.extraInfoUtil.getPopTime extraInfo = .ok popTime ∧
        library.extraInfoUtil.getInvisibleTime extraInfo = .ok invisibleTime ∧
        ¬ InSignedRange 64 (popTime.val + invisibleTime.val) := by
  cases encoded : library.encodeAckMsg ackMsg with
  | error error =>
      simp [putAckMessage, encoded]
  | ok body =>
      cases popDecoded : library.extraInfoUtil.getPopTime extraInfo with
      | error error =>
          simp [putAckMessage, encoded, popDecoded]
      | ok popTime =>
          cases invisibleDecoded : library.extraInfoUtil.getInvisibleTime extraInfo with
          | error error =>
              simp [putAckMessage, encoded, popDecoded, invisibleDecoded]
          | ok invisibleTime =>
              by_cases fits : InSignedRange 64 (popTime.val + invisibleTime.val)
              · rw [putAckMessage_of_returns library overflowChecks processor clock rqId encoded
                  popDecoded invisibleDecoded (.inr fits)]
                simp [fits]
              · cases overflowChecks
                · rw [putAckMessage_of_returns library false processor clock rqId encoded popDecoded
                    invisibleDecoded (.inl rfl)]
                  simp
                · rw [putAckMessage_of_decoded library true processor clock rqId encoded popDecoded
                    invisibleDecoded, Signed.add_of_overflow fits]
                  simp [fits]

/-- `ack_origin` panics exactly when its ack decodes, the buffer declines it, and the durable
path panics at the sum. -/
theorem ackOrigin_outcome_eq_panic_iff (requestHeader : ChangeInvisibleTimeRequestHeader)
    (extraInfo : List String) :
    (ackOrigin library overflowChecks processor clock requestHeader extraInfo).outcome = .panic ↔
      ∃ ackMsg rqId, decodeAckMsg library requestHeader extraInfo = .ok (ackMsg, rqId) ∧
        processor.popBufferMergeService.addAck rqId ackMsg = false ∧
        (putAckMessage library overflowChecks processor clock extraInfo ackMsg rqId).outcome =
          .panic := by
  rw [ackOrigin_eq]
  cases decoded : decodeAckMsg library requestHeader extraInfo with
  | error error =>
      simp
  | ok pair =>
      obtain ⟨ackMsg, rqId⟩ := pair
      simp only [countAndOffer_eq, Except.ok.injEq, Prod.mk.injEq]
      cases accepted : processor.popBufferMergeService.addAck rqId ackMsg
      · simp only [Bool.false_eq_true, if_false]
        constructor
        · exact fun panics => ⟨ackMsg, rqId, ⟨rfl, rfl⟩, accepted, panics⟩
        · rintro ⟨_, _, ⟨rfl, rfl⟩, -, panics⟩
          exact panics
      · simp [accepted]

/-- The only panic of `ack_origin` is the sum of the two times under overflow checks: it
panics exactly when overflow checks are on, its ack decodes and encodes, the buffer declines
it, both times decode and their sum leaves `i64`. -/
theorem ackOrigin_panics_iff (requestHeader : ChangeInvisibleTimeRequestHeader)
    (extraInfo : List String) :
    (ackOrigin library overflowChecks processor clock requestHeader extraInfo).outcome = .panic ↔
      overflowChecks = true ∧ ∃ ackMsg rqId body popTime invisibleTime,
        decodeAckMsg library requestHeader extraInfo = .ok (ackMsg, rqId) ∧
        processor.popBufferMergeService.addAck rqId ackMsg = false ∧
        library.encodeAckMsg ackMsg = .ok body ∧
        library.extraInfoUtil.getPopTime extraInfo = .ok popTime ∧
        library.extraInfoUtil.getInvisibleTime extraInfo = .ok invisibleTime ∧
        ¬ InSignedRange 64 (popTime.val + invisibleTime.val) := by
  rw [ackOrigin_outcome_eq_panic_iff]
  constructor
  · rintro ⟨ackMsg, rqId, decoded, declined, panics⟩
    obtain ⟨checked, body, popTime, invisibleTime, facts⟩ :=
      (putAckMessage_outcome_eq_panic_iff library overflowChecks processor clock extraInfo ackMsg
        rqId).mp panics
    exact ⟨checked, ackMsg, rqId, body, popTime, invisibleTime, decoded, declined, facts⟩
  · rintro ⟨checked, ackMsg, rqId, body, popTime, invisibleTime, decoded, declined, facts⟩
    exact ⟨ackMsg, rqId, decoded, declined,
      (putAckMessage_outcome_eq_panic_iff library overflowChecks processor clock extraInfo ackMsg
        rqId).mpr ⟨checked, body, popTime, invisibleTime, facts⟩⟩

/-- Without overflow checks `ack_origin` never panics: its failures are `Err`s. -/
theorem ackOrigin_outcome_ne_panic (requestHeader : ChangeInvisibleTimeRequestHeader)
    (extraInfo : List String) :
    (ackOrigin library false processor clock requestHeader extraInfo).outcome ≠ .panic := by
  simp [ackOrigin_outcome_eq_panic_iff, putAckMessage_outcome_eq_panic_iff]

/-- A durable ack records `(p + t) mod 2 ^ 64` as its timer, for the pop time `p` and the
invisible time `t` it decoded, whenever the sum does not panic; the recorded number is `p + t`
exactly when `p + t` is not negative. -/
theorem ackOrigin_deliverTime {requestHeader : ChangeInvisibleTimeRequestHeader}
    {extraInfo : List String} {startOffset popTime invisibleTime : I64} {brokerName : String}
    {rqId : I32} {body : List UInt8}
    (startOffsetDecoded : library.extraInfoUtil.getCkQueueOffset extraInfo = .ok startOffset)
    (popTimeDecoded : library.extraInfoUtil.getPopTime extraInfo = .ok popTime)
    (brokerNameDecoded : library.extraInfoUtil.getBrokerName extraInfo = .ok brokerName)
    (reviveQidDecoded : library.extraInfoUtil.getReviveQid extraInfo = .ok rqId)
    (invisibleTimeDecoded : library.extraInfoUtil.getInvisibleTime extraInfo = .ok invisibleTime)
    (encoded : library.encodeAckMsg ⟨requestHeader.offset, startOffset, requestHeader.consumerGroup,
      requestHeader.topic, requestHeader.queueId, popTime, brokerName⟩ = .ok body)
    (declined : processor.popBufferMergeService.addAck rqId ⟨requestHeader.offset, startOffset,
      requestHeader.consumerGroup, requestHeader.topic, requestHeader.queueId, popTime,
      brokerName⟩ = false)
    (returns : overflowChecks = false ∨ InSignedRange 64 (popTime.val + invisibleTime.val)) :
    let recorded : U64 := Unsigned.wrap (popTime.val + invisibleTime.val)
    ((ackOrigin library overflowChecks processor clock requestHeader extraInfo).effects.filterMap
        Effect.revivePut?).map (fun inner =>
          inner.properties.get library.messageConst.propertyTimerDelayMs) =
      [some (toString recorded)] ∧
    ((recorded.val : Int) = popTime.val + invisibleTime.val ↔ 0 ≤ popTime.val + invisibleTime.val) := by
  refine ⟨?_, Unsigned.wrap_val_eq_iff (Signed.val_add_lt (by norm_num) popTime invisibleTime)⟩
  simp only [ackOrigin_eq, decodeAckMsg_of_decoded library startOffsetDecoded popTimeDecoded
    brokerNameDecoded reviveQidDecoded, countAndOffer_eq, putAckMessage_of_returns library
    overflowChecks processor clock rqId encoded popTimeDecoded invisibleTimeDecoded returns,
    declined]
  simp [Effect.revivePut?, ackMessage_timerDelay, Signed.wrap_asUnsigned]

/-- In a build without overflow checks, a decoded, valid, unordered request whose checkpoint
append returns `PutOk` or a degraded status is answered with the success code, no remark and the
header of the new pop time, the revive queue id and the request's invisible time, whatever the
acknowledgment does. -/
theorem processRequestInner_of_accepted {request : HeaderMap}
    {requestHeader : ChangeInvisibleTimeRequestHeader} {extraInfo : List String}
    {reviveQid : I32} {brokerName : String} {status : PutMessageStatus}
    (decoded : library.decodeCommandCustomHeader request = .ok requestHeader)
    (validated : rejection library processor remoteAddress requestHeader = none)
    (splitted : library.extraInfoUtil.split requestHeader.extraInfo = .ok extraInfo)
    (unordered : library.extraInfoUtil.isOrder extraInfo = false)
    (reviveQidDecoded : library.extraInfoUtil.getReviveQid extraInfo = .ok reviveQid)
    (brokerNameDecoded : library.extraInfoUtil.getBrokerName extraInfo = .ok brokerName)
    (appended : pending.appendCheckPoint requestHeader reviveQid (clock 0) brokerName =
      some status)
    (accepted : status = .putOk ∨ status = .flushDiskTimeout ∨ status = .flushSlaveTimeout ∨
      status = .slaveNotAvailable) :
    (processRequestInner library false pending processor clock remoteAddress request).outcome =
      .ok (some ⟨.success, none, some ⟨clock 0, reviveQid, requestHeader.invisibleTime⟩⟩) := by
  rw [processRequestInner_of_normal library false pending processor clock remoteAddress decoded
    validated splitted unordered, appendAndAck_of_appended library false pending processor clock
    reviveQidDecoded brokerNameDecoded appended,
    (PutMessageStatus.isCheckPointAccepted_eq_true_iff status).mpr accepted, if_pos rfl]
  split
  · exact absurd ‹_› (ackOrigin_outcome_ne_panic library processor clock requestHeader extraInfo)
  · rfl

/-- A decoded ack is the request's own: it has the request's offset, consumer group, topic and
queue id. -/
theorem decodeAckMsg_eq_ok {requestHeader : ChangeInvisibleTimeRequestHeader}
    {extraInfo : List String} {ackMsg : AckMsg} {rqId : I32}
    (decoded : decodeAckMsg library requestHeader extraInfo = .ok (ackMsg, rqId)) :
    ∃ startOffset popTime brokerName, ackMsg = ⟨requestHeader.offset, startOffset,
      requestHeader.consumerGroup, requestHeader.topic, requestHeader.queueId, popTime,
      brokerName⟩ := by
  simp only [decodeAckMsg, except_bind_eq_ok] at decoded
  obtain ⟨startOffset, -, popTime, -, brokerName, -, _, -, same⟩ := decoded
  cases same
  exact ⟨startOffset, popTime, brokerName, rfl⟩

/-- `ack_origin` offers only the ack it decoded. -/
theorem ackOrigin_offered {requestHeader : ChangeInvisibleTimeRequestHeader}
    {extraInfo : List String} {rqId : I32} {ackMsg : AckMsg} {accepted : Bool}
    (offered : Effect.addAck rqId ackMsg accepted ∈
      (ackOrigin library overflowChecks processor clock requestHeader extraInfo).effects) :
    decodeAckMsg library requestHeader extraInfo = .ok (ackMsg, rqId) := by
  rw [ackOrigin_eq] at offered
  split at offered
  · cases offered
  · rename_i ackMsg' rqId' decoded
    rw [countAndOffer_eq] at offered
    rcases putAckMessage_effects library overflowChecks processor clock extraInfo ackMsg' rqId'
      with durable | ⟨inner, durable⟩ <;>
      cases processor.popBufferMergeService.addAck rqId' ackMsg' <;>
      simp [durable] at offered <;>
      (obtain ⟨rfl, rfl, -⟩ := offered; exact decoded)

/-- The handler acknowledges only the message the request names: every ack it offers to the
ack buffer has the decoded request's offset, consumer group, topic and queue id. -/
theorem processRequestInner_acksRequestedMessage {request : HeaderMap}
    {requestHeader : ChangeInvisibleTimeRequestHeader}
    (decoded : library.decodeCommandCustomHeader request = .ok requestHeader)
    {rqId : I32} {ackMsg : AckMsg} {accepted : Bool}
    (offered : Effect.addAck rqId ackMsg accepted ∈ (processRequestInner library overflowChecks
      pending processor clock remoteAddress request).effects) :
    ackMsg.ackOffset = requestHeader.offset ∧ ackMsg.consumerGroup = requestHeader.consumerGroup ∧
      ackMsg.topic = requestHeader.topic ∧ ackMsg.queueId = requestHeader.queueId := by
  rcases processRequestInner_cases library overflowChecks pending processor clock remoteAddress
      request with ⟨outcome, noBranch⟩ | ⟨header, extraInfo, sameDecode, -, -, -, normalBranch⟩
  · rw [noBranch] at offered
    cases offered
  obtain rfl : header = requestHeader := by
    rw [decoded] at sameDecode
    cases sameDecode
    rfl
  rw [normalBranch] at offered
  rcases appendAndAck_cases library overflowChecks pending processor clock header extraInfo
      with noEffect | ⟨reviveQid, brokerName, status, reviveQidDecoded, brokerNameDecoded, appended⟩
  · rw [noEffect] at offered
    cases offered
  rw [appendAndAck_of_appended library overflowChecks pending processor clock reviveQidDecoded
    brokerNameDecoded appended] at offered
  dsimp only at offered
  split_ifs at offered
  · rcases List.mem_cons.mp offered with checkPoint | acknowledged
    · cases checkPoint
    obtain ⟨startOffset, popTime, brokerName, rfl⟩ := decodeAckMsg_eq_ok library
      (ackOrigin_offered library overflowChecks processor clock acknowledged)
    exact ⟨rfl, rfl, rfl, rfl⟩
  · simp at offered

/-- The worked example's declined ack is offered with the request's coordinates. -/
theorem processRequestInner_acksRequestedMessage_sample :
    let request := sampleRequest "150" "false 3 b1 150 1000 30000"
    let requestHeader : ChangeInvisibleTimeRequestHeader := ⟨"GID", "T", ⟨0, by decide⟩,
      "false 3 b1 150 1000 30000", ⟨150, by decide⟩, ⟨30000, by decide⟩⟩
    let ackMsg : AckMsg := ⟨⟨150, by decide⟩, ⟨150, by decide⟩, "GID", "T", ⟨0, by decide⟩,
      ⟨1000, by decide⟩, "b1"⟩
    sampleLibrary.decodeCommandCustomHeader request = .ok requestHeader ∧
      Effect.addAck ⟨3, by decide⟩ ackMsg false ∈ (processRequestInner sampleLibrary false
        (samplePending .putOk) (sampleProcessor false) sampleClock "10.0.0.1:5000" request).effects ∧
      ackMsg.ackOffset = requestHeader.offset ∧ ackMsg.consumerGroup = requestHeader.consumerGroup ∧
        ackMsg.topic = requestHeader.topic ∧ ackMsg.queueId = requestHeader.queueId := by
  intro request requestHeader ackMsg
  have decoded : sampleLibrary.decodeCommandCustomHeader request = .ok requestHeader := rfl
  have offered : Effect.addAck ⟨3, by decide⟩ ackMsg false ∈ (processRequestInner sampleLibrary
      false (samplePending .putOk) (sampleProcessor false) sampleClock "10.0.0.1:5000"
      request).effects := by decide
  exact ⟨decoded, offered, processRequestInner_acksRequestedMessage sampleLibrary false
    (samplePending .putOk) (sampleProcessor false) sampleClock "10.0.0.1:5000" decoded offered⟩

end Processor

/-- The worked example's request, checkpoint accepted, in a build without overflow checks: the
success header with the clock's instant, revive queue 3 and the request's invisible time. -/
theorem processRequestInner_sampleAccepted :
    (processRequestInner sampleLibrary false (samplePending .putOk) (sampleProcessor false)
        sampleClock "10.0.0.1:5000" (sampleRequest "150" "false 3 b1 150 1000 30000")).outcome =
      .ok (some ⟨.success, none, some ⟨sampleClock 0, ⟨3, by decide⟩, ⟨30000, by decide⟩⟩⟩) :=
  @processRequestInner_of_accepted sampleLibrary (samplePending .putOk) (sampleProcessor false)
    sampleClock "10.0.0.1:5000" (sampleRequest "150" "false 3 b1 150 1000 30000")
    ⟨"GID", "T", ⟨0, by decide⟩, "false 3 b1 150 1000 30000", ⟨150, by decide⟩,
      ⟨30000, by decide⟩⟩
    ["false", "3", "b1", "150", "1000", "30000"] ⟨3, by decide⟩ "b1" .putOk
    rfl rfl rfl rfl rfl rfl rfl (.inl rfl)

/-- The worked example's declined ack records its due time `1000 + 30000` exactly. -/
theorem ackOrigin_sampleDeliverTime :
    let recorded : U64 := Unsigned.wrap ((1000 : Int) + 30000)
    ((ackOrigin sampleLibrary false (sampleProcessor false) sampleClock
        ⟨"GID", "T", ⟨0, by decide⟩, "false 3 b1 150 1000 30000", ⟨150, by decide⟩,
          ⟨30000, by decide⟩⟩
        ["false", "3", "b1", "150", "1000", "30000"]).effects.filterMap Effect.revivePut?).map
          (fun inner => inner.properties.get "TIMER_DELAY_MS") = [some (toString recorded)] ∧
      ((recorded.val : Int) = 1000 + 30000 ↔ (0 : Int) ≤ 1000 + 30000) :=
  @ackOrigin_deliverTime sampleLibrary false (sampleProcessor false) sampleClock
    ⟨"GID", "T", ⟨0, by decide⟩, "false 3 b1 150 1000 30000", ⟨150, by decide⟩, ⟨30000, by decide⟩⟩
    ["false", "3", "b1", "150", "1000", "30000"] ⟨150, by decide⟩ ⟨1000, by decide⟩
    ⟨30000, by decide⟩ "b1" ⟨3, by decide⟩ (String.toUTF8 ("GID" ++ " " ++ "T")).toList
    rfl rfl rfl rfl rfl rfl rfl (.inl rfl)

/-- Under overflow checks, a pop time of `i64::MAX` and an invisible time of 1 make the answer
depend on the ack buffer: an accepted ack gives the success header, a declined one panics at
the sum. -/
theorem processRequestInner_overflowingAck_panics :
    (processRequestInner sampleLibrary true (samplePending .putOk) (sampleProcessor true)
        sampleClock "10.0.0.1:5000"
        (sampleRequest "150" "false 3 b1 150 9223372036854775807 1")).outcome =
      .ok (some (.createResponseCommandWithHeader
        ⟨⟨1700000000000, by norm_num⟩, ⟨3, by decide⟩, ⟨30000, by decide⟩⟩)) ∧
    (processRequestInner sampleLibrary true (samplePending .putOk) (sampleProcessor false)
        sampleClock "10.0.0.1:5000"
        (sampleRequest "150" "false 3 b1 150 9223372036854775807 1")).outcome = .panic := by
  decide

/-- On the same request a declining buffer gets no ack message put: `ack_origin` counts and
offers the ack, then panics at the sum. -/
theorem processRequestInner_overflowingAck_putsNothing :
    (processRequestInner sampleLibrary true (samplePending .putOk) (sampleProcessor false)
        sampleClock "10.0.0.1:5000"
        (sampleRequest "150" "false 3 b1 150 9223372036854775807 1")).effects.filterMap
        Effect.revivePut? = [] ∧
    (processRequestInner sampleLibrary true (samplePending .putOk) (sampleProcessor false)
        sampleClock "10.0.0.1:5000"
        (sampleRequest "150" "false 3 b1 150 9223372036854775807 1")).outcome = .panic := by
  decide

/-- A pop time of 1000 and an invisible time of -30000 put an ack whose timer is
`2 ^ 64 - 29000`, where the sum is -29000. -/
theorem processRequestInner_negativeDeliverTime_wraps :
    ((processRequestInner sampleLibrary false (samplePending .putOk) (sampleProcessor false)
        sampleClock "10.0.0.1:5000"
        (sampleRequest "150" "false 3 b1 150 1000 -30000")).effects.filterMap
        Effect.revivePut?).map (fun inner => inner.properties.get "TIMER_DELAY_MS") =
      [some (toString (⟨18446744073709522616, by norm_num⟩ : U64))] := by
  rfl

end RocketMQ
