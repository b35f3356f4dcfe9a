import RocketMQ.ChangeInvisibleTimeProcessor

namespace RocketMQ

/-!
# Write-ahead ordering of the checkpoint and the acknowledgment

The normal branch must append the new checkpoint, and see it accepted, before it
acknowledges the original delivery: a crash in between then leaves a redelivery rather than
a lost message.  `WriteAheadOrdered` says this of a list of side effects: every counter
increment, ack-buffer offer or revive-topic put has an accepted checkpoint append before it.

Every run of the handler is write-ahead ordered, for every request, every collaborator answer
and every library behaviour; and a checkpoint the store did not accept ends the request with
`SystemError` and nothing else.
-/

/-- Every effect with property `later` has an effect with property `earlier` before it. -/
def PrecededBy (earlier later : Effect → Prop) (effects : List Effect) : Prop :=
  ∀ before effect after, effects = before ++ effect :: after → later effect →
    ∃ cause ∈ before, earlier cause

namespace PrecededBy

variable {earlier later : Effect → Prop}

/-- Effects with no `later` effect among them are ordered. -/
theorem of_forall_not {effects : List Effect} (noLater : ∀ effect ∈ effects, ¬ later effect) :
    PrecededBy earlier later effects := by
  intro before effect after split isLater
  exact (noLater effect (by simp [split]) isLater).elim

/-- An effect that is not `later` may be put in front of an ordered list. -/
theorem cons {cause : Effect} {rest : List Effect} (causeNotLater : ¬ later cause)
    (ordered : PrecededBy earlier later rest) : PrecededBy earlier later (cause :: rest) := by
  intro before effect after split isLater
  cases before with
  | nil =>
      simp only [List.nil_append, List.cons.injEq] at split
      exact (causeNotLater (split.1 ▸ isLater)).elim
  | cons first earlierEffects =>
      simp only [List.cons_append, List.cons.injEq] at split
      obtain ⟨found, member, isEarlier⟩ := ordered _ _ _ split.2 isLater
      exact ⟨found, List.mem_cons_of_mem _ member, isEarlier⟩

/-- Anything after an `earlier` effect that is not itself `later` is ordered. -/
theorem cons_of_earlier {cause : Effect} (isEarlier : earlier cause) (causeNotLater : ¬ later cause)
    (rest : List Effect) : PrecededBy earlier later (cause :: rest) := by
  intro before effect after split isLater
  cases before with
  | nil =>
      simp only [List.nil_append, List.cons.injEq] at split
      exact (causeNotLater (split.1 ▸ isLater)).elim
  | cons first earlierEffects =>
      simp only [List.cons_append, List.cons.injEq] at split
      exact ⟨first, by simp, split.1 ▸ isEarlier⟩

/-- What a prefix of an ordered list contains is ordered too. -/
theorem of_extension {effects longer : List Effect} (isPrefix : effects <+: longer)
    (ordered : PrecededBy earlier later longer) : PrecededBy earlier later effects := by
  obtain ⟨tail, rfl⟩ := isPrefix
  intro before effect after split isLater
  exact ordered before effect (after ++ tail) (by simp [split]) isLater

end PrecededBy

/-- A checkpoint append that returned a status the store accepts a checkpoint with: `PutOk`,
or the degraded `FlushDiskTimeout`, `FlushSlaveTimeout` or `SlaveNotAvailable`. -/
def AcceptedCheckPoint (effect : Effect) : Prop :=
  ∃ status, effect.checkPointStatus? = some status ∧
    (status = .putOk ∨ status = .flushDiskTimeout ∨ status = .flushSlaveTimeout ∨
      status = .slaveNotAvailable)

/-- Every acknowledgment effect comes after a checkpoint append that the store accepted. -/
def WriteAheadOrdered (effects : List Effect) : Prop :=
  PrecededBy AcceptedCheckPoint Effect.IsAck effects

section Processor

variable (library : Library) (overflowChecks : Bool) (pending : PendingMethods)
  (processor : ChangeInvisibleTimeProcessor) (clock : Nat → U64) (remoteAddress : String)

/-- Everything `ack_origin` does is an acknowledgment effect. -/
theorem ackOrigin_effects_isAck (requestHeader : ChangeInvisibleTimeRequestHeader)
    (extraInfo : List String) :
    ∀ effect ∈ (ackOrigin library overflowChecks processor clock requestHeader extraInfo).effects,
      effect.IsAck := by
  rw [ackOrigin_eq]
  split
  · simp
  · rename_i ackMsg rqId _
    rw [countAndOffer_eq]
    rcases putAckMessage_effects library overflowChecks processor clock extraInfo ackMsg rqId
      with durable | ⟨inner, durable⟩ <;>
      cases processor.popBufferMergeService.addAck rqId ackMsg <;>
      simp [durable, Effect.IsAck]

/-- An acknowledgment effect is no checkpoint append. -/
theorem checkPointStatus?_of_isAck {effect : Effect} (isAck : effect.IsAck) :
    effect.checkPointStatus? = none := by
  cases effect <;> simp_all [Effect.IsAck, Effect.checkPointStatus?]

/-- `ack_origin` puts at most one message to the revive topic. -/
theorem ackOrigin_revivePuts_le_one (requestHeader : ChangeInvisibleTimeRequestHeader)
    (extraInfo : List String) :
    ((ackOrigin library overflowChecks processor clock requestHeader extraInfo).effects.filterMap
      Effect.revivePut?).length ≤ 1 := by
  rw [ackOrigin_eq]
  split
  · simp
  · rename_i ackMsg rqId _
    rw [countAndOffer_eq]
    rcases putAckMessage_effects library overflowChecks processor clock extraInfo ackMsg rqId
      with durable | ⟨inner, durable⟩ <;>
      cases processor.popBufferMergeService.addAck rqId ackMsg <;>
      simp [durable, Effect.revivePut?]

/-- The three shapes of a run: no side effect; a checkpoint the store did not accept, alone
and answered with `SystemError`; or an accepted checkpoint followed by what `ack_origin` does. -/
theorem processRequestInner_shape (request : HeaderMap) :
    let run := processRequestInner library overflowChecks pending processor clock remoteAddress
      request
    run.effects = [] ∨
      ∃ requestHeader extraInfo reviveQid brokerName status,
        (status.isCheckPointAccepted = false ∧
          run = ⟨[.appendCheckPoint requestHeader reviveQid (clock 0) brokerName status],
            .ok (some (checkPointErrorResponse status))⟩) ∨
        (status.isCheckPointAccepted = true ∧
          run.effects = .appendCheckPoint requestHeader reviveQid (clock 0) brokerName status ::
            (ackOrigin library overflowChecks processor clock requestHeader extraInfo).effects) := by
  rcases processRequestInner_cases library overflowChecks pending processor clock remoteAddress
      request with ⟨outcome, noBranch⟩ | ⟨requestHeader, extraInfo, -, -, -, -, normalBranch⟩
  · exact .inl (by rw [noBranch]; rfl)
  rw [normalBranch]
  rcases appendAndAck_cases library overflowChecks pending processor clock requestHeader extraInfo
      with noEffect | ⟨reviveQid, brokerName, status, reviveQidDecoded, brokerNameDecoded, appended⟩
  · exact .inl noEffect
  rw [appendAndAck_of_appended library overflowChecks pending processor clock reviveQidDecoded
    brokerNameDecoded appended]
  refine .inr ⟨requestHeader, extraInfo, reviveQid, brokerName, status, ?_⟩
  cases accepted : status.isCheckPointAccepted
  · exact .inl ⟨rfl, rfl⟩
  · exact .inr ⟨rfl, rfl⟩

/-- Every run of the handler is write-ahead ordered. -/
theorem processRequestInner_writeAheadOrdered (request : HeaderMap) :
    WriteAheadOrdered
      (processRequestInner library overflowChecks pending processor clock remoteAddress
        request).effects := by
  rcases processRequestInner_shape library overflowChecks pending processor clock remoteAddress
      request with noEffect | ⟨_, _, _, _, status, ⟨-, run⟩ | ⟨accepted, effects⟩⟩
  · rw [noEffect]
    exact PrecededBy.of_forall_not (by simp)
  · rw [run]
    exact PrecededBy.of_forall_not (by simp [Effect.IsAck])
  · rw [effects]
    exact PrecededBy.cons_of_earlier
      ⟨status, rfl, (PutMessageStatus.isCheckPointAccepted_eq_true_iff status).mp accepted⟩
      (by simp [Effect.IsAck]) _

/-- Write-ahead ordering: no acknowledgment effect happens unless a checkpoint append returned
`PutOk`, `FlushDiskTimeout`, `FlushSlaveTimeout` or `SlaveNotAvailable` earlier in the same
request; and a checkpoint with any other status ends the request with a `SystemError` response
that echoes the status and carries no header, the append being its only side effect. -/
theorem processRequestInner_writeAhead (request : HeaderMap) :
    WriteAheadOrdered
        (processRequestInner library overflowChecks pending processor clock remoteAddress
          request).effects ∧
      ∀ requestHeader reviveQid popTime brokerName status,
        Effect.appendCheckPoint requestHeader reviveQid popTime brokerName status ∈
          (processRequestInner library overflowChecks pending processor clock remoteAddress
            request).effects →
        status ≠ .putOk → status ≠ .flushDiskTimeout → status ≠ .flushSlaveTimeout →
        status ≠ .slaveNotAvailable →
        processRequestInner library overflowChecks pending processor clock remoteAddress request =
          ⟨[.appendCheckPoint requestHeader reviveQid popTime brokerName status],
            .ok (some ⟨.systemError, some ("append check point error, status: " ++
              status.debugText), none⟩)⟩ := by
  refine ⟨processRequestInner_writeAheadOrdered library overflowChecks pending processor clock
    remoteAddress request, fun _ _ _ _ other member notPutOk notFlushDisk notFlushSlave
      notSlave => ?_⟩
  have otherRefused : other.isCheckPointAccepted = false := by
    rw [← Bool.not_eq_true, PutMessageStatus.isCheckPointAccepted_eq_true_iff]
    rintro (rfl | rfl | rfl | rfl) <;> contradiction
  rcases processRequestInner_shape library overflowChecks pending processor clock remoteAddress
      request with noEffect | ⟨requestHeader, extraInfo, reviveQid, brokerName, status,
        ⟨rejected, run⟩ | ⟨accepted, effects⟩⟩
  · simp [noEffect] at member
  · simp only [run, List.mem_singleton, Effect.appendCheckPoint.injEq] at member ⊢
    obtain ⟨rfl, rfl, rfl, rfl, rfl⟩ := member
    rfl
  · rw [effects] at member
    rcases List.mem_cons.mp member with same | later
    · simp only [Effect.appendCheckPoint.injEq] at same
      rw [same.2.2.2.2, accepted] at otherRefused
      contradiction
    · exact (ackOrigin_effects_isAck library overflowChecks processor clock requestHeader extraInfo
        _ later).elim

/-- Every `Err` of the handler comes before its first side effect: a request answered with an
`Err` changed nothing.  Once the checkpoint is appended, the request answers or panics. -/
theorem processRequestInner_errBeforeEffects (request : HeaderMap) {error : RocketmqError}
    (failed : (processRequestInner library overflowChecks pending processor clock remoteAddress
      request).outcome = .err error) :
    (processRequestInner library overflowChecks pending processor clock remoteAddress
      request).effects = [] := by
  rcases processRequestInner_cases library overflowChecks pending processor clock remoteAddress
      request with ⟨outcome, noBranch⟩ | ⟨requestHeader, extraInfo, -, -, -, -, normalBranch⟩
  · rw [noBranch]
    rfl
  rw [normalBranch] at failed ⊢
  rcases appendAndAck_cases library overflowChecks pending processor clock requestHeader extraInfo
      with noEffect | ⟨reviveQid, brokerName, status, reviveQidDecoded, brokerNameDecoded, appended⟩
  · exact noEffect
  rw [appendAndAck_of_appended library overflowChecks pending processor clock reviveQidDecoded
    brokerNameDecoded appended] at failed
  dsimp only at failed
  split_ifs at failed
  split at failed <;> cases failed

/-- A revive queue id that does not parse is an `Err` of the worked example, with no side
effect. -/
theorem processRequestInner_errBeforeEffects_sample :
    let run := processRequestInner sampleLibrary false (samplePending .putOk)
      (sampleProcessor false) sampleClock "10.0.0.1:5000"
      (sampleRequest "150" "false x b1 150 1000 30000")
    run.outcome = .err ⟨"extraInfo field is not an integer: x"⟩ ∧ run.effects = [] :=
  have failed : (processRequestInner sampleLibrary false (samplePending .putOk)
      (sampleProcessor false) sampleClock "10.0.0.1:5000"
      (sampleRequest "150" "false x b1 150 1000 30000")).outcome =
        .err ⟨"extraInfo field is not an integer: x"⟩ := by decide
  ⟨failed, processRequestInner_errBeforeEffects sampleLibrary false (samplePending .putOk)
    (sampleProcessor false) sampleClock "10.0.0.1:5000" _ failed⟩

/-- No duplicated store write: a request appends at most one checkpoint and puts at most one
message to the revive topic, whatever the collaborators answer. -/
theorem processRequestInner_writesAtMostOnce (request : HeaderMap) :
    let effects := (processRequestInner library overflowChecks pending processor clock
      remoteAddress request).effects
    (effects.filterMap Effect.checkPointStatus?).length ≤ 1 ∧
      (effects.filterMap Effect.revivePut?).length ≤ 1 := by
  rcases processRequestInner_shape library overflowChecks pending processor clock remoteAddress
      request with noEffect | ⟨requestHeader, extraInfo, _, _, _, ⟨-, run⟩ | ⟨-, effects⟩⟩
  · simp [noEffect]
  · simp [run, Effect.checkPointStatus?, Effect.revivePut?]
  · have noCheckPoint : (ackOrigin library overflowChecks processor clock requestHeader
        extraInfo).effects.filterMap Effect.checkPointStatus? = [] :=
      List.filterMap_eq_nil_iff.mpr fun effect member => checkPointStatus?_of_isAck
        (ackOrigin_effects_isAck library overflowChecks processor clock requestHeader extraInfo
          effect member)
    simp only [effects, List.filterMap_cons, Effect.checkPointStatus?, Effect.revivePut?,
      noCheckPoint]
    exact ⟨le_refl 1, ackOrigin_revivePuts_le_one library overflowChecks processor clock
      requestHeader extraInfo⟩

/-- Lazy decoding of the extra info on the normal branch.  The revive queue id and the broker
name are decoded before any side effect, and a failure of either rejects the request with an
`Err`.  The checkpoint queue offset, the pop time and the invisible time are decoded only inside
`ack_origin`, after the checkpoint was appended with `PutOk` or a degraded status, and their
failure is logged: with a bad checkpoint queue offset or pop time the checkpoint is the only side
effect, with a bad invisible time the ack is still counted and offered, and both answer the
success response, with no remark and the header of the new pop time, the revive queue id and the
request's invisible time. -/
theorem processRequestInner_lazyDecode {request : HeaderMap}
    {requestHeader : ChangeInvisibleTimeRequestHeader} {extraInfo : List String}
    (decoded : library.decodeCommandCustomHeader request = .ok requestHeader)
    (validated : rejection library processor remoteAddress requestHeader = none)
    (splitted : library.extraInfoUtil.split requestHeader.extraInfo = .ok extraInfo)
    (unordered : library.extraInfoUtil.isOrder extraInfo = false) :
    ((∃ error, library.extraInfoUtil.getReviveQid extraInfo = .error error) ∨
        (∃ error, library.extraInfoUtil.getBrokerName extraInfo = .error error) →
      (processRequestInner library overflowChecks pending processor clock remoteAddress
          request).effects = [] ∧
        ∃ error, (processRequestInner library overflowChecks pending processor clock
          remoteAddress request).outcome = .err error) ∧
    ∀ reviveQid brokerName status,
      library.extraInfoUtil.getReviveQid extraInfo = .ok reviveQid →
      library.extraInfoUtil.getBrokerName extraInfo = .ok brokerName →
      pending.appendCheckPoint requestHeader reviveQid (clock 0) brokerName = some status →
      status = .putOk ∨ status = .flushDiskTimeout ∨ status = .flushSlaveTimeout ∨
        status = .slaveNotAvailable →
      ((∃ error, library.extraInfoUtil.getCkQueueOffset extraInfo = .error error) ∨
          (∃ error, library.extraInfoUtil.getPopTime extraInfo = .error error) →
        processRequestInner library overflowChecks pending processor clock remoteAddress
            request =
          ⟨[.appendCheckPoint requestHeader reviveQid (clock 0) brokerName status],
            .ok (some ⟨.success, none, some ⟨clock 0, reviveQid, requestHeader.invisibleTime⟩⟩)⟩) ∧
      ∀ startOffset popTime error,
        library.extraInfoUtil.getCkQueueOffset extraInfo = .ok startOffset →
        library.extraInfoUtil.getPopTime extraInfo = .ok popTime →
        library.extraInfoUtil.getInvisibleTime extraInfo = .error error →
        let ackMsg : AckMsg := ⟨requestHeader.offset, startOffset, requestHeader.consumerGroup,
          requestHeader.topic, requestHeader.queueId, popTime, brokerName⟩
        processRequestInner library overflowChecks pending processor clock remoteAddress
            request =
          ⟨[.appendCheckPoint requestHeader reviveQid (clock 0) brokerName status,
              .incBrokerAckNums 1,
              .incGroupAckNums requestHeader.consumerGroup requestHeader.topic 1,
              .addAck reviveQid ackMsg (processor.popBufferMergeService.addAck reviveQid ackMsg)],
            .ok (some ⟨.success, none, some ⟨clock 0, reviveQid, requestHeader.invisibleTime⟩⟩)⟩ := by
  rw [processRequestInner_of_normal library overflowChecks pending processor clock remoteAddress
    decoded validated splitted unordered]
  refine ⟨fun failed => ?_, fun reviveQid brokerName status reviveQidDecoded brokerNameDecoded
    appended accepted => ?_⟩
  · rcases failed with ⟨error, failure⟩ | ⟨error, failure⟩
    · simp [appendAndAck, failure]
    · cases reviveQidDecoded : library.extraInfoUtil.getReviveQid extraInfo <;>
        simp [appendAndAck, failure, reviveQidDecoded]
  rw [appendAndAck_of_appended library overflowChecks pending processor clock
    reviveQidDecoded brokerNameDecoded appended,
    (PutMessageStatus.isCheckPointAccepted_eq_true_iff status).mpr accepted, if_pos rfl,
    ackOrigin_eq, ← changedResponse_eq]
  refine ⟨fun failed => ?_, fun startOffset popTime error startOffsetDecoded popTimeDecoded
    invisibleFailed => ?_⟩
  · obtain ⟨error, ackFailed⟩ := decodeAckMsg_of_failed library requestHeader failed
    simp [ackFailed]
  · rw [decodeAckMsg_of_decoded library startOffsetDecoded popTimeDecoded brokerNameDecoded
      reviveQidDecoded]
    simp only [countAndOffer_eq]
    generalize acceptedAck : processor.popBufferMergeService.addAck reviveQid _ = ackAccepted
    obtain ⟨durableEffects, ⟨durableError, durableOutcome⟩⟩ :=
      putAckMessage_of_failed library overflowChecks processor clock extraInfo ⟨requestHeader.offset,
        startOffset, requestHeader.consumerGroup, requestHeader.topic, requestHeader.queueId,
        popTime, brokerName⟩ reviveQid (.inr (.inr ⟨error, invisibleFailed⟩))
    cases ackAccepted <;> simp [durableEffects, durableOutcome]

/-- The lazy decoding at a pop time that does not parse, in the worked example: the checkpoint
is the only side effect and the answer is the success response. -/
theorem processRequestInner_lazyDecode_malformedPopTime :
    let extraInfo := "false 3 b1 150 1000x 30000"
    let requestHeader : ChangeInvisibleTimeRequestHeader :=
      ⟨"GID", "T", ⟨0, by decide⟩, extraInfo, ⟨150, by decide⟩, ⟨30000, by decide⟩⟩
    let fields := ["false", "3", "b1", "150", "1000x", "30000"]
    sampleLibrary.decodeCommandCustomHeader (sampleRequest "150" extraInfo) = .ok requestHeader ∧
      rejection sampleLibrary (sampleProcessor false) "10.0.0.1:5000" requestHeader = none ∧
      sampleLibrary.extraInfoUtil.split extraInfo = .ok fields ∧
      sampleLibrary.extraInfoUtil.isOrder fields = false ∧
      processRequestInner sampleLibrary false (samplePending .putOk) (sampleProcessor false)
          sampleClock "10.0.0.1:5000" (sampleRequest "150" extraInfo) =
        ⟨[.appendCheckPoint requestHeader ⟨3, by decide⟩ (sampleClock 0) "b1" .putOk],
          .ok (some ⟨.success, none, some ⟨sampleClock 0, ⟨3, by decide⟩, ⟨30000, by decide⟩⟩⟩)⟩ := by
  intro extraInfo requestHeader fields
  have decoded : sampleLibrary.decodeCommandCustomHeader (sampleRequest "150" extraInfo) =
      .ok requestHeader := rfl
  have validated : rejection sampleLibrary (sampleProcessor false) "10.0.0.1:5000" requestHeader =
      none := rfl
  have splitted : sampleLibrary.extraInfoUtil.split requestHeader.extraInfo = .ok fields := rfl
  have unordered : sampleLibrary.extraInfoUtil.isOrder fields = false := rfl
  exact ⟨decoded, validated, splitted, unordered,
    ((processRequestInner_lazyDecode sampleLibrary false (samplePending .putOk)
      (sampleProcessor false) sampleClock "10.0.0.1:5000" decoded validated splitted unordered).2
      ⟨3, by decide⟩ "b1" .putOk rfl rfl rfl (.inl rfl)).1
      (.inr ⟨⟨"extraInfo field is not an integer: 1000x"⟩, rfl⟩)⟩

/-- A pop time that does not parse is not rejected before a side effect: the checkpoint is
appended and the request answers success; with the source's unimplemented checkpoint append,
the request panics instead of being rejected. -/
theorem processRequestInner_malformedPopTime_appends :
    let request := sampleRequest "150" "false 3 b1 150 1000x 30000"
    let run := processRequestInner sampleLibrary false (samplePending .putOk)
      (sampleProcessor false) sampleClock "10.0.0.1:5000" request
    (sampleLibrary.extraInfoUtil.getPopTime ["false", "3", "b1", "150", "1000x", "30000"]).toOption =
        none ∧
      run.effects.map Effect.checkPointStatus? = [some .putOk] ∧
      run.outcome = .ok (some ⟨.success, none,
        some ⟨sampleClock 0, ⟨3, by decide⟩, ⟨30000, by decide⟩⟩⟩) ∧
      (processRequestInner sampleLibrary false PendingMethods.unimplemented (sampleProcessor false)
        sampleClock "10.0.0.1:5000" request).outcome = .panic := by
  decide

end Processor

end RocketMQ
