import RocketMQ.ChangeInvisibleTimeProcessor

namespace RocketMQ

/-!
# Request validation

The spec validates a request in three steps: the topic must exist, the queue id must lie in
`[0, read_queue_nums)` and the offset in `[min_offset, max_offset]`, each failure with its
own response code and no side effect.  `validationFailure` states this over the integers.

The processor compares the queue id with `read_queue_nums as i32`.  For every count below
`2 ^ 31` the cast keeps the value, and the processor's rejection is exactly the spec's; at
`2 ^ 31` and above the cast wraps to a negative bound and every queue id is rejected.  A
rejected request has no side effect at all.
-/

/-- The spec's validation: the response code a request fails with, if any, comparing the
queue id and the offsets as integers. -/
def validationFailure (topicConfig : Option TopicConfig) (queueId : I32)
    (offset mixOffset maxOffset : I64) : Option ResponseCode :=
  match topicConfig with
  | none => some .topicNotExist
  | some config =>
      if ¬ (0 ≤ queueId.val ∧ queueId.val < config.readQueueNums.val) then some .messageIllegal
      else if ¬ (mixOffset.val ≤ offset.val ∧ offset.val ≤ maxOffset.val) then some .noMessage
      else none

section Processor

variable (library : Library) (overflowChecks : Bool) (pending : PendingMethods)
  (processor : ChangeInvisibleTimeProcessor) (clock : Nat → U64) (remoteAddress : String)

/-- For a topic with fewer than `2 ^ 31` read queues the processor rejects a request with
exactly the spec's response code, for every queue id, offset and pair of store offsets. -/
theorem rejection_code_eq_validationFailure (requestHeader : ChangeInvisibleTimeRequestHeader)
    (fewQueues : ∀ config, processor.topicConfigManager.selectTopicConfig requestHeader.topic =
      some config → config.readQueueNums.val < 2 ^ 31) :
    (rejection library processor remoteAddress requestHeader).map RemotingCommand.code =
      validationFailure (processor.topicConfigManager.selectTopicConfig requestHeader.topic)
        requestHeader.queueId requestHeader.offset
        (processor.messageStore.getMinOffsetInQueue requestHeader.topic requestHeader.queueId)
        (processor.messageStore.getMaxOffsetInQueue requestHeader.topic requestHeader.queueId) := by
  unfold rejection
  cases found : processor.topicConfigManager.selectTopicConfig requestHeader.topic with
  | none =>
      rfl
  | some config =>
      have castKeeps : config.readQueueNums.asSigned.val = config.readQueueNums.val :=
        Unsigned.asSigned_val_of_lt (by norm_num) (fewQueues config found)
      simp only [validationFailure, castKeeps]
      split_ifs <;> first | rfl | omega

/-- A rejected request has no side effect and answers the rejection. -/
theorem processRequestInner_of_rejected {request : HeaderMap}
    {requestHeader : ChangeInvisibleTimeRequestHeader} {response : RemotingCommand}
    (decoded : library.decodeCommandCustomHeader request = .ok requestHeader)
    (rejected : rejection library processor remoteAddress requestHeader = some response) :
    processRequestInner library overflowChecks pending processor clock remoteAddress request =
      ⟨[], .ok (some response)⟩ := by
  simp only [processRequestInner, decoded, rejected]
  rfl

end Processor

/-- A topic with `2 ^ 31` read queues rejects queue 0 as illegal, though 0 lies in
`[0, 2 ^ 31)`: `read_queue_nums as i32` wraps to `-2 ^ 31`. -/
theorem rejection_hugeReadQueueNums_illegal :
    let processor : ChangeInvisibleTimeProcessor :=
      { sampleProcessor false with
        topicConfigManager := ⟨fun _ => some ⟨⟨2147483648, by norm_num⟩⟩⟩ }
    let requestHeader : ChangeInvisibleTimeRequestHeader :=
      ⟨"GID", "T", ⟨0, by decide⟩, "false 3 b1 150 1000 30000", ⟨150, by decide⟩,
        ⟨30000, by decide⟩⟩
    validationFailure (some ⟨⟨2147483648, by norm_num⟩⟩) requestHeader.queueId
        requestHeader.offset ⟨100, by decide⟩ ⟨200, by decide⟩ = none ∧
      (rejection sampleLibrary processor "10.0.0.1:5000" requestHeader).map RemotingCommand.code =
        some .messageIllegal := by
  decide

end RocketMQ
