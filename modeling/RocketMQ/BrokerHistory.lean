import Mathlib.Algebra.BigOperators.Group.Finset
import RocketMQ.WriteAhead
import RocketMQ.AckOrigin

namespace RocketMQ

/-!
# Concurrent requests on one broker

The broker handles many requests at once, each on its own task, and their side effects
interleave in the shared store, counters and ack buffer.  A history is that merged sequence,
each side effect tagged with the request that made it.  It interleaves the requests' runs when
its projection onto each request is a prefix of that request's run: a request may still be in
flight, and nothing orders two requests.

Over every such history two orderings hold request by request: every acknowledgment effect
comes after an accepted checkpoint of the same request, and every revive-topic put after an
ack of the same request that the buffer declined.  Once every request has finished, each ack
counter has grown by exactly the number of acks offered to the buffer.
-/

/-- A side effect in the broker's merged history, with the request that made it. -/
structure Event where
  request : Nat
  effect : Effect
  deriving DecidableEq

/-- The side effects one request made, in history order. -/
def effectsOf (request : Nat) : List Event → List Effect
  | [] => []
  | event :: rest =>
      if event.request = request then event.effect :: effectsOf request rest
      else effectsOf request rest

/-- Projection distributes over the concatenation of two histories. -/
theorem effectsOf_append (request : Nat) (first second : List Event) :
    effectsOf request (first ++ second) = effectsOf request first ++ effectsOf request second := by
  induction first with
  | nil =>
      rfl
  | cons event rest inductionHypothesis =>
      by_cases ownEvent : event.request = request <;>
        simp [effectsOf, ownEvent, inductionHypothesis]

/-- A request's projection holds exactly the effects of its own events. -/
theorem mem_effectsOf {request : Nat} {history : List Event} {effect : Effect} :
    effect ∈ effectsOf request history ↔
      ∃ event ∈ history, event.request = request ∧ event.effect = effect := by
  induction history with
  | nil =>
      simp [effectsOf]
  | cons first rest inductionHypothesis =>
      simp only [List.mem_cons, exists_eq_or_imp, ← inductionHypothesis]
      by_cases ownEvent : first.request = request
      · simp [effectsOf, ownEvent, eq_comm]
      · simp [effectsOf, ownEvent]

/-- A run tagged with one request projects to itself for that request and to nothing for the
others. -/
theorem effectsOf_map (request other : Nat) (effects : List Effect) :
    effectsOf request (effects.map (Event.mk other)) = if other = request then effects else [] := by
  induction effects with
  | nil =>
      simp [effectsOf]
  | cons effect rest inductionHypothesis =>
      by_cases ownRun : other = request
      · subst ownRun
        simp [effectsOf, inductionHypothesis]
      · simp [effectsOf, ownRun, inductionHypothesis]

/-! ## Orderings within a request and across the history -/

/-- Every event with property `later` has an event of the same request with property `earlier`
before it in the history. -/
def HistoryPrecededBy (earlier later : Effect → Prop) (history : List Event) : Prop :=
  ∀ before event after, history = before ++ event :: after → later event.effect →
    ∃ cause ∈ before, cause.request = event.request ∧ earlier cause.effect

/-- An ack offer the buffer declined. -/
def DeclinedOffer (effect : Effect) : Prop :=
  ∃ reviveQid ackMsg, effect = .addAck reviveQid ackMsg false

/-- A put to the revive topic. -/
def RevivePut (effect : Effect) : Prop :=
  ∃ message status, effect = .putMessageToSpecificQueue message status

/-- A history is ordered when every request's projection is a prefix of an ordered run. -/
theorem historyPrecededBy_of_runs {earlier later : Effect → Prop} {runs : Nat → List Effect}
    {history : List Event} (ordered : ∀ request, PrecededBy earlier later (runs request))
    (interleaves : ∀ request, effectsOf request history <+: runs request) :
    HistoryPrecededBy earlier later history := by
  intro before event after split isLater
  have projected : effectsOf event.request history =
      effectsOf event.request before ++ event.effect :: effectsOf event.request after := by
    simp [split, effectsOf_append, effectsOf]
  obtain ⟨cause, member, isEarlier⟩ :=
    (ordered event.request).of_extension (interleaves event.request) _ _ _ projected isLater
  obtain ⟨found, inBefore, sameRequest, foundEffect⟩ := mem_effectsOf.mp member
  exact ⟨found, inBefore, sameRequest, foundEffect ▸ isEarlier⟩

/-! ## The handler's runs -/

/-- One request as the broker handles it: the request, the address it came from, and what its
collaborators answer while it runs (the shared buffer and store answer each request as they
find them when it reaches them). -/
structure Handling where
  pending : PendingMethods
  processor : ChangeInvisibleTimeProcessor
  clock : Nat → U64
  remoteAddress : String
  request : HeaderMap

/-- The run of `process_request_inner` for one handled request. -/
def Handling.run (library : Library) (overflowChecks : Bool) (handling : Handling) :
    Run (Option RemotingCommand) :=
  processRequestInner library overflowChecks handling.pending handling.processor handling.clock
    handling.remoteAddress handling.request

section Processor

variable (library : Library) (overflowChecks : Bool) (pending : PendingMethods)
  (processor : ChangeInvisibleTimeProcessor) (clock : Nat → U64) (remoteAddress : String)

/-- A decoded ack carries the request's consumer group and topic. -/
theorem decodeAckMsg_coordinates {requestHeader : ChangeInvisibleTimeRequestHeader}
    {extraInfo : List String} {ackMsg : AckMsg} {rqId : I32}
    (decoded : decodeAckMsg library requestHeader extraInfo = .ok (ackMsg, rqId)) :
    ackMsg.consumerGroup = requestHeader.consumerGroup ∧ ackMsg.topic = requestHeader.topic := by
  unfold decodeAckMsg at decoded
  cases startOffsetDecoded : library.extraInfoUtil.getCkQueueOffset extraInfo <;>
    cases popTimeDecoded : library.extraInfoUtil.getPopTime extraInfo <;>
    cases brokerNameDecoded : library.extraInfoUtil.getBrokerName extraInfo <;>
    cases reviveQidDecoded : library.extraInfoUtil.getReviveQid extraInfo <;>
    simp [startOffsetDecoded, popTimeDecoded, brokerNameDecoded, reviveQidDecoded] at decoded
  obtain ⟨rfl, -⟩ := decoded
  exact ⟨rfl, rfl⟩

/-- Within `ack_origin`, a revive-topic put comes only after the buffer declined the ack. -/
theorem ackOrigin_declineBeforePut (requestHeader : ChangeInvisibleTimeRequestHeader)
    (extraInfo : List String) :
    PrecededBy DeclinedOffer RevivePut
      (ackOrigin library overflowChecks processor clock requestHeader extraInfo).effects := by
  rw [ackOrigin_eq]
  split
  · exact PrecededBy.of_forall_not (by simp)
  · rename_i ackMsg rqId _
    rw [countAndOffer_eq]
    cases processor.popBufferMergeService.addAck rqId ackMsg
    · exact .cons (by simp [RevivePut]) (.cons (by simp [RevivePut])
        (.cons_of_earlier ⟨rqId, ackMsg, rfl⟩ (by simp [RevivePut]) _))
    · exact PrecededBy.of_forall_not (by simp [RevivePut])

/-- Within a run, a revive-topic put comes only after the buffer declined the ack. -/
theorem processRequestInner_declineBeforePut (request : HeaderMap) :
    PrecededBy DeclinedOffer RevivePut
      (processRequestInner library overflowChecks pending processor clock remoteAddress
        request).effects := by
  rcases processRequestInner_shape library overflowChecks pending processor clock remoteAddress
      request with noEffect | ⟨requestHeader, extraInfo, _, _, _, ⟨-, run⟩ | ⟨-, effects⟩⟩
  · rw [noEffect]
    exact PrecededBy.of_forall_not (by simp)
  · rw [run]
    exact PrecededBy.of_forall_not (by simp [RevivePut])
  · rw [effects]
    exact .cons (by simp [RevivePut])
      (ackOrigin_declineBeforePut library overflowChecks processor clock requestHeader extraInfo)

end Processor

/-- Over every interleaving of the broker's requests, in flight or finished, each request's
acknowledgment effects come after an accepted checkpoint of its own, and each of its
revive-topic puts after an ack of its own that the buffer declined. -/
theorem history_ordered (library : Library) (overflowChecks : Bool) (handlings : Nat → Handling)
    {history : List Event}
    (interleaves : ∀ request,
      effectsOf request history <+: ((handlings request).run library overflowChecks).effects) :
    HistoryPrecededBy AcceptedCheckPoint Effect.IsAck history ∧
      HistoryPrecededBy DeclinedOffer RevivePut history :=
  ⟨historyPrecededBy_of_runs (fun _ =>
      processRequestInner_writeAheadOrdered library overflowChecks _ _ _ _ _) interleaves,
    historyPrecededBy_of_runs (fun _ =>
      processRequestInner_declineBeforePut library overflowChecks _ _ _ _ _) interleaves⟩

/-- The worked example's request, handled with an accepted checkpoint and with the given answer
of the ack buffer. -/
def sampleHandling (ackBufferAccepts : Bool) : Handling :=
  ⟨samplePending .putOk, sampleProcessor ackBufferAccepts, sampleClock, "10.0.0.1:5000",
    sampleRequest "150" "false 3 b1 150 1000 30000"⟩

/-- Two copies of the worked example, request 1 answered by the buffer and request 0 put
durably, both ordered in the history where request 1 ran first. -/
theorem history_ordered_sample :
    HistoryPrecededBy AcceptedCheckPoint Effect.IsAck
        (((sampleHandling true).run sampleLibrary false).effects.map (Event.mk 1) ++
          ((sampleHandling false).run sampleLibrary false).effects.map (Event.mk 0)) ∧
      HistoryPrecededBy DeclinedOffer RevivePut
        (((sampleHandling true).run sampleLibrary false).effects.map (Event.mk 1) ++
          ((sampleHandling false).run sampleLibrary false).effects.map (Event.mk 0)) :=
  history_ordered sampleLibrary false (fun request => sampleHandling (request == 1)) fun request => by
    rw [effectsOf_append, effectsOf_map, effectsOf_map]
    rcases request with _ | _ | request <;> simp

/-! ## The ack counters -/

namespace Effect

/-- What an effect adds to the broker-wide ack counter. -/
def brokerAckIncrement : Effect → Nat
  | .incBrokerAckNums incValue => incValue
  | _ => 0

/-- What an effect adds to the ack counter of `group` and `topic`. -/
def groupAckIncrement (group topic : String) : Effect → Nat
  | .incGroupAckNums countedGroup countedTopic incValue =>
      if countedGroup = group ∧ countedTopic = topic then incValue else 0
  | _ => 0

/-- The acks an effect offers to the buffer. -/
def offeredAcks : Effect → Nat
  | .addAck .. => 1
  | _ => 0

/-- The acks of `group` and `topic` an effect offers to the buffer. -/
def offeredAcksOf (group topic : String) : Effect → Nat
  | .addAck _ ackMsg _ => if ackMsg.consumerGroup = group ∧ ackMsg.topic = topic then 1 else 0
  | _ => 0

end Effect

/-- The ack counters of `BrokerStatsManager`: broker-wide, and per consumer group and topic. -/
structure AckCounters where
  brokerAckNums : Nat
  groupAckNums : String → String → Nat

namespace AckCounters

/-- `inc_broker_ack_nums` and `inc_group_ack_nums` add their value; no other side effect
touches the counters. -/
def apply (counters : AckCounters) : Effect → AckCounters
  | .incBrokerAckNums incValue => { counters with brokerAckNums := counters.brokerAckNums + incValue }
  | .incGroupAckNums countedGroup countedTopic incValue =>
      { counters with
        groupAckNums := fun group topic =>
          counters.groupAckNums group topic +
            if countedGroup = group ∧ countedTopic = topic then incValue else 0 }
  | _ => counters

/-- The counters after a sequence of side effects. -/
def applyAll (counters : AckCounters) : List Effect → AckCounters
  | [] => counters
  | effect :: rest => (counters.apply effect).applyAll rest

/-- The broker-wide counter grows by the increments of the effects applied. -/
theorem applyAll_brokerAckNums (counters : AckCounters) (effects : List Effect) :
    (counters.applyAll effects).brokerAckNums =
      counters.brokerAckNums + (effects.map Effect.brokerAckIncrement).sum := by
  induction effects generalizing counters with
  | nil =>
      rfl
  | cons effect rest inductionHypothesis =>
      cases effect <;>
        simp [applyAll, apply, inductionHypothesis, Effect.brokerAckIncrement, Nat.add_assoc]

/-- The counter of a group and topic grows by the increments of the effects applied. -/
theorem applyAll_groupAckNums (counters : AckCounters) (effects : List Effect)
    (group topic : String) :
    (counters.applyAll effects).groupAckNums group topic =
      counters.groupAckNums group topic +
        (effects.map (Effect.groupAckIncrement group topic)).sum := by
  induction effects generalizing counters with
  | nil =>
      rfl
  | cons effect rest inductionHypothesis =>
      cases effect <;>
        simp [applyAll, apply, inductionHypothesis, Effect.groupAckIncrement, Nat.add_assoc]

end AckCounters

/-- A weight summed over a history is the sum, over its requests, of the weight summed over
each request's projection. -/
theorem sum_map_eq_sum_effectsOf (weight : Effect → Nat) (requests : Finset Nat)
    {history : List Event} (known : ∀ event ∈ history, event.request ∈ requests) :
    ((history.map Event.effect).map weight).sum =
      ∑ request ∈ requests, ((effectsOf request history).map weight).sum := by
  induction history with
  | nil =>
      simp [effectsOf]
  | cons event rest inductionHypothesis =>
      have perRequest : ∀ request, ((effectsOf request (event :: rest)).map weight).sum =
          (if event.request = request then weight event.effect else 0) +
            ((effectsOf request rest).map weight).sum := by
        intro request
        by_cases ownEvent : event.request = request <;> simp [effectsOf, ownEvent]
      simp only [List.map_cons, List.sum_cons, perRequest, Finset.sum_add_distrib,
        Finset.sum_ite_eq, known event (by simp), if_true,
        inductionHypothesis fun other member => known other (by simp [member])]

section Processor

variable (library : Library) (overflowChecks : Bool) (pending : PendingMethods)
  (processor : ChangeInvisibleTimeProcessor) (clock : Nat → U64) (remoteAddress : String)

/-- `ack_origin` counts on each counter exactly the acks it offers. -/
theorem ackOrigin_counted (requestHeader : ChangeInvisibleTimeRequestHeader)
    (extraInfo : List String) :
    let effects := (ackOrigin library overflowChecks processor clock requestHeader extraInfo).effects
    (effects.map Effect.brokerAckIncrement).sum = (effects.map Effect.offeredAcks).sum ∧
      ∀ group topic, (effects.map (Effect.groupAckIncrement group topic)).sum =
        (effects.map (Effect.offeredAcksOf group topic)).sum := by
  rw [ackOrigin_eq]
  split
  · simp
  · rename_i ackMsg rqId decoded
    obtain ⟨sameGroup, sameTopic⟩ := decodeAckMsg_coordinates library decoded
    rw [countAndOffer_eq]
    rcases putAckMessage_effects library overflowChecks processor clock extraInfo ackMsg rqId
      with durable | ⟨inner, durable⟩ <;>
      cases processor.popBufferMergeService.addAck rqId ackMsg <;>
      simp [durable, Effect.brokerAckIncrement, Effect.offeredAcks, Effect.groupAckIncrement,
        Effect.offeredAcksOf, sameGroup, sameTopic]

/-- A run counts on each counter exactly the acks it offers. -/
theorem processRequestInner_counted (request : HeaderMap) :
    let effects := (processRequestInner library overflowChecks pending processor clock
      remoteAddress request).effects
    (effects.map Effect.brokerAckIncrement).sum = (effects.map Effect.offeredAcks).sum ∧
      ∀ group topic, (effects.map (Effect.groupAckIncrement group topic)).sum =
        (effects.map (Effect.offeredAcksOf group topic)).sum := by
  rcases processRequestInner_shape library overflowChecks pending processor clock remoteAddress
      request with noEffect | ⟨requestHeader, extraInfo, _, _, _, ⟨-, run⟩ | ⟨-, effects⟩⟩
  · simp [noEffect]
  · simp [run, Effect.brokerAckIncrement, Effect.offeredAcks, Effect.groupAckIncrement,
      Effect.offeredAcksOf]
  · obtain ⟨brokerCounted, groupCounted⟩ :=
      ackOrigin_counted library overflowChecks processor clock requestHeader extraInfo
    simp only [effects, List.map_cons, List.sum_cons, Effect.brokerAckIncrement,
      Effect.offeredAcks, Effect.groupAckIncrement, Effect.offeredAcksOf, brokerCounted,
      groupCounted, implies_true, and_self]

end Processor

/-- Once every request has finished, whatever the interleaving, the broker-wide ack counter has
grown by the number of acks offered to the buffer, and the counter of each consumer group and
topic by the number of its acks offered: no count is lost or made twice. -/
theorem history_ackCounters (library : Library) (overflowChecks : Bool)
    (handlings : Nat → Handling) (requests : Finset Nat) {history : List Event}
    (known : ∀ event ∈ history, event.request ∈ requests)
    (finished : ∀ request ∈ requests,
      effectsOf request history = ((handlings request).run library overflowChecks).effects)
    (counters : AckCounters) :
    (counters.applyAll (history.map Event.effect)).brokerAckNums =
        counters.brokerAckNums + ((history.map Event.effect).map Effect.offeredAcks).sum ∧
      ∀ group topic, (counters.applyAll (history.map Event.effect)).groupAckNums group topic =
        counters.groupAckNums group topic +
          ((history.map Event.effect).map (Effect.offeredAcksOf group topic)).sum := by
  have perRequest := fun request (member : request ∈ requests) =>
    (finished request member) ▸ processRequestInner_counted library overflowChecks
      (handlings request).pending (handlings request).processor (handlings request).clock
      (handlings request).remoteAddress (handlings request).request
  refine ⟨?_, fun group topic => ?_⟩
  · rw [AckCounters.applyAll_brokerAckNums, sum_map_eq_sum_effectsOf _ requests known,
      sum_map_eq_sum_effectsOf _ requests known]
    exact congrArg _ (Finset.sum_congr rfl fun request member => (perRequest request member).1)
  · rw [AckCounters.applyAll_groupAckNums, sum_map_eq_sum_effectsOf _ requests known,
      sum_map_eq_sum_effectsOf _ requests known]
    exact congrArg _ (Finset.sum_congr rfl fun request member =>
      (perRequest request member).2 group topic)

/-- The same two requests leave each counter two acks higher. -/
theorem history_ackCounters_sample :
    (AckCounters.applyAll ⟨0, fun _ _ => 0⟩
        ((((sampleHandling true).run sampleLibrary false).effects.map (Event.mk 1) ++
          ((sampleHandling false).run sampleLibrary false).effects.map (Event.mk 0)).map
            Event.effect)).brokerAckNums =
        0 + (((((sampleHandling true).run sampleLibrary false).effects.map (Event.mk 1) ++
          ((sampleHandling false).run sampleLibrary false).effects.map (Event.mk 0)).map
            Event.effect).map Effect.offeredAcks).sum ∧
      ∀ group topic, (AckCounters.applyAll ⟨0, fun _ _ => 0⟩
          ((((sampleHandling true).run sampleLibrary false).effects.map (Event.mk 1) ++
            ((sampleHandling false).run sampleLibrary false).effects.map (Event.mk 0)).map
              Event.effect)).groupAckNums group topic =
        0 + (((((sampleHandling true).run sampleLibrary false).effects.map (Event.mk 1) ++
          ((sampleHandling false).run sampleLibrary false).effects.map (Event.mk 0)).map
            Event.effect).map (Effect.offeredAcksOf group topic)).sum :=
  history_ackCounters sampleLibrary false (fun request => sampleHandling (request == 1)) {0, 1}
    (fun event member => by
      simp only [List.mem_append, List.mem_map] at member
      rcases member with ⟨_, _, rfl⟩ | ⟨_, _, rfl⟩ <;> simp) (fun request member => by
      rw [effectsOf_append, effectsOf_map, effectsOf_map]
      rcases Finset.mem_insert.mp member with rfl | member
      · simp
      · rw [Finset.mem_singleton.mp member]
        simp)
    ⟨0, fun _ _ => 0⟩

end RocketMQ
