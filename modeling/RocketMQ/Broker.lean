import RocketMQ.QueryConsumerOffsetRequestHeader

namespace RocketMQ

/-!
# The broker side of a change-invisible-time request

The processor reads a decoded request header, asks its collaborators (topic configuration,
message store, ack buffer, escape bridge, the clock) and answers with one response command.
Its visible side effects are the checkpoint append, the two ack counters, the offer to the
ack buffer and the put of a durable ack message; a run of the processor records them in
order, next to how it ends.

Several types and functions the processor uses live in crates outside the repository slice
(`PutMessageStatus`, the request and response headers, `AckMsg`, `ExtraInfoUtil`, the message
setters and constants).  They are modelled here with the fields the processor reads, and the
library functions whose bodies are unknown are parameters.
-/

/-- Modelled from the spec: the store's `PutMessageStatus` is not in the source.  The
processor names the first five variants; the spec adds the hard failures of an append. -/
inductive PutMessageStatus where
  | putOk
  | flushDiskTimeout
  | flushSlaveTimeout
  | slaveNotAvailable
  | serviceNotAvailable
  | createMappedFileFailed
  | messageIllegal
  | propertiesSizeExceeded
  | osPageCacheBusy
  | unknownError
  deriving DecidableEq, Repr

namespace PutMessageStatus

/-- The statuses the processor accepts for a checkpoint (lines 211-214): success and the
degraded-durability variants. -/
def isCheckPointAccepted : PutMessageStatus → Bool
  | .putOk | .flushDiskTimeout | .flushSlaveTimeout | .slaveNotAvailable => true
  | _ => false

/-- The statuses `isCheckPointAccepted` admits: `PutOk` and the three degraded ones. -/
theorem isCheckPointAccepted_eq_true_iff (status : PutMessageStatus) :
    status.isCheckPointAccepted = true ↔
      status = .putOk ∨ status = .flushDiskTimeout ∨ status = .flushSlaveTimeout ∨
        status = .slaveNotAvailable := by
  cases status <;> simp [isCheckPointAccepted]

/-- `{:?}` of a status: its variant name. -/
def debugText : PutMessageStatus → String
  | .putOk => "PutOk"
  | .flushDiskTimeout => "FlushDiskTimeout"
  | .flushSlaveTimeout => "FlushSlaveTimeout"
  | .slaveNotAvailable => "SlaveNotAvailable"
  | .serviceNotAvailable => "ServiceNotAvailable"
  | .createMappedFileFailed => "CreateMappedFileFailed"
  | .messageIllegal => "MessageIllegal"
  | .propertiesSizeExceeded => "PropertiesSizeExceeded"
  | .osPageCacheBusy => "OsPageCacheBusy"
  | .unknownError => "UnknownError"

end PutMessageStatus

/-- The response codes the processor answers with. -/
inductive ResponseCode where
  | success
  | systemError
  | messageIllegal
  | topicNotExist
  | noMessage
  deriving DecidableEq, Repr

/-- `TopicConfig`, by the field the processor reads. -/
structure TopicConfig where
  readQueueNums : U32
  deriving DecidableEq

/-- `ChangeInvisibleTimeRequestHeader`, by the fields the processor reads; the offsets are
`i64` as the store's offsets they are compared with. -/
structure ChangeInvisibleTimeRequestHeader where
  consumerGroup : String
  topic : String
  queueId : I32
  extraInfo : String
  offset : I64
  invisibleTime : I64
  deriving DecidableEq

/-- `ChangeInvisibleTimeResponseHeader`. -/
structure ChangeInvisibleTimeResponseHeader where
  popTime : U64
  reviveQid : I32
  invisibleTime : I64
  deriving DecidableEq

/-- A response `RemotingCommand`, by what the processor sets: its code, its remark and its
custom header. -/
structure RemotingCommand where
  code : ResponseCode
  remark : Option String
  customHeader : Option ChangeInvisibleTimeResponseHeader
  deriving DecidableEq

namespace RemotingCommand

/-- `RemotingCommand::create_response_command_with_code_remark`. -/
def createResponseCommandWithCodeRemark (code : ResponseCode) (remark : String) :
    RemotingCommand :=
  ⟨code, some remark, none⟩

/-- `RemotingCommand::create_response_command_with_header`: a success carrying the header. -/
def createResponseCommandWithHeader (header : ChangeInvisibleTimeResponseHeader) :
    RemotingCommand :=
  ⟨.success, none, some header⟩

end RemotingCommand

/-- `AckMsg`: the acknowledgment of the original delivery. -/
structure AckMsg where
  ackOffset : I64
  startOffset : I64
  consumerGroup : String
  topic : String
  queueId : I32
  popTime : I64
  brokerName : String
  deriving DecidableEq

/-- `std::net::Ipv4Addr`, by its four octets. -/
structure Ipv4Addr where
  a : Unsigned 8
  b : Unsigned 8
  c : Unsigned 8
  d : Unsigned 8
  deriving DecidableEq

/-- `std::net::Ipv6Addr`, by its eight 16-bit segments. -/
structure Ipv6Addr where
  segments : List (Unsigned 16)
  eight : segments.length = 8
  deriving DecidableEq

/-- `std::net::SocketAddrV4`: an IPv4 address and a port. -/
structure SocketAddrV4 where
  ip : Ipv4Addr
  port : Unsigned 16
  deriving DecidableEq

/-- `std::net::SocketAddrV6`: an IPv6 address, a port, the flow label and the scope id. -/
structure SocketAddrV6 where
  ip : Ipv6Addr
  port : Unsigned 16
  flowinfo : Unsigned 32
  scopeId : Unsigned 32
  deriving DecidableEq

/-- `std::net::SocketAddr`. -/
inductive SocketAddr where
  | v4 (addr : SocketAddrV4)
  | v6 (addr : SocketAddrV6)
  deriving DecidableEq

/-- `MessageExtBrokerInner`, by the fields `ack_origin` sets on a default message. -/
structure MessageExtBrokerInner where
  topic : String
  body : List UInt8
  queueId : I32
  properties : HeaderMap
  bornTimestamp : I64
  bornHost : SocketAddr
  storeHost : SocketAddr
  propertiesString : String
  deriving DecidableEq

/-- The names of the message properties `ack_origin` writes (`MessageConst` and the setters
of `MessageTrait` are not in the source): the tags, the timer delay set by
`set_delay_time_ms`, and the unique client message id key.  The three names are distinct. -/
structure MessageConst where
  propertyTags : String
  propertyTimerDelayMs : String
  propertyUniqClientMessageIdKeyidx : String
  tagsNeDelay : propertyTags ≠ propertyTimerDelayMs
  tagsNeUniq : propertyTags ≠ propertyUniqClientMessageIdKeyidx
  delayNeUniq : propertyTimerDelayMs ≠ propertyUniqClientMessageIdKeyidx

/-- `ExtraInfoUtil`, by the functions the processor calls; its source is not in the
repository slice, so every function is a parameter. -/
structure ExtraInfoUtil where
  split : String → Except RocketmqError (List String)
  isOrder : List String → Bool
  getReviveQid : List String → Except RocketmqError I32
  getBrokerName : List String → Except RocketmqError String
  getCkQueueOffset : List String → Except RocketmqError I64
  getPopTime : List String → Except RocketmqError I64
  getInvisibleTime : List String → Except RocketmqError I64

/-- The fields of a text separated at every `separator`. -/
def splitFields (separator : Char) : List Char → List (List Char)
  | [] => [[]]
  | c :: rest =>
      if c = separator then [] :: splitFields separator rest
      else
        match splitFields separator rest with
        | field :: fields => (c :: field) :: fields
        | [] => [[c]]

/-- The `index`-th field of a split extra info. -/
def extraInfoField (fields : List String) (index : Nat) : Except RocketmqError String :=
  match fields.get? index with
  | some field => .ok field
  | none => .error ⟨"extraInfo has too few fields"⟩

/-- A field read as a Rust signed integer. -/
def parseSignedField (text : String) : Except RocketmqError (Signed bits) :=
  match Signed.parse text.toList with
  | .ok value => .ok value
  | .error _ => .error ⟨"extraInfo field is not an integer: " ++ text⟩

/-- Modelled from the spec: `ExtraInfoUtil` over the spec's wire format, a fixed-order
sequence of fields joined by `separator` (the order flag, the revive queue id, the broker
name, the checkpoint queue offset, the pop time and the invisible time); a missing or
unparsable field fails the decode.  The split fails on an empty text and on an order flag
other than `true` or `false`, so `isOrder` reads a flag that decoded. -/
def ExtraInfoUtil.delimited (separator : Char) : ExtraInfoUtil where
  split text :=
    let fields := (splitFields separator text.toList).map String.mk
    if text = "" then .error ⟨"split extraInfo is empty"⟩
    else if fields.head? = some "true" ∨ fields.head? = some "false" then .ok fields
    else .error ⟨"extraInfo order flag is not a boolean"⟩
  isOrder fields := fields.head? = some "true"
  getReviveQid fields := extraInfoField fields 1 >>= parseSignedField
  getBrokerName fields := extraInfoField fields 2
  getCkQueueOffset fields := extraInfoField fields 3 >>= parseSignedField
  getPopTime fields := extraInfoField fields 4 >>= parseSignedField
  getInvisibleTime fields := extraInfoField fields 5 >>= parseSignedField

/-- A required field of the request map. -/
def requiredField (map : HeaderMap) (key : String) : Except String String :=
  match map.get key with
  | some value => .ok value
  | none => .error ("missing header field " ++ key)

/-- A required field of the request map read as a Rust signed integer. -/
def requiredSignedField (map : HeaderMap) (key : String) : Except String (Signed bits) :=
  requiredField map key >>= fun text =>
    match Signed.parse text.toList with
    | .ok value => .ok value
    | .error _ => .error ("header field is not an integer: " ++ key)

/-- Modelled from the spec: the request header decoder (`decode_command_custom_header`) is
not in the source.  It reads the six request fields of the wire map, each required, the
integers as decimal text. -/
def ChangeInvisibleTimeRequestHeader.decode (map : HeaderMap) :
    Except String ChangeInvisibleTimeRequestHeader := do
  let consumerGroup ← requiredField map "consumerGroup"
  let topic ← requiredField map "topic"
  let queueId ← requiredSignedField map "queueId"
  let extraInfo ← requiredField map "extraInfo"
  let offset ← requiredSignedField map "offset"
  let invisibleTime ← requiredSignedField map "invisibleTime"
  pure { consumerGroup, topic, queueId, extraInfo, offset, invisibleTime }

/-- The library code and constants the processor uses whose source is not in the slice. -/
structure Library where
  decodeCommandCustomHeader : HeaderMap → Except String ChangeInvisibleTimeRequestHeader
  extraInfoUtil : ExtraInfoUtil
  applyTopicHint : String
  encodeAckMsg : AckMsg → Except RocketmqError (List UInt8)
  genAckUniqueId : AckMsg → String
  messagePropertiesToString : HeaderMap → String
  ackTag : String
  messageConst : MessageConst

/-- `TopicConfigManager`, by the lookup the processor makes. -/
structure TopicConfigManager where
  selectTopicConfig : String → Option TopicConfig

/-- `MessageStore`, by the two offset queries the processor makes. -/
structure MessageStore where
  getMinOffsetInQueue : String → I32 → I64
  getMaxOffsetInQueue : String → I32 → I64

/-- `PopBufferMergeService`, by its answer to an offered ack. -/
structure PopBufferMergeService where
  addAck : I32 → AckMsg → Bool

/-- `EscapeBridge`, by the status of a put. -/
structure EscapeBridge where
  putMessageToSpecificQueue : MessageExtBrokerInner → PutMessageStatus

/-- `ChangeInvisibleTimeProcessor`, by the fields the request path reads. -/
structure ChangeInvisibleTimeProcessor where
  topicConfigManager : TopicConfigManager
  messageStore : MessageStore
  popBufferMergeService : PopBufferMergeService
  escapeBridge : EscapeBridge
  reviveTopic : String
  storeHost : SocketAddr

/-- The two methods the source leaves `unimplemented!`: the checkpoint append answers a store
status, or panics (`none`); the ordered branch answers like the handler itself. -/
structure PendingMethods where
  appendCheckPoint :
    ChangeInvisibleTimeRequestHeader → I32 → U64 → String → Option PutMessageStatus
  processChangeInvisibleTimeForOrder :
    ChangeInvisibleTimeRequestHeader → List String → Outcome RocketmqError (Option RemotingCommand)

/-- The source's bodies of the two methods: `unimplemented!`, a panic. -/
def PendingMethods.unimplemented : PendingMethods where
  appendCheckPoint _ _ _ _ := none
  processChangeInvisibleTimeForOrder _ _ := .panic

/-- A side effect of the request path, with the answer it got. -/
inductive Effect where
  | appendCheckPoint (requestHeader : ChangeInvisibleTimeRequestHeader) (reviveQid : I32)
      (popTime : U64) (brokerName : String) (status : PutMessageStatus)
  | incBrokerAckNums (incValue : Nat)
  | incGroupAckNums (group topic : String) (incValue : Nat)
  | addAck (reviveQid : I32) (ackMsg : AckMsg) (accepted : Bool)
  | putMessageToSpecificQueue (message : MessageExtBrokerInner) (status : PutMessageStatus)
  deriving DecidableEq

namespace Effect

/-- The checkpoint status an effect reports, if it is a checkpoint append. -/
def checkPointStatus? : Effect → Option PutMessageStatus
  | .appendCheckPoint _ _ _ _ status => some status
  | _ => none

/-- The message an effect puts to the revive topic, if it is such a put. -/
def revivePut? : Effect → Option MessageExtBrokerInner
  | .putMessageToSpecificQueue message _ => some message
  | _ => none

/-- An effect of the acknowledgment pipeline: a counter, an offer or a revive-topic put. -/
def IsAck : Effect → Prop
  | .appendCheckPoint .. => False
  | _ => True

instance : DecidablePred IsAck := fun effect => by
  cases effect <;> simp only [IsAck] <;> infer_instance

end Effect

/-- A run of request-path code: its side effects in order, and how it ended. -/
structure Run (α : Type) where
  effects : List Effect
  outcome : Outcome RocketmqError α

namespace Run

/-- Sequencing: the second part runs only when the first returned a value. -/
def bind (run : Run α) (next : α → Run β) : Run β :=
  match run.outcome with
  | .ok value => ⟨run.effects ++ (next value).effects, (next value).outcome⟩
  | .err error => ⟨run.effects, .err error⟩
  | .panic => ⟨run.effects, .panic⟩

instance : Monad Run where
  pure value := ⟨[], .ok value⟩
  bind := bind

/-- Record one side effect. -/
def emit (effect : Effect) : Run Unit :=
  ⟨[effect], .ok ()⟩

/-- An outcome with no side effects. -/
def lift (outcome : Outcome RocketmqError α) : Run α :=
  ⟨[], outcome⟩

/-- `?` on a library `Result`. -/
def ofExcept (result : Except RocketmqError α) : Run α :=
  lift (Outcome.ofExcept result)

/-- `if let Err(e) = call { error!(..) }`: an `Err` is logged and dropped, a panic is not
caught. -/
def logErr (run : Run Unit) : Run Unit :=
  ⟨run.effects, match run.outcome with
    | .panic => .panic
    | _ => .ok ()⟩

@[simp] theorem pure_effects (value : α) : (pure value : Run α).effects = [] := rfl

@[simp] theorem pure_outcome (value : α) : (pure value : Run α).outcome = .ok value := rfl

@[simp] theorem bind_effects (run : Run α) (next : α → Run β) :
    (run >>= next).effects = run.effects ++ match run.outcome with
      | .ok value => (next value).effects
      | _ => [] := by
  show (bind run next).effects = _
  unfold bind
  split <;> simp_all

@[simp] theorem bind_outcome (run : Run α) (next : α → Run β) :
    (run >>= next).outcome = run.outcome >>= fun value => (next value).outcome := by
  show (bind run next).outcome = _
  unfold bind
  split <;> simp_all

@[simp] theorem emit_effects (effect : Effect) : (emit effect).effects = [effect] := rfl

@[simp] theorem emit_outcome (effect : Effect) : (emit effect).outcome = .ok () := rfl

@[simp] theorem lift_effects (outcome : Outcome RocketmqError α) :
    (lift outcome).effects = [] := rfl

@[simp] theorem lift_outcome (outcome : Outcome RocketmqError α) :
    (lift outcome).outcome = outcome := rfl

@[simp] theorem ofExcept_effects (result : Except RocketmqError α) :
    (ofExcept result).effects = [] := rfl

@[simp] theorem ofExcept_outcome (result : Except RocketmqError α) :
    (ofExcept result).outcome = Outcome.ofExcept result := rfl

@[simp] theorem logErr_effects (run : Run Unit) : (logErr run).effects = run.effects := rfl

@[simp] theorem mk_ok_bind (effects : List Effect) (value : α) (next : α → Run β) :
    ((⟨effects, .ok value⟩ : Run α) >>= next) =
      ⟨effects ++ (next value).effects, (next value).outcome⟩ := rfl

@[simp] theorem mk_err_bind (effects : List Effect) (error : RocketmqError)
    (next : α → Run β) :
    ((⟨effects, .err error⟩ : Run α) >>= next) = ⟨effects, .err error⟩ := rfl

@[simp] theorem mk_panic_bind (effects : List Effect) (next : α → Run β) :
    ((⟨effects, .panic⟩ : Run α) >>= next) = ⟨effects, .panic⟩ := rfl

@[simp] theorem pure_bind (value : α) (next : α → Run β) :
    ((pure value : Run α) >>= next) = next value := rfl

@[simp] theorem emit_bind (effect : Effect) (next : Unit → Run β) :
    (emit effect >>= next) = ⟨effect :: (next ()).effects, (next ()).outcome⟩ := rfl

@[simp] theorem lift_ok_bind (value : α) (next : α → Run β) :
    (lift (.ok value) >>= next) = next value := rfl

@[simp] theorem lift_err_bind (error : RocketmqError) (next : α → Run β) :
    (lift (.err error) >>= next) = lift (.err error) := rfl

@[simp] theorem lift_panic_bind (next : α → Run β) :
    ((lift .panic : Run α) >>= next) = lift .panic := rfl

@[simp] theorem ofExcept_ok_bind (value : α) (next : α → Run β) :
    (ofExcept (.ok value) >>= next) = next value := rfl

@[simp] theorem ofExcept_error_bind (error : RocketmqError) (next : α → Run β) :
    (ofExcept (.error error) >>= next) = lift (.err error) := rfl

end Run

end RocketMQ
