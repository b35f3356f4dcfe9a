import RocketMQ.RustCore

namespace RocketMQ

/-!
# The query-consumer-offset request header and its string map

A request header travels as a string-keyed map.  `to_map` writes one key per present field
and merges the embedded topic sub-header's own map into it; `FromMap::from` reads the keys
back, with a default for an absent consumer group, topic or queue id.

The queue id is written with `i32::to_string` and read with `str::parse::<i32>`, and the
decoder unwraps the parse: a queue id text that is not an `i32` panics instead of returning
an `Err`, while a malformed `setZeroIfNotFound` decodes to `None`.  When the sub-header
round-trips on its own and stays off the four keys of this header, the whole header
round-trips.
-/

/-- The newest binding of `key` in a list of bindings. -/
def lookupBinding : List (String × String) → String → Option String
  | [], _ => none
  | (name, value) :: rest, key => if name = key then some value else lookupBinding rest key

theorem lookupBinding_append_of_none {first : List (String × String)} {key : String}
    (second : List (String × String)) (absent : lookupBinding first key = none) :
    lookupBinding (first ++ second) key = lookupBinding second key := by
  induction first with
  | nil =>
      rfl
  | cons binding rest inductionHypothesis =>
      obtain ⟨name, value⟩ := binding
      by_cases sameKey : name = key
      · simp [lookupBinding, sameKey] at absent
      · simp only [lookupBinding, sameKey, if_false, List.cons_append] at absent ⊢
        exact inductionHypothesis absent

theorem lookupBinding_append_of_some {first : List (String × String)} {key value : String}
    (second : List (String × String)) (present : lookupBinding first key = some value) :
    lookupBinding (first ++ second) key = some value := by
  induction first with
  | nil =>
      simp [lookupBinding] at present
  | cons binding rest inductionHypothesis =>
      obtain ⟨name, bound⟩ := binding
      by_cases sameKey : name = key
      · simpa [lookupBinding, sameKey] using present
      · simp only [lookupBinding, sameKey, if_false, List.cons_append] at present ⊢
        exact inductionHypothesis present

/-- A `HashMap<CheetahString, CheetahString>` as its bindings, the newest first. -/
structure HeaderMap where
  bindings : List (String × String)
  deriving DecidableEq, Repr

namespace HeaderMap

/-- The empty map. -/
def empty : HeaderMap :=
  ⟨[]⟩

/-- `HashMap::get`: the newest binding of `key`. -/
def get (map : HeaderMap) (key : String) : Option String :=
  lookupBinding map.bindings key

/-- `HashMap::insert`. -/
def insert (map : HeaderMap) (key value : String) : HeaderMap :=
  ⟨(key, value) :: map.bindings⟩

/-- `HashMap::extend`: every binding of `other` overrides `map`. -/
def extend (map other : HeaderMap) : HeaderMap :=
  ⟨other.bindings ++ map.bindings⟩

@[simp] theorem get_empty (key : String) : empty.get key = none := rfl

@[simp] theorem get_insert (map : HeaderMap) (name value key : String) :
    (map.insert name value).get key = if name = key then some value else map.get key := rfl

/-- Extending with a map that lacks `key` keeps the binding of `key`. -/
theorem get_extend_of_none {other : HeaderMap} {key : String} (map : HeaderMap)
    (absent : other.get key = none) :
    (map.extend other).get key = map.get key :=
  lookupBinding_append_of_none map.bindings absent

/-- A binding of `key` in an extending map wins. -/
theorem get_extend_of_some {other : HeaderMap} {key value : String} (map : HeaderMap)
    (present : other.get key = some value) :
    (map.extend other).get key = some value :=
  lookupBinding_append_of_some map.bindings present

end HeaderMap

/-- Modelled from the spec: `RpcRequestHeader`, the generic routing part of the embedded
sub-header, is not in the source.  Its fields are the ones the source reads (namespace,
namespaced, broker name, oneway), each optional, each under its own key; absent or
malformed values decode to unset. -/
structure RpcRequestHeader where
  «namespace» : Option String
  namespaced : Option Bool
  brokerName : Option String
  oneway : Option Bool
  deriving DecidableEq, Repr

namespace RpcRequestHeader

/-- The map keys of the routing fields. -/
def keys : List String :=
  ["namespace", "namespaced", "brokerName", "oneway"]

/-- Insert an optional text field. -/
def insertText (map : HeaderMap) (key : String) : Option String → HeaderMap
  | some value => map.insert key value
  | none => map

/-- Insert an optional flag, printed with `bool::to_string`. -/
def insertFlag (map : HeaderMap) (key : String) : Option Bool → HeaderMap
  | some value => map.insert key (boolText value)
  | none => map

/-- Read an optional flag; a malformed value is unset. -/
def readFlag (map : HeaderMap) (key : String) : Option Bool :=
  (map.get key).bind fun value => (parseBool value).toOption

/-- `CommandCustomHeader::to_map`. -/
def toMap (header : RpcRequestHeader) : Option HeaderMap :=
  some (insertFlag (insertText (insertFlag (insertText .empty "namespace" header.namespace)
    "namespaced" header.namespaced) "brokerName" header.brokerName) "oneway" header.oneway)

/-- `FromMap::from`. -/
def fromMap (map : HeaderMap) : Except RocketmqError RpcRequestHeader :=
  .ok { «namespace» := map.get "namespace"
        namespaced := readFlag map "namespaced"
        brokerName := map.get "brokerName"
        oneway := readFlag map "oneway" }

/-- The decoder reads only the routing keys. -/
theorem fromMap_congr {map other : HeaderMap}
    (sameKeys : ∀ key ∈ keys, map.get key = other.get key) :
    fromMap map = fromMap other := by
  simp only [keys, List.mem_cons, List.mem_singleton, forall_eq_or_imp, forall_eq,
    List.not_mem_nil, or_false] at sameKeys
  simp [fromMap, readFlag, sameKeys]

end RpcRequestHeader

/-- Modelled from the spec: `TopicRequestHeader`, the sub-header embedded in the request
header, is not in the source.  Its fields are the ones the source reads: the `lo` flag and the
routing header `rpc`, which is decoded from the same map. -/
structure TopicRequestHeader where
  lo : Option Bool
  rpc : Option RpcRequestHeader
  deriving DecidableEq, Repr

namespace TopicRequestHeader

/-- The map keys the sub-header reads. -/
def keys : List String :=
  "lo" :: RpcRequestHeader.keys

/-- `CommandCustomHeader::to_map`: the `lo` flag, extended with the routing header's map. -/
def toMap (header : TopicRequestHeader) : Option HeaderMap :=
  let map := RpcRequestHeader.insertFlag .empty "lo" header.lo
  match header.rpc.bind RpcRequestHeader.toMap with
  | some rpcMap => some (map.extend rpcMap)
  | none => some map

/-- `FromMap::from`: `rpc` is always decoded, so it is never `None`. -/
def fromMap (map : HeaderMap) : Except RocketmqError TopicRequestHeader := do
  let rpc ← RpcRequestHeader.fromMap map
  pure { lo := RpcRequestHeader.readFlag map "lo", rpc := some rpc }

/-- The decoder never fails: every field is optional. -/
theorem fromMap_eq (map : HeaderMap) :
    fromMap map = .ok { lo := RpcRequestHeader.readFlag map "lo"
                        rpc := some { «namespace» := map.get "namespace"
                                      namespaced := RpcRequestHeader.readFlag map "namespaced"
                                      brokerName := map.get "brokerName"
                                      oneway := RpcRequestHeader.readFlag map "oneway" } } :=
  rfl

/-- The decoder reads only its own keys. -/
theorem fromMap_congr {map other : HeaderMap}
    (sameKeys : ∀ key ∈ keys, map.get key = other.get key) :
    fromMap map = fromMap other := by
  have loSame : map.get "lo" = other.get "lo" := sameKeys "lo" (by simp [keys])
  have rpcSame := RpcRequestHeader.fromMap_congr fun key member =>
    sameKeys key (List.mem_cons_of_mem _ member)
  simp [fromMap, RpcRequestHeader.readFlag, loSame, rpcSame]

end TopicRequestHeader

/-- `QueryConsumerOffsetRequestHeader`. -/
structure QueryConsumerOffsetRequestHeader where
  consumerGroup : String
  topic : String
  queueId : I32
  setZeroIfNotFound : Option Bool
  topicRequestHeader : Option TopicRequestHeader
  deriving DecidableEq

namespace QueryConsumerOffsetRequestHeader

/-- `CONSUMER_GROUP`. -/
def consumerGroupKey : String := "consumerGroup"

/-- `TOPIC`. -/
def topicKey : String := "topic"

/-- `QUEUE_ID`. -/
def queueIdKey : String := "queueId"

/-- `SET_ZERO_IF_NOT_FOUND`. -/
def setZeroIfNotFoundKey : String := "setZeroIfNotFound"

/-- The four keys of the header's own fields. -/
def keys : List String :=
  [consumerGroupKey, topicKey, queueIdKey, setZeroIfNotFoundKey]

/-- The header's own fields as a map, before the sub-header is merged in. -/
def ownMap (header : QueryConsumerOffsetRequestHeader) : HeaderMap :=
  RpcRequestHeader.insertFlag
    (((HeaderMap.empty.insert consumerGroupKey header.consumerGroup).insert topicKey
      header.topic).insert queueIdKey (String.mk header.queueId.toText))
    setZeroIfNotFoundKey header.setZeroIfNotFound

/-- `CommandCustomHeader::to_map`. -/
def toMap (header : QueryConsumerOffsetRequestHeader) : Option HeaderMap :=
  match header.topicRequestHeader.bind TopicRequestHeader.toMap with
  | some subMap => some ((ownMap header).extend subMap)
  | none => some (ownMap header)

/-- `map_or(0, |value| value.parse::<i32>().unwrap())` on the queue id binding. -/
def decodeQueueId : Option String → Outcome RocketmqError I32
  | none => .ok Signed.zero
  | some value => Outcome.unwrap (Signed.parse value.toList)

/-- `FromMap::from`.  The struct literal evaluates its fields in order, so the queue id is
parsed before the sub-header is decoded. -/
def fromMap (map : HeaderMap) : Outcome RocketmqError QueryConsumerOffsetRequestHeader := do
  let queueId ← decodeQueueId (map.get queueIdKey)
  let topicRequestHeader ← Outcome.ofExcept (TopicRequestHeader.fromMap map)
  pure { consumerGroup := (map.get consumerGroupKey).getD ""
         topic := (map.get topicKey).getD ""
         queueId := queueId
         setZeroIfNotFound := RpcRequestHeader.readFlag map setZeroIfNotFoundKey
         topicRequestHeader := some topicRequestHeader }

/-- The header's own map binds each of its keys to the field's text. -/
theorem ownMap_get (header : QueryConsumerOffsetRequestHeader) :
    (ownMap header).get consumerGroupKey = some header.consumerGroup ∧
      (ownMap header).get topicKey = some header.topic ∧
      (ownMap header).get queueIdKey = some (String.mk header.queueId.toText) ∧
      (ownMap header).get setZeroIfNotFoundKey = header.setZeroIfNotFound.map boolText := by
  cases flag : header.setZeroIfNotFound <;>
    simp [ownMap, RpcRequestHeader.insertFlag, flag, consumerGroupKey, topicKey, queueIdKey,
      setZeroIfNotFoundKey]

/-- The header's own map leaves the sub-header's keys unbound. -/
theorem ownMap_get_subHeaderKey (header : QueryConsumerOffsetRequestHeader) :
    ∀ key ∈ TopicRequestHeader.keys, (ownMap header).get key = none := by
  cases flag : header.setZeroIfNotFound <;>
    simp [ownMap, RpcRequestHeader.insertFlag, flag, consumerGroupKey, topicKey, queueIdKey,
      setZeroIfNotFoundKey, TopicRequestHeader.keys, RpcRequestHeader.keys]

/-- A sub-header map merged over the own map reads, on the sub-header's keys, as itself. -/
theorem get_extend_subHeaderKey (header : QueryConsumerOffsetRequestHeader)
    (subMap : HeaderMap) :
    ∀ key ∈ TopicRequestHeader.keys, ((ownMap header).extend subMap).get key = subMap.get key := by
  intro key member
  cases bound : subMap.get key with
  | none =>
      rw [HeaderMap.get_extend_of_none _ bound, ownMap_get_subHeaderKey header key member]
  | some value =>
      exact HeaderMap.get_extend_of_some _ bound

/-- Round trip: when the embedded sub-header round-trips through its own map and binds none of
this header's keys, decoding the header's map gives the header back, for every text field and
every `i32` queue id. -/
theorem fromMap_toMap (header : QueryConsumerOffsetRequestHeader)
    (subHeader : TopicRequestHeader) (subMap : HeaderMap)
    (embedded : header.topicRequestHeader = some subHeader)
    (subEncodes : subHeader.toMap = some subMap)
    (subRoundTrip : TopicRequestHeader.fromMap subMap = .ok subHeader)
    (subDisjoint : ∀ key ∈ keys, subMap.get key = none) :
    ∃ map, header.toMap = some map ∧ fromMap map = .ok header := by
  refine ⟨(ownMap header).extend subMap, by simp [toMap, embedded, subEncodes], ?_⟩
  obtain ⟨groupBound, topicBound, queueBound, flagBound⟩ := ownMap_get header
  have keep : ∀ key ∈ keys, ((ownMap header).extend subMap).get key = (ownMap header).get key :=
    fun key member => HeaderMap.get_extend_of_none _ (subDisjoint key member)
  have subDecodes : TopicRequestHeader.fromMap ((ownMap header).extend subMap) = .ok subHeader :=
    (TopicRequestHeader.fromMap_congr (get_extend_subHeaderKey header subMap)).trans subRoundTrip
  have flagRead : RpcRequestHeader.readFlag ((ownMap header).extend subMap) setZeroIfNotFoundKey =
      header.setZeroIfNotFound := by
    cases flag : header.setZeroIfNotFound <;>
      simp [RpcRequestHeader.readFlag, keep setZeroIfNotFoundKey (by simp [keys]), flagBound, flag,
        Except.toOption]
  simp only [fromMap, keep queueIdKey (by simp [keys]), queueBound, decodeQueueId,
    String.toList, Signed.parse_toText, Outcome.unwrap_ok, Outcome.ok_bind, subDecodes,
    Outcome.ofExcept_ok, keep consumerGroupKey (by simp [keys]), groupBound,
    keep topicKey (by simp [keys]), topicBound, flagRead, ← embedded,
    Option.getD_some, Outcome.pure_eq]

/-- The round trip at the least `i32`, with a sub-header that sets a flag and a broker name. -/
theorem fromMap_toMap_minQueueId :
    let subHeader : TopicRequestHeader := ⟨some true, some ⟨none, none, some "broker-a", some false⟩⟩
    let subMap : HeaderMap := ⟨[("oneway", "false"), ("brokerName", "broker-a"), ("lo", "true")]⟩
    let header : QueryConsumerOffsetRequestHeader :=
      ⟨"group", "topic", ⟨-2147483648, by decide⟩, none, some subHeader⟩
    header.topicRequestHeader = some subHeader ∧ subHeader.toMap = some subMap ∧
      TopicRequestHeader.fromMap subMap = .ok subHeader ∧ (∀ key ∈ keys, subMap.get key = none) ∧
      ∃ map, header.toMap = some map ∧ fromMap map = .ok header :=
  ⟨rfl, rfl, rfl, by decide,
    fromMap_toMap _ _ _ rfl rfl rfl (by decide)⟩

/-- The decoder reads only the header's own keys and the sub-header's: two maps that agree on
them decode alike, a panic included, whatever else they bind. -/
theorem fromMap_readsOwnKeys {map other : HeaderMap}
    (sameKeys : ∀ key ∈ keys ++ TopicRequestHeader.keys, map.get key = other.get key) :
    fromMap map = fromMap other := by
  have own : ∀ key ∈ keys, map.get key = other.get key :=
    fun key member => sameKeys key (List.mem_append_left _ member)
  have subSame := TopicRequestHeader.fromMap_congr fun key member =>
    sameKeys key (List.mem_append_right _ member)
  simp only [keys, List.mem_cons, List.mem_singleton, forall_eq_or_imp, forall_eq,
    List.not_mem_nil, or_false] at own
  obtain ⟨groupSame, topicSame, queueSame, flagSame⟩ := own
  simp only [fromMap, groupSame, topicSame, queueSame, RpcRequestHeader.readFlag, flagSame,
    subSame]

/-- A binding the header does not read, such as a request code, changes nothing. -/
theorem fromMap_readsOwnKeys_foreignKey :
    (∀ key ∈ keys ++ TopicRequestHeader.keys,
        (HeaderMap.empty.insert "code" "1").get key = HeaderMap.empty.get key) ∧
      fromMap (HeaderMap.empty.insert "code" "1") = fromMap HeaderMap.empty :=
  have sameKeys : ∀ key ∈ keys ++ TopicRequestHeader.keys,
      (HeaderMap.empty.insert "code" "1").get key = HeaderMap.empty.get key := by decide
  ⟨sameKeys, fromMap_readsOwnKeys sameKeys⟩

/-- A non-numeric queue id makes the decoder panic in `unwrap` rather than return an `Err`. -/
theorem fromMap_nonNumericQueueId_panics :
    fromMap (HeaderMap.empty.insert queueIdKey "abc") = .panic := by
  decide

/-! ## The accessors of `TopicRequestHeaderTrait`

The accessors of the routing fields reach them through two `unwrap`s, of the sub-header and of
its routing header; `lo` through one.  They are one getter and one setter, each applied to its
field.
-/

/-- A routing-field getter: `self.topic_request_header.as_ref().unwrap().rpc.as_ref().unwrap()`
and then the field; a panic when either is `None`. -/
def getRpcField (field : RpcRequestHeader → α) (header : QueryConsumerOffsetRequestHeader) :
    Outcome RocketmqError α :=
  match header.topicRequestHeader with
  | some ⟨_, some rpc⟩ => .ok (field rpc)
  | _ => .panic

/-- A routing-field setter through `as_mut().unwrap()` twice. -/
def setRpcField (update : RpcRequestHeader → RpcRequestHeader)
    (header : QueryConsumerOffsetRequestHeader) :
    Outcome RocketmqError QueryConsumerOffsetRequestHeader :=
  match header.topicRequestHeader with
  | some ⟨lo, some rpc⟩ => .ok { header with topicRequestHeader := some ⟨lo, some (update rpc)⟩ }
  | _ => .panic

/-- `broker_name`. -/
def brokerName (header : QueryConsumerOffsetRequestHeader) : Outcome RocketmqError (Option String) :=
  getRpcField RpcRequestHeader.brokerName header

/-- `set_broker_name`. -/
def setBrokerName (header : QueryConsumerOffsetRequestHeader) (brokerName : String) :
    Outcome RocketmqError QueryConsumerOffsetRequestHeader :=
  setRpcField (fun rpc => { rpc with brokerName := some brokerName }) header

/-- `namespace`. -/
def «namespace» (header : QueryConsumerOffsetRequestHeader) :
    Outcome RocketmqError (Option String) :=
  getRpcField RpcRequestHeader.namespace header

/-- `set_namespace`. -/
def setNamespace (header : QueryConsumerOffsetRequestHeader) («namespace» : String) :
    Outcome RocketmqError QueryConsumerOffsetRequestHeader :=
  setRpcField (fun rpc => { rpc with «namespace» := some «namespace» }) header

/-- `namespaced`. -/
def namespaced (header : QueryConsumerOffsetRequestHeader) : Outcome RocketmqError (Option Bool) :=
  getRpcField RpcRequestHeader.namespaced header

/-- `set_namespaced`. -/
def setNamespaced (header : QueryConsumerOffsetRequestHeader) (namespaced : Bool) :
    Outcome RocketmqError QueryConsumerOffsetRequestHeader :=
  setRpcField (fun rpc => { rpc with namespaced := some namespaced }) header

/-- `oneway`. -/
def oneway (header : QueryConsumerOffsetRequestHeader) : Outcome RocketmqError (Option Bool) :=
  getRpcField RpcRequestHeader.oneway header

/-- `set_oneway`. -/
def setOneway (header : QueryConsumerOffsetRequestHeader) (oneway : Bool) :
    Outcome RocketmqError QueryConsumerOffsetRequestHeader :=
  setRpcField (fun rpc => { rpc with oneway := some oneway }) header

/-- `lo`: one `unwrap`, of the sub-header. -/
def lo (header : QueryConsumerOffsetRequestHeader) : Outcome RocketmqError (Option Bool) :=
  match header.topicRequestHeader with
  | some topicHeader => .ok topicHeader.lo
  | none => .panic

/-- `set_lo`. -/
def setLo (header : QueryConsumerOffsetRequestHeader) (lo : Option Bool) :
    Outcome RocketmqError QueryConsumerOffsetRequestHeader :=
  match header.topicRequestHeader with
  | some topicHeader => .ok { header with topicRequestHeader := some { topicHeader with lo := lo } }
  | none => .panic

/-- `set_topic`; `topic` is the field. -/
def setTopic (header : QueryConsumerOffsetRequestHeader) (topic : String) :
    QueryConsumerOffsetRequestHeader :=
  { header with topic := topic }

/-- `set_queue_id`; `queue_id` is the field. -/
def setQueueId (header : QueryConsumerOffsetRequestHeader) (queueId : I32) :
    QueryConsumerOffsetRequestHeader :=
  { header with queueId := queueId }

end QueryConsumerOffsetRequestHeader

end RocketMQ
