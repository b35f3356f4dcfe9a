import RocketMQ.SocketHost
import RocketMQ.WriteAhead

namespace RocketMQ

/-!
# The store host of the processor

`ChangeInvisibleTimeProcessor::new` prints the configured broker address and listen port with
`format!("{}:{}")`, parses the text back with `str::parse::<SocketAddr>` and unwraps the
result; every durable ack message then carries that socket address as its born host and its
store host.

Over the `std::net` model of `NetAddr` this module relates the configuration to the processor
built from it.  An IPv4 address, read or printed, builds the socket address of the address and
the port exactly when the port fits in `u16`, and panics otherwise.  An IPv6 address has a colon
and no bracket, while the socket parser reads an IPv6 address only in brackets, so the
constructor panics on every IPv6 address and every port.  Both are cases of the whole condition:
`new` never returns an `Err`; it builds the processor exactly when the port fits in `u16` and the
address gives a socket address before `:port`, an IPv4 one or a bracketed IPv6 one with the
scope id it has, and panics otherwise.  Last, every revive-topic put of every request is stamped
with the processor's store host, whatever the collaborators answer.
-/

/-- The fields of `BrokerConfig` that `new` reads. -/
structure BrokerConfig where
  brokerClusterName : String
  brokerIp1 : String
  listenPort : U32

/-- Lines 70-98, `new`: the revive topic of the cluster, and the store host parsed from the
printed address and port, unwrapped.  `PopAckConstants::build_cluster_revive_topic` is a
parameter; the managers the processor only stores are left out. -/
def ChangeInvisibleTimeProcessor.new (buildClusterReviveTopic : String → String)
    (brokerConfig : BrokerConfig) (topicConfigManager : TopicConfigManager)
    (messageStore : MessageStore) (popBufferMergeService : PopBufferMergeService)
    (escapeBridge : EscapeBridge) : Outcome RocketmqError ChangeInvisibleTimeProcessor := do
  let reviveTopic := buildClusterReviveTopic brokerConfig.brokerClusterName
  let storeHost ← Outcome.unwrap
    (SocketAddr.fromStr (brokerConfig.brokerIp1 ++ ":" ++ toString brokerConfig.listenPort))
  pure {
    topicConfigManager := topicConfigManager
    messageStore := messageStore
    popBufferMergeService := popBufferMergeService
    escapeBridge := escapeBridge
    reviveTopic := reviveTopic
    storeHost := storeHost }

section Construction

variable (buildClusterReviveTopic : String → String) (topicConfigManager : TopicConfigManager)
  (messageStore : MessageStore) (popBufferMergeService : PopBufferMergeService)
  (escapeBridge : EscapeBridge)

/-- `new` builds the processor when the printed address parses. -/
theorem new_of_parsed {brokerConfig : BrokerConfig} {storeHost : SocketAddr}
    (parsed : SocketAddr.fromStr (brokerConfig.brokerIp1 ++ ":" ++ toString brokerConfig.listenPort)
      = .ok storeHost) :
    ChangeInvisibleTimeProcessor.new buildClusterReviveTopic brokerConfig topicConfigManager
        messageStore popBufferMergeService escapeBridge =
      .ok
        { topicConfigManager := topicConfigManager, messageStore := messageStore,
          popBufferMergeService := popBufferMergeService, escapeBridge := escapeBridge,
          reviveTopic := buildClusterReviveTopic brokerConfig.brokerClusterName,
          storeHost := storeHost } := by
  simp only [ChangeInvisibleTimeProcessor.new, parsed, Outcome.unwrap_ok, Outcome.ok_bind,
    Outcome.pure_eq]

/-- `new` panics when the printed address does not parse. -/
theorem new_of_unparsed {brokerConfig : BrokerConfig} {error : AddrParseError}
    (unparsed : SocketAddr.fromStr (brokerConfig.brokerIp1 ++ ":" ++ toString brokerConfig.listenPort)
      = .error error) :
    ChangeInvisibleTimeProcessor.new buildClusterReviveTopic brokerConfig topicConfigManager
      messageStore popBufferMergeService escapeBridge = .panic := by
  simp only [ChangeInvisibleTimeProcessor.new, unparsed, Outcome.unwrap_error, Outcome.panic_bind]

/-- `new` panics on an address with a colon that does not open a bracket, whatever the port. -/
theorem new_of_colon {brokerConfig : BrokerConfig} (hasColon : ':' ∈ brokerConfig.brokerIp1.toList)
    (noBracket : brokerConfig.brokerIp1.toList.head? ≠ some '[') :
    ChangeInvisibleTimeProcessor.new buildClusterReviveTopic brokerConfig topicConfigManager
      messageStore popBufferMergeService escapeBridge = .panic :=
  new_of_unparsed buildClusterReviveTopic topicConfigManager messageStore popBufferMergeService
    escapeBridge (SocketAddr.fromStr_of_colon hasColon noBracket)

/-- On an IPv4 address, read or printed, `new` builds the processor whose store host is the
address and the listen port exactly when the port fits in `u16`, and panics otherwise. -/
theorem ChangeInvisibleTimeProcessor.new_ipv4 {brokerConfig : BrokerConfig} {ip : Ipv4Addr}
    (ipv4Text : Ipv4Addr.fromStr brokerConfig.brokerIp1 = .ok ip ∨
      brokerConfig.brokerIp1.toList = ip.toText) :
    ChangeInvisibleTimeProcessor.new buildClusterReviveTopic brokerConfig topicConfigManager
        messageStore popBufferMergeService escapeBridge =
      if fits : brokerConfig.listenPort.val < 2 ^ 16 then
        .ok
          { topicConfigManager := topicConfigManager, messageStore := messageStore,
            popBufferMergeService := popBufferMergeService, escapeBridge := escapeBridge,
            reviveTopic := buildClusterReviveTopic brokerConfig.brokerClusterName,
            storeHost := .v4 ⟨ip, ⟨brokerConfig.listenPort.val, fits⟩⟩ }
      else .panic := by
  have parsed : Ipv4Addr.fromStr brokerConfig.brokerIp1 = .ok ip := by
    rcases ipv4Text with parsed | printed
    · exact parsed
    · rw [show brokerConfig.brokerIp1 = ⟨ip.toText⟩ from String.ext printed]
      exact ip.fromStr_toText
  have socket := SocketAddr.fromStr_ipv4 parsed brokerConfig.listenPort.val
  split_ifs at socket ⊢
  · exact new_of_parsed buildClusterReviveTopic topicConfigManager messageStore
      popBufferMergeService escapeBridge socket
  · exact new_of_unparsed buildClusterReviveTopic topicConfigManager messageStore
      popBufferMergeService escapeBridge socket

/-- `new` panics on every IPv6 address, read or printed, and every port. -/
theorem ChangeInvisibleTimeProcessor.new_ipv6_panics {brokerConfig : BrokerConfig}
    (ipv6Text : (∃ ip, Ipv6Addr.fromStr brokerConfig.brokerIp1 = .ok ip) ∨
      ∃ ip : Ipv6Addr, brokerConfig.brokerIp1.toList = ip.toText) :
    ChangeInvisibleTimeProcessor.new buildClusterReviveTopic brokerConfig topicConfigManager
      messageStore popBufferMergeService escapeBridge = .panic := by
  have colonNoBracket : ':' ∈ brokerConfig.brokerIp1.toList ∧
      brokerConfig.brokerIp1.toList.head? ≠ some '[' := by
    rcases ipv6Text with ⟨ip, parsed⟩ | ⟨ip, printed⟩
    · exact Ipv6Addr.fromStr_colon parsed
    · rw [printed]
      exact ip.toText_colon
  exact new_of_colon buildClusterReviveTopic topicConfigManager messageStore
    popBufferMergeService escapeBridge colonNoBracket.1 colonNoBracket.2

/-- The printed address and port parse as a socket address exactly when the port fits in `u16`
and the address gives that socket address with the port. -/
theorem fromStr_storeHost_iff (brokerConfig : BrokerConfig) (storeHost : SocketAddr) :
    SocketAddr.fromStr (brokerConfig.brokerIp1 ++ ":" ++ toString brokerConfig.listenPort) =
        .ok storeHost ↔
      ∃ fits : brokerConfig.listenPort.val < 2 ^ 16,
        SocketHost brokerConfig.brokerIp1.toList ⟨brokerConfig.listenPort.val, fits⟩ storeHost := by
  rw [SocketAddr.fromStr, AddrParser.parseWith_eq_ok_iff,
    show (brokerConfig.brokerIp1 ++ ":" ++ toString brokerConfig.listenPort).toList =
        brokerConfig.brokerIp1.toList ++ ':' :: decimalDigits brokerConfig.listenPort.val by
      simp [String.toList, toString, Unsigned.toText]]
  exact AddrParser.readSocketAddr_hostPort_iff

/-- `new` builds a processor exactly when the listen port fits in `u16` and the configured
address gives a socket address with it: an IPv4 address, or a bracketed IPv6 address with a
flow label of zero and the scope id it has, zero when it has none.  The processor then has the
cluster's revive topic and that socket address as its store host. -/
theorem ChangeInvisibleTimeProcessor.new_eq_ok_iff {brokerConfig : BrokerConfig}
    {processor : ChangeInvisibleTimeProcessor} :
    ChangeInvisibleTimeProcessor.new buildClusterReviveTopic brokerConfig topicConfigManager
        messageStore popBufferMergeService escapeBridge = .ok processor ↔
      ∃ (fits : brokerConfig.listenPort.val < 2 ^ 16) (storeHost : SocketAddr),
        SocketHost brokerConfig.brokerIp1.toList ⟨brokerConfig.listenPort.val, fits⟩ storeHost ∧
          processor =
            { topicConfigManager := topicConfigManager, messageStore := messageStore,
              popBufferMergeService := popBufferMergeService, escapeBridge := escapeBridge,
              reviveTopic := buildClusterReviveTopic brokerConfig.brokerClusterName,
              storeHost := storeHost } := by
  cases parsed : SocketAddr.fromStr
      (brokerConfig.brokerIp1 ++ ":" ++ toString brokerConfig.listenPort) with
  | error error =>
      rw [new_of_unparsed buildClusterReviveTopic topicConfigManager messageStore
        popBufferMergeService escapeBridge parsed]
      refine ⟨fun panics => (nomatch panics), fun ⟨fits, storeHost, host, _⟩ => ?_⟩
      cases parsed.symm.trans ((fromStr_storeHost_iff brokerConfig _).mpr ⟨fits, host⟩)
  | ok storeHost =>
      rw [new_of_parsed buildClusterReviveTopic topicConfigManager messageStore
        popBufferMergeService escapeBridge parsed]
      obtain ⟨fits, host⟩ := (fromStr_storeHost_iff brokerConfig storeHost).mp parsed
      constructor
      · rintro ⟨⟩
        exact ⟨fits, storeHost, host, rfl⟩
      · rintro ⟨fits', other, otherHost, rfl⟩
        cases parsed.symm.trans ((fromStr_storeHost_iff brokerConfig _).mpr ⟨fits', otherHost⟩)
        rfl

/-- `new` never returns an `Err`, and it panics exactly when the listen port does not fit in
`u16` or the configured address gives no socket address with it. -/
theorem ChangeInvisibleTimeProcessor.new_eq_panic_iff {brokerConfig : BrokerConfig} :
    (∀ error, ChangeInvisibleTimeProcessor.new buildClusterReviveTopic brokerConfig
        topicConfigManager messageStore popBufferMergeService escapeBridge ≠ .err error) ∧
      (ChangeInvisibleTimeProcessor.new buildClusterReviveTopic brokerConfig topicConfigManager
          messageStore popBufferMergeService escapeBridge = .panic ↔
        ¬ ∃ (fits : brokerConfig.listenPort.val < 2 ^ 16) (storeHost : SocketAddr),
          SocketHost brokerConfig.brokerIp1.toList ⟨brokerConfig.listenPort.val, fits⟩
            storeHost) := by
  cases parsed : SocketAddr.fromStr
      (brokerConfig.brokerIp1 ++ ":" ++ toString brokerConfig.listenPort) with
  | error error =>
      rw [new_of_unparsed buildClusterReviveTopic topicConfigManager messageStore
        popBufferMergeService escapeBridge parsed]
      refine ⟨fun _ => nofun, iff_of_true rfl fun ⟨fits, storeHost, host⟩ => ?_⟩
      cases parsed.symm.trans ((fromStr_storeHost_iff brokerConfig _).mpr ⟨fits, host⟩)
  | ok storeHost =>
      rw [new_of_parsed buildClusterReviveTopic topicConfigManager messageStore
        popBufferMergeService escapeBridge parsed]
      obtain ⟨fits, host⟩ := (fromStr_storeHost_iff brokerConfig storeHost).mp parsed
      exact ⟨fun _ => nofun, iff_of_false nofun (not_not.mpr ⟨fits, storeHost, host⟩)⟩

/-- The IPv6 loopback: `::1` is both the text the parser reads as `Ipv6Addr::LOCALHOST` and
the text it prints, and on it `new` panics at the default listen port. -/
theorem ChangeInvisibleTimeProcessor.new_localhostIpv6_panics (brokerClusterName : String) :
    Ipv6Addr.fromStr "::1" = .ok Ipv6Addr.localhost ∧ Ipv6Addr.localhost.toText = "::1".toList ∧
      ChangeInvisibleTimeProcessor.new buildClusterReviveTopic
        ⟨brokerClusterName, "::1", ⟨10911, by norm_num⟩⟩ topicConfigManager messageStore
        popBufferMergeService escapeBridge = .panic :=
  ⟨Ipv6Addr.fromStr_localhost, Ipv6Addr.localhost_toText,
    new_of_colon buildClusterReviveTopic topicConfigManager messageStore popBufferMergeService
      escapeBridge (show ':' ∈ "::1".toList by decide)
      (show "::1".toList.head? ≠ some '[' by decide)⟩

end Construction

/-- The configuration of the worked example: cluster `DefaultCluster` at `127.0.0.1:10911`. -/
def sampleBrokerConfig (brokerIp1 : String) : BrokerConfig :=
  ⟨"DefaultCluster", brokerIp1, ⟨10911, by norm_num⟩⟩

/-- `PopAckConstants::build_cluster_revive_topic`: the revive topic prefix, then the cluster. -/
def sampleBuildClusterReviveTopic (clusterName : String) : String :=
  "rmq_sys_REVIVE_LOG_" ++ clusterName

/-- The example configuration builds the example processor. -/
theorem ChangeInvisibleTimeProcessor.new_ipv4_sample :
    Ipv4Addr.fromStr "127.0.0.1" =
        .ok ⟨⟨127, by norm_num⟩, ⟨0, by norm_num⟩, ⟨0, by norm_num⟩, ⟨1, by norm_num⟩⟩ ∧
      ChangeInvisibleTimeProcessor.new sampleBuildClusterReviveTopic
          (sampleBrokerConfig "127.0.0.1") (sampleProcessor false).topicConfigManager
          (sampleProcessor false).messageStore
          (sampleProcessor false).popBufferMergeService
          (sampleProcessor false).escapeBridge =
        .ok (sampleProcessor false) :=
  have parsed : Ipv4Addr.fromStr (sampleBrokerConfig "127.0.0.1").brokerIp1 =
      .ok ⟨⟨127, by norm_num⟩, ⟨0, by norm_num⟩, ⟨0, by norm_num⟩, ⟨1, by norm_num⟩⟩ := rfl
  ⟨parsed, by
    rw [ChangeInvisibleTimeProcessor.new_ipv4 sampleBuildClusterReviveTopic _ _ _ _ (.inl parsed),
      dif_pos (by decide)]
    rfl⟩

/-- The example configuration with the IPv6 loopback panics. -/
theorem ChangeInvisibleTimeProcessor.new_ipv6_panics_sample :
    ((∃ ip, Ipv6Addr.fromStr "::1" = .ok ip) ∨ ∃ ip : Ipv6Addr, "::1".toList = ip.toText) ∧
      ChangeInvisibleTimeProcessor.new sampleBuildClusterReviveTopic (sampleBrokerConfig "::1")
          (sampleProcessor false).topicConfigManager
          (sampleProcessor false).messageStore
          (sampleProcessor false).popBufferMergeService
          (sampleProcessor false).escapeBridge = .panic :=
  have ipv6Text : (∃ ip, Ipv6Addr.fromStr "::1" = .ok ip) ∨
      ∃ ip : Ipv6Addr, "::1".toList = ip.toText :=
    .inl ⟨_, Ipv6Addr.fromStr_localhost⟩
  ⟨ipv6Text, ChangeInvisibleTimeProcessor.new_ipv6_panics sampleBuildClusterReviveTopic _ _ _ _
    ipv6Text⟩

section Stamping

variable (library : Library) (overflowChecks : Bool) (pending : PendingMethods)
  (processor : ChangeInvisibleTimeProcessor) (clock : Nat → U64) (remoteAddress : String)

/-- The durable path puts only messages born and stored at the processor's store host. -/
theorem putAckMessage_stamped (extraInfo : List String) (ackMsg : AckMsg) (rqId : I32) :
    ∀ inner ∈ (putAckMessage library overflowChecks processor clock extraInfo ackMsg
        rqId).effects.filterMap Effect.revivePut?,
      inner.bornHost = processor.storeHost ∧ inner.storeHost = processor.storeHost := by
  unfold putAckMessage
  cases library.encodeAckMsg ackMsg <;> cases library.extraInfoUtil.getPopTime extraInfo <;>
    cases library.extraInfoUtil.getInvisibleTime extraInfo <;> simp
  split <;> simp [Effect.revivePut?, ackMessage]

/-- Every revive-topic put of every request carries the processor's store host as its born
host and its store host. -/
theorem processRequestInner_stampsStoreHost (request : HeaderMap) :
    ∀ inner ∈ (processRequestInner library overflowChecks pending processor clock remoteAddress
        request).effects.filterMap Effect.revivePut?,
      inner.bornHost = processor.storeHost ∧ inner.storeHost = processor.storeHost := by
  intro inner member
  rcases processRequestInner_shape library overflowChecks pending processor clock remoteAddress
      request with noEffects | ⟨requestHeader, extraInfo, reviveQid, brokerName, status,
        ⟨-, rejected⟩ | ⟨-, appended⟩⟩
  · simp [noEffects] at member
  · simp [rejected, Effect.revivePut?] at member
  · rw [appended, ackOrigin_eq] at member
    split at member
    · simp [Run.lift, Effect.revivePut?] at member
    · rw [countAndOffer_eq] at member
      dsimp only at member
      simp only [List.filterMap_cons, Effect.revivePut?] at member
      split at member
      · simp at member
      · exact putAckMessage_stamped library overflowChecks processor clock _ _ _ inner member

end Stamping

/-- The worked example's declined ack puts a message to the revive topic, born and stored at the
example's store host. -/
theorem processRequestInner_stampsStoreHost_sample :
    ∃ inner ∈ (processRequestInner sampleLibrary false (samplePending .putOk)
        (sampleProcessor false) sampleClock "10.0.0.1:5000"
        (sampleRequest "150" "false 3 b1 150 1000 30000")).effects.filterMap Effect.revivePut?,
      inner.bornHost = (sampleProcessor false).storeHost ∧
        inner.storeHost = (sampleProcessor false).storeHost := by
  refine ⟨_, List.head_mem ?nonEmpty, processRequestInner_stampsStoreHost sampleLibrary false
    (samplePending .putOk) (sampleProcessor false) sampleClock "10.0.0.1:5000" _ _
    (List.head_mem ?nonEmpty)⟩
  case nonEmpty => decide

end RocketMQ
