import RocketMQ.RustCore
import RocketMQ.QueryConsumerOffsetRequestHeader
import RocketMQ.QueueIdText
import RocketMQ.Broker
import RocketMQ.ChangeInvisibleTimeProcessor
import RocketMQ.WriteAhead
import RocketMQ.Validation
import RocketMQ.Response
import RocketMQ.AckOrigin
import RocketMQ.BrokerHistory
import RocketMQ.Lifecycle
import RocketMQ.NetAddr
import RocketMQ.SocketHost
import RocketMQ.StoreHost
