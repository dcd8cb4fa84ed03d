import Kroxy.Go.Basic

/-!
# `Kroxy.Kmsg.Messages`: the Kafka messages the proxy decodes

The structs of `kmsg` for the requests and responses that have a rewrite handler, with the
fields the proxy or a broker acts on. A Go `*string` is an `Option GoString`, and a slice
whose `nil` value means something else than the empty slice (the topics of a Metadata or
OffsetFetch request) is an `Option` of a list.

Most per-topic structs of `kmsg` are a topic name with a list of partitions. `TopicOf` is
that shape once. Where the answer for one name has more than one field, the fields besides
the name form a parent structure (`CreateTopicsResult`, `MetadataResult`, ...), so that a
broker can compute them without the name.

`Api` numbers the APIs with a rewrite handler. `Api.Request` and `Api.Response` are their
message types.
-/

set_option autoImplicit false

namespace Kroxy.Kmsg

open Kroxy.Go

/-- A topic UUID, `[16]byte`. -/
abbrev TopicID := BitVec 128

/-- A topic name with its partitions. -/
structure TopicOf (π : Type) where
  topic : GoString
  partitions : List π
  deriving DecidableEq

/-- The same partitions under another topic name. -/
def TopicOf.rename {π : Type} (f : GoString → GoString) (t : TopicOf π) : TopicOf π :=
  { t with topic := f t.topic }

/-! ### Metadata -/

structure MetadataRequestTopic where
  topicID : TopicID := 0
  topic : Option GoString
  deriving DecidableEq

/-- `topics = none` is the null array: every topic. -/
structure MetadataRequest where
  topics : Option (List MetadataRequestTopic)
  allowAutoTopicCreation : Bool := false
  deriving DecidableEq

structure MetadataResponseBroker where
  nodeID : Int32
  host : GoString
  port : Int32
  rack : Option GoString
  deriving DecidableEq

structure MetadataResponseTopicPartition where
  errorCode : Int16 := 0
  partition : Int32
  leader : Int32
  leaderEpoch : Int32 := -1
  replicas : List Int32
  isr : List Int32
  offlineReplicas : List Int32 := []
  deriving DecidableEq

/-- What Metadata says about one topic besides its name. -/
structure MetadataResult where
  errorCode : Int16 := 0
  topicID : TopicID := 0
  isInternal : Bool := false
  partitions : List MetadataResponseTopicPartition := []
  authorizedOperations : Int32 := -2147483648
  deriving DecidableEq

structure MetadataResponseTopic extends MetadataResult where
  topic : Option GoString
  deriving DecidableEq

structure MetadataResponse where
  brokers : List MetadataResponseBroker
  clusterID : Option GoString := none
  controllerID : Int32
  topics : List MetadataResponseTopic
  deriving DecidableEq

/-! ### Produce, Fetch, ListOffsets -/

structure ProduceRequestTopicPartition where
  partition : Int32
  records : Bytes
  deriving DecidableEq

structure ProduceRequest where
  transactionalID : Option GoString := none
  acks : Int16
  timeoutMillis : Int32 := 0
  topics : List (TopicOf ProduceRequestTopicPartition)
  deriving DecidableEq

structure ProduceResponseTopicPartition where
  partition : Int32
  errorCode : Int16
  baseOffset : Int64
  logAppendTime : Int64 := -1
  logStartOffset : Int64 := -1
  deriving DecidableEq

structure ProduceResponse where
  topics : List (TopicOf ProduceResponseTopicPartition)
  deriving DecidableEq

structure FetchRequestTopicPartition where
  partition : Int32
  fetchOffset : Int64
  partitionMaxBytes : Int32 := 0
  deriving DecidableEq

structure FetchRequestTopic where
  topic : GoString
  topicID : TopicID := 0
  partitions : List FetchRequestTopicPartition
  deriving DecidableEq

structure FetchRequestForgottenTopic where
  topic : GoString
  topicID : TopicID := 0
  partitions : List Int32
  deriving DecidableEq

structure FetchRequest where
  maxWaitMillis : Int32 := 0
  minBytes : Int32 := 0
  sessionID : Int32 := 0
  sessionEpoch : Int32 := -1
  topics : List FetchRequestTopic
  forgottenTopics : List FetchRequestForgottenTopic
  deriving DecidableEq

structure FetchResponseTopicPartition where
  partition : Int32
  errorCode : Int16
  highWatermark : Int64
  recordBatches : Bytes
  deriving DecidableEq

structure FetchResponseTopic where
  topic : GoString
  topicID : TopicID := 0
  partitions : List FetchResponseTopicPartition
  deriving DecidableEq

structure FetchResponse where
  errorCode : Int16
  sessionID : Int32
  topics : List FetchResponseTopic
  deriving DecidableEq

structure ListOffsetsRequestTopicPartition where
  partition : Int32
  timestamp : Int64
  deriving DecidableEq

structure ListOffsetsRequest where
  isolationLevel : Int8 := 0
  topics : List (TopicOf ListOffsetsRequestTopicPartition)
  deriving DecidableEq

structure ListOffsetsResponseTopicPartition where
  partition : Int32
  errorCode : Int16
  timestamp : Int64
  offset : Int64
  deriving DecidableEq

structure ListOffsetsResponse where
  topics : List (TopicOf ListOffsetsResponseTopicPartition)
  deriving DecidableEq

/-! ### Coordinators and committed offsets -/

structure FindCoordinatorRequest where
  coordinatorKey : GoString
  coordinatorType : Int8
  coordinatorKeys : List GoString
  deriving DecidableEq

structure FindCoordinatorResponseCoordinator where
  key : GoString
  nodeID : Int32
  host : GoString
  port : Int32
  errorCode : Int16
  errorMessage : Option GoString
  deriving DecidableEq

structure FindCoordinatorResponse where
  errorCode : Int16
  errorMessage : Option GoString
  nodeID : Int32
  host : GoString
  port : Int32
  coordinators : List FindCoordinatorResponseCoordinator
  deriving DecidableEq

structure OffsetCommitRequestTopicPartition where
  partition : Int32
  offset : Int64
  leaderEpoch : Int32 := -1
  metadata : Option GoString := none
  deriving DecidableEq

structure OffsetCommitRequest where
  group : GoString
  generation : Int32 := -1
  memberID : GoString := []
  topics : List (TopicOf OffsetCommitRequestTopicPartition)
  deriving DecidableEq

/-- A partition with its error code, the whole answer for one partition in several
responses. -/
structure PartitionResult where
  partition : Int32
  errorCode : Int16
  deriving DecidableEq

structure OffsetCommitResponse where
  topics : List (TopicOf PartitionResult)
  deriving DecidableEq

/-- `topics = none` is the null array: every topic with an offset in the group. -/
structure OffsetFetchRequestGroup where
  group : GoString
  topics : Option (List (TopicOf Int32))
  deriving DecidableEq

/-- `group` and `topics` are on the wire before v8, `groups` from v8. -/
structure OffsetFetchRequest where
  group : GoString
  topics : Option (List (TopicOf Int32))
  groups : List OffsetFetchRequestGroup
  requireStable : Bool := false
  deriving DecidableEq

structure OffsetFetchResponseTopicPartition where
  partition : Int32
  offset : Int64
  leaderEpoch : Int32 := -1
  metadata : Option GoString := none
  errorCode : Int16 := 0
  deriving DecidableEq

structure OffsetFetchResponseGroup where
  group : GoString
  topics : List (TopicOf OffsetFetchResponseTopicPartition)
  errorCode : Int16 := 0
  deriving DecidableEq

structure OffsetFetchResponse where
  topics : List (TopicOf OffsetFetchResponseTopicPartition)
  errorCode : Int16 := 0
  groups : List OffsetFetchResponseGroup
  deriving DecidableEq

structure OffsetDeleteRequest where
  group : GoString
  topics : List (TopicOf Int32)
  deriving DecidableEq

structure OffsetDeleteResponse where
  errorCode : Int16 := 0
  topics : List (TopicOf PartitionResult)
  deriving DecidableEq

/-! ### Group membership -/

/-- The consumer protocol's subscription, the blob a member joins with. -/
structure ConsumerMemberMetadata where
  version : Int16
  topics : List GoString
  userData : Option Bytes := none
  ownedPartitions : List (TopicOf Int32) := []
  generation : Int32 := -1
  rack : Option GoString := none
  deriving DecidableEq

/-- The consumer protocol's assignment, the blob a leader hands to a member. -/
structure ConsumerMemberAssignment where
  version : Int16
  topics : List (TopicOf Int32)
  userData : Option Bytes := none
  deriving DecidableEq

structure JoinGroupRequestProtocol where
  name : GoString
  metadata : Bytes
  deriving DecidableEq

structure JoinGroupRequest where
  group : GoString
  memberID : GoString := []
  protocolType : GoString
  protocols : List JoinGroupRequestProtocol
  deriving DecidableEq

structure JoinGroupResponseMember where
  memberID : GoString
  protocolMetadata : Bytes
  deriving DecidableEq

structure JoinGroupResponse where
  errorCode : Int16
  generation : Int32
  protocolType : Option GoString
  protocol : Option GoString
  leaderID : GoString
  memberID : GoString
  members : List JoinGroupResponseMember
  deriving DecidableEq

structure SyncGroupRequestGroupAssignment where
  memberID : GoString
  memberAssignment : Bytes
  deriving DecidableEq

structure SyncGroupRequest where
  group : GoString
  generation : Int32 := 0
  memberID : GoString := []
  protocolType : Option GoString
  protocol : Option GoString := none
  groupAssignment : List SyncGroupRequestGroupAssignment
  deriving DecidableEq

structure SyncGroupResponse where
  errorCode : Int16
  protocolType : Option GoString
  protocol : Option GoString := none
  memberAssignment : Bytes
  deriving DecidableEq

structure HeartbeatRequest where
  group : GoString
  generation : Int32 := 0
  memberID : GoString := []
  deriving DecidableEq

structure LeaveGroupRequest where
  group : GoString
  memberID : GoString := []
  deriving DecidableEq

structure DescribeGroupsRequest where
  groups : List GoString
  deriving DecidableEq

structure DescribeGroupsResponseGroupMember where
  memberID : GoString
  clientID : GoString
  clientHost : GoString
  protocolMetadata : Bytes
  memberAssignment : Bytes
  deriving DecidableEq

structure DescribeGroupsResponseGroup where
  errorCode : Int16
  group : GoString
  state : GoString
  protocolType : GoString
  protocol : GoString
  members : List DescribeGroupsResponseGroupMember
  deriving DecidableEq

structure DescribeGroupsResponse where
  groups : List DescribeGroupsResponseGroup
  deriving DecidableEq

structure ListGroupsRequest where
  statesFilter : List GoString := []
  deriving DecidableEq

structure ListGroupsResponseGroup where
  group : GoString
  protocolType : GoString := []
  groupState : GoString := []
  deriving DecidableEq

structure ListGroupsResponse where
  errorCode : Int16 := 0
  groups : List ListGroupsResponseGroup
  deriving DecidableEq

structure DeleteGroupsRequest where
  groups : List GoString
  deriving DecidableEq

structure DeleteGroupsResponseGroup where
  group : GoString
  errorCode : Int16
  deriving DecidableEq

structure DeleteGroupsResponse where
  groups : List DeleteGroupsResponseGroup
  deriving DecidableEq

/-! ### Transactions -/

structure InitProducerIDRequest where
  transactionalID : Option GoString
  transactionTimeoutMillis : Int32 := 0
  deriving DecidableEq

structure InitProducerIDResponse where
  errorCode : Int16
  producerID : Int64
  producerEpoch : Int16
  deriving DecidableEq

structure AddPartitionsToTxnRequestTransaction where
  transactionalID : GoString
  producerID : Int64 := 0
  producerEpoch : Int16 := 0
  topics : List (TopicOf Int32)
  deriving DecidableEq

/-- `transactionalID` and `topics` are on the wire before v4, `transactions` from v4. -/
structure AddPartitionsToTxnRequest where
  transactionalID : GoString
  producerID : Int64 := 0
  producerEpoch : Int16 := 0
  topics : List (TopicOf Int32)
  transactions : List AddPartitionsToTxnRequestTransaction
  deriving DecidableEq

structure AddPartitionsToTxnResponseTransaction where
  transactionalID : GoString
  topics : List (TopicOf PartitionResult)
  deriving DecidableEq

structure AddPartitionsToTxnResponse where
  errorCode : Int16 := 0
  topics : List (TopicOf PartitionResult)
  transactions : List AddPartitionsToTxnResponseTransaction
  deriving DecidableEq

structure AddOffsetsToTxnRequest where
  transactionalID : GoString
  producerID : Int64 := 0
  producerEpoch : Int16 := 0
  group : GoString
  deriving DecidableEq

structure EndTxnRequest where
  transactionalID : GoString
  producerID : Int64 := 0
  producerEpoch : Int16 := 0
  commit : Bool
  deriving DecidableEq

structure TxnOffsetCommitRequest where
  transactionalID : GoString
  group : GoString
  producerID : Int64 := 0
  producerEpoch : Int16 := 0
  topics : List (TopicOf OffsetCommitRequestTopicPartition)
  deriving DecidableEq

structure TxnOffsetCommitResponse where
  topics : List (TopicOf PartitionResult)
  deriving DecidableEq

/-- A response whose error code is all the proxy carries across: Heartbeat, LeaveGroup,
AddOffsetsToTxn and EndTxn. -/
structure CodeResponse where
  errorCode : Int16
  deriving DecidableEq

/-! ### Topic administration -/

/-- What CreateTopics asks for one topic besides its name. -/
structure CreateTopicsSpec where
  numPartitions : Int32
  replicationFactor : Int16
  configs : List (GoString × Option GoString) := []
  deriving DecidableEq

structure CreateTopicsRequestTopic extends CreateTopicsSpec where
  topic : GoString
  deriving DecidableEq

structure CreateTopicsRequest where
  topics : List CreateTopicsRequestTopic
  timeoutMillis : Int32 := 0
  validateOnly : Bool := false
  deriving DecidableEq

/-- What CreateTopics answers for one topic besides its name. -/
structure CreateTopicsResult where
  topicID : TopicID := 0
  errorCode : Int16
  errorMessage : Option GoString := none
  numPartitions : Int32 := -1
  replicationFactor : Int16 := -1
  deriving DecidableEq

structure CreateTopicsResponseTopic extends CreateTopicsResult where
  topic : GoString
  deriving DecidableEq

structure CreateTopicsResponse where
  topics : List CreateTopicsResponseTopic
  deriving DecidableEq

structure DeleteTopicsRequestTopic where
  topic : Option GoString
  topicID : TopicID := 0
  deriving DecidableEq

/-- `topicNames` is on the wire before v6, `topics` from v6. -/
structure DeleteTopicsRequest where
  topicNames : List GoString
  topics : List DeleteTopicsRequestTopic
  timeoutMillis : Int32 := 0
  deriving DecidableEq

/-- What DeleteTopics answers for one topic besides its name. -/
structure DeleteTopicsResult where
  topicID : TopicID := 0
  errorCode : Int16
  errorMessage : Option GoString := none
  deriving DecidableEq

structure DeleteTopicsResponseTopic extends DeleteTopicsResult where
  topic : Option GoString
  deriving DecidableEq

structure DeleteTopicsResponse where
  topics : List DeleteTopicsResponseTopic
  deriving DecidableEq

structure DescribeConfigsRequestResource where
  resourceType : Int8
  resourceName : GoString
  configNames : Option (List GoString) := none
  deriving DecidableEq

structure DescribeConfigsRequest where
  resources : List DescribeConfigsRequestResource
  deriving DecidableEq

structure DescribeConfigsResponseResource where
  errorCode : Int16
  errorMessage : Option GoString
  resourceType : Int8
  resourceName : GoString
  configs : List (GoString × Option GoString)
  deriving DecidableEq

structure DescribeConfigsResponse where
  resources : List DescribeConfigsResponseResource
  deriving DecidableEq

/-! ### SASL -/

structure SASLHandshakeResponse where
  errorCode : Int16
  supportedMechanisms : List GoString
  deriving DecidableEq

structure SASLAuthenticateResponse where
  errorCode : Int16
  errorMessage : Option GoString
  saslAuthBytes : Bytes
  sessionLifetimeMillis : Int64 := 0
  deriving DecidableEq

/-! ### The APIs with a rewrite handler -/

/-- The APIs `rewriteHandler` knows. -/
inductive Api where
  | metadata | produce | fetch | listOffsets | findCoordinator
  | offsetCommit | offsetFetch | offsetDelete
  | joinGroup | syncGroup | heartbeat | leaveGroup
  | describeGroups | listGroups | deleteGroups
  | initProducerID | addPartitionsToTxn | addOffsetsToTxn | endTxn | txnOffsetCommit
  | createTopics | deleteTopics | describeConfigs
  deriving DecidableEq

/-- The request struct of an API. -/
abbrev Api.Request : Api → Type
  | .metadata => MetadataRequest
  | .produce => ProduceRequest
  | .fetch => FetchRequest
  | .listOffsets => ListOffsetsRequest
  | .findCoordinator => FindCoordinatorRequest
  | .offsetCommit => OffsetCommitRequest
  | .offsetFetch => OffsetFetchRequest
  | .offsetDelete => OffsetDeleteRequest
  | .joinGroup => JoinGroupRequest
  | .syncGroup => SyncGroupRequest
  | .heartbeat => HeartbeatRequest
  | .leaveGroup => LeaveGroupRequest
  | .describeGroups => DescribeGroupsRequest
  | .listGroups => ListGroupsRequest
  | .deleteGroups => DeleteGroupsRequest
  | .initProducerID => InitProducerIDRequest
  | .addPartitionsToTxn => AddPartitionsToTxnRequest
  | .addOffsetsToTxn => AddOffsetsToTxnRequest
  | .endTxn => EndTxnRequest
  | .txnOffsetCommit => TxnOffsetCommitRequest
  | .createTopics => CreateTopicsRequest
  | .deleteTopics => DeleteTopicsRequest
  | .describeConfigs => DescribeConfigsRequest

/-- The response struct of an API. -/
abbrev Api.Response : Api → Type
  | .metadata => MetadataResponse
  | .produce => ProduceResponse
  | .fetch => FetchResponse
  | .listOffsets => ListOffsetsResponse
  | .findCoordinator => FindCoordinatorResponse
  | .offsetCommit => OffsetCommitResponse
  | .offsetFetch => OffsetFetchResponse
  | .offsetDelete => OffsetDeleteResponse
  | .joinGroup => JoinGroupResponse
  | .syncGroup => SyncGroupResponse
  | .heartbeat => CodeResponse
  | .leaveGroup => CodeResponse
  | .describeGroups => DescribeGroupsResponse
  | .listGroups => ListGroupsResponse
  | .deleteGroups => DeleteGroupsResponse
  | .initProducerID => InitProducerIDResponse
  | .addPartitionsToTxn => AddPartitionsToTxnResponse
  | .addOffsetsToTxn => CodeResponse
  | .endTxn => CodeResponse
  | .txnOffsetCommit => TxnOffsetCommitResponse
  | .createTopics => CreateTopicsResponse
  | .deleteTopics => DeleteTopicsResponse
  | .describeConfigs => DescribeConfigsResponse

end Kroxy.Kmsg
