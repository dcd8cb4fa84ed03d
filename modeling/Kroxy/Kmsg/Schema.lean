import Kroxy.Kmsg.Blobs

/-!
# `Kroxy.Kmsg.Schema`: whole messages on the wire

The structs of `Kroxy.Kmsg.Messages` hold the fields the rewriters and the properties speak
of. Here are five requests with every field of their non-flexible versions, in the order of
the wire, and their formats. A field that a version does not have is read as its default.

`Schema.Api.Version` holds the versions each format is for. `SASLAuthenticateResponse` has all
its fields already, and `saslAuthenticateResponseFormat` is its format.
-/

set_option autoImplicit false

namespace Kroxy.Kmsg

open Kroxy.Go
open Kroxy.Lib

/-! ### SaslAuthenticate responses -/

/-- `SASLAuthenticateResponse` before version 2. -/
def saslAuthenticateResponseFormat (version : Int16) :
    Format GoError SASLAuthenticateResponse :=
  (int16Format.pair <|
    nullableStringFormat.pair <|
    bytesFormat.pair <|
    Format.since (¬ version < 1) 0 int64Format).iso
    { toFun := fun x => ⟨x.1, x.2.1, x.2.2.1, x.2.2.2⟩
      invFun := fun r => (r.errorCode, r.errorMessage, r.saslAuthBytes, r.sessionLifetimeMillis)
      left_inv := fun _ => rfl
      right_inv := fun _ => rfl }

/-- The reader of the response is the decoder of its format. -/
theorem readSASLAuthenticateResponse_eq (version : Int16) (b : Bytes) :
    readSASLAuthenticateResponse version b =
      (saslAuthenticateResponseFormat version).decode b := by
  have hint16 : int16Format.read = readInt16 := rfl
  have hbytes : bytesFormat.read = readBytes := rfl
  have hint64 : int64Format.read = readInt64 := rfl
  unfold readSASLAuthenticateResponse Format.decode saslAuthenticateResponseFormat Format.iso
    Format.pair Format.andThen Format.since
  simp only [nullableStringFormat_read, hint16, hbytes, bind, Except.bind]
  -- The readers run in the same order, and the first that fails ends both.
  cases readInt16 b with
  | error e => rfl
  | ok r₁ =>
      dsimp only
      cases readNullableString r₁.2 with
      | error e => rfl
      | ok r₂ =>
          dsimp only
          cases readBytes r₂.2 with
          | error e => rfl
          | ok r₃ =>
              dsimp only
              by_cases hversion : version < 1
              · rw [if_pos hversion, if_neg (not_not.mpr hversion)]
                rfl
              · rw [if_neg hversion, if_pos hversion, hint64]
                cases readInt64 r₃.2 <;> rfl

/-- The writer of the response is the encoder of its format. -/
theorem appendSASLAuthenticateResponse_eq (version : Int16)
    (resp : SASLAuthenticateResponse) :
    appendSASLAuthenticateResponse version resp =
      (saslAuthenticateResponseFormat version).append resp := by
  show appendSASLAuthenticateResponse version resp = appendInt16 resp.errorCode ++
    (nullableStringFormat.append resp.errorMessage ++ (appendBytes resp.saslAuthBytes ++
      (Format.since (¬ version < 1) 0 int64Format).append resp.sessionLifetimeMillis))
  unfold appendSASLAuthenticateResponse Format.since
  rw [nullableStringFormat_append]
  by_cases hversion : version < 1
  · simp [hversion, Format.absent]
  · simp [hversion, int64Format]

namespace Schema

/-! ### OffsetCommit requests -/

structure OffsetCommitRequestTopicPartition where
  partition : Int32
  offset : Int64
  timestamp : Int64
  leaderEpoch : Int32
  metadata : Option GoString
  deriving DecidableEq

structure OffsetCommitRequest where
  group : GoString
  generation : Int32
  memberID : GoString
  instanceID : Option GoString
  retentionTimeMillis : Int64
  topics : List (TopicOf OffsetCommitRequestTopicPartition)
  deriving DecidableEq

/-- The timestamp is in version 1 only. -/
def offsetCommitPartitionFormat (version : Int16) :
    Format GoError OffsetCommitRequestTopicPartition :=
  (int32Format.pair <|
    int64Format.pair <|
    (Format.since (version = 1) (-1) int64Format).pair <|
    (Format.since (6 ≤ version) (-1) int32Format).pair nullableStringFormat).iso
    { toFun := fun x => ⟨x.1, x.2.1, x.2.2.1, x.2.2.2.1, x.2.2.2.2⟩
      invFun := fun r => (r.partition, r.offset, r.timestamp, r.leaderEpoch, r.metadata)
      left_inv := fun _ => rfl
      right_inv := fun _ => rfl }

/-- The retention time is in versions 2 to 4 only. -/
def offsetCommitFormat (version : Int16) : Format GoError OffsetCommitRequest :=
  (stringFormat.pair <|
    (Format.since (1 ≤ version) (-1) int32Format).pair <|
    (Format.since (1 ≤ version) [] stringFormat).pair <|
    (Format.since (7 ≤ version) none nullableStringFormat).pair <|
    (Format.since (2 ≤ version ∧ version ≤ 4) (-1) int64Format).pair <|
    arrayFormat (topicFormat (offsetCommitPartitionFormat version))).iso
    { toFun := fun x => ⟨x.1, x.2.1, x.2.2.1, x.2.2.2.1, x.2.2.2.2.1, x.2.2.2.2.2⟩
      invFun := fun r =>
        (r.group, r.generation, r.memberID, r.instanceID, r.retentionTimeMillis, r.topics)
      left_inv := fun _ => rfl
      right_inv := fun _ => rfl }

/-! ### Produce requests -/

structure ProduceRequestTopicPartition where
  partition : Int32
  records : Option Bytes
  deriving DecidableEq

structure ProduceRequest where
  transactionID : Option GoString
  acks : Int16
  timeoutMillis : Int32
  topics : List (TopicOf ProduceRequestTopicPartition)
  deriving DecidableEq

def producePartitionFormat : Format GoError ProduceRequestTopicPartition :=
  (int32Format.pair nullableBytesFormat).iso
    { toFun := fun x => ⟨x.1, x.2⟩
      invFun := fun r => (r.partition, r.records)
      left_inv := fun _ => rfl
      right_inv := fun _ => rfl }

def produceFormat (version : Int16) : Format GoError ProduceRequest :=
  ((Format.since (3 ≤ version) none nullableStringFormat).pair <|
    int16Format.pair <|
    int32Format.pair <|
    arrayFormat (topicFormat producePartitionFormat)).iso
    { toFun := fun x => ⟨x.1, x.2.1, x.2.2.1, x.2.2.2⟩
      invFun := fun r => (r.transactionID, r.acks, r.timeoutMillis, r.topics)
      left_inv := fun _ => rfl
      right_inv := fun _ => rfl }

/-! ### Fetch requests -/

structure FetchRequestTopicPartition where
  partition : Int32
  currentLeaderEpoch : Int32
  fetchOffset : Int64
  logStartOffset : Int64
  partitionMaxBytes : Int32
  deriving DecidableEq

structure FetchRequest where
  replicaID : Int32
  maxWaitMillis : Int32
  minBytes : Int32
  maxBytes : Int32
  isolationLevel : Int8
  sessionID : Int32
  sessionEpoch : Int32
  topics : List (TopicOf FetchRequestTopicPartition)
  forgottenTopics : List (TopicOf Int32)
  rack : GoString
  deriving DecidableEq

def fetchPartitionFormat (version : Int16) : Format GoError FetchRequestTopicPartition :=
  (int32Format.pair <|
    (Format.since (9 ≤ version) (-1) int32Format).pair <|
    int64Format.pair <|
    (Format.since (5 ≤ version) (-1) int64Format).pair int32Format).iso
    { toFun := fun x => ⟨x.1, x.2.1, x.2.2.1, x.2.2.2.1, x.2.2.2.2⟩
      invFun := fun r => (r.partition, r.currentLeaderEpoch, r.fetchOffset, r.logStartOffset,
        r.partitionMaxBytes)
      left_inv := fun _ => rfl
      right_inv := fun _ => rfl }

def fetchFormat (version : Int16) : Format GoError FetchRequest :=
  (int32Format.pair <|
    int32Format.pair <|
    int32Format.pair <|
    (Format.since (3 ≤ version) 0x7fffffff int32Format).pair <|
    (Format.since (4 ≤ version) 0 int8Format).pair <|
    (Format.since (7 ≤ version) 0 int32Format).pair <|
    (Format.since (7 ≤ version) (-1) int32Format).pair <|
    (arrayFormat (topicFormat (fetchPartitionFormat version))).pair <|
    (Format.since (7 ≤ version) [] (arrayFormat (topicFormat int32Format))).pair <|
    Format.since (11 ≤ version) [] stringFormat).iso
    { toFun := fun x => ⟨x.1, x.2.1, x.2.2.1, x.2.2.2.1, x.2.2.2.2.1, x.2.2.2.2.2.1,
        x.2.2.2.2.2.2.1, x.2.2.2.2.2.2.2.1, x.2.2.2.2.2.2.2.2.1, x.2.2.2.2.2.2.2.2.2⟩
      invFun := fun r => (r.replicaID, r.maxWaitMillis, r.minBytes, r.maxBytes,
        r.isolationLevel, r.sessionID, r.sessionEpoch, r.topics, r.forgottenTopics, r.rack)
      left_inv := fun _ => rfl
      right_inv := fun _ => rfl }

/-! ### CreateTopics requests -/

structure ReplicaAssignment where
  partition : Int32
  replicas : List Int32
  deriving DecidableEq

structure CreateTopicsRequestTopic where
  topic : GoString
  numPartitions : Int32
  replicationFactor : Int16
  replicaAssignment : List ReplicaAssignment
  configs : List (GoString × Option GoString)
  deriving DecidableEq

structure CreateTopicsRequest where
  topics : List CreateTopicsRequestTopic
  timeoutMillis : Int32
  validateOnly : Bool
  deriving DecidableEq

def replicaAssignmentFormat : Format GoError ReplicaAssignment :=
  (int32Format.pair (arrayFormat int32Format)).iso
    { toFun := fun x => ⟨x.1, x.2⟩
      invFun := fun r => (r.partition, r.replicas)
      left_inv := fun _ => rfl
      right_inv := fun _ => rfl }

def createTopicsTopicFormat : Format GoError CreateTopicsRequestTopic :=
  (stringFormat.pair <|
    int32Format.pair <|
    int16Format.pair <|
    (arrayFormat replicaAssignmentFormat).pair <|
    arrayFormat (stringFormat.pair nullableStringFormat)).iso
    { toFun := fun x => ⟨x.1, x.2.1, x.2.2.1, x.2.2.2.1, x.2.2.2.2⟩
      invFun := fun r =>
        (r.topic, r.numPartitions, r.replicationFactor, r.replicaAssignment, r.configs)
      left_inv := fun _ => rfl
      right_inv := fun _ => rfl }

def createTopicsFormat (version : Int16) : Format GoError CreateTopicsRequest :=
  ((arrayFormat createTopicsTopicFormat).pair <|
    int32Format.pair <|
    Format.since (1 ≤ version) false boolFormat).iso
    { toFun := fun x => ⟨x.1, x.2.1, x.2.2⟩
      invFun := fun r => (r.topics, r.timeoutMillis, r.validateOnly)
      left_inv := fun _ => rfl
      right_inv := fun _ => rfl }

/-! ### JoinGroup requests -/

structure JoinGroupRequest where
  group : GoString
  sessionTimeoutMillis : Int32
  rebalanceTimeoutMillis : Int32
  memberID : GoString
  instanceID : Option GoString
  protocolType : GoString
  protocols : List JoinGroupRequestProtocol
  deriving DecidableEq

def joinGroupProtocolFormat : Format GoError JoinGroupRequestProtocol :=
  (stringFormat.pair bytesFormat).iso
    { toFun := fun x => ⟨x.1, x.2⟩
      invFun := fun r => (r.name, r.metadata)
      left_inv := fun _ => rfl
      right_inv := fun _ => rfl }

def joinGroupFormat (version : Int16) : Format GoError JoinGroupRequest :=
  (stringFormat.pair <|
    int32Format.pair <|
    (Format.since (1 ≤ version) (-1) int32Format).pair <|
    stringFormat.pair <|
    (Format.since (5 ≤ version) none nullableStringFormat).pair <|
    stringFormat.pair <|
    arrayFormat joinGroupProtocolFormat).iso
    { toFun := fun x =>
        ⟨x.1, x.2.1, x.2.2.1, x.2.2.2.1, x.2.2.2.2.1, x.2.2.2.2.2.1, x.2.2.2.2.2.2⟩
      invFun := fun r => (r.group, r.sessionTimeoutMillis, r.rebalanceTimeoutMillis, r.memberID,
        r.instanceID, r.protocolType, r.protocols)
      left_inv := fun _ => rfl
      right_inv := fun _ => rfl }

/-! ### The five requests as one family -/

/-- The APIs whose requests are described here. -/
inductive Api where
  | offsetCommit | produce | fetch | createTopics | joinGroup
  deriving DecidableEq

abbrev Api.Request : Api → Type
  | .offsetCommit => OffsetCommitRequest
  | .produce => ProduceRequest
  | .fetch => FetchRequest
  | .createTopics => CreateTopicsRequest
  | .joinGroup => JoinGroupRequest

/-- The last version that is not flexible. -/
def Api.lastVersion : Api → Int16
  | .offsetCommit => 7
  | .produce => 8
  | .fetch => 11
  | .createTopics => 4
  | .joinGroup => 5

/-- A version without tagged fields. -/
def Api.Version (a : Api) : Type := { v : Int16 // 0 ≤ v ∧ v ≤ a.lastVersion }

/-- `ReadFrom` and `AppendTo` at a version. -/
def Api.format : (a : Api) → a.Version → Format GoError a.Request
  | .offsetCommit, v => offsetCommitFormat v.val
  | .produce, v => produceFormat v.val
  | .fetch, v => fetchFormat v.val
  | .createTopics, v => createTopicsFormat v.val
  | .joinGroup, v => joinGroupFormat v.val

end Schema

end Kroxy.Kmsg
