import Kroxy.Rewrite.Groups
import Kroxy.Rewrite.Topics

/-!
# `Kroxy.Rewrite.Api`: the rewriters by API, and the names a request carries

`requestIn` and `responseOut` pick the rewriter pair of an API, as the handlers of
`proxy/rewrite.go`, `proxy/rewrite_groups.go` and `proxy/rewrite_admin.go` do. APIs whose
message has nothing to rewrite in one direction keep it as it is.

`topicNames`, `groupIDs` and `transactionalIDs` read the names out of a request struct. They
follow the Kafka message schema: a field that is not on the wire at version `v` is not a
name of the request, whatever the struct holds there. Member subscriptions and assignments
are byte strings in the schema and name nothing.

`leftAlone` lists the names the rewriter passes on as they are. What the rewriters do to
the names is proved in `Kroxy.Proofs.RequestNames`.
-/

set_option autoImplicit false

namespace Kroxy.Rewrite

open Kroxy.Go
open Kroxy.Kmsg

/-- The request rewriter of an API. ListGroups requests have no field to rewrite. -/
def requestIn (B : ConsumerCodec) (p : GoString) : (a : Api) → a.Request → a.Request
  | .metadata => metadataRequestIn p
  | .produce => produceRequestIn p
  | .fetch => fetchRequestIn p
  | .listOffsets => listOffsetsRequestIn p
  | .findCoordinator => findCoordinatorRequestIn p
  | .offsetCommit => offsetCommitRequestIn p
  | .offsetFetch => offsetFetchRequestIn p
  | .offsetDelete => offsetDeleteRequestIn p
  | .joinGroup => joinGroupRequestIn B p
  | .syncGroup => syncGroupRequestIn B p
  | .heartbeat => heartbeatRequestIn p
  | .leaveGroup => leaveGroupRequestIn p
  | .describeGroups => describeGroupsRequestIn p
  | .listGroups => id
  | .deleteGroups => deleteGroupsRequestIn p
  | .initProducerID => initProducerIDRequestIn p
  | .addPartitionsToTxn => addPartitionsToTxnRequestIn p
  | .addOffsetsToTxn => addOffsetsToTxnRequestIn p
  | .endTxn => endTxnRequestIn p
  | .txnOffsetCommit => txnOffsetCommitRequestIn p
  | .createTopics => createTopicsRequestIn p
  | .deleteTopics => deleteTopicsRequestIn p
  | .describeConfigs => describeConfigsRequestIn p

/-- The response rewriter of an API, with the advertised address for the two responses that
carry broker addresses. -/
def responseOut (B : ConsumerCodec) (p advertisedHost : GoString) (advertisedPort : Int32) :
    (a : Api) → a.Response → a.Response
  | .metadata => metadataResponseOut p advertisedHost advertisedPort
  | .produce => produceResponseOut p
  | .fetch => fetchResponseOut p
  | .listOffsets => listOffsetsResponseOut p
  | .findCoordinator => findCoordinatorResponseOut p advertisedHost advertisedPort
  | .offsetCommit => offsetCommitResponseOut p
  | .offsetFetch => offsetFetchResponseOut p
  | .offsetDelete => offsetDeleteResponseOut p
  | .joinGroup => joinGroupResponseOut B p
  | .syncGroup => syncGroupResponseOut B p
  | .heartbeat => id
  | .leaveGroup => id
  | .describeGroups => describeGroupsResponseOut B p
  | .listGroups => listGroupsResponseOut p
  | .deleteGroups => deleteGroupsResponseOut p
  | .initProducerID => id
  | .addPartitionsToTxn => addPartitionsToTxnResponseOut p
  | .addOffsetsToTxn => id
  | .endTxn => id
  | .txnOffsetCommit => txnOffsetCommitResponseOut p
  | .createTopics => createTopicsResponseOut p
  | .deleteTopics => deleteTopicsResponseOut p
  | .describeConfigs => describeConfigsResponseOut p

/-! ### The names on the wire -/

/-- The topic names of the topics of a struct. -/
def TopicOf.names {π : Type} (ts : List (TopicOf π)) : List GoString := ts.map (·.topic)

/-- The names of the resources of type `τ` in a DescribeConfigs request. -/
def resourceNames (τ : Int8) (rs : List DescribeConfigsRequestResource) : List GoString :=
  (rs.filter (·.resourceType == τ)).map (·.resourceName)

/-- The topic names of a request at version `v`. From v13 Produce and Fetch, and from v10
OffsetCommit and OffsetFetch, address topics by id. -/
def topicNames (v : Int16) : (a : Api) → a.Request → List GoString
  | .metadata, r => (r.topics.getD []).filterMap (·.topic)
  | .produce, r => if v < 13 then TopicOf.names r.topics else []
  | .fetch, r =>
      if v < 13 then
        r.topics.map (·.topic) ++ if 7 ≤ v then r.forgottenTopics.map (·.topic) else []
      else []
  | .listOffsets, r => TopicOf.names r.topics
  | .offsetCommit, r => if v < 10 then TopicOf.names r.topics else []
  | .offsetFetch, r =>
      if v < 8 then TopicOf.names (r.topics.getD [])
      else if v < 10 then r.groups.flatMap fun g => TopicOf.names (g.topics.getD [])
      else []
  | .offsetDelete, r => TopicOf.names r.topics
  | .addPartitionsToTxn, r =>
      if v < 4 then TopicOf.names r.topics
      else r.transactions.flatMap fun tx => TopicOf.names tx.topics
  | .txnOffsetCommit, r => TopicOf.names r.topics
  | .createTopics, r => r.topics.map (·.topic)
  | .deleteTopics, r => if v < 6 then r.topicNames else r.topics.filterMap (·.topic)
  | .describeConfigs, r => resourceNames configResourceTypeTopic r.resources
  | _, _ => []

/-- The coordinator keys of a request at version `v`. -/
def coordinatorKeysAt (v : Int16) (r : FindCoordinatorRequest) : List GoString :=
  if v < 4 then [r.coordinatorKey] else r.coordinatorKeys

/-- The group ids of a request at version `v`. A coordinator key names a group unless the
type says transaction: the key of a share-group coordinator begins with a group id. -/
def groupIDs (v : Int16) : (a : Api) → a.Request → List GoString
  | .findCoordinator, r =>
      if r.coordinatorType = coordinatorTypeTransaction then [] else coordinatorKeysAt v r
  | .offsetCommit, r => [r.group]
  | .offsetFetch, r => if v < 8 then [r.group] else r.groups.map (·.group)
  | .offsetDelete, r => [r.group]
  | .joinGroup, r => [r.group]
  | .syncGroup, r => [r.group]
  | .heartbeat, r => [r.group]
  | .leaveGroup, r => [r.group]
  | .describeGroups, r => r.groups
  | .deleteGroups, r => r.groups
  | .addOffsetsToTxn, r => [r.group]
  | .txnOffsetCommit, r => [r.group]
  | .describeConfigs, r => resourceNames configResourceTypeGroup r.resources
  | _, _ => []

/-- The transactional ids of a request at version `v`. Produce carries one from v3. -/
def transactionalIDs (v : Int16) : (a : Api) → a.Request → List GoString
  | .produce, r => if 3 ≤ v then r.transactionalID.toList else []
  | .findCoordinator, r =>
      if r.coordinatorType = coordinatorTypeTransaction then coordinatorKeysAt v r else []
  | .initProducerID, r => r.transactionalID.toList
  | .addPartitionsToTxn, r =>
      if v < 4 then [r.transactionalID] else r.transactions.map (·.transactionalID)
  | .addOffsetsToTxn, r => [r.transactionalID]
  | .endTxn, r => [r.transactionalID]
  | .txnOffsetCommit, r => [r.transactionalID]
  | _, _ => []

/-- Every topic, group and transactional id a request carries at version `v`. -/
def names (v : Int16) (a : Api) (r : a.Request) : List GoString :=
  topicNames v a r ++ groupIDs v a r ++ transactionalIDs v a r

/-- The names the request rewriter passes on unchanged: the transactional id of Produce, the
forgotten topics of Fetch, and coordinator keys of an unrecognised type. -/
def leftAlone (v : Int16) : (a : Api) → a.Request → List GoString
  | .produce, r => if 3 ≤ v then r.transactionalID.toList else []
  | .fetch, r => if 7 ≤ v ∧ v < 13 then r.forgottenTopics.map (·.topic) else []
  | .findCoordinator, r =>
      if r.coordinatorType ≠ coordinatorTypeGroup ∧
        r.coordinatorType ≠ coordinatorTypeTransaction then coordinatorKeysAt v r else []
  | _, _ => []

end Kroxy.Rewrite
