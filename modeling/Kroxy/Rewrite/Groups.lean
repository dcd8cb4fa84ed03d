import Kroxy.Kmsg.Messages
import Kroxy.Rewrite.Basic

/-!
# `Kroxy.Rewrite.Groups`: the rewriters of the group and transaction APIs

`rewrite/groups.go`. Group ids, transactional ids and topic names are prefixed on the way
in; topic names, group ids of the listing APIs and coordinator keys are stripped on the way
out.

A member's subscription and assignment are byte strings in the Kafka schema. The rewriters
decode those of the consumer protocol with `kmsg`, change the topic names inside and encode
them again. `kmsg`'s two codecs are the parameter `ConsumerCodec`.
-/

set_option autoImplicit false

namespace Kroxy.Rewrite

open Kroxy.Go
open Kroxy.Kmsg

/-- `ReadFrom` and `AppendTo` of the two consumer-protocol blobs. `none` is a decode
error. -/
structure ConsumerCodec where
  readMetadata : Bytes → Option ConsumerMemberMetadata
  appendMetadata : ConsumerMemberMetadata → Bytes
  readAssignment : Bytes → Option ConsumerMemberAssignment
  appendAssignment : ConsumerMemberAssignment → Bytes

/-- A codec that decodes no blob, as for groups of another protocol. -/
def noBlobs : ConsumerCodec where
  readMetadata _ := none
  appendMetadata _ := []
  readAssignment _ := none
  appendAssignment _ := []

def coordinatorTypeGroup : Int8 := 0

def coordinatorTypeTransaction : Int8 := 1

/-- Only group and transaction coordinators are recognised. Any other type is left alone. -/
def findCoordinatorRequestIn (p : GoString) (req : FindCoordinatorRequest) :
    FindCoordinatorRequest :=
  if req.coordinatorType ≠ coordinatorTypeGroup ∧
      req.coordinatorType ≠ coordinatorTypeTransaction then req
  else
    { req with
        coordinatorKey := prefixIn p req.coordinatorKey
        coordinatorKeys := req.coordinatorKeys.map (prefixIn p) }

def findCoordinatorResponseOut (p advertisedHost : GoString) (advertisedPort : Int32)
    (resp : FindCoordinatorResponse) : FindCoordinatorResponse :=
  { resp with
      nodeID := 0
      host := advertisedHost
      port := advertisedPort
      coordinators := resp.coordinators.map fun c =>
        { c with nodeID := 0, host := advertisedHost, port := advertisedPort,
                 key := stripOut p c.key } }

/-! ### Committed offsets -/

def offsetCommitRequestIn (p : GoString) (req : OffsetCommitRequest) : OffsetCommitRequest :=
  { req with
      group := prefixIn p req.group
      topics := req.topics.map (·.rename (prefixIn p)) }

def offsetCommitResponseOut (p : GoString) (resp : OffsetCommitResponse) :
    OffsetCommitResponse :=
  { resp with topics := resp.topics.map (·.rename (stripOut p)) }

/-- The single-group form and the per-group form of v8 on. -/
def offsetFetchRequestIn (p : GoString) (req : OffsetFetchRequest) : OffsetFetchRequest :=
  { req with
      group := prefixIn p req.group
      topics := req.topics.map fun ts => ts.map (·.rename (prefixIn p))
      groups := req.groups.map fun g =>
        { g with
            group := prefixIn p g.group
            topics := g.topics.map fun ts => ts.map (·.rename (prefixIn p)) } }

def offsetFetchResponseOut (p : GoString) (resp : OffsetFetchResponse) :
    OffsetFetchResponse :=
  { resp with
      topics := resp.topics.map (·.rename (stripOut p))
      groups := resp.groups.map fun g =>
        { g with
            group := stripOut p g.group
            topics := g.topics.map (·.rename (stripOut p)) } }

def offsetDeleteRequestIn (p : GoString) (req : OffsetDeleteRequest) : OffsetDeleteRequest :=
  { req with
      group := prefixIn p req.group
      topics := req.topics.map (·.rename (prefixIn p)) }

def offsetDeleteResponseOut (p : GoString) (resp : OffsetDeleteResponse) :
    OffsetDeleteResponse :=
  { resp with topics := resp.topics.map (·.rename (stripOut p)) }

/-! ### Member blobs -/

/-- The only protocol type whose member blobs are decoded. -/
def consumerProtocolType : GoString := goString "consumer"

/-- Apply `fn` to every topic of a subscription blob. A blob that does not decode is
returned as it is. -/
def rewriteConsumerSubscription (B : ConsumerCodec) (blob : Bytes)
    (fn : GoString → GoString) : Bytes :=
  if blob.length = 0 then blob
  else
    match B.readMetadata blob with
    | none => blob
    | some m =>
        B.appendMetadata { m with
          topics := m.topics.map fn
          ownedPartitions := m.ownedPartitions.map (·.rename fn) }

/-- Apply `fn` to every topic of an assignment blob. A blob that does not decode is returned
as it is. -/
def rewriteConsumerAssignment (B : ConsumerCodec) (blob : Bytes)
    (fn : GoString → GoString) : Bytes :=
  if blob.length = 0 then blob
  else
    match B.readAssignment blob with
    | none => blob
    | some a => B.appendAssignment { a with topics := a.topics.map (·.rename fn) }

/-- The guard of the handlers whose protocol type is nullable: skip without a prefix, and
when the type is there and is not the consumer's. -/
def skipBlobs (p : GoString) (protocolType : Option GoString) : Bool :=
  p == [] || match protocolType with
    | none => false
    | some t => t != consumerProtocolType

/-- The subscriptions are rewritten only when the protocol type is the consumer's. -/
def joinGroupRequestIn (B : ConsumerCodec) (p : GoString) (req : JoinGroupRequest) :
    JoinGroupRequest :=
  -- The group id is prefixed whatever the protocol type is.
  let req := { req with group := prefixIn p req.group }
  if p = [] ∨ req.protocolType ≠ consumerProtocolType then req
  else
    { req with protocols := req.protocols.map fun pr =>
        { pr with metadata := rewriteConsumerSubscription B pr.metadata (prefixIn p) } }

def joinGroupResponseOut (B : ConsumerCodec) (p : GoString) (resp : JoinGroupResponse) :
    JoinGroupResponse :=
  if skipBlobs p resp.protocolType then resp
  else
    { resp with members := resp.members.map fun m =>
        { m with protocolMetadata :=
            rewriteConsumerSubscription B m.protocolMetadata (stripOut p) } }

def syncGroupRequestIn (B : ConsumerCodec) (p : GoString) (req : SyncGroupRequest) :
    SyncGroupRequest :=
  let req := { req with group := prefixIn p req.group }
  if skipBlobs p req.protocolType then req
  else
    { req with groupAssignment := req.groupAssignment.map fun a =>
        { a with memberAssignment :=
            rewriteConsumerAssignment B a.memberAssignment (prefixIn p) } }

def syncGroupResponseOut (B : ConsumerCodec) (p : GoString) (resp : SyncGroupResponse) :
    SyncGroupResponse :=
  if skipBlobs p resp.protocolType then resp
  else
    { resp with memberAssignment :=
        rewriteConsumerAssignment B resp.memberAssignment (stripOut p) }

/-! ### Groups -/

def heartbeatRequestIn (p : GoString) (req : HeartbeatRequest) : HeartbeatRequest :=
  { req with group := prefixIn p req.group }

def leaveGroupRequestIn (p : GoString) (req : LeaveGroupRequest) : LeaveGroupRequest :=
  { req with group := prefixIn p req.group }

def describeGroupsRequestIn (p : GoString) (req : DescribeGroupsRequest) :
    DescribeGroupsRequest :=
  { req with groups := req.groups.map (prefixIn p) }

/-- Here the protocol type is a plain string, and an empty one counts as the consumer's. -/
def describeGroupsResponseOut (B : ConsumerCodec) (p : GoString)
    (resp : DescribeGroupsResponse) : DescribeGroupsResponse :=
  { resp with groups := resp.groups.map fun g =>
      -- No group is dropped here: the request named them.
      let g := { g with group := stripOut p g.group }
      if p = [] ∨ (g.protocolType ≠ [] ∧ g.protocolType ≠ consumerProtocolType) then g
      else
        { g with members := g.members.map fun m =>
            { m with
                protocolMetadata :=
                  rewriteConsumerSubscription B m.protocolMetadata (stripOut p)
                memberAssignment :=
                  rewriteConsumerAssignment B m.memberAssignment (stripOut p) } } }

/-- The body of the group loop: drop a group of another tenant, strip the prefix from the
others. -/
def listGroupsGroupOut (p : GoString) (g : ListGroupsResponseGroup) :
    Option ListGroupsResponseGroup :=
  if belongsToTenant p g.group then some { g with group := stripOut p g.group } else none

def listGroupsResponseOut (p : GoString) (resp : ListGroupsResponse) : ListGroupsResponse :=
  { resp with groups := resp.groups.filterMap (listGroupsGroupOut p) }

def deleteGroupsRequestIn (p : GoString) (req : DeleteGroupsRequest) : DeleteGroupsRequest :=
  { req with groups := req.groups.map (prefixIn p) }

def deleteGroupsResponseOut (p : GoString) (resp : DeleteGroupsResponse) :
    DeleteGroupsResponse :=
  { resp with groups := resp.groups.map fun g => { g with group := stripOut p g.group } }

/-! ### Transactions -/

def initProducerIDRequestIn (p : GoString) (req : InitProducerIDRequest) :
    InitProducerIDRequest :=
  { req with transactionalID := prefixInPtr p req.transactionalID }

/-- The flat form and the batch form of v4 on. -/
def addPartitionsToTxnRequestIn (p : GoString) (req : AddPartitionsToTxnRequest) :
    AddPartitionsToTxnRequest :=
  { req with
      transactionalID := prefixIn p req.transactionalID
      topics := req.topics.map (·.rename (prefixIn p))
      transactions := req.transactions.map fun tx =>
        { tx with
            transactionalID := prefixIn p tx.transactionalID
            topics := tx.topics.map (·.rename (prefixIn p)) } }

def addPartitionsToTxnResponseOut (p : GoString) (resp : AddPartitionsToTxnResponse) :
    AddPartitionsToTxnResponse :=
  { resp with
      topics := resp.topics.map (·.rename (stripOut p))
      transactions := resp.transactions.map fun tx =>
        { tx with
            transactionalID := stripOut p tx.transactionalID
            topics := tx.topics.map (·.rename (stripOut p)) } }

def addOffsetsToTxnRequestIn (p : GoString) (req : AddOffsetsToTxnRequest) :
    AddOffsetsToTxnRequest :=
  { req with
      transactionalID := prefixIn p req.transactionalID
      group := prefixIn p req.group }

def endTxnRequestIn (p : GoString) (req : EndTxnRequest) : EndTxnRequest :=
  { req with transactionalID := prefixIn p req.transactionalID }

def txnOffsetCommitRequestIn (p : GoString) (req : TxnOffsetCommitRequest) :
    TxnOffsetCommitRequest :=
  { req with
      transactionalID := prefixIn p req.transactionalID
      group := prefixIn p req.group
      topics := req.topics.map (·.rename (prefixIn p)) }

def txnOffsetCommitResponseOut (p : GoString) (resp : TxnOffsetCommitResponse) :
    TxnOffsetCommitResponse :=
  { resp with topics := resp.topics.map (·.rename (stripOut p)) }

end Kroxy.Rewrite
