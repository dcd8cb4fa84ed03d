import Kroxy.Kmsg.Schema
import Kroxy.Rewrite.Api

/-!
# `Kroxy.Rewrite.Schema`: request rewriters on whole messages

Five of the request rewriters again, on the requests of `Kroxy.Kmsg.Schema`, which have every
field of the wire. `toModel` forgets the fields that `Kroxy.Kmsg.Messages` does not have.
`toModel_requestIn` says that the rewriters are the same functions at both levels.
-/

set_option autoImplicit false

namespace Kroxy.Rewrite.Schema

open Kroxy.Go
open Kroxy.Kmsg

def offsetCommitRequestIn (p : GoString) (req : Schema.OffsetCommitRequest) :
    Schema.OffsetCommitRequest :=
  { req with
      group := prefixIn p req.group
      topics := req.topics.map (·.rename (prefixIn p)) }

def produceRequestIn (p : GoString) (req : Schema.ProduceRequest) : Schema.ProduceRequest :=
  { req with topics := req.topics.map (·.rename (prefixIn p)) }

def fetchRequestIn (p : GoString) (req : Schema.FetchRequest) : Schema.FetchRequest :=
  { req with topics := req.topics.map (·.rename (prefixIn p)) }

def createTopicsRequestIn (p : GoString) (req : Schema.CreateTopicsRequest) :
    Schema.CreateTopicsRequest :=
  { req with topics := req.topics.map fun t => { t with topic := prefixIn p t.topic } }

def joinGroupRequestIn (B : ConsumerCodec) (p : GoString) (req : Schema.JoinGroupRequest) :
    Schema.JoinGroupRequest :=
  let req := { req with group := prefixIn p req.group }
  if p = [] ∨ req.protocolType ≠ consumerProtocolType then req
  else
    { req with protocols := req.protocols.map fun pr =>
        { pr with metadata := rewriteConsumerSubscription B pr.metadata (prefixIn p) } }

/-- The request rewriter of an API. -/
def requestIn (B : ConsumerCodec) (p : GoString) : (a : Schema.Api) → a.Request → a.Request
  | .offsetCommit => offsetCommitRequestIn p
  | .produce => produceRequestIn p
  | .fetch => fetchRequestIn p
  | .createTopics => createTopicsRequestIn p
  | .joinGroup => joinGroupRequestIn B p

/-! ### The fields the rewriters look at -/

abbrev toApi : Schema.Api → Api
  | .offsetCommit => .offsetCommit
  | .produce => .produce
  | .fetch => .fetch
  | .createTopics => .createTopics
  | .joinGroup => .joinGroup

/-- A request without the fields that no property speaks of. -/
def toModel : (a : Schema.Api) → a.Request → (toApi a).Request
  | .offsetCommit, req =>
      { group := req.group
        generation := req.generation
        memberID := req.memberID
        topics := req.topics.map fun t => ⟨t.topic, t.partitions.map fun pt =>
          { partition := pt.partition
            offset := pt.offset
            leaderEpoch := pt.leaderEpoch
            metadata := pt.metadata }⟩ }
  | .produce, req =>
      { transactionalID := req.transactionID
        acks := req.acks
        timeoutMillis := req.timeoutMillis
        topics := req.topics.map fun t => ⟨t.topic, t.partitions.map fun pt =>
          { partition := pt.partition, records := pt.records.getD [] }⟩ }
  | .fetch, req =>
      { maxWaitMillis := req.maxWaitMillis
        minBytes := req.minBytes
        sessionID := req.sessionID
        sessionEpoch := req.sessionEpoch
        topics := req.topics.map fun t =>
          { topic := t.topic
            partitions := t.partitions.map fun pt =>
              { partition := pt.partition
                fetchOffset := pt.fetchOffset
                partitionMaxBytes := pt.partitionMaxBytes } }
        forgottenTopics := req.forgottenTopics.map fun t =>
          { topic := t.topic, partitions := t.partitions } }
  | .createTopics, req =>
      { topics := req.topics.map fun t =>
          { topic := t.topic
            numPartitions := t.numPartitions
            replicationFactor := t.replicationFactor
            configs := t.configs }
        timeoutMillis := req.timeoutMillis
        validateOnly := req.validateOnly }
  | .joinGroup, req =>
      { group := req.group
        memberID := req.memberID
        protocolType := req.protocolType
        protocols := req.protocols }

/-- Rewriting a whole request and forgetting fields can be done in either order. -/
theorem toModel_requestIn (B : ConsumerCodec) (p : GoString) (a : Schema.Api)
    (req : a.Request) :
    toModel a (requestIn B p a req) = Rewrite.requestIn B p (toApi a) (toModel a req) := by
  cases a with
  | offsetCommit =>
      simp only [toModel, requestIn, offsetCommitRequestIn, Rewrite.requestIn,
        Rewrite.offsetCommitRequestIn, List.map_map]
      rfl
  | produce =>
      simp only [toModel, requestIn, produceRequestIn, Rewrite.requestIn,
        Rewrite.produceRequestIn, List.map_map]
      rfl
  | fetch =>
      simp only [toModel, requestIn, fetchRequestIn, Rewrite.requestIn,
        Rewrite.fetchRequestIn, List.map_map]
      rfl
  | createTopics =>
      simp only [toModel, requestIn, createTopicsRequestIn, Rewrite.requestIn,
        Rewrite.createTopicsRequestIn, List.map_map]
      rfl
  | joinGroup =>
      show toModel .joinGroup (if p = [] ∨ req.protocolType ≠ consumerProtocolType then _ else _) =
        if p = [] ∨ req.protocolType ≠ consumerProtocolType then _ else _
      -- Both levels look at the same protocol type, so they take the same branch.
      by_cases hskip : p = [] ∨ req.protocolType ≠ consumerProtocolType
      · rw [if_pos hskip, if_pos hskip]
        rfl
      · rw [if_neg hskip, if_neg hskip]
        rfl

end Kroxy.Rewrite.Schema
