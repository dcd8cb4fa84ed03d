import Kroxy.Kmsg.Messages
import Kroxy.Rewrite.Basic

/-!
# `Kroxy.Rewrite.Topics`: the rewriters of the topic APIs

`rewrite/metadata.go`, `rewrite/produce_fetch.go` and `rewrite/topics_admin.go`. A rewriter
changes a request or a response in place, so its model returns the changed struct. The Go
loops that append the kept entries to a zero-length slice are `filterMap`s here.

Two of the request rewriters do not touch every name the request carries.
`produceRequestIn` leaves the transactional id alone, and `fetchRequestIn` the forgotten
topics.
-/

set_option autoImplicit false

namespace Kroxy.Rewrite

open Kroxy.Go
open Kroxy.Kmsg

/-! ### `metadata.go` -/

def metadataRequestIn (p : GoString) (req : MetadataRequest) : MetadataRequest :=
  { req with
      topics := req.topics.map fun ts =>
        ts.map fun t => { t with topic := prefixInPtr p t.topic } }

/-- Every broker id of a partition becomes that of the virtual broker. List lengths stay. -/
def virtualPartition (part : MetadataResponseTopicPartition) :
    MetadataResponseTopicPartition :=
  { part with
      leader := 0
      replicas := part.replicas.map fun _ => 0
      isr := part.isr.map fun _ => 0
      offlineReplicas := part.offlineReplicas.map fun _ => 0 }

/-- The body of the topic loop: drop a topic without a name or of another tenant, strip the
prefix from the others and point their partitions at the virtual broker. -/
def metadataTopicOut (p : GoString) (t : MetadataResponseTopic) :
    Option MetadataResponseTopic :=
  match t.topic with
  | none => none
  | some n =>
      -- A foreign topic disappears without a trace.
      if belongsToTenant p n then
        some { t with
          topic := stripOutPtr p (some n)
          partitions := t.partitions.map virtualPartition }
      else none

/-- `MetadataResponseOut`: the tenant's own topics, and one virtual broker, node 0 at the
advertised address. The rack is the first upstream broker's. -/
def metadataResponseOut (p advertisedHost : GoString) (advertisedPort : Int32)
    (resp : MetadataResponse) : MetadataResponse :=
  { resp with
      brokers := [{ nodeID := 0, host := advertisedHost, port := advertisedPort,
                    rack := resp.brokers.head?.bind (·.rack) }]
      controllerID := 0
      topics := resp.topics.filterMap (metadataTopicOut p) }

/-! ### `produce_fetch.go` -/

def produceRequestIn (p : GoString) (req : ProduceRequest) : ProduceRequest :=
  { req with topics := req.topics.map (·.rename (prefixIn p)) }

def produceResponseOut (p : GoString) (resp : ProduceResponse) : ProduceResponse :=
  { resp with topics := resp.topics.map (·.rename (stripOut p)) }

def fetchRequestIn (p : GoString) (req : FetchRequest) : FetchRequest :=
  { req with topics := req.topics.map fun t => { t with topic := prefixIn p t.topic } }

def fetchResponseOut (p : GoString) (resp : FetchResponse) : FetchResponse :=
  { resp with topics := resp.topics.map fun t => { t with topic := stripOut p t.topic } }

def listOffsetsRequestIn (p : GoString) (req : ListOffsetsRequest) : ListOffsetsRequest :=
  { req with topics := req.topics.map (·.rename (prefixIn p)) }

def listOffsetsResponseOut (p : GoString) (resp : ListOffsetsResponse) :
    ListOffsetsResponse :=
  { resp with topics := resp.topics.map (·.rename (stripOut p)) }

/-! ### `topics_admin.go` -/

def configResourceTypeTopic : Int8 := 2

def configResourceTypeGroup : Int8 := 32

def createTopicsRequestIn (p : GoString) (req : CreateTopicsRequest) : CreateTopicsRequest :=
  { req with topics := req.topics.map fun t => { t with topic := prefixIn p t.topic } }

def createTopicsResponseOut (p : GoString) (resp : CreateTopicsResponse) :
    CreateTopicsResponse :=
  { resp with topics := resp.topics.map fun t => { t with topic := stripOut p t.topic } }

/-- Both the flat list of names (v0 to v5) and the per-topic structs (v6 on). -/
def deleteTopicsRequestIn (p : GoString) (req : DeleteTopicsRequest) : DeleteTopicsRequest :=
  { req with
      topicNames := req.topicNames.map (prefixIn p)
      topics := req.topics.map fun t => { t with topic := prefixInPtr p t.topic } }

def deleteTopicsResponseOut (p : GoString) (resp : DeleteTopicsResponse) :
    DeleteTopicsResponse :=
  { resp with topics := resp.topics.map fun t => { t with topic := stripOutPtr p t.topic } }

/-- Does the resource name a topic or a group? -/
def isTenantResource (resourceType : Int8) : Bool :=
  resourceType == configResourceTypeTopic || resourceType == configResourceTypeGroup

def describeConfigsRequestIn (p : GoString) (req : DescribeConfigsRequest) :
    DescribeConfigsRequest :=
  { req with
      resources := req.resources.map fun r =>
        if isTenantResource r.resourceType then
          { r with resourceName := prefixIn p r.resourceName }
        else r }

/-- The body of the resource loop: a topic or group of another tenant is dropped, one of
this tenant is stripped, and every other resource is kept as it is. -/
def describeConfigsResourceOut (p : GoString) (r : DescribeConfigsResponseResource) :
    Option DescribeConfigsResponseResource :=
  if isTenantResource r.resourceType then
    if belongsToTenant p r.resourceName then
      some { r with resourceName := stripOut p r.resourceName }
    else none
  else some r

def describeConfigsResponseOut (p : GoString) (resp : DescribeConfigsResponse) :
    DescribeConfigsResponse :=
  { resp with resources := resp.resources.filterMap (describeConfigsResourceOut p) }

end Kroxy.Rewrite
