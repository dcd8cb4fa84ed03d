import Kroxy.Rewrite.Groups

/-!
# `Kroxy.Broker.Group`: a rebalance as the broker takes part in it

The members of a group send their subscriptions in JoinGroup requests. The broker picks a
protocol that all of them offer and sends every member's blob for it to the leader. The
leader sends an assignment blob for each member in its SyncGroup request, and each member
gets its own in its SyncGroup response. DescribeGroups shows both blobs of every member.

The broker looks into no blob. Everything it sends out is a blob it was sent, so a rebalance
is described by the requests alone.
-/

set_option autoImplicit false

namespace Kroxy.Broker

open Kroxy.Go
open Kroxy.Kmsg
open Kroxy.Rewrite

/-- A member of a group and the request it joined with. -/
structure Joined where
  memberID : GoString
  request : JoinGroupRequest

/-- The requests of one rebalance: of every member, and the leader's SyncGroup request. -/
structure Rebalance where
  members : List Joined
  /-- The protocol the broker picked. -/
  protocol : GoString
  sync : SyncGroupRequest

/-- The blob of a request for a protocol, empty when the request does not offer it. -/
def metadataFor (protocol : GoString) (req : JoinGroupRequest) : Bytes :=
  match req.protocols.find? fun pr => pr.name == protocol with
  | some pr => pr.metadata
  | none => []

/-- The blob of the leader's request for a member, empty when it has none. -/
def assignmentFor (memberID : GoString) (sync : SyncGroupRequest) : Bytes :=
  match sync.groupAssignment.find? fun a => a.memberID == memberID with
  | some a => a.memberAssignment
  | none => []

/-- The members in the leader's JoinGroup response. -/
def Rebalance.joinedMembers (r : Rebalance) : List JoinGroupResponseMember :=
  r.members.map fun m => ⟨m.memberID, metadataFor r.protocol m.request⟩

/-- The members in a DescribeGroups response. `client` is the client id and host of a member,
which the proxy does not touch. -/
def Rebalance.describedMembers (r : Rebalance) (client : GoString → GoString × GoString) :
    List DescribeGroupsResponseGroupMember :=
  r.members.map fun m =>
    { memberID := m.memberID
      clientID := (client m.memberID).1
      clientHost := (client m.memberID).2
      protocolMetadata := metadataFor r.protocol m.request
      memberAssignment := assignmentFor m.memberID r.sync }

/-- The rebalance the broker sees when its clients are behind the proxy. -/
def Rebalance.upstream (B : ConsumerCodec) (p : GoString) (r : Rebalance) : Rebalance :=
  { r with
      members := r.members.map fun m =>
        { m with request := joinGroupRequestIn B p m.request }
      sync := syncGroupRequestIn B p r.sync }

end Kroxy.Broker
