import Kroxy.Broker.Group
import Kroxy.Kmsg.Blobs
import Mathlib.Data.List.Forall2

/-!
# `Kroxy.Proofs.Rebalance`: rebalances of consumer groups through the proxy

The proxy decodes every subscription and assignment of a consumer group, changes the topic
names in it and encodes it again, once on the way to the broker and once on the way back.

`read_rewrite` is what one such step does to a blob, seen through the decoder: the names
change and nothing else does. `read_rewrite_back` composes the step in with the step out.
`Transparent` collects what members, leader and broker decode on the five paths of a
rebalance, and `rebalance_transparent` proves it. The broker sees the prefix in front of
every topic name but the empty one, which `PrefixIn` leaves alone (`emptyTopic_unprefixed`).
-/

set_option autoImplicit false

namespace Kroxy.Proofs

open Kroxy.Go
open Kroxy.Kmsg
open Kroxy.Rewrite
open Kroxy.Broker

/-! ### One blob -/

section
variable {α : Type} {K : BlobCodec α} {blob : Bytes} {fn : GoString → GoString}

/-- A blob that does not decode stays as it is. -/
theorem rewrite_of_none (h : K.read blob = none) : K.rewrite blob fn = blob := by
  unfold BlobCodec.rewrite
  rw [h]
  split <;> rfl

/-- A blob that decodes is encoded again under the new names. -/
theorem rewrite_of_some {v : α} (hK : K.Lawful) (h : K.read blob = some v) :
    K.rewrite blob fn = K.append (K.rename fn v) := by
  have hne : ¬ blob.length = 0 := by
    intro hzero
    rw [List.length_eq_zero_iff.mp hzero, hK.read_nil] at h
    cases h
  unfold BlobCodec.rewrite
  rw [if_neg hne, h]

/-- The names of the value in a blob, if there is one, fit under `fn`. -/
def FitsUnder (K : BlobCodec α) (fn : GoString → GoString) (blob : Bytes) : Prop :=
  ∀ v ∈ K.read blob, ∀ n ∈ K.names v, (fn n).length ≤ maxString

instance (K : BlobCodec α) (fn : GoString → GoString) (blob : Bytes) :
    Decidable (FitsUnder K fn blob) :=
  inferInstanceAs (Decidable (∀ v ∈ K.read blob, _))

/-- Rewriting changes the names in a blob and nothing else. -/
theorem read_rewrite (hK : K.Lawful) (hfits : FitsUnder K fn blob) :
    K.read (K.rewrite blob fn) = (K.read blob).map (K.rename fn) := by
  cases hread : K.read blob with
  | none => rw [rewrite_of_none hread, hread, Option.map_none]
  | some v =>
      rw [rewrite_of_some hK hread, hK.read_append hread (hfits v hread), Option.map_some]

/-- The empty blob stays empty. -/
theorem rewrite_nil : K.rewrite [] fn = [] := rfl

/-- `StripOut` after `PrefixIn` is the identity on values too. -/
theorem rename_back (p : GoString) (v : α) :
    K.rename (stripOut p) (K.rename (prefixIn p) v) = v := by
  rw [K.rename_rename]
  exact K.rename_eq_self_iff.mpr fun n _ => stripOut_prefixIn p n

/-- What comes back from the broker decodes to what went in. -/
theorem read_rewrite_back {p : GoString} (hK : K.Lawful)
    (hfits : FitsUnder K (prefixIn p) blob) :
    K.read (K.rewrite (K.rewrite blob (prefixIn p)) (stripOut p)) = K.read blob := by
  have hin : K.read (K.rewrite blob (prefixIn p)) = (K.read blob).map (K.rename (prefixIn p)) :=
    read_rewrite hK hfits
  have hout : FitsUnder K (stripOut p) (K.rewrite blob (prefixIn p)) := by
    intro v' hv' n' hn'
    rw [hin] at hv'
    obtain ⟨v, hv, rfl⟩ := Option.map_eq_some_iff.mp hv'
    rw [K.names_rename] at hn'
    obtain ⟨n, hn, rfl⟩ := List.mem_map.mp hn'
    -- The stripped name is the one the member sent, and that one came off the wire.
    rw [stripOut_prefixIn]
    exact hK.fits_of_read hv n hn
  rw [read_rewrite hK hout, hin, Option.map_map]
  cases K.read blob with
  | none => rfl
  | some v =>
      rw [Option.map_some]
      exact congrArg some (rename_back p v)

end

/-! ### The requests of a rebalance -/

section
variable {B : ConsumerCodec} {p : GoString}

/-- The protocol type of a message on a consumer group's path: the consumer's, or none in the
versions that do not carry it. -/
def ConsumerType (protocolType : Option GoString) : Prop :=
  protocolType = none ∨ protocolType = some consumerProtocolType

/-- Blobs of the consumer type are not skipped. -/
theorem skipBlobs_eq_false (hp : p ≠ []) {protocolType : Option GoString}
    (h : ConsumerType protocolType) : skipBlobs p protocolType = false := by
  rcases h with rfl | rfl
  · simp [skipBlobs, hp]
  · simp [skipBlobs, hp]

/-- The protocols of a consumer's JoinGroup request on their way to the broker. -/
theorem protocols_joinGroupRequestIn (hp : p ≠ []) {req : JoinGroupRequest}
    (htype : req.protocolType = consumerProtocolType) :
    (joinGroupRequestIn B p req).protocols = req.protocols.map fun pr =>
      { pr with metadata := (subscriptions B).rewrite pr.metadata (prefixIn p) } := by
  unfold joinGroupRequestIn
  rw [if_neg (by simp [hp, htype])]
  simp only [rewriteConsumerSubscription_eq]

/-- The assignments of a consumer group's SyncGroup request on their way to the broker. -/
theorem groupAssignment_syncGroupRequestIn (hp : p ≠ []) {req : SyncGroupRequest}
    (htype : ConsumerType req.protocolType) :
    (syncGroupRequestIn B p req).groupAssignment = req.groupAssignment.map fun a =>
      { a with memberAssignment :=
          (assignments B).rewrite a.memberAssignment (prefixIn p) } := by
  have hskip : skipBlobs p req.protocolType = false := skipBlobs_eq_false hp htype
  unfold syncGroupRequestIn
  simp only [hskip, rewriteConsumerAssignment_eq]
  rfl

/-- The broker picks the same entry from a rewritten request. -/
theorem metadataFor_joinGroupRequestIn (hp : p ≠ []) {req : JoinGroupRequest}
    (htype : req.protocolType = consumerProtocolType) (protocol : GoString) :
    metadataFor protocol (joinGroupRequestIn B p req) =
      (subscriptions B).rewrite (metadataFor protocol req) (prefixIn p) := by
  -- The names of the protocols stay, so the search finds the image of what it found before.
  have hfind : (joinGroupRequestIn B p req).protocols.find? (fun pr => pr.name == protocol) =
      (req.protocols.find? fun pr => pr.name == protocol).map fun pr =>
        { pr with metadata := (subscriptions B).rewrite pr.metadata (prefixIn p) } := by
    rw [protocols_joinGroupRequestIn hp htype, List.find?_map]
    rfl
  unfold metadataFor
  rw [hfind]
  cases req.protocols.find? fun pr => pr.name == protocol with
  | none => exact rewrite_nil.symm
  | some pr => rfl

/-- The rewritten request has the rewritten assignment for each member. -/
theorem assignmentFor_syncGroupRequestIn (hp : p ≠ []) {req : SyncGroupRequest}
    (htype : ConsumerType req.protocolType) (memberID : GoString) :
    assignmentFor memberID (syncGroupRequestIn B p req) =
      (assignments B).rewrite (assignmentFor memberID req) (prefixIn p) := by
  have hfind : (syncGroupRequestIn B p req).groupAssignment.find?
      (fun a => a.memberID == memberID) =
      (req.groupAssignment.find? fun a => a.memberID == memberID).map fun a =>
        { a with memberAssignment :=
            (assignments B).rewrite a.memberAssignment (prefixIn p) } := by
    rw [groupAssignment_syncGroupRequestIn hp htype, List.find?_map]
    rfl
  unfold assignmentFor
  rw [hfind]
  cases req.groupAssignment.find? fun a => a.memberID == memberID with
  | none => exact rewrite_nil.symm
  | some a => rfl

/-- What holds of every blob a request offers, and of the empty one, holds of the one the
broker picks. -/
theorem metadataFor_forall {P : Bytes → Prop} {req : JoinGroupRequest} (hnil : P [])
    (h : ∀ pr ∈ req.protocols, P pr.metadata) (protocol : GoString) :
    P (metadataFor protocol req) := by
  unfold metadataFor
  cases hfind : req.protocols.find? fun pr => pr.name == protocol with
  | none => exact hnil
  | some pr => exact h pr (List.mem_of_find?_eq_some hfind)

/-- What holds of every assignment and of none holds of a member's. -/
theorem assignmentFor_forall {P : Bytes → Prop} {req : SyncGroupRequest} (hnil : P [])
    (h : ∀ a ∈ req.groupAssignment, P a.memberAssignment) (memberID : GoString) :
    P (assignmentFor memberID req) := by
  unfold assignmentFor
  cases hfind : req.groupAssignment.find? fun a => a.memberID == memberID with
  | none => exact hnil
  | some a => exact h a (List.mem_of_find?_eq_some hfind)

end

/-! ### A whole rebalance -/

/-- A rebalance of a consumer group: every member joins as a consumer, the leader's request
says so or has no type, and the names in all blobs fit behind the prefix. -/
structure ConsumerRebalance (B : ConsumerCodec) (p : GoString) (r : Rebalance) : Prop where
  joins : ∀ m ∈ r.members, m.request.protocolType = consumerProtocolType
  syncs : ConsumerType r.sync.protocolType
  joinFits : ∀ m ∈ r.members, ∀ pr ∈ m.request.protocols,
    FitsUnder (subscriptions B) (prefixIn p) pr.metadata
  syncFits : ∀ a ∈ r.sync.groupAssignment,
    FitsUnder (assignments B) (prefixIn p) a.memberAssignment

/-- A description of the group's members that decodes to what they sent and what the leader
assigned. -/
def Describes (B : ConsumerCodec) (r : Rebalance)
    (described : List DescribeGroupsResponseGroupMember) : Prop :=
  List.Forall₂
    (fun m got => got.memberID = m.memberID ∧
      B.readMetadata got.protocolMetadata =
        B.readMetadata (metadataFor r.protocol m.request) ∧
      B.readAssignment got.memberAssignment =
        B.readAssignment (assignmentFor m.memberID r.sync))
    r.members described

/-- What the parties of a rebalance decode. `shown` is what becomes of a topic name on its
way to the broker. -/
structure Transparent (B : ConsumerCodec) (p : GoString) (shown : GoString → GoString)
    (r : Rebalance) : Prop where
  /-- The broker gets every subscription with the names changed, under its protocol name. -/
  subscriptions : ∀ m ∈ r.members, List.Forall₂
    (fun sent seen => seen.name = sent.name ∧
      B.readMetadata seen.metadata = (B.readMetadata sent.metadata).map (·.rename shown))
    m.request.protocols (joinGroupRequestIn B p m.request).protocols
  /-- The broker gets every assignment with the names changed, for its member. -/
  assignments : List.Forall₂
    (fun sent seen => seen.memberID = sent.memberID ∧
      B.readAssignment seen.memberAssignment =
        (B.readAssignment sent.memberAssignment).map (·.rename shown))
    r.sync.groupAssignment (syncGroupRequestIn B p r.sync).groupAssignment
  /-- The leader gets from each member what the member sent. -/
  leader : ∀ resp : JoinGroupResponse, ConsumerType resp.protocolType →
    resp.members = (r.upstream B p).joinedMembers → List.Forall₂
      (fun m got => got.memberID = m.memberID ∧
        B.readMetadata got.protocolMetadata =
          B.readMetadata (metadataFor r.protocol m.request))
      r.members (joinGroupResponseOut B p resp).members
  /-- Each member gets what the leader assigned to it. -/
  member : ∀ (memberID : GoString) (resp : SyncGroupResponse), ConsumerType resp.protocolType →
    resp.memberAssignment = assignmentFor memberID (r.upstream B p).sync →
      B.readAssignment (syncGroupResponseOut B p resp).memberAssignment =
        B.readAssignment (assignmentFor memberID r.sync)
  /-- A description of the group shows the same values, also one that gives no protocol type. -/
  described : ∀ (client : GoString → GoString × GoString) (resp : DescribeGroupsResponse),
    List.Forall₂
      (fun g g' => g.protocolType = [] ∨ g.protocolType = consumerProtocolType →
        g.members = (r.upstream B p).describedMembers client → Describes B r g'.members)
      resp.groups (describeGroupsResponseOut B p resp).groups

section
variable {B : ConsumerCodec} {p : GoString} {r : Rebalance}

/-- Entry by entry, a list and its image. -/
theorem forall₂_map_right {α β : Type} {R : α → β → Prop} {f : α → β} {xs : List α}
    (h : ∀ x ∈ xs, R x (f x)) : List.Forall₂ R xs (xs.map f) := by
  rw [List.forall₂_map_right_iff, List.forall₂_same]
  exact h

/-- The subscription of a member after the way in and the way back. -/
theorem ConsumerRebalance.subscription_back (h : ConsumerRebalance B p r) (hB : Lawful B)
    (hp : p ≠ []) {m : Joined} (hm : m ∈ r.members) :
    B.readMetadata (rewriteConsumerSubscription B
        (metadataFor r.protocol (joinGroupRequestIn B p m.request)) (stripOut p)) =
      B.readMetadata (metadataFor r.protocol m.request) := by
  have hfits : FitsUnder (subscriptions B) (prefixIn p) (metadataFor r.protocol m.request) := by
    refine metadataFor_forall ?_ (h.joinFits m hm) r.protocol
    intro v hv
    cases hB.subscriptions.read_nil.symm.trans hv
  rw [metadataFor_joinGroupRequestIn hp (h.joins m hm), rewriteConsumerSubscription_eq]
  exact read_rewrite_back hB.subscriptions hfits

/-- The assignment of a member after the way in and the way back. -/
theorem ConsumerRebalance.assignment_back (h : ConsumerRebalance B p r) (hB : Lawful B)
    (hp : p ≠ []) (memberID : GoString) :
    B.readAssignment (rewriteConsumerAssignment B
        (assignmentFor memberID (syncGroupRequestIn B p r.sync)) (stripOut p)) =
      B.readAssignment (assignmentFor memberID r.sync) := by
  have hfits : FitsUnder (assignments B) (prefixIn p) (assignmentFor memberID r.sync) := by
    refine assignmentFor_forall ?_ h.syncFits memberID
    intro v hv
    cases hB.assignments.read_nil.symm.trans hv
  rw [assignmentFor_syncGroupRequestIn hp h.syncs, rewriteConsumerAssignment_eq]
  exact read_rewrite_back hB.assignments hfits

/-- The description of a consumer group among any others. -/
theorem ConsumerRebalance.described_back (h : ConsumerRebalance B p r) (hB : Lawful B)
    (hp : p ≠ []) (client : GoString → GoString × GoString) (resp : DescribeGroupsResponse) :
    List.Forall₂
      (fun g g' => g.protocolType = [] ∨ g.protocolType = consumerProtocolType →
        g.members = (r.upstream B p).describedMembers client → Describes B r g'.members)
      resp.groups (describeGroupsResponseOut B p resp).groups := by
  refine forall₂_map_right ?_
  intro g _ htype hmembers
  have hguard : ¬ (p = [] ∨ (g.protocolType ≠ [] ∧ g.protocolType ≠ consumerProtocolType)) := by
    rintro (hnone | ⟨hsome, hother⟩)
    · exact hp hnone
    · exact htype.elim hsome hother
  dsimp only
  rw [if_neg hguard]
  dsimp only
  rw [hmembers, Rebalance.describedMembers, Rebalance.upstream, List.map_map, List.map_map]
  refine forall₂_map_right ?_
  intro m hm
  exact ⟨rfl, h.subscription_back hB hp hm, h.assignment_back hB hp m.memberID⟩

end

/-- Rebalances of consumer groups are transparent. The broker gets every subscription and
every assignment with the prefix in front of each topic name that is not empty, and nothing
else changed. The leader and the members get what the other side sent, and a description of
the group shows the same. -/
theorem rebalance_transparent (B : ConsumerCodec) (hB : Lawful B) (p : GoString)
    (hp : p ≠ []) (r : Rebalance) (h : ConsumerRebalance B p r) :
    Transparent B p (fun n => if n = [] then n else p ++ n) r := by
  -- With a prefix this is `PrefixIn`.
  have hshown : (fun n => if n = [] then n else p ++ n) = prefixIn p := by
    funext n
    simp [prefixIn, hp]
  rw [hshown]
  constructor
  · intro m hm
    rw [protocols_joinGroupRequestIn hp (h.joins m hm)]
    refine forall₂_map_right ?_
    intro pr hpr
    exact ⟨rfl, read_rewrite hB.subscriptions (h.joinFits m hm pr hpr)⟩
  · rw [groupAssignment_syncGroupRequestIn hp h.syncs]
    refine forall₂_map_right ?_
    intro a ha
    exact ⟨rfl, read_rewrite hB.assignments (h.syncFits a ha)⟩
  · intro resp htype hmembers
    have hskip : skipBlobs p resp.protocolType = false := skipBlobs_eq_false hp htype
    unfold joinGroupResponseOut
    rw [hskip, if_neg Bool.false_ne_true]
    dsimp only
    rw [hmembers, Rebalance.joinedMembers, Rebalance.upstream, List.map_map, List.map_map]
    refine forall₂_map_right ?_
    intro m hm
    exact ⟨rfl, h.subscription_back hB hp hm⟩
  · intro memberID resp htype hblob
    have hskip : skipBlobs p resp.protocolType = false := skipBlobs_eq_false hp htype
    unfold syncGroupResponseOut
    rw [hskip, if_neg Bool.false_ne_true]
    dsimp only
    rw [hblob]
    exact h.assignment_back hB hp memberID
  · exact h.described_back hB hp

/-! ### Two members -/

/-- Two members of a consumer group subscribe to `topic`, and the leader gives all of it to
the first of them. -/
def twoMembers (topic : GoString) : Rebalance :=
  let subscription (owned : List (TopicOf Int32)) : JoinGroupRequest :=
    { group := goString "billing"
      protocolType := consumerProtocolType
      protocols := [⟨goString "range",
        metadataFormat.append ⟨3, [topic], some [7], owned, 4, some (goString "r1")⟩⟩] }
  { members := [⟨goString "m1", subscription [⟨topic, [0, 1]⟩]⟩, ⟨goString "m2", subscription []⟩]
    protocol := goString "range"
    sync :=
      { group := goString "billing"
        protocolType := none
        groupAssignment :=
          [⟨goString "m1", assignmentFormat.append ⟨0, [⟨topic, [0, 1]⟩], none⟩⟩,
            ⟨goString "m2", assignmentFormat.append ⟨0, [], none⟩⟩] } }

/-- Two members that share one topic. -/
theorem rebalance_transparent_orders :
    Transparent kmsgConsumer (goString "tA.")
      (fun n => if n = [] then n else goString "tA." ++ n) (twoMembers (goString "orders")) := by
  refine rebalance_transparent kmsgConsumer kmsgConsumer_lawful _ (by decide) _ ?_
  constructor
  · decide +kernel
  · exact Or.inl rfl
  · decide +kernel
  · decide +kernel

/-- An empty topic name in a subscription reaches the broker without the prefix. -/
theorem emptyTopic_unprefixed :
    ConsumerRebalance kmsgConsumer (goString "tA.") (twoMembers []) ∧
      ¬ Transparent kmsgConsumer (goString "tA.") (fun n => goString "tA." ++ n)
        (twoMembers []) := by
  refine ⟨⟨by decide +kernel, Or.inl rfl, by decide +kernel, by decide +kernel⟩, ?_⟩
  intro h
  -- The first protocol of the first member.
  have hseen := h.subscriptions _ List.mem_cons_self
  obtain ⟨⟨-, hread⟩, -⟩ := List.forall₂_cons.mp hseen
  exact absurd hread (by decide +kernel)

end Kroxy.Proofs
