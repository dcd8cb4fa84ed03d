import Kroxy.Proofs.Rebalance

/-!
# `Kroxy.Proofs.OpaqueBlobs`: member blobs of other protocols

Groups of Kafka Connect and of other protocols have member blobs of their own. Their requests
say so in the protocol type, and the rewriters skip them. JoinGroup responses carry the type
from version 7 on only, and SyncGroup messages from version 5 on. Before that the type is
missing, the rewriters take the group for a consumer group, and a blob that happens to decode
is encoded again.

`Kept` is the condition under which no blob changes. `rewrite_eq_self_iff` is the reason: a
blob survives the decoder and the encoder if it does not decode, or if it is exactly the
encoding of a value in which no name changes. `untouched_iff` puts the legs of a rebalance
together, and `trailingByte_dropped` is a blob that loses a byte.
-/

set_option autoImplicit false

namespace Kroxy.Proofs

open Kroxy.Go
open Kroxy.Kmsg
open Kroxy.Rewrite
open Kroxy.Broker

/-! ### Names and blobs that stay -/

/-- `PrefixIn` changes every name but the empty one. -/
theorem prefixIn_eq_self_iff {p n : GoString} (hp : p ≠ []) : prefixIn p n = n ↔ n = [] := by
  by_cases hn : n = []
  · simp [hn]
  · rw [prefixIn_of_ne_nil hp hn]
    constructor
    · intro h
      have hlen := congrArg List.length h
      have hpos : 0 < p.length := List.length_pos_iff.mpr hp
      simp only [List.length_append] at hlen
      omega
    · intro h
      exact absurd h hn

/-- `StripOut` makes no name longer. -/
theorem length_stripOut_le (p n : GoString) : (stripOut p n).length ≤ n.length := by
  by_cases hp : p = []
  · rw [stripOut, if_pos hp]
  · by_cases hprefix : p <+: n
    · obtain ⟨rest, rfl⟩ := hprefix
      rw [stripOut_append hp, List.length_append]
      omega
    · rw [(stripOut_eq_self_iff hp).mpr hprefix]

section
variable {α : Type} {K : BlobCodec α} {blob : Bytes}

/-- A blob that decoding and encoding leaves alone: it is empty, it does not decode, or it is
the encoding of what it decodes to and `stays` holds of the names in it. -/
def KeptBlob (K : BlobCodec α) (stays : GoString → Prop) (blob : Bytes) : Prop :=
  blob = [] ∨ K.read blob = none ∨
    ∃ v, K.read blob = some v ∧ K.append v = blob ∧ ∀ n ∈ K.names v, stays n

/-- A kept blob is not changed. -/
theorem KeptBlob.rewrite {fn : GoString → GoString} {stays : GoString → Prop}
    (hstays : ∀ n, stays n → fn n = n) (h : KeptBlob K stays blob) :
    K.rewrite blob fn = blob := by
  rcases h with hnil | hnone | ⟨v, hread, happend, hnames⟩
  · rw [hnil]
    exact rewrite_nil
  · exact rewrite_of_none hnone
  · have hrename : K.rename fn v = v :=
      K.rename_eq_self_iff.mpr fun n hn => hstays n (hnames n hn)
    unfold BlobCodec.rewrite
    rw [hread]
    dsimp only
    rw [hrename, happend]
    split <;> rfl

/-- A blob that is not changed was a kept one, when the new names fit. -/
theorem keptBlob_of_rewrite {fn : GoString → GoString} {stays : GoString → Prop}
    (hK : K.Lawful) (hfits : FitsUnder K fn blob) (hstays : ∀ n, fn n = n → stays n)
    (h : K.rewrite blob fn = blob) : KeptBlob K stays blob := by
  cases hread : K.read blob with
  | none => exact Or.inr (Or.inl hread)
  | some v =>
      -- The blob is the encoding of the renamed value, and it decodes to the old one.
      have happend : K.append (K.rename fn v) = blob := (rewrite_of_some hK hread).symm.trans h
      have hback : K.read blob = some (K.rename fn v) := by
        rw [← happend]
        exact hK.read_append hread (hfits v hread)
      have hrename : K.rename fn v = v := Option.some.inj (hback.symm.trans hread)
      rw [hrename] at happend
      exact Or.inr (Or.inr ⟨v, hread, happend, fun n hn =>
        hstays n (K.rename_eq_self_iff.mp hrename n hn)⟩)

/-- For `StripOut` the names always fit. -/
theorem fitsUnder_stripOut (hK : K.Lawful) (p : GoString) (blob : Bytes) :
    FitsUnder K (stripOut p) blob := by
  intro v hv n hn
  exact (length_stripOut_le p n).trans (hK.fits_of_read hv n hn)

/-- Which blobs `StripOut` leaves alone. -/
theorem rewrite_stripOut_eq_self_iff {p : GoString} (hK : K.Lawful) (hp : p ≠ [])
    (blob : Bytes) :
    K.rewrite blob (stripOut p) = blob ↔ KeptBlob K (fun n => ¬ p <+: n) blob := by
  constructor
  · exact keptBlob_of_rewrite hK (fitsUnder_stripOut hK p blob)
      fun n h => (stripOut_eq_self_iff hp).mp h
  · exact KeptBlob.rewrite fun n h => (stripOut_eq_self_iff hp).mpr h

end

/-! ### The legs of a rebalance -/

/-- The protocol type in a message of `version`, when the field is there from `first` on. -/
def carriedType (first version : Int16) (protocolType : GoString) : Option GoString :=
  if first ≤ version then some protocolType else none

/-- The versions of the messages that carry blobs of a rebalance. -/
structure Versions where
  /-- Of the leader's JoinGroup response. -/
  join : Int16
  /-- Of the leader's SyncGroup request. -/
  sync : Int16
  /-- Of each member's SyncGroup response. -/
  member : GoString → Int16

/-- A rebalance of a group whose members all join with the type `t`. -/
structure RebalanceOf (t : GoString) (v : Versions) (r : Rebalance) : Prop where
  joins : ∀ m ∈ r.members, m.request.protocolType = t
  syncs : r.sync.protocolType = carriedType 5 v.sync t

/-- Every blob arrives as it was sent: at the broker, at the leader and at the members. -/
structure Untouched (B : ConsumerCodec) (p t : GoString) (v : Versions) (r : Rebalance) :
    Prop where
  joined : ∀ m ∈ r.members, (joinGroupRequestIn B p m.request).protocols = m.request.protocols
  leader : ∀ resp : JoinGroupResponse, resp.protocolType = carriedType 7 v.join t →
    resp.members = (r.upstream B p).joinedMembers →
      (joinGroupResponseOut B p resp).members = r.joinedMembers
  synced : (syncGroupRequestIn B p r.sync).groupAssignment = r.sync.groupAssignment
  member : ∀ m ∈ r.members, ∀ resp : SyncGroupResponse,
    resp.protocolType = carriedType 5 (v.member m.memberID) t →
    resp.memberAssignment = assignmentFor m.memberID (r.upstream B p).sync →
      (syncGroupResponseOut B p resp).memberAssignment = assignmentFor m.memberID r.sync

/-- On each leg the version carries the type, or the blobs are kept ones. -/
structure Kept (B : ConsumerCodec) (p : GoString) (v : Versions) (r : Rebalance) : Prop where
  leader : 7 ≤ v.join ∨ ∀ m ∈ r.members,
    KeptBlob (subscriptions B) (fun n => ¬ p <+: n) (metadataFor r.protocol m.request)
  sync : 5 ≤ v.sync ∨ ∀ a ∈ r.sync.groupAssignment,
    KeptBlob (assignments B) (fun n => n = []) a.memberAssignment
  member : ∀ m ∈ r.members, 5 ≤ v.member m.memberID ∨
    KeptBlob (assignments B) (fun n => ¬ p <+: n) (assignmentFor m.memberID r.sync)

section
variable {B : ConsumerCodec} {p t : GoString} {v : Versions} {r : Rebalance}

/-- Blobs of another type are skipped once the version carries the type. -/
theorem skipBlobs_carriedType {first version : Int16} (hp : p ≠ [])
    (ht : t ≠ consumerProtocolType) :
    skipBlobs p (carriedType first version t) = decide (first ≤ version) := by
  unfold carriedType
  by_cases hversion : first ≤ version
  · rw [if_pos hversion]
    simp [skipBlobs, ht, hversion]
  · rw [if_neg hversion]
    simp [skipBlobs, hp, hversion]

/-- The type is always in JoinGroup requests, so they are never touched. -/
theorem joinGroupRequestIn_other {req : JoinGroupRequest}
    (ht : req.protocolType ≠ consumerProtocolType) :
    joinGroupRequestIn B p req = { req with group := prefixIn p req.group } := by
  unfold joinGroupRequestIn
  rw [if_pos (Or.inr ht)]

/-- So the broker sends the leader the blobs the members sent. -/
theorem RebalanceOf.joinedMembers (h : RebalanceOf t v r) (ht : t ≠ consumerProtocolType) :
    (r.upstream B p).joinedMembers = r.joinedMembers := by
  unfold Rebalance.joinedMembers Rebalance.upstream
  rw [List.map_map]
  refine List.map_congr_left ?_
  intro m hm
  have htype : m.request.protocolType ≠ consumerProtocolType := by
    rw [h.joins m hm]
    exact ht
  show JoinGroupResponseMember.mk _ (metadataFor r.protocol (joinGroupRequestIn B p m.request)) = _
  rw [joinGroupRequestIn_other htype]
  rfl

/-- The JoinGroup response of a version that carries the type, and of one that does not. -/
theorem members_joinGroupResponseOut (hp : p ≠ []) (ht : t ≠ consumerProtocolType)
    {version : Int16} {resp : JoinGroupResponse}
    (htype : resp.protocolType = carriedType 7 version t) :
    (joinGroupResponseOut B p resp).members =
      if 7 ≤ version then resp.members
      else resp.members.map fun m =>
        { m with protocolMetadata :=
            (subscriptions B).rewrite m.protocolMetadata (stripOut p) } := by
  unfold joinGroupResponseOut
  rw [htype, skipBlobs_carriedType hp ht]
  by_cases hversion : 7 ≤ version <;> simp [hversion, rewriteConsumerSubscription_eq]

/-- Older versions rewrite the assignments of another type too. -/
theorem groupAssignment_other (hp : p ≠ []) (ht : t ≠ consumerProtocolType)
    {version : Int16} {req : SyncGroupRequest}
    (htype : req.protocolType = carriedType 5 version t) :
    (syncGroupRequestIn B p req).groupAssignment =
      if 5 ≤ version then req.groupAssignment
      else req.groupAssignment.map fun a =>
        { a with memberAssignment :=
            (assignments B).rewrite a.memberAssignment (prefixIn p) } := by
  have hskip : skipBlobs p req.protocolType = decide (5 ≤ version) := by
    rw [htype, skipBlobs_carriedType hp ht]
  unfold syncGroupRequestIn
  by_cases hversion : 5 ≤ version <;>
    simp [hskip, hversion, rewriteConsumerAssignment_eq]

/-- The same on the way back. -/
theorem memberAssignment_syncGroupResponseOut (hp : p ≠ []) (ht : t ≠ consumerProtocolType)
    {version : Int16} {resp : SyncGroupResponse}
    (htype : resp.protocolType = carriedType 5 version t) :
    (syncGroupResponseOut B p resp).memberAssignment =
      if 5 ≤ version then resp.memberAssignment
      else (assignments B).rewrite resp.memberAssignment (stripOut p) := by
  unfold syncGroupResponseOut
  rw [htype, skipBlobs_carriedType hp ht]
  by_cases hversion : 5 ≤ version <;> simp [hversion, rewriteConsumerAssignment_eq]

/-! ### Each leg on its own -/

/-- The leg from the broker to the leader. -/
theorem leader_untouched_iff (hB : Lawful B) (hp : p ≠ []) (ht : t ≠ consumerProtocolType)
    (h : RebalanceOf t v r) :
    (∀ resp : JoinGroupResponse, resp.protocolType = carriedType 7 v.join t →
      resp.members = (r.upstream B p).joinedMembers →
        (joinGroupResponseOut B p resp).members = r.joinedMembers) ↔
      (7 ≤ v.join ∨ ∀ m ∈ r.members,
        KeptBlob (subscriptions B) (fun n => ¬ p <+: n) (metadataFor r.protocol m.request)) := by
  have hout : ∀ resp : JoinGroupResponse, resp.protocolType = carriedType 7 v.join t →
      resp.members = (r.upstream B p).joinedMembers →
        ((joinGroupResponseOut B p resp).members = r.joinedMembers ↔
          (7 ≤ v.join ∨ ∀ m ∈ r.members, KeptBlob (subscriptions B) (fun n => ¬ p <+: n)
            (metadataFor r.protocol m.request))) := by
    intro resp htype hmembers
    rw [members_joinGroupResponseOut hp ht htype, hmembers, h.joinedMembers ht]
    by_cases hversion : 7 ≤ v.join
    · simp [hversion]
    · rw [if_neg hversion, map_eq_self_iff, Rebalance.joinedMembers, List.forall_mem_map]
      simp only [JoinGroupResponseMember.mk.injEq, true_and, hversion, false_or,
        rewrite_stripOut_eq_self_iff hB.subscriptions hp]
  constructor
  · intro hall
    let resp : JoinGroupResponse :=
      { errorCode := 0, generation := 1, protocolType := carriedType 7 v.join t
        protocol := none, leaderID := [], memberID := []
        members := (r.upstream B p).joinedMembers }
    exact (hout resp rfl rfl).mp (hall resp rfl rfl)
  · intro hkept resp htype hmembers
    exact (hout resp htype hmembers).mpr hkept

/-- The leg from the leader to the broker. -/
theorem synced_iff (hp : p ≠ []) (ht : t ≠ consumerProtocolType) (h : RebalanceOf t v r) :
    (syncGroupRequestIn B p r.sync).groupAssignment = r.sync.groupAssignment ↔
      (5 ≤ v.sync ∨ ∀ a ∈ r.sync.groupAssignment,
        (assignments B).rewrite a.memberAssignment (prefixIn p) = a.memberAssignment) := by
  rw [groupAssignment_other hp ht h.syncs]
  by_cases hversion : 5 ≤ v.sync
  · simp [hversion]
  · rw [if_neg hversion, map_eq_self_iff]
    simp only [hversion, false_or]
    refine forall₂_congr fun a _ => ?_
    constructor
    · intro heq
      exact congrArg SyncGroupRequestGroupAssignment.memberAssignment heq
    · intro heq
      rw [heq]

/-- The leg from the broker to a member, once the broker has what the leader sent. -/
theorem member_untouched_iff (hB : Lawful B) (hp : p ≠ []) (ht : t ≠ consumerProtocolType)
    (hsynced : (syncGroupRequestIn B p r.sync).groupAssignment = r.sync.groupAssignment)
    (memberID : GoString) (version : Int16) :
    (∀ resp : SyncGroupResponse, resp.protocolType = carriedType 5 version t →
      resp.memberAssignment = assignmentFor memberID (r.upstream B p).sync →
        (syncGroupResponseOut B p resp).memberAssignment = assignmentFor memberID r.sync) ↔
      (5 ≤ version ∨ KeptBlob (assignments B) (fun n => ¬ p <+: n)
        (assignmentFor memberID r.sync)) := by
  have hblob : assignmentFor memberID (r.upstream B p).sync = assignmentFor memberID r.sync := by
    show assignmentFor memberID (syncGroupRequestIn B p r.sync) = _
    unfold assignmentFor
    rw [hsynced]
  have hout : ∀ resp : SyncGroupResponse, resp.protocolType = carriedType 5 version t →
      resp.memberAssignment = assignmentFor memberID (r.upstream B p).sync →
        ((syncGroupResponseOut B p resp).memberAssignment = assignmentFor memberID r.sync ↔
          (5 ≤ version ∨ KeptBlob (assignments B) (fun n => ¬ p <+: n)
            (assignmentFor memberID r.sync))) := by
    intro resp htype hassigned
    rw [memberAssignment_syncGroupResponseOut hp ht htype, hassigned, hblob]
    by_cases hversion : 5 ≤ version
    · simp [hversion]
    · rw [if_neg hversion, rewrite_stripOut_eq_self_iff hB.assignments hp]
      simp [hversion]
  constructor
  · intro hall
    let resp : SyncGroupResponse :=
      { errorCode := 0, protocolType := carriedType 5 version t
        memberAssignment := assignmentFor memberID (r.upstream B p).sync }
    exact (hout resp rfl rfl).mp (hall resp rfl rfl)
  · intro hkept resp htype hassigned
    exact (hout resp htype hassigned).mpr hkept

end

/-- Blobs of other protocols pass through untouched when on each leg the version carries the
protocol type or the blobs are kept ones. The converse needs that the names a prefix is put in
front of still fit: a prefix of 65536 bytes wraps the 16-bit length to what it was. -/
theorem untouched_iff (B : ConsumerCodec) (hB : Lawful B) (p t : GoString) (hp : p ≠ [])
    (ht : t ≠ consumerProtocolType) (v : Versions) (r : Rebalance) (h : RebalanceOf t v r) :
    (Kept B p v r → Untouched B p t v r) ∧
      ((5 ≤ v.sync ∨ ∀ a ∈ r.sync.groupAssignment,
          FitsUnder (assignments B) (prefixIn p) a.memberAssignment) →
        (Untouched B p t v r ↔ Kept B p v r)) := by
  have hkept : Kept B p v r → Untouched B p t v r := by
    intro hk
    have hsynced : (syncGroupRequestIn B p r.sync).groupAssignment = r.sync.groupAssignment := by
      refine (synced_iff hp ht h).mpr (hk.sync.imp_right fun hblobs a ha => ?_)
      exact (hblobs a ha).rewrite fun n hn => (prefixIn_eq_self_iff hp).mpr hn
    constructor
    · intro m hm
      have htype : m.request.protocolType ≠ consumerProtocolType := by
        rw [h.joins m hm]
        exact ht
      rw [joinGroupRequestIn_other htype]
    · exact (leader_untouched_iff hB hp ht h).mpr hk.leader
    · exact hsynced
    · intro m hm
      exact (member_untouched_iff hB hp ht hsynced m.memberID _).mpr (hk.member m hm)
  refine ⟨hkept, fun hfits => ⟨fun hu => ?_, hkept⟩⟩
  constructor
  · exact (leader_untouched_iff hB hp ht h).mp hu.leader
  · rcases (synced_iff hp ht h).mp hu.synced with hversion | hblobs
    · exact Or.inl hversion
    · refine hfits.imp_right fun hnames a ha => ?_
      exact keptBlob_of_rewrite hB.assignments (hnames a ha)
        (fun n hn => (prefixIn_eq_self_iff hp).mp hn) (hblobs a ha)
  · intro m hm
    exact (member_untouched_iff hB hp ht hu.synced m.memberID _).mp (hu.member m hm)

/-! ### A group of Kafka Connect -/

/-- The protocol type of Kafka Connect. -/
def connectType : GoString := goString "connect"

/-- Two workers join with `blob`, and the leader assigns `blob` to both. The requests are of
versions that do not carry the protocol type back. -/
def workers (blob : Bytes) : Rebalance :=
  let request : JoinGroupRequest :=
    { group := goString "sink"
      protocolType := connectType
      protocols := [⟨goString "default", blob⟩] }
  { members := [⟨goString "w1", request⟩, ⟨goString "w2", request⟩]
    protocol := goString "default"
    sync :=
      { group := goString "sink"
        protocolType := none
        groupAssignment := [⟨goString "w1", blob⟩, ⟨goString "w2", blob⟩] } }

/-- JoinGroup version 5 and SyncGroup version 3. -/
def oldVersions : Versions := ⟨5, 3, fun _ => 3⟩

/-- The sample messages are those of a Connect rebalance. -/
theorem workers_rebalance (blob : Bytes) :
    RebalanceOf connectType oldVersions (workers blob) := by
  constructor
  · intro m hm
    rcases List.mem_cons.mp hm with rfl | hm
    · rfl
    · rw [List.mem_singleton.mp hm]
  · rfl

/-- A blob that decodes neither way is kept on every leg. -/
theorem workers_kept {p : GoString} {blob : Bytes} (hjoin : kmsgConsumer.readMetadata blob = none)
    (hsync : kmsgConsumer.readAssignment blob = none) :
    Kept kmsgConsumer p oldVersions (workers blob) := by
  have hsent : ∀ m ∈ (workers blob).members, metadataFor (workers blob).protocol m.request = blob ∧
      assignmentFor m.memberID (workers blob).sync = blob := by
    intro m hm
    rcases List.mem_cons.mp hm with rfl | hm
    · exact ⟨rfl, rfl⟩
    · rw [List.mem_singleton.mp hm]
      exact ⟨rfl, rfl⟩
  constructor
  · refine Or.inr fun m hm => Or.inr (Or.inl ?_)
    rw [(hsent m hm).1]
    exact hjoin
  · refine Or.inr fun a ha => Or.inr (Or.inl ?_)
    rcases List.mem_cons.mp ha with rfl | ha
    · exact hsync
    · rw [List.mem_singleton.mp ha]
      exact hsync
  · refine fun m hm => Or.inr (Or.inr (Or.inl ?_))
    rw [(hsent m hm).2]
    exact hsync

/-- A blob that is too short for both schemas passes through. -/
theorem untouched_iff_short :
    Untouched kmsgConsumer (goString "tA.") connectType oldVersions (workers [0, 1, 0, 0]) := by
  have hiff := untouched_iff kmsgConsumer kmsgConsumer_lawful (goString "tA.") connectType
    (by decide) (by decide) oldVersions (workers [0, 1, 0, 0]) (workers_rebalance _)
  exact hiff.1 (workers_kept (by decide +kernel) (by decide +kernel))

/-- A blob that starts like a subscription without topics and has one byte more. The leader
gets it without that byte. -/
theorem trailingByte_dropped :
    let blob : Bytes := [0, 0, 0, 0, 0, 0, 255, 255, 255, 255, 42]
    RebalanceOf connectType oldVersions (workers blob) ∧
      ¬ Untouched kmsgConsumer (goString "tA.") connectType oldVersions (workers blob) := by
  intro blob
  refine ⟨workers_rebalance blob, ?_⟩
  intro h
  let resp : JoinGroupResponse :=
    { errorCode := 0, generation := 1, protocolType := none, protocol := none
      leaderID := goString "w1", memberID := goString "w1"
      members := ((workers blob).upstream kmsgConsumer (goString "tA.")).joinedMembers }
  have hmembers := h.leader resp rfl rfl
  exact absurd hmembers (by decide +kernel)

end Kroxy.Proofs
