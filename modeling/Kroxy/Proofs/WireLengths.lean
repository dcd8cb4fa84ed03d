import Kroxy.Proofs.Rebalance
import Kroxy.Resolver.Memory
import Kroxy.Rewrite.Schema

/-!
# `Kroxy.Proofs.WireLengths`: prefixed names and their length fields

A string on the wire has a 16-bit length. The client may use all of it, and the proxy then
puts the prefix in front. `kmsg` writes the length as it wraps, so the broker reads another
length, and bytes of the name as the fields behind it.

`readsBack_iff` says for which requests this does not happen: the broker reads back the
rewritten request exactly when every prefixed name fits (`PrefixFits`). For JoinGroup the
subscriptions, which grow with the names in them, must fit their 32-bit length too.
`longGroup_wraps` is a request with a group id of 32767 bytes.

The formats carry exactly the values that fit, so the proof compares what fits before and
after the rewriters, message by message.
-/

set_option autoImplicit false

namespace Kroxy.Proofs

open Kroxy.Go
open Kroxy.Lib
open Kroxy.Kmsg
open Kroxy.Resolver
open Kroxy.Rewrite (prefixIn prefixIn_nil prefixIn_of_ne_nil consumerProtocolType)
open Kroxy.Rewrite.Schema

/-! ### What the rewriters make longer -/

/-- The names of a request that the rewriter prefixes. -/
def wireNames : (a : Schema.Api) → a.Request → List GoString
  | .offsetCommit, req => req.group :: req.topics.map (·.topic)
  | .produce, req => req.topics.map (·.topic)
  | .fetch, req => req.topics.map (·.topic)
  | .createTopics, req => req.topics.map (·.topic)
  | .joinGroup, req => [req.group]

/-- By how much prefixing makes a list of names longer. -/
def growth (p : GoString) (names : List GoString) : Nat :=
  (names.map fun n => if n = [] then 0 else p.length).sum

/-- Each subscription of a consumer still fits its length field after its names have grown. -/
def SubscriptionsFit (p : GoString) : (a : Schema.Api) → a.Request → Prop
  | .joinGroup, req => req.protocolType = consumerProtocolType → ∀ pr ∈ req.protocols,
      ∀ m ∈ kmsgConsumer.readMetadata pr.metadata,
        (metadataFormat.append m).length + growth p m.names ≤ maxInt32
  | .offsetCommit, _ => True
  | .produce, _ => True
  | .fetch, _ => True
  | .createTopics, _ => True

/-- A request in which nothing that the prefix makes longer outgrows its length field. -/
structure PrefixFits (p : GoString) (a : Schema.Api) (req : a.Request) : Prop where
  names : ∀ n ∈ wireNames a req, n = [] ∨ p.length + n.length ≤ maxString
  blobs : SubscriptionsFit p a req

section
variable {p : GoString}

/-- A prefixed name is longer by the prefix, an empty one is not. -/
theorem length_prefixIn (hp : p ≠ []) (n : GoString) :
    (prefixIn p n).length = n.length + if n = [] then 0 else p.length := by
  by_cases hn : n = []
  · rw [hn, prefixIn_nil]
    rfl
  · rw [prefixIn_of_ne_nil hp hn, if_neg hn, List.length_append]
    omega

/-- A prefixed name fits when the name is empty or there is room for both. -/
theorem fits_prefixIn_iff (hp : p ≠ []) (n : GoString) :
    (prefixIn p n).length ≤ maxString ↔ n = [] ∨ p.length + n.length ≤ maxString := by
  rw [length_prefixIn hp]
  by_cases hn : n = []
  · simp [hn]
  · rw [if_neg hn]
    simp only [hn, false_or]
    omega

/-- An array whose elements grow by `d`. -/
theorem length_appendArray_map {α : Type} {f : Format GoError α} {g : α → α} {d : α → Nat} :
    ∀ {xs : List α}, (∀ x ∈ xs, (f.append (g x)).length = (f.append x).length + d x) →
      (appendArray f (xs.map g)).length = (appendArray f xs).length + (xs.map d).sum := by
  intro xs
  unfold appendArray
  simp only [List.length_append, length_appendInt32]
  induction xs with
  | nil => exact fun _ => rfl
  | cons x xs ih =>
      intro h
      have hx := h x List.mem_cons_self
      have hxs := ih fun y hy => h y (List.mem_cons_of_mem x hy)
      simp only [List.map_cons, List.flatMap_cons, List.length_append, List.sum_cons] at hxs ⊢
      omega

/-- A string has two bytes for its length. -/
theorem length_appendString (s : GoString) : (appendString s).length = 2 + s.length := by
  rw [appendString, List.length_append, length_appendInt16]

/-- So its encoding grows as the name does. -/
theorem length_appendString_prefixIn (hp : p ≠ []) (n : GoString) :
    (appendString (prefixIn p n)).length =
      (appendString n).length + if n = [] then 0 else p.length := by
  rw [length_appendString, length_appendString, length_prefixIn hp, Nat.add_assoc]

/-- A topic grows by its name. -/
theorem length_topic_rename (hp : p ≠ []) (t : TopicOf Int32) :
    ((topicFormat int32Format).append (t.rename (prefixIn p))).length =
      ((topicFormat int32Format).append t).length + if t.topic = [] then 0 else p.length := by
  show (appendString (prefixIn p t.topic) ++ appendArray int32Format t.partitions).length =
    (appendString t.topic ++ appendArray int32Format t.partitions).length + _
  rw [List.length_append, List.length_append, length_appendString_prefixIn hp]
  omega

/-- The owned partitions of a subscription, which are on the wire from version 1 on. -/
def ownedFormat (version : Int16) : Format GoError (List (TopicOf Int32)) :=
  Format.since (1 ≤ version) [] (arrayFormat (topicFormat int32Format))

/-- The owned partitions grow by their topics. -/
theorem length_owned_rename (hp : p ≠ []) {version : Int16} {owned : List (TopicOf Int32)}
    (h : (ownedFormat version).Fits owned) :
    ((ownedFormat version).append (owned.map (·.rename (prefixIn p)))).length =
      ((ownedFormat version).append owned).length + growth p (owned.map (·.topic)) := by
  unfold ownedFormat growth at *
  rw [Format.fits_since] at h
  rw [List.map_map]
  unfold Format.since
  by_cases hwire : 1 ≤ version
  · rw [if_pos hwire]
    exact length_appendArray_map fun t _ => length_topic_rename hp t
  -- In version 0 there are no owned partitions to rename.
  · rw [if_neg hwire] at h ⊢
    rw [h]
    rfl

/-- The encoding of a subscription, field by field. -/
theorem length_append_metadata (m : ConsumerMemberMetadata) :
    (metadataFormat.append m).length =
      (appendInt16 m.version).length + ((appendArray stringFormat m.topics).length +
        ((nullableBytesFormat.append m.userData).length +
          (((ownedFormat m.version).append m.ownedPartitions).length +
            (((Format.since (2 ≤ m.version) (-1) int32Format).append m.generation).length +
              ((Format.since (3 ≤ m.version) none nullableStringFormat).append
                m.rack).length)))) := by
  rw [← List.length_append, ← List.length_append, ← List.length_append,
    ← List.length_append, ← List.length_append]
  rfl

/-- Prefixing the names in a subscription makes its encoding longer by their growth. -/
theorem length_append_rename (hp : p ≠ []) {m : ConsumerMemberMetadata}
    (h : metadataFormat.Fits m) :
    (metadataFormat.append (m.rename (prefixIn p))).length =
      (metadataFormat.append m).length + growth p m.names := by
  obtain ⟨-, -, -, howned, -⟩ := h
  have htopics : (appendArray stringFormat (m.rename (prefixIn p)).topics).length =
      (appendArray stringFormat m.topics).length + growth p m.topics :=
    length_appendArray_map fun n _ => length_appendString_prefixIn hp n
  have howned' : ((ownedFormat m.version).append (m.rename (prefixIn p)).ownedPartitions).length =
      ((ownedFormat m.version).append m.ownedPartitions).length +
        growth p (m.ownedPartitions.map (·.topic)) := length_owned_rename hp howned
  have hgrowth : growth p m.names =
      growth p m.topics + growth p (m.ownedPartitions.map (·.topic)) := by
    simp only [growth, ConsumerMemberMetadata.names, List.map_append, List.sum_append]
  -- Renaming leaves the other four fields as they are.
  have hversion : (m.rename (prefixIn p)).version = m.version := rfl
  have huserData : (m.rename (prefixIn p)).userData = m.userData := rfl
  have hgeneration : (m.rename (prefixIn p)).generation = m.generation := rfl
  have hrack : (m.rename (prefixIn p)).rack = m.rack := rfl
  rw [length_append_metadata, length_append_metadata, hversion, huserData, hgeneration, hrack,
    htopics, howned', hgrowth]
  omega

/-- A rewritten subscription fits its length field when the growth of its names does. -/
theorem fits_rewrite_iff (hp : p ≠ []) {blob : Bytes} (h : blob.length ≤ maxInt32) :
    (Rewrite.rewriteConsumerSubscription kmsgConsumer blob (prefixIn p)).length ≤ maxInt32 ↔
      ∀ m ∈ kmsgConsumer.readMetadata blob,
        (metadataFormat.append m).length + growth p m.names ≤ maxInt32 := by
  rw [rewriteConsumerSubscription_eq]
  cases hread : kmsgConsumer.readMetadata blob with
  | none =>
      rw [rewrite_of_none hread]
      simp [h]
  | some m =>
      have hfits : metadataFormat.Fits m :=
        Format.fits_of_decode (toOption_eq_some.mp hread)
      rw [rewrite_of_some kmsgConsumer_lawful.subscriptions hread]
      show (metadataFormat.append (m.rename (prefixIn p))).length ≤ maxInt32 ↔ _
      rw [length_append_rename hp hfits]
      simp

end

/-! ### What fits after the rewriters -/

section
variable {p : GoString} {v : Int16}

/-- Topics of any kind, under prefixed names. -/
theorem fits_topics_prefixIn {π : Type} {f : Format GoError π} {ts : List (TopicOf π)}
    (hp : p ≠ []) (h : (arrayFormat (topicFormat f)).Fits ts) :
    (arrayFormat (topicFormat f)).Fits (ts.map (·.rename (prefixIn p))) ↔
      ∀ n ∈ ts.map (·.topic), n = [] ∨ p.length + n.length ≤ maxString := by
  rw [fits_topics_rename h, List.forall_mem_map]
  exact forall₂_congr fun t _ => fits_prefixIn_iff hp t.topic

/-- A rewritten OffsetCommit request fits when each name does. -/
theorem fits_offsetCommit_iff (hp : p ≠ []) {req : Schema.OffsetCommitRequest}
    (h : (Schema.offsetCommitFormat v).Fits req) :
    (Schema.offsetCommitFormat v).Fits (offsetCommitRequestIn p req) ↔
      ∀ n ∈ wireNames .offsetCommit req, n = [] ∨ p.length + n.length ≤ maxString := by
  obtain ⟨-, hgeneration, hmember, hinstance, hretention, htopics⟩ := h
  have htopics' := fits_topics_prefixIn hp htopics
  have hgroup := fits_prefixIn_iff hp req.group
  show _ ↔ ∀ n ∈ req.group :: req.topics.map (·.topic), _
  rw [List.forall_mem_cons]
  constructor
  · intro hfits
    exact ⟨hgroup.mp hfits.1, htopics'.mp hfits.2.2.2.2.2⟩
  · intro hnames
    exact ⟨hgroup.mpr hnames.1, hgeneration, hmember, hinstance, hretention,
      htopics'.mpr hnames.2⟩

/-- The same for Produce. -/
theorem fits_produce_iff (hp : p ≠ []) {req : Schema.ProduceRequest}
    (h : (Schema.produceFormat v).Fits req) :
    (Schema.produceFormat v).Fits (produceRequestIn p req) ↔
      ∀ n ∈ wireNames .produce req, n = [] ∨ p.length + n.length ≤ maxString := by
  obtain ⟨htransaction, hacks, htimeout, htopics⟩ := h
  have htopics' := fits_topics_prefixIn hp htopics
  constructor
  · intro hfits
    exact htopics'.mp hfits.2.2.2
  · intro hnames
    exact ⟨htransaction, hacks, htimeout, htopics'.mpr hnames⟩

/-- The same for Fetch. -/
theorem fits_fetch_iff (hp : p ≠ []) {req : Schema.FetchRequest}
    (h : (Schema.fetchFormat v).Fits req) :
    (Schema.fetchFormat v).Fits (fetchRequestIn p req) ↔
      ∀ n ∈ wireNames .fetch req, n = [] ∨ p.length + n.length ≤ maxString := by
  obtain ⟨h₁, h₂, h₃, h₄, h₅, h₆, h₇, htopics, hforgotten, hrack⟩ := h
  have htopics' := fits_topics_prefixIn hp htopics
  constructor
  · intro hfits
    exact htopics'.mp hfits.2.2.2.2.2.2.2.1
  · intro hnames
    -- The forgotten topics are left as they came.
    exact ⟨h₁, h₂, h₃, h₄, h₅, h₆, h₇, htopics'.mpr hnames, hforgotten, hrack⟩

/-- The same for CreateTopics. -/
theorem fits_createTopics_iff (hp : p ≠ []) {req : Schema.CreateTopicsRequest}
    (h : (Schema.createTopicsFormat v).Fits req) :
    (Schema.createTopicsFormat v).Fits (createTopicsRequestIn p req) ↔
      ∀ n ∈ wireNames .createTopics req, n = [] ∨ p.length + n.length ≤ maxString := by
  obtain ⟨htopics, htimeout, hvalidate⟩ := h
  have hold : (arrayFormat Schema.createTopicsTopicFormat).Fits req.topics := htopics
  have hnew : (arrayFormat Schema.createTopicsTopicFormat).Fits
      (req.topics.map fun t => { t with topic := prefixIn p t.topic }) ↔
      ∀ n ∈ req.topics.map (·.topic), n = [] ∨ p.length + n.length ≤ maxString := by
    rw [fits_array_map _ hold, List.forall_mem_map]
    refine forall₂_congr fun t ht => ?_
    obtain ⟨-, hrest⟩ := hold.2 t ht
    rw [← fits_prefixIn_iff hp]
    constructor
    · intro hfits
      exact hfits.1
    · intro hname
      exact ⟨hname, hrest⟩
  constructor
  · intro hfits
    exact hnew.mp hfits.1
  · intro hnames
    exact ⟨hnew.mpr hnames, htimeout, hvalidate⟩

/-- The protocols of a JoinGroup request after the rewriter. -/
theorem fits_protocols_iff (hp : p ≠ []) {req : Schema.JoinGroupRequest}
    (h : (arrayFormat Schema.joinGroupProtocolFormat).Fits req.protocols) :
    (arrayFormat Schema.joinGroupProtocolFormat).Fits
        (joinGroupRequestIn kmsgConsumer p req).protocols ↔
      SubscriptionsFit p .joinGroup req := by
  unfold joinGroupRequestIn SubscriptionsFit
  by_cases htype : req.protocolType = consumerProtocolType
  · rw [if_neg (by simp [hp, htype])]
    dsimp only
    rw [fits_array_map _ h]
    simp only [htype, forall_const]
    refine forall₂_congr fun pr hpr => ?_
    obtain ⟨hname, hblob⟩ := h.2 pr hpr
    have hmetadata : pr.metadata.length ≤ maxInt32 := hblob
    rw [← fits_rewrite_iff hp hmetadata]
    constructor
    · intro hfits
      exact hfits.2
    · intro hnew
      exact ⟨hname, hnew⟩
  · rw [if_pos (Or.inr htype)]
    simp [htype, h]

/-- The rewriter touches the group id and the protocols, in whichever branch. -/
theorem joinGroupRequestIn_eq (B : Rewrite.ConsumerCodec) (p : GoString)
    (req : Schema.JoinGroupRequest) :
    joinGroupRequestIn B p req =
      { req with
          group := prefixIn p req.group
          protocols := (joinGroupRequestIn B p req).protocols } := by
  unfold joinGroupRequestIn
  dsimp only
  by_cases hskip : p = [] ∨ req.protocolType ≠ consumerProtocolType
  · rw [if_pos hskip]
  · rw [if_neg hskip]

/-- For JoinGroup the subscriptions must fit as well. -/
theorem fits_joinGroup_iff (hp : p ≠ []) {req : Schema.JoinGroupRequest}
    (h : (Schema.joinGroupFormat v).Fits req) :
    (Schema.joinGroupFormat v).Fits (joinGroupRequestIn kmsgConsumer p req) ↔
      (∀ n ∈ wireNames .joinGroup req, n = [] ∨ p.length + n.length ≤ maxString) ∧
        SubscriptionsFit p .joinGroup req := by
  obtain ⟨-, hsession, hrebalance, hmember, hinstance, htype, hprotocols⟩ := h
  have hgroup := fits_prefixIn_iff hp req.group
  have hprotocols' := fits_protocols_iff hp hprotocols
  show _ ↔ (∀ n ∈ [req.group], _) ∧ _
  rw [joinGroupRequestIn_eq, List.forall_mem_singleton]
  constructor
  · intro hfits
    exact ⟨hgroup.mp hfits.1, hprotocols'.mp hfits.2.2.2.2.2.2⟩
  · intro hnames
    exact ⟨hgroup.mpr hnames.1, hsession, hrebalance, hmember, hinstance, htype,
      hprotocols'.mpr hnames.2⟩

end

/-- A rewritten request fits its format exactly when no prefixed name is too long. -/
theorem fits_requestIn_iff {p : GoString} (hp : p ≠ []) (a : Schema.Api) (v : a.Version)
    {req : a.Request} (h : (a.format v).Fits req) :
    (a.format v).Fits (requestIn kmsgConsumer p a req) ↔ PrefixFits p a req := by
  have hsplit : PrefixFits p a req ↔
      (∀ n ∈ wireNames a req, n = [] ∨ p.length + n.length ≤ maxString) ∧
        SubscriptionsFit p a req := ⟨fun h => ⟨h.names, h.blobs⟩, fun h => ⟨h.1, h.2⟩⟩
  rw [hsplit]
  cases a with
  | offsetCommit => exact (fits_offsetCommit_iff hp h).trans (and_iff_left trivial).symm
  | produce => exact (fits_produce_iff hp h).trans (and_iff_left trivial).symm
  | fetch => exact (fits_fetch_iff hp h).trans (and_iff_left trivial).symm
  | createTopics => exact (fits_createTopics_iff hp h).trans (and_iff_left trivial).symm
  | joinGroup => exact fits_joinGroup_iff hp h

/-- For every tenant, every one of the five requests at every version that is not flexible:
when the client's body decodes to `req`, the broker decodes the rewritten request from the
bytes that are sent for it exactly when no prefixed name and no subscription outgrows its
length field. -/
theorem readsBack_iff (t : Tenant) (ht : validateTenant t = .ok ()) (a : Schema.Api)
    (v : a.Version) (body : Bytes) (req : a.Request) (h : (a.format v).decode body = .ok req) :
    (a.format v).decode ((a.format v).append (requestIn kmsgConsumer t.topicPrefix a req)) =
        .ok (requestIn kmsgConsumer t.topicPrefix a req) ↔
      PrefixFits t.topicPrefix a req := by
  have hp : t.topicPrefix ≠ [] := (validateTenant_eq_ok.mp ht).2.1
  rw [Format.decode_append_iff]
  exact fits_requestIn_iff hp a v (Format.fits_of_decode h)

/-- A consumer of the tenant `acme` joins a group. -/
theorem readsBack_iff_billing :
    let t : Tenant := ⟨goString "acme", goString "acme.", goString "kafka:9092"⟩
    let v : Schema.Api.Version .joinGroup := ⟨5, by decide⟩
    let req : Schema.JoinGroupRequest :=
      { group := goString "billing"
        sessionTimeoutMillis := 10000
        rebalanceTimeoutMillis := 60000
        memberID := []
        instanceID := some (goString "i1")
        protocolType := consumerProtocolType
        protocols := [⟨goString "range", metadataFormat.append ⟨1, [goString "orders"], none,
          [⟨goString "orders", [0]⟩], -1, none⟩⟩] }
    (Schema.Api.format .joinGroup v).decode ((Schema.Api.format .joinGroup v).append
        (requestIn kmsgConsumer t.topicPrefix .joinGroup req)) =
      .ok (requestIn kmsgConsumer t.topicPrefix .joinGroup req) := by
  intro t v req
  refine (readsBack_iff t (by decide) .joinGroup v ((Schema.Api.format .joinGroup v).append req)
    req (by decide +kernel)).mpr ⟨?_, ?_⟩
  · decide +kernel
  · show _ → _
    decide +kernel

/-- A string of 32769 bytes is written with a negative length, and is not read back. -/
theorem readString_wrapped {s : GoString} (h : s.length = 32769) (rest : Bytes) :
    readString (appendString s ++ rest) = .error errNotEnoughData := by
  have hlen : (getBE16 (appendString s ++ rest)).toInt16.toInt = -32767 := by
    rw [appendString, List.append_assoc, getBE16_appendInt16, h]
    decide
  rw [readString, hlen, readSpan, if_neg (by omega)]

/-- The broker cannot read a JoinGroup request whose group id became 32769 bytes long. -/
theorem decode_wrapped_group {v : Int16} {req : Schema.JoinGroupRequest}
    (h : req.group.length = 32769) :
    (Schema.joinGroupFormat v).decode ((Schema.joinGroupFormat v).append req) =
      .error errNotEnoughData := by
  have hread : ∀ rest, stringFormat.read (stringFormat.append req.group ++ rest) =
      .error errNotEnoughData := readString_wrapped h
  unfold Format.decode Schema.joinGroupFormat Format.iso Format.pair Format.andThen
  dsimp only [Equiv.symm, Equiv.coe_fn_mk]
  rw [hread]
  rfl

/-- A client of the tenant with prefix `t.` uses the longest group id there is. Its request
decodes, and the request that the proxy sends does not. -/
theorem longGroup_wraps :
    let t : Tenant := ⟨goString "acme", goString "t.", goString "kafka:9092"⟩
    let v : Schema.Api.Version .joinGroup := ⟨0, by decide⟩
    let req : Schema.JoinGroupRequest :=
      { group := List.replicate 32767 0x67
        sessionTimeoutMillis := 10000
        rebalanceTimeoutMillis := -1
        memberID := []
        instanceID := none
        protocolType := consumerProtocolType
        protocols := [] }
    validateTenant t = .ok () ∧
      (Schema.Api.format .joinGroup v).decode ((Schema.Api.format .joinGroup v).append req) =
        .ok req ∧
      (Schema.Api.format .joinGroup v).decode ((Schema.Api.format .joinGroup v).append
          (requestIn kmsgConsumer t.topicPrefix .joinGroup req)) =
        .error errNotEnoughData := by
  intro t v req
  have hlen : req.group.length = 32767 := List.length_replicate
  refine ⟨by decide, ?_, ?_⟩
  · refine (Format.decode_append_iff _ req).mpr ?_
    have hmember : ([] : GoString).length ≤ maxString := by decide
    have htype : consumerProtocolType.length ≤ maxString := by decide
    have hprotocols : (arrayFormat Schema.joinGroupProtocolFormat).Fits [] :=
      ⟨by decide, fun _ h => by cases h⟩
    exact ⟨Nat.le_of_eq hlen, trivial, rfl, hmember, rfl, htype, hprotocols⟩
  · refine decode_wrapped_group ?_
    have hgroup : (requestIn kmsgConsumer t.topicPrefix .joinGroup req).group =
        prefixIn (goString "t.") req.group := by
      show (joinGroupRequestIn kmsgConsumer _ req).group = _
      rw [joinGroupRequestIn_eq]
    have hne : req.group ≠ [] := by
      intro hnil
      rw [hnil] at hlen
      cases hlen
    rw [hgroup, prefixIn_of_ne_nil (by decide) hne, List.length_append, hlen]
    rfl

end Kroxy.Proofs
