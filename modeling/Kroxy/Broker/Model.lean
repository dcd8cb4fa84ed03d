import Kroxy.Lib.Rows
import Kroxy.Rewrite.Api

/-!
# `Kroxy.Broker.Model`: the upstream cluster as a finite map

The cluster is no part of the repository. This is what the rewriters assume about it: a
finite map from topic names to topic data, and one from group ids and topic names to
committed offsets. A request that names entries is answered for the names it asks, in order,
whether they exist or not. A request for everything is answered with every entry.

`Ops` says what happens to one entry. Its fields get the data of the entry and what the
request says about it, and never a name, so no entry is special. Everything else is left
open: the types of the data, what counts as an error, and which results there are.

A map has no order. `Step` therefore lets the entries change places before each request, so
that requests for everything are answered in any order.
-/

set_option autoImplicit false

namespace Kroxy.Broker

open Kroxy.Go
open Kroxy.Lib
open Kroxy.Kmsg

/-- What a cluster does with one entry, and what it says about itself. `D` is the data of a
topic and `O` the offsets a group has committed for a topic. -/
structure Ops (D O : Type) where
  createTopic : (timeoutMillis : Int32) → (validateOnly : Bool) → CreateTopicsSpec →
    Option D → Option D × CreateTopicsResult
  deleteTopic : (timeoutMillis : Int32) → Option D → Option D × DeleteTopicsResult
  /-- Metadata by name, which may create the topic. -/
  describeTopic : (allowAutoTopicCreation : Bool) → Option D → Option D × MetadataResult
  /-- Metadata for all topics. -/
  topicInfo : D → MetadataResult
  produce : (transactionalID : Option GoString) → (acks : Int16) → (timeoutMillis : Int32) →
    List ProduceRequestTopicPartition → Option D →
    Option D × List ProduceResponseTopicPartition
  listOffsets : (isolationLevel : Int8) → List ListOffsetsRequestTopicPartition →
    Option D → List ListOffsetsResponseTopicPartition
  commitOffset : (generation : Int32) → (memberID : GoString) →
    List OffsetCommitRequestTopicPartition → Option D → Option O →
    Option O × List PartitionResult
  /-- OffsetFetch by topic. -/
  fetchOffset : (requireStable : Bool) → List Int32 → Option O →
    List OffsetFetchResponseTopicPartition
  /-- OffsetFetch for all topics of a group. -/
  offsetInfo : (requireStable : Bool) → O → List OffsetFetchResponseTopicPartition
  /-- The error code for a group with these offsets. -/
  fetchCode : List O → Int16
  deleteOffset : List Int32 → Option D → Option O → Option O × List PartitionResult
  deleteOffsetsCode : List O → Int16
  /-- The protocol type and state of a group, `none` when the states filter leaves it out. -/
  groupInfo : (statesFilter : List GoString) → List O → Option (GoString × GoString)
  /-- Whether the group is deleted, and the error code. -/
  deleteGroup : List O → Bool × Int16
  brokers : List MetadataResponseBroker
  clusterID : Option GoString
  controllerID : Int32

/-- Topics, and committed offsets by group and topic. -/
structure State (D O : Type) where
  topics : Store GoString D
  offsets : Store (GoString × GoString) O

/-- A cluster without topics and groups. -/
def State.empty {D O : Type} : State D O := ⟨[], []⟩

/-- The offsets of a group. -/
def State.groupOffsets {D O : Type} (s : State D O) (group : GoString) : List O :=
  (Store.row group s.offsets).map Prod.snd

section
variable {D O : Type} (ops : Ops D O)

/-! ### Topics -/

/-- The topics of the request one after the other, as `createTopic` has it. -/
def createTopics (req : CreateTopicsRequest) (s : State D O) :
    State D O × CreateTopicsResponse :=
  let (topics, results) := Store.serve
    (fun t : CreateTopicsRequestTopic =>
      ops.createTopic req.timeoutMillis req.validateOnly t.toCreateTopicsSpec)
    (·.topic) req.topics s.topics
  ({ s with topics }, { topics := results.map fun r => { r.2 with topic := r.1 } })

/-- The names in a DeleteTopics request at a version. An entry without one is addressed by
id, and not by this model. -/
def topicsToDelete (version : Int16) (req : DeleteTopicsRequest) : List GoString :=
  if version < 6 then req.topicNames else req.topics.filterMap (·.topic)

/-- The topics of the request one after the other, by name. -/
def deleteTopics (version : Int16) (req : DeleteTopicsRequest) (s : State D O) :
    State D O × DeleteTopicsResponse :=
  let (topics, results) := Store.serve (fun _ => ops.deleteTopic req.timeoutMillis) id
    (topicsToDelete version req) s.topics
  ({ s with topics }, { topics := results.map fun r => { r.2 with topic := some r.1 } })

/-- A Metadata response about some topics. -/
def metadataResponse (results : List (GoString × MetadataResult)) : MetadataResponse where
  brokers := ops.brokers
  clusterID := ops.clusterID
  controllerID := ops.controllerID
  topics := results.map fun r => { r.2 with topic := some r.1 }

/-- The topics asked for, which may be created, or all there are. -/
def metadata (req : MetadataRequest) (s : State D O) : State D O × MetadataResponse :=
  match req.topics with
  -- A null list asks for every topic.
  | none => (s, metadataResponse ops (s.topics.map fun e => (e.1, ops.topicInfo e.2)))
  | some ts =>
      let (topics, results) := Store.serve
        (fun _ => ops.describeTopic req.allowAutoTopicCreation) id
        (ts.filterMap (·.topic)) s.topics
      ({ s with topics }, metadataResponse ops results)

/-- The topics of the request one after the other, with the batches for their partitions. -/
def produce (req : ProduceRequest) (s : State D O) : State D O × ProduceResponse :=
  let (topics, results) := Store.serve
    (fun t : TopicOf ProduceRequestTopicPartition =>
      ops.produce req.transactionalID req.acks req.timeoutMillis t.partitions)
    (·.topic) req.topics s.topics
  ({ s with topics }, { topics := results.map fun r => ⟨r.1, r.2⟩ })

/-- The offsets of the partitions asked for. Nothing changes. -/
def listOffsets (req : ListOffsetsRequest) (s : State D O) : ListOffsetsResponse where
  topics := req.topics.map fun t =>
    ⟨t.topic, ops.listOffsets req.isolationLevel t.partitions (Store.get t.topic s.topics)⟩

/-! ### Committed offsets and groups -/

/-- Work through the topics of a group. `op` may look at the topic. -/
def serveGroup {π ρ : Type} (op : List π → Option D → Option O → Option O × List ρ)
    (group : GoString) (ts : List (TopicOf π)) (s : State D O) :
    State D O × List (TopicOf ρ) :=
  let (offsets, results) := Store.serve
    (fun t : TopicOf π => op t.partitions (Store.get t.topic s.topics))
    (fun t => (group, t.topic)) ts s.offsets
  ({ s with offsets }, results.map fun r => ⟨r.1.2, r.2⟩)

/-- The offsets of one group, topic by topic. -/
def offsetCommit (req : OffsetCommitRequest) (s : State D O) :
    State D O × OffsetCommitResponse :=
  let (s', topics) := serveGroup (ops.commitOffset req.generation req.memberID) req.group
    req.topics s
  (s', { topics })

/-- The same for deleted offsets. -/
def offsetDelete (req : OffsetDeleteRequest) (s : State D O) :
    State D O × OffsetDeleteResponse :=
  let (s', topics) := serveGroup ops.deleteOffset req.group req.topics s
  -- The code of the whole answer depends on the group as it was before.
  (s', { errorCode := ops.deleteOffsetsCode (s.groupOffsets req.group), topics })

/-- The topics of one group in an OffsetFetch response: those asked, or all. -/
def fetchGroup (requireStable : Bool) (group : GoString)
    (topics : Option (List (TopicOf Int32))) (s : State D O) :
    List (TopicOf OffsetFetchResponseTopicPartition) :=
  match topics with
  | none =>
      (Store.row group s.offsets).map fun e => ⟨e.1, ops.offsetInfo requireStable e.2⟩
  | some ts => ts.map fun t =>
      ⟨t.topic, ops.fetchOffset requireStable t.partitions
        (Store.get (group, t.topic) s.offsets)⟩

/-- One group before v8, a list of groups from v8. -/
def offsetFetch (version : Int16) (req : OffsetFetchRequest) (s : State D O) :
    OffsetFetchResponse :=
  if version < 8 then
    { topics := fetchGroup ops req.requireStable req.group req.topics s
      errorCode := ops.fetchCode (s.groupOffsets req.group)
      groups := [] }
  else
    { topics := []
      groups := req.groups.map fun g =>
        { group := g.group
          topics := fetchGroup ops req.requireStable g.group g.topics s
          errorCode := ops.fetchCode (s.groupOffsets g.group) } }

/-- A group is there when it has committed an offset. -/
def listGroups (req : ListGroupsRequest) (s : State D O) : ListGroupsResponse where
  groups := (Store.rowKeys s.offsets).filterMap fun group =>
    (ops.groupInfo req.statesFilter (s.groupOffsets group)).map fun info =>
      { group, protocolType := info.1, groupState := info.2 }

/-- Delete a group with all its offsets, unless the cluster refuses to. -/
def deleteGroup (group : GoString) (s : State D O) : State D O × Int16 :=
  let (gone, errorCode) := ops.deleteGroup (s.groupOffsets group)
  (if gone then { s with offsets := Store.eraseRow group s.offsets } else s, errorCode)

/-- Delete one group after the other. -/
def deleteGroupList : List GoString → State D O →
    State D O × List DeleteGroupsResponseGroup
  | [], s => (s, [])
  | group :: groups, s =>
      let (s₁, errorCode) := deleteGroup ops group s
      let (s', results) := deleteGroupList groups s₁
      (s', ⟨group, errorCode⟩ :: results)

/-- The groups of the request one after the other. -/
def deleteGroups (req : DeleteGroupsRequest) (s : State D O) :
    State D O × DeleteGroupsResponse :=
  let (s', groups) := deleteGroupList ops req.groups s
  (s', { groups })

/-! ### Requests and runs -/

/-- The answer to a request and the state after it. The model serves ten APIs. -/
def serve (version : Int16) : (a : Api) → a.Request → State D O →
    Option (State D O × a.Response)
  | .createTopics, req, s => some (createTopics ops req s)
  | .deleteTopics, req, s => some (deleteTopics ops version req s)
  | .metadata, req, s => some (metadata ops req s)
  | .produce, req, s => some (produce ops req s)
  | .listOffsets, req, s => some (s, listOffsets ops req s)
  | .offsetCommit, req, s => some (offsetCommit ops req s)
  | .offsetFetch, req, s => some (s, offsetFetch ops version req s)
  | .offsetDelete, req, s => some (offsetDelete ops req s)
  | .listGroups, req, s => some (s, listGroups ops req s)
  | .deleteGroups, req, s => some (deleteGroups ops req s)
  -- Fetch, the membership APIs and transactions are not modelled.
  | _, _, _ => none

/-- The entries may stand in another order. -/
structure SameEntries (s s' : State D O) : Prop where
  topics : s'.topics.Perm s.topics
  offsets : s'.offsets.Perm s.offsets

/-- A state has its own entries. -/
theorem SameEntries.refl (s : State D O) : SameEntries s s := ⟨.refl _, .refl _⟩

/-- Two reorderings are one. -/
theorem SameEntries.trans {s₁ s₂ s₃ : State D O} (h : SameEntries s₁ s₂)
    (h' : SameEntries s₂ s₃) : SameEntries s₁ s₃ :=
  ⟨h'.topics.trans h.topics, h'.offsets.trans h.offsets⟩

/-- A request at a version, with its answer. -/
structure Exchange where
  version : Int16
  api : Api
  request : api.Request
  response : api.Response

/-- One request: the entries take some order, and the request is answered. -/
def Step (s : State D O) (x : Exchange) (s' : State D O) : Prop :=
  ∃ s₁, SameEntries s s₁ ∧ serve ops x.version x.api x.request s₁ = some (s', x.response)

/-- A sequence of requests with their answers. -/
inductive Runs : State D O → List Exchange → State D O → Prop where
  | nil (s : State D O) : Runs s [] s
  | cons {s s₁ s' : State D O} {x : Exchange} {xs : List Exchange} (step : Step ops s x s₁)
      (rest : Runs s₁ xs s') : Runs s (x :: xs) s'

/-- The APIs the model serves. -/
def servedApis : List Api :=
  [.createTopics, .deleteTopics, .metadata, .produce, .listOffsets, .offsetCommit,
    .offsetFetch, .offsetDelete, .listGroups, .deleteGroups]

/-- A served request always has an answer. -/
theorem exists_step {a : Api} (ha : a ∈ servedApis) (version : Int16) (request : a.Request)
    (s : State D O) :
    ∃ response s', Step ops s { version, api := a, request, response } s' := by
  have hserved : (serve ops version a request s).isSome := by
    cases a <;> first | rfl | simp [servedApis] at ha
  obtain ⟨⟨s', response⟩, hserve⟩ := Option.isSome_iff_exists.mp hserved
  exact ⟨response, s', s, SameEntries.refl s, hserve⟩

/-! ### The state is a map -/

/-- No name and no pair of names occurs twice. -/
structure State.IsMap (s : State D O) : Prop where
  topics : (Store.keys s.topics).Nodup
  offsets : (Store.keys s.offsets).Nodup

/-- The order of the entries does not matter to a lookup. -/
theorem State.IsMap.lookup {s s' : State D O} (h : s.IsMap) (hsame : SameEntries s s')
    (group topic : GoString) :
    Store.get topic s'.topics = Store.get topic s.topics ∧
      Store.get (group, topic) s'.offsets = Store.get (group, topic) s.offsets :=
  ⟨Store.get_perm hsame.topics h.topics, Store.get_perm hsame.offsets h.offsets⟩

/-- The order of the entries does not matter. -/
theorem State.IsMap.sameEntries {s s' : State D O} (h : s.IsMap) (hsame : SameEntries s s') :
    s'.IsMap where
  topics := (hsame.topics.map Prod.fst).nodup_iff.mpr h.topics
  offsets := (hsame.offsets.map Prod.fst).nodup_iff.mpr h.offsets

/-- Deleting a group leaves a map. -/
theorem State.IsMap.deleteGroup {s : State D O} (h : s.IsMap) (group : GoString) :
    (deleteGroup ops group s).1.IsMap := by
  unfold Broker.deleteGroup
  dsimp only
  split
  · exact ⟨h.topics, h.offsets.sublist (List.filter_sublist.map _)⟩
  · exact h

/-- So does deleting several. -/
theorem State.IsMap.deleteGroupList {s : State D O} (h : s.IsMap) (groups : List GoString) :
    (deleteGroupList ops groups s).1.IsMap := by
  induction groups generalizing s with
  | nil => exact h
  | cons group groups ih => exact ih (h.deleteGroup ops group)

/-- A request keeps the state a map. -/
theorem State.IsMap.serve {s s' : State D O} (h : s.IsMap) {version : Int16} {a : Api}
    {req : a.Request} {resp : a.Response}
    (hserve : serve ops version a req s = some (s', resp)) : s'.IsMap := by
  have hs' : some s' = (Broker.serve ops version a req s).map Prod.fst := by rw [hserve]; rfl
  cases a with
  | createTopics =>
      cases hs'
      exact ⟨Store.nodup_keys_serve h.topics, h.offsets⟩
  | deleteTopics =>
      cases hs'
      exact ⟨Store.nodup_keys_serve h.topics, h.offsets⟩
  | metadata =>
      cases hs'
      unfold metadata
      split
      · exact h
      · exact ⟨Store.nodup_keys_serve h.topics, h.offsets⟩
  | produce =>
      cases hs'
      exact ⟨Store.nodup_keys_serve h.topics, h.offsets⟩
  | offsetCommit =>
      cases hs'
      exact ⟨h.topics, Store.nodup_keys_serve h.offsets⟩
  | offsetDelete =>
      cases hs'
      exact ⟨h.topics, Store.nodup_keys_serve h.offsets⟩
  | deleteGroups =>
      cases hs'
      exact h.deleteGroupList ops req.groups
  | listOffsets | offsetFetch | listGroups =>
      cases hs'
      exact h
  | _ => cases hserve

/-- Every run from the empty cluster stays a map. -/
theorem runs_isMap {s : State D O} {xs : List Exchange} (hrun : Runs ops .empty xs s) :
    s.IsMap := by
  have hruns : ∀ {s₀ s₁ : State D O} {ys : List Exchange}, Runs ops s₀ ys s₁ → s₀.IsMap →
      s₁.IsMap := by
    intro s₀ s₁ ys h
    induction h with
    | nil s => exact id
    | cons step rest ih =>
        intro hmap
        obtain ⟨s₂, hsame, hserve⟩ := step
        exact ih ((hmap.sameEntries hsame).serve ops hserve)
  exact hruns hrun ⟨List.nodup_nil, List.nodup_nil⟩

end

end Kroxy.Broker
