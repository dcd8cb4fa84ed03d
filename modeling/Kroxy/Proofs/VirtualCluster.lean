import Kroxy.Broker.Model

/-!
# `Kroxy.Proofs.VirtualCluster`: each tenant sees a cluster of its own

Tenants with incomparable prefixes share one cluster through the rewriters. A tenant is
meant not to notice: the responses it gets are those of a private cluster that runs its own
requests under plain names.

The private state of a tenant is a view of the shared one (`tenantView`): the entries under
its prefix, without the prefix. Two lemmas about one request carry the proof.

* `serve_own`: a request of the tenant does to the view what the plain request does to a
  private cluster, and the rewritten response is the private one.
* `serve_staysUnder`: a request under one prefix does not show in the view under another,
  and it puts no foreign topic into a tenant's group (`Owned`), so that the view loses
  nothing of a group.

`virtualCluster` is the induction over a run. The private cluster has one node, the virtual
broker the proxy advertises (`asVirtual`), as Metadata responses point there for every
partition.
-/

set_option autoImplicit false

namespace Kroxy.Proofs

open Kroxy.Go
open Kroxy.Lib
open Kroxy.Kmsg
open Kroxy.Rewrite
open Kroxy.Broker

/-! ### The private cluster -/

/-- A topic whose partitions all live on the virtual broker. -/
def virtualResult (r : MetadataResult) : MetadataResult :=
  { r with partitions := r.partitions.map virtualPartition }

/-- The same cluster as a single node at the advertised address. -/
def asVirtual {D O : Type} (host : GoString) (port : Int32) (ops : Ops D O) : Ops D O :=
  { ops with
      describeTopic := fun auto d =>
        let (d', r) := ops.describeTopic auto d
        (d', virtualResult r)
      topicInfo := fun d => virtualResult (ops.topicInfo d)
      -- `MetadataResponseOut` keeps the rack of the first broker.
      brokers := [{ nodeID := 0, host, port, rack := ops.brokers.head?.bind (·.rack) }]
      controllerID := 0 }

/-- Prepending the prefix, and taking it off again. -/
theorem prefixEmbedding (p : GoString) : Embedding (fun n => p ++ n) (after? p) where
  undo := after?_append p
  only := fun h => after?_eq_some.mp h

/-- Group ids and topic names under the prefix. -/
def pairView (p : GoString) : GoString × GoString → Option (GoString × GoString) :=
  both (after? p) (after? p)

/-- Pairs of names are embedded like names. -/
theorem pairEmbedding (p : GoString) :
    Embedding (Prod.map (fun n => p ++ n) (fun n => p ++ n)) (pairView p) :=
  (prefixEmbedding p).both (prefixEmbedding p)

section
variable {D O : Type}

/-- What a tenant has in the shared cluster, without the prefix. -/
def tenantView (p : GoString) (s : State D O) : State D O where
  topics := Store.view (after? p) s.topics
  offsets := Store.view (pairView p) s.offsets

/-- The view after the topics have changed. -/
theorem tenantView_topics {p : GoString} {s : State D O} {topics topics' : Store GoString D}
    (h : Store.view (after? p) topics = topics') :
    { tenantView p s with topics := topics' } = tenantView p { s with topics } :=
  congrArg (fun ts => { tenantView p s with topics := ts }) h.symm

/-- The view after the offsets have changed. -/
theorem tenantView_offsets {p : GoString} {s : State D O}
    {offsets offsets' : Store (GoString × GoString) O}
    (h : Store.view (pairView p) offsets = offsets') :
    { tenantView p s with offsets := offsets' } = tenantView p { s with offsets } :=
  congrArg (fun os => { tenantView p s with offsets := os }) h.symm

/-- The groups under the prefix have offsets for topics under the prefix only. -/
def Owned (p : GoString) (s : State D O) : Prop :=
  Store.Owned (after? p) (after? p) s.offsets

/-- The names a request gives are not empty, and DeleteTopics and Metadata give names. -/
def WellNamed (version : Int16) : (a : Api) → a.Request → Prop
  | .createTopics, req => ∀ t ∈ req.topics, t.topic ≠ []
  | .deleteTopics, req =>
      if version < 6 then ∀ n ∈ req.topicNames, n ≠ []
      else ∀ t ∈ req.topics, ∃ n, t.topic = some n ∧ n ≠ []
  | .metadata, req => ∀ ts ∈ req.topics, ∀ t ∈ ts, ∃ n, t.topic = some n ∧ n ≠ []
  | .produce, req => ∀ t ∈ req.topics, t.topic ≠ []
  | .listOffsets, req => ∀ t ∈ req.topics, t.topic ≠ []
  | .offsetCommit, req => req.group ≠ [] ∧ ∀ t ∈ req.topics, t.topic ≠ []
  | .offsetFetch, req =>
      if version < 8 then req.group ≠ [] ∧ ∀ ts ∈ req.topics, ∀ t ∈ ts, t.topic ≠ []
      else ∀ g ∈ req.groups, g.group ≠ [] ∧ ∀ ts ∈ g.topics, ∀ t ∈ ts, t.topic ≠ []
  | .offsetDelete, req => req.group ≠ [] ∧ ∀ t ∈ req.topics, t.topic ≠ []
  | .deleteGroups, req => ∀ g ∈ req.groups, g ≠ []
  | _, _ => True

/-- The names a well-named DeleteTopics request lists. -/
theorem WellNamed.topicsToDelete {version : Int16} {req : DeleteTopicsRequest}
    (h : WellNamed version .deleteTopics req) : ∀ n ∈ topicsToDelete version req, n ≠ [] := by
  intro n hn
  unfold Broker.topicsToDelete at hn
  -- The names are in a flat list up to version 5 and in structs from version 6.
  by_cases hversion : version < 6
  · simp only [WellNamed, hversion, if_true] at h hn
    exact h n hn
  · simp only [WellNamed, hversion, if_false] at h hn
    obtain ⟨t, ht, htn⟩ := List.mem_filterMap.mp hn
    obtain ⟨m, hm, hne⟩ := h t ht
    cases htn.symm.trans hm
    exact hne

/-- The names a well-named Metadata request lists. -/
theorem WellNamed.topicsToDescribe {version : Int16} {req : MetadataRequest}
    (h : WellNamed version .metadata req) {ts : List MetadataRequestTopic}
    (hts : req.topics = some ts) : ∀ n ∈ ts.filterMap (·.topic), n ≠ [] := by
  intro n hn
  obtain ⟨t, ht, htn⟩ := List.mem_filterMap.mp hn
  obtain ⟨m, hm, hne⟩ := h ts hts t ht
  cases htn.symm.trans hm
  exact hne

/-- The names of a rewritten Metadata request. -/
theorem topicsToDescribe_requestIn (p : GoString) (ts : List MetadataRequestTopic) :
    (ts.map fun t => { t with topic := prefixInPtr p t.topic }).filterMap (·.topic) =
      (ts.filterMap (·.topic)).map (prefixIn p) := by
  simp [List.filterMap_map, List.map_filterMap]

/-! ### A tenant's own request -/

section
variable (ops : Ops D O) (host : GoString) (port : Int32) {p : GoString}

/-- CreateTopics of a tenant is CreateTopics in its view. -/
theorem createTopics_own (hp : p ≠ []) {req : CreateTopicsRequest}
    (hnames : ∀ t ∈ req.topics, t.topic ≠ []) (s : State D O) :
    createTopics (asVirtual host port ops) req (tenantView p s) =
      (createTopics ops (createTopicsRequestIn p req) s).map (tenantView p)
        (createTopicsResponseOut p) := by
  obtain ⟨hstate, hresults⟩ := Store.serve_embedded (prefixEmbedding p)
    (fun t : CreateTopicsRequestTopic =>
      ops.createTopic req.timeoutMillis req.validateOnly t.toCreateTopicsSpec)
    (fun t => ops.createTopic req.timeoutMillis req.validateOnly t.toCreateTopicsSpec)
    (·.topic) (·.topic) (fun t => { t with topic := prefixIn p t.topic })
    (fun t ht => prefixIn_of_ne_nil hp (hnames t ht)) (fun _ _ => rfl) s.topics
  refine Prod.ext (tenantView_topics hstate) ?_
  simp [createTopics, createTopicsRequestIn, createTopicsResponseOut, tenantView, asVirtual,
    hresults, stripOut_append hp]

/-- The same for Produce. -/
theorem produce_own (hp : p ≠ []) {req : ProduceRequest}
    (hnames : ∀ t ∈ req.topics, t.topic ≠ []) (s : State D O) :
    produce (asVirtual host port ops) req (tenantView p s) =
      (produce ops (produceRequestIn p req) s).map (tenantView p) (produceResponseOut p) := by
  obtain ⟨hstate, hresults⟩ := Store.serve_embedded (prefixEmbedding p)
    (fun t : TopicOf ProduceRequestTopicPartition =>
      ops.produce req.transactionalID req.acks req.timeoutMillis t.partitions)
    (fun t => ops.produce req.transactionalID req.acks req.timeoutMillis t.partitions)
    (·.topic) (·.topic) (·.rename (prefixIn p))
    (fun t ht => prefixIn_of_ne_nil hp (hnames t ht)) (fun _ _ => rfl) s.topics
  refine Prod.ext (tenantView_topics hstate) ?_
  simp only [produce, produceRequestIn, Prod.map_snd, produceResponseOut, hresults]
  simp [tenantView, asVirtual, TopicOf.rename, stripOut_append hp]

/-- A list of names, as DeleteTopics and Metadata have it. -/
theorem serveNames_own {ρ : Type} (hp : p ≠ []) (op : Option D → Option D × ρ)
    {names : List GoString} (hnames : ∀ n ∈ names, n ≠ []) (s : State D O) :
    Store.view (after? p) (Store.serve (fun _ => op) id (names.map (prefixIn p)) s.topics).1 =
        (Store.serve (fun _ => op) id names (tenantView p s).topics).1 ∧
      (Store.serve (fun _ => op) id (names.map (prefixIn p)) s.topics).2 =
        (Store.serve (fun _ => op) id names (tenantView p s).topics).2.map
          (Prod.map (fun n => p ++ n) id) :=
  Store.serve_embedded (prefixEmbedding p) (fun _ => op) (fun _ => op) id id (prefixIn p)
    (fun n hn => prefixIn_of_ne_nil hp (hnames n hn)) (fun _ _ => rfl) s.topics

/-- The names of a rewritten DeleteTopics request. -/
theorem topicsToDelete_requestIn (version : Int16) (req : DeleteTopicsRequest) :
    topicsToDelete version (deleteTopicsRequestIn p req) =
      (topicsToDelete version req).map (prefixIn p) := by
  unfold topicsToDelete
  split
  · rfl
  · simp [deleteTopicsRequestIn, List.filterMap_map, List.map_filterMap]

/-- DeleteTopics in the tenant's view. -/
theorem deleteTopics_own (hp : p ≠ []) {version : Int16} {req : DeleteTopicsRequest}
    (hnames : ∀ n ∈ topicsToDelete version req, n ≠ []) (s : State D O) :
    deleteTopics (asVirtual host port ops) version req (tenantView p s) =
      (deleteTopics ops version (deleteTopicsRequestIn p req) s).map (tenantView p)
        (deleteTopicsResponseOut p) := by
  obtain ⟨hstate, hresults⟩ := serveNames_own hp (ops.deleteTopic req.timeoutMillis) hnames s
  have htimeout : (deleteTopicsRequestIn p req).timeoutMillis = req.timeoutMillis := rfl
  simp only [deleteTopics, topicsToDelete_requestIn, htimeout, hresults]
  refine Prod.ext (tenantView_topics hstate) ?_
  simp [deleteTopicsResponseOut, asVirtual, stripOut_append hp]

/-! ### Metadata -/

/-- A topic of the tenant is passed on without the prefix. -/
theorem metadataTopicOut_own (hp : p ≠ []) (n : GoString) (r : MetadataResult) :
    metadataTopicOut p { r with topic := some (p ++ n) } =
      some { virtualResult r with topic := some n } := by
  simp [metadataTopicOut, belongsToTenant_iff hp, stripOut_append hp, virtualResult]

/-- One of another tenant is not. -/
theorem metadataTopicOut_foreign (hp : p ≠ []) {n : GoString} (hn : ¬ p <+: n)
    (r : MetadataResult) : metadataTopicOut p { r with topic := some n } = none := by
  have hbelongs : belongsToTenant p n = false := by
    rw [← Bool.not_eq_true, belongsToTenant_iff hp]
    exact hn
  simp [metadataTopicOut, hbelongs]

/-- The rewritten response about the topics under the prefix is the response of the virtual
broker about them. -/
theorem metadataResponseOut_own (hp : p ≠ []) (results : List (GoString × MetadataResult)) :
    metadataResponseOut p host port
        (metadataResponse ops (results.map (Prod.map (fun n => p ++ n) id))) =
      metadataResponse (asVirtual host port ops)
        (results.map (Prod.map id virtualResult)) := by
  have htopics : ((results.map (Prod.map (fun n => p ++ n) id)).map fun r =>
        ({ r.2 with topic := some r.1 } : MetadataResponseTopic)).filterMap
          (metadataTopicOut p) =
      (results.map (Prod.map id virtualResult)).map fun r =>
        ({ r.2 with topic := some r.1 } : MetadataResponseTopic) := by
    -- Line by line: every name carries the prefix, so no line is dropped.
    induction results with
    | nil => rfl
    | cons r rs ih =>
        simp only [List.map_cons, Prod.map_fst, Prod.map_snd, id_eq]
        rw [List.filterMap_cons_some (metadataTopicOut_own hp r.1 r.2), ih]
  simp only [metadataResponseOut, metadataResponse, asVirtual, htopics]

/-- Of all topics the response keeps those under the prefix. -/
theorem metadataResponseOut_all (hp : p ≠ []) (topics : Store GoString D) :
    metadataResponseOut p host port
        (metadataResponse ops (topics.map fun e => (e.1, ops.topicInfo e.2))) =
      metadataResponse (asVirtual host port ops)
        ((Store.view (after? p) topics).map fun e =>
          (e.1, (asVirtual host port ops).topicInfo e.2)) := by
  have htopics : ((topics.map fun e => (e.1, ops.topicInfo e.2)).map fun r =>
        ({ r.2 with topic := some r.1 } : MetadataResponseTopic)).filterMap
          (metadataTopicOut p) =
      ((Store.view (after? p) topics).map fun e =>
          (e.1, virtualResult (ops.topicInfo e.2))).map fun r =>
        ({ r.2 with topic := some r.1 } : MetadataResponseTopic) := by
    -- Here a line may be dropped, and exactly those lines are missing from the view.
    induction topics with
    | nil => rfl
    | cons e es ih =>
        cases he : after? p e.1 with
        | none =>
            have hout := metadataTopicOut_foreign hp (after?_eq_none.mp he)
              (ops.topicInfo e.2)
            rw [Store.view_cons_none he, ← ih]
            exact List.filterMap_cons_none hout
        | some n =>
            have hname : e.1 = p ++ n := after?_eq_some.mp he
            rw [Store.view_cons_some he, List.map_cons, List.map_cons, List.map_cons,
              List.map_cons, ← ih, hname]
            exact List.filterMap_cons_some (metadataTopicOut_own hp n (ops.topicInfo e.2))
  simp only [metadataResponseOut, metadataResponse, asVirtual, htopics]

/-- Metadata in the tenant's view. -/
theorem metadata_own (hp : p ≠ []) {version : Int16} {req : MetadataRequest}
    (hnames : WellNamed version .metadata req) (s : State D O) :
    metadata (asVirtual host port ops) req (tenantView p s) =
      (metadata ops (metadataRequestIn p req) s).map (tenantView p)
        (metadataResponseOut p host port) := by
  obtain ⟨topics, auto⟩ := req
  cases topics with
  -- All topics: the tenant's own ones are left of them.
  | none =>
      have hall := metadataResponseOut_all ops host port hp s.topics
      simp only [metadata, metadataRequestIn, Option.map_none, Prod.map_apply, hall]
      rfl
  -- Topics by name, which may create them.
  | some ts =>
      obtain ⟨hstate, hresults⟩ := serveNames_own hp (ops.describeTopic auto)
        (hnames.topicsToDescribe rfl) s
      -- The private cluster describes each topic as `ops` does and then makes it virtual.
      have hvirtual := Store.serve_map_result (fun _ => ops.describeTopic auto) virtualResult
        id (ts.filterMap (·.topic)) (tenantView p s).topics
      have hresponse := metadataResponseOut_own ops host port hp
        (Store.serve (fun _ => ops.describeTopic auto) id (ts.filterMap (·.topic))
          (tenantView p s).topics).2
      simp only [metadata, metadataRequestIn, Option.map_some, Prod.map_apply,
        topicsToDescribe_requestIn, hresults, hresponse]
      refine Prod.ext ?_ ?_
      · refine tenantView_topics (hstate.trans ?_)
        exact (congrArg Prod.fst hvirtual).symm
      · show metadataResponse _ (Store.serve (fun _ v => Prod.map id virtualResult
          (ops.describeTopic auto v)) id _ _).2 = _
        rw [hvirtual]
        rfl

/-! ### Lookups, groups and offsets -/

/-- The view has the tenant's topics. -/
theorem getTopic_own (n : GoString) (s : State D O) :
    Store.get n (tenantView p s).topics = Store.get (p ++ n) s.topics :=
  Store.get_view (prefixEmbedding p).pInj (after?_append p n) s.topics

/-- It has the tenant's offsets. -/
theorem getOffset_own (g n : GoString) (s : State D O) :
    Store.get (g, n) (tenantView p s).offsets = Store.get (p ++ g, p ++ n) s.offsets :=
  Store.get_view (pairEmbedding p).pInj ((pairEmbedding p).undo (g, n)) s.offsets

/-- All offsets of a group of the tenant are in it. -/
theorem groupOffsets_own {s : State D O} (howned : Owned p s) (g : GoString) :
    (tenantView p s).groupOffsets g = s.groupOffsets (p ++ g) :=
  (Store.values_row (prefixEmbedding p) (prefixEmbedding p) g howned).symm

/-- ListOffsets in the tenant's view. -/
theorem listOffsets_own (hp : p ≠ []) {req : ListOffsetsRequest}
    (hnames : ∀ t ∈ req.topics, t.topic ≠ []) (s : State D O) :
    listOffsets (asVirtual host port ops) req (tenantView p s) =
      listOffsetsResponseOut p (listOffsets ops (listOffsetsRequestIn p req) s) := by
  simp only [listOffsets, listOffsetsRequestIn, listOffsetsResponseOut, List.map_map]
  congr 1
  refine List.map_congr_left ?_
  intro t ht
  simp [TopicOf.rename, prefixIn_of_ne_nil hp (hnames t ht), getTopic_own,
    stripOut_append hp, asVirtual]

/-- The topics of a group, for OffsetCommit and OffsetDelete. -/
theorem serveGroup_own {π ρ : Type} (hp : p ≠ [])
    (op : List π → Option D → Option O → Option O × List ρ) {group : GoString}
    (hgroup : group ≠ []) {ts : List (TopicOf π)} (hnames : ∀ t ∈ ts, t.topic ≠ [])
    (s : State D O) :
    serveGroup op group ts (tenantView p s) =
      (serveGroup op (prefixIn p group) (ts.map (·.rename (prefixIn p))) s).map (tenantView p)
        (List.map (·.rename (stripOut p))) := by
  have hkey : ∀ t ∈ ts, (prefixIn p group, (t.rename (prefixIn p)).topic) =
      Prod.map (fun n => p ++ n) (fun n => p ++ n) (group, t.topic) := by
    intro t ht
    simp [TopicOf.rename, prefixIn_of_ne_nil hp hgroup,
      prefixIn_of_ne_nil hp (hnames t ht)]
  -- The topic that is looked at is the tenant's own, under its upstream name.
  have hop : ∀ t ∈ ts, op (t.rename (prefixIn p)).partitions
        (Store.get (t.rename (prefixIn p)).topic s.topics) =
      op t.partitions (Store.get t.topic (tenantView p s).topics) := by
    intro t ht
    simp [TopicOf.rename, prefixIn_of_ne_nil hp (hnames t ht), getTopic_own]
  obtain ⟨hstate, hresults⟩ := Store.serve_embedded (pairEmbedding p)
    (fun t : TopicOf π => op t.partitions (Store.get t.topic s.topics))
    (fun t : TopicOf π => op t.partitions (Store.get t.topic (tenantView p s).topics))
    (fun t => (prefixIn p group, t.topic)) (fun t => (group, t.topic))
    (TopicOf.rename (prefixIn p)) hkey hop s.offsets
  refine Prod.ext (tenantView_offsets hstate) ?_
  simp only [serveGroup, hresults]
  simp [tenantView, TopicOf.rename, stripOut_append hp]

/-- OffsetCommit in the tenant's view. -/
theorem offsetCommit_own (hp : p ≠ []) {req : OffsetCommitRequest}
    (hnames : req.group ≠ [] ∧ ∀ t ∈ req.topics, t.topic ≠ []) (s : State D O) :
    offsetCommit (asVirtual host port ops) req (tenantView p s) =
      (offsetCommit ops (offsetCommitRequestIn p req) s).map (tenantView p)
        (offsetCommitResponseOut p) := by
  have hgroup := serveGroup_own hp (ops.commitOffset req.generation req.memberID) hnames.1
    hnames.2 s
  unfold offsetCommit
  simp only [asVirtual, hgroup]
  rfl

/-- OffsetDelete in the tenant's view. -/
theorem offsetDelete_own (hp : p ≠ []) {req : OffsetDeleteRequest}
    (hnames : req.group ≠ [] ∧ ∀ t ∈ req.topics, t.topic ≠ []) {s : State D O}
    (howned : Owned p s) :
    offsetDelete (asVirtual host port ops) req (tenantView p s) =
      (offsetDelete ops (offsetDeleteRequestIn p req) s).map (tenantView p)
        (offsetDeleteResponseOut p) := by
  have hgroup := serveGroup_own hp ops.deleteOffset hnames.1 hnames.2 s
  unfold offsetDelete
  simp only [asVirtual, hgroup, groupOffsets_own howned, offsetDeleteRequestIn,
    prefixIn_of_ne_nil hp hnames.1]
  rfl

/-- The topics of a group in an OffsetFetch response, asked for by name or all of them. -/
theorem fetchGroup_own (hp : p ≠ []) (requireStable : Bool) {group : GoString}
    (hgroup : group ≠ []) {topics : Option (List (TopicOf Int32))}
    (hnames : ∀ ts ∈ topics, ∀ t ∈ ts, t.topic ≠ []) {s : State D O} (howned : Owned p s) :
    fetchGroup (asVirtual host port ops) requireStable group topics (tenantView p s) =
      (fetchGroup ops requireStable (prefixIn p group)
        (topics.map fun ts => ts.map (·.rename (prefixIn p))) s).map
          (·.rename (stripOut p)) := by
  rw [prefixIn_of_ne_nil hp hgroup]
  cases topics with
  | none =>
      -- All topics of a group: none of them is foreign, because the store is owned.
      have hrow : Store.row (p ++ group) s.offsets =
          (Store.row group (tenantView p s).offsets).map
            (Prod.map (fun n => p ++ n) id) :=
        Store.row_eq_map (prefixEmbedding p) (prefixEmbedding p) group howned
      simp only [fetchGroup, Option.map_none, hrow]
      simp [TopicOf.rename, stripOut_append hp, asVirtual]
  | some ts =>
      simp only [fetchGroup, Option.map_some, List.map_map]
      refine List.map_congr_left ?_
      intro t ht
      simp [TopicOf.rename, prefixIn_of_ne_nil hp (hnames ts rfl t ht), getOffset_own,
        stripOut_append hp, asVirtual]

/-- OffsetFetch in the tenant's view. -/
theorem offsetFetch_own (hp : p ≠ []) {version : Int16} {req : OffsetFetchRequest}
    (hnames : WellNamed version .offsetFetch req) {s : State D O} (howned : Owned p s) :
    offsetFetch (asVirtual host port ops) version req (tenantView p s) =
      offsetFetchResponseOut p (offsetFetch ops version (offsetFetchRequestIn p req) s) := by
  -- The error code depends on the group's offsets alone, and both sides have the same.
  have hcode : ∀ g : GoString, g ≠ [] →
      (asVirtual host port ops).fetchCode ((tenantView p s).groupOffsets g) =
        ops.fetchCode (s.groupOffsets (prefixIn p g)) := by
    intro g hg
    rw [groupOffsets_own howned, prefixIn_of_ne_nil hp hg]
    rfl
  unfold offsetFetch
  by_cases hversion : version < 8
  · simp only [WellNamed, hversion, if_true] at hnames ⊢
    simp only [hcode req.group hnames.1,
      fetchGroup_own ops host port hp req.requireStable hnames.1 hnames.2 howned]
    rfl
  · simp only [WellNamed, hversion, if_false] at hnames ⊢
    simp only [offsetFetchRequestIn, offsetFetchResponseOut, List.map_map, List.map_nil]
    congr 1
    refine List.map_congr_left ?_
    intro g hg
    obtain ⟨hgroup, htopics⟩ := hnames g hg
    simp only [Function.comp_apply, hcode g.group hgroup,
      fetchGroup_own ops host port hp req.requireStable hgroup htopics howned]
    rw [prefixIn_of_ne_nil hp hgroup, stripOut_append hp]

/-- A group under the prefix keeps its line in the list, without the prefix. -/
theorem listGroupsGroupOut_own (hp : p ≠ []) (g : GoString) (info : GoString × GoString) :
    listGroupsGroupOut p ⟨p ++ g, info.1, info.2⟩ = some ⟨g, info.1, info.2⟩ := by
  simp [listGroupsGroupOut, belongsToTenant_iff hp, stripOut_append hp]

/-- A group of another tenant is not listed. -/
theorem listGroupsGroupOut_foreign (hp : p ≠ []) {g : GoString} (hg : ¬ p <+: g)
    (info : GoString × GoString) : listGroupsGroupOut p ⟨g, info.1, info.2⟩ = none := by
  have hbelongs : belongsToTenant p g = false := by
    rw [← Bool.not_eq_true, belongsToTenant_iff hp]
    exact hg
  simp [listGroupsGroupOut, hbelongs]

/-- ListGroups in the tenant's view. -/
theorem listGroups_own (hp : p ≠ []) (req : ListGroupsRequest) {s : State D O}
    (howned : Owned p s) :
    listGroups (asVirtual host port ops) req (tenantView p s) =
      listGroupsResponseOut p (listGroups ops req s) := by
  have hgroups : Store.rowKeys (tenantView p s).offsets =
      (Store.rowKeys s.offsets).filterMap (after? p) :=
    Store.rowKeys_view (prefixEmbedding p).pInj howned
  simp only [listGroups, listGroupsResponseOut, hgroups, List.filterMap_filterMap]
  congr 1
  -- Group by group: a foreign one is not in the view, and the rewriter drops its line.
  refine List.filterMap_congr ?_
  intro g _
  cases hg : after? p g with
  | none =>
      cases ops.groupInfo req.statesFilter (s.groupOffsets g) with
      | none => rfl
      | some info => exact (listGroupsGroupOut_foreign hp (after?_eq_none.mp hg) info).symm
  | some g' =>
      rw [after?_eq_some.mp hg, Option.bind_some, groupOffsets_own howned]
      show Option.map _ (ops.groupInfo req.statesFilter (s.groupOffsets (p ++ g'))) = _
      cases ops.groupInfo req.statesFilter (s.groupOffsets (p ++ g')) with
      | none => rfl
      | some info => exact (listGroupsGroupOut_own hp g' info).symm

/-- A group goes, or stays, on both sides. The decision is made by the same offsets. -/
theorem deleteGroup_own {s : State D O} (howned : Owned p s) (g : GoString) :
    deleteGroup (asVirtual host port ops) g (tenantView p s) =
      (deleteGroup ops (p ++ g) s).map (tenantView p) id := by
  have hdecision : (asVirtual host port ops).deleteGroup ((tenantView p s).groupOffsets g) =
      ops.deleteGroup (s.groupOffsets (p ++ g)) := by
    rw [groupOffsets_own howned]
    rfl
  unfold deleteGroup
  rw [hdecision]
  -- From here on both sides follow the same decision.
  obtain ⟨gone, errorCode⟩ := ops.deleteGroup (s.groupOffsets (p ++ g))
  cases gone with
  | false => rfl
  | true =>
      have herased : Store.view (pairView p) (Store.eraseRow (p ++ g) s.offsets) =
          Store.eraseRow g (tenantView p s).offsets :=
        Store.view_eraseRow (prefixEmbedding p) g s.offsets
      exact Prod.ext (tenantView_offsets herased) rfl

/-- Deleting a group leaves the ownership. -/
theorem Owned.deleteGroup {s : State D O} (howned : Owned p s) (g : GoString) :
    Owned p (deleteGroup ops g s).1 := by
  unfold Broker.deleteGroup
  dsimp only
  split
  · exact Store.Owned.of_subset howned fun _ hk => Store.mem_keys_eraseRow hk
  · exact howned

/-- Deleting groups in the tenant's view. -/
theorem deleteGroupList_own (hp : p ≠ []) {groups : List GoString}
    (hnames : ∀ g ∈ groups, g ≠ []) {s : State D O} (howned : Owned p s) :
    deleteGroupList (asVirtual host port ops) groups (tenantView p s) =
      (deleteGroupList ops (groups.map (prefixIn p)) s).map (tenantView p)
        (List.map fun g => { g with group := stripOut p g.group }) := by
  induction groups generalizing s with
  | nil => rfl
  | cons g groups ih =>
      -- The rest of the list starts where the first group left the store, owned as before.
      have hrest := ih (fun g' hg' => hnames g' (List.mem_cons_of_mem g hg'))
        (howned.deleteGroup ops (p ++ g))
      rw [List.map_cons, prefixIn_of_ne_nil hp (hnames g List.mem_cons_self)]
      simp only [deleteGroupList, deleteGroup_own ops host port howned, Prod.map_fst,
        Prod.map_snd, id_eq, hrest, Prod.map_apply, List.map_cons, stripOut_append hp]

/-- DeleteGroups in the tenant's view. -/
theorem deleteGroups_own (hp : p ≠ []) {req : DeleteGroupsRequest}
    (hnames : ∀ g ∈ req.groups, g ≠ []) {s : State D O} (howned : Owned p s) :
    deleteGroups (asVirtual host port ops) req (tenantView p s) =
      (deleteGroups ops (deleteGroupsRequestIn p req) s).map (tenantView p)
        (deleteGroupsResponseOut p) := by
  unfold deleteGroups
  rw [deleteGroupList_own ops host port hp hnames howned]
  rfl

/-- From the two answers as pairs to the two steps. -/
theorem step_of_own {α β : Type} {out : α → β} {shared : State D O × α}
    {own : State D O × β} {s' : State D O} {resp : α}
    (hown : own = shared.map (tenantView p) out) (h : some shared = some (s', resp)) :
    some own = some (tenantView p s', out resp) := by
  rw [hown, Option.some.inj h]
  rfl

/-- A request of the tenant does to the view what the plain request does to a private
cluster, and the tenant gets the private response. -/
theorem serve_own (B : ConsumerCodec) (hp : p ≠ []) {version : Int16} {a : Api}
    {req : a.Request} (hnames : WellNamed version a req) {s s' : State D O}
    {resp : a.Response} (howned : Owned p s)
    (h : serve ops version a (requestIn B p a req) s = some (s', resp)) :
    serve (asVirtual host port ops) version a req (tenantView p s) =
      some (tenantView p s', responseOut B p host port a resp) := by
  cases a with
  | createTopics => exact step_of_own (createTopics_own ops host port hp hnames s) h
  | deleteTopics =>
      exact step_of_own (deleteTopics_own ops host port hp hnames.topicsToDelete s) h
  | metadata => exact step_of_own (metadata_own ops host port hp hnames s) h
  | produce => exact step_of_own (produce_own ops host port hp hnames s) h
  | offsetCommit => exact step_of_own (offsetCommit_own ops host port hp hnames s) h
  | offsetDelete => exact step_of_own (offsetDelete_own ops host port hp hnames howned) h
  | deleteGroups => exact step_of_own (deleteGroups_own ops host port hp hnames howned) h
  -- The remaining three only read.
  | listOffsets =>
      cases h
      exact congrArg (fun r => some (tenantView p s, r))
        (listOffsets_own ops host port hp hnames s)
  | offsetFetch =>
      cases h
      exact congrArg (fun r => some (tenantView p s, r))
        (offsetFetch_own ops host port hp hnames howned)
  | listGroups =>
      cases h
      exact congrArg (fun r => some (tenantView p s, r))
        (listGroups_own ops host port hp req howned)
  | _ => cases h

end

/-! ### Another tenant's request -/

/-- What a request under the prefix `q` leaves alone. -/
structure StaysUnder (q : GoString) (s s' : State D O) : Prop where
  hidden : ∀ p, Incomparable q p → tenantView p s' = tenantView p s
  owned : ∀ p, p = q ∨ Incomparable q p → Owned p s → Owned p s'

/-- Nothing changed. -/
theorem StaysUnder.refl (q : GoString) (s : State D O) : StaysUnder q s s :=
  ⟨fun _ _ => rfl, fun _ _ h => h⟩

/-- Two such changes are one. -/
theorem StaysUnder.trans {q : GoString} {s₁ s₂ s₃ : State D O} (h : StaysUnder q s₁ s₂)
    (h' : StaysUnder q s₂ s₃) : StaysUnder q s₁ s₃ where
  hidden := fun p hp => (h'.hidden p hp).trans (h.hidden p hp)
  owned := fun p hp howned => h'.owned p hp (h.owned p hp howned)

/-- Writes to topics under `q`. -/
theorem staysUnder_topics {q : GoString} {ε ρ : Type} (op : ε → Option D → Option D × ρ)
    (key : ε → GoString) {es : List ε} (hkey : ∀ e ∈ es, ∃ n, key e = q ++ n)
    (s : State D O) :
    StaysUnder q s { s with topics := (Store.serve op key es s.topics).1 } := by
  refine ⟨?_, fun _ _ howned => howned⟩
  intro p hp
  have hhidden : ∀ e ∈ es, after? p (key e) = none := by
    intro e he
    obtain ⟨n, hn⟩ := hkey e he
    rw [hn]
    exact hp.after?_append_eq_none n
  have hview := Store.serve_hidden op key hhidden s.topics
  exact (tenantView_topics hview).symm

/-- Writes to offsets of groups and topics under `q`. -/
theorem staysUnder_offsets {q : GoString} {ε ρ : Type} (op : ε → Option O → Option O × ρ)
    (key : ε → GoString × GoString) {es : List ε}
    (hkey : ∀ e ∈ es, ∃ g n, key e = (q ++ g, q ++ n)) (s : State D O) :
    StaysUnder q s { s with offsets := (Store.serve op key es s.offsets).1 } := by
  refine ⟨?_, ?_⟩
  · intro p hp
    have hhidden : ∀ e ∈ es, pairView p (key e) = none := by
      intro e he
      obtain ⟨g, n, hgn⟩ := hkey e he
      rw [hgn]
      exact both_eq_none (hp.after?_append_eq_none g)
    have hview := Store.serve_hidden op key hhidden s.offsets
    exact (tenantView_offsets hview).symm
  · intro p hp howned k hk hfirst
    rcases Store.mem_keys_serve hk with hnew | hold
    -- A key this request has written: under `q` both parts carry the prefix.
    · obtain ⟨e, he, rfl⟩ := List.mem_map.mp hnew
      obtain ⟨g, n, hgn⟩ := hkey e he
      rw [hgn] at hfirst ⊢
      rcases hp with rfl | hinc
      · simp
      · simp [hinc.after?_append_eq_none] at hfirst
    · exact howned k hold hfirst

/-- Deleting a group changes entries under its prefix only. -/
theorem staysUnder_deleteGroup (ops : Ops D O) (q g : GoString) (s : State D O) :
    StaysUnder q s (deleteGroup ops (q ++ g) s).1 := by
  refine ⟨?_, fun p _ howned => howned.deleteGroup ops (q ++ g)⟩
  intro p hp
  unfold deleteGroup
  dsimp only
  split
  · exact (tenantView_offsets
      (Store.view_eraseRow_of_none (hp.after?_append_eq_none g) s.offsets)).symm
  · rfl

/-- So does deleting several. -/
theorem staysUnder_deleteGroupList (ops : Ops D O) {q : GoString} (hq : q ≠ [])
    {groups : List GoString} (hnames : ∀ g ∈ groups, g ≠ []) (s : State D O) :
    StaysUnder q s (deleteGroupList ops (groups.map (prefixIn q)) s).1 := by
  induction groups generalizing s with
  | nil => exact StaysUnder.refl q s
  | cons g groups ih =>
      rw [List.map_cons, prefixIn_of_ne_nil hq (hnames g List.mem_cons_self)]
      exact (staysUnder_deleteGroup ops q g s).trans
        (ih (fun g' hg' => hnames g' (List.mem_cons_of_mem g hg')) _)

/-- Topics of one group, under `q`. -/
theorem staysUnder_serveGroup {π ρ : Type} {q : GoString} (hq : q ≠ [])
    (op : List π → Option D → Option O → Option O × List ρ) {group : GoString}
    {ts : List (TopicOf π)} (hnames : group ≠ [] ∧ ∀ t ∈ ts, t.topic ≠ []) (s : State D O) :
    StaysUnder q s
      (serveGroup op (prefixIn q group) (ts.map (·.rename (prefixIn q))) s).1 := by
  refine staysUnder_offsets _ _ ?_ s
  intro t ht
  obtain ⟨t', ht', rfl⟩ := List.mem_map.mp ht
  refine ⟨group, t'.topic, ?_⟩
  rw [prefixIn_of_ne_nil hq hnames.1]
  exact congrArg (Prod.mk _) (prefixIn_of_ne_nil hq (hnames.2 t' ht'))

/-- Names under `q`, as DeleteTopics and Metadata have them. -/
theorem staysUnder_names {ρ : Type} {q : GoString} (hq : q ≠ [])
    (op : GoString → Option D → Option D × ρ) {names : List GoString}
    (hnames : ∀ n ∈ names, n ≠ []) (s : State D O) :
    StaysUnder q s
      { s with topics := (Store.serve op id (names.map (prefixIn q)) s.topics).1 } := by
  refine staysUnder_topics op id ?_ s
  intro n hn
  obtain ⟨m, hm, rfl⟩ := List.mem_map.mp hn
  exact ⟨m, prefixIn_of_ne_nil hq (hnames m hm)⟩

/-- A rewritten request stays under its prefix. -/
theorem serve_staysUnder (ops : Ops D O) (B : ConsumerCodec) {q : GoString} (hq : q ≠ [])
    {version : Int16} {a : Api} {req : a.Request} (hnames : WellNamed version a req)
    {s s' : State D O} {resp : a.Response}
    (h : serve ops version a (requestIn B q a req) s = some (s', resp)) :
    StaysUnder q s s' := by
  -- Only the state matters here, so the response is dropped before the cases are split.
  have hs' : some s' = (serve ops version a (requestIn B q a req) s).map Prod.fst := by
    rw [h]
    rfl
  cases a with
  | createTopics =>
      cases hs'
      refine staysUnder_topics _ _ ?_ s
      intro t ht
      obtain ⟨t', ht', rfl⟩ := List.mem_map.mp ht
      exact ⟨t'.topic, prefixIn_of_ne_nil hq (hnames t' ht')⟩
  | produce =>
      cases hs'
      refine staysUnder_topics _ _ ?_ s
      intro t ht
      obtain ⟨t', ht', rfl⟩ := List.mem_map.mp ht
      exact ⟨t'.topic, prefixIn_of_ne_nil hq (hnames t' ht')⟩
  | deleteTopics =>
      cases hs'
      show StaysUnder q s (deleteTopics ops version (deleteTopicsRequestIn q req) s).1
      rw [deleteTopics, topicsToDelete_requestIn]
      exact staysUnder_names hq _ hnames.topicsToDelete s
  | metadata =>
      cases hs'
      show StaysUnder q s (metadata ops (metadataRequestIn q req) s).1
      rw [metadata, metadataRequestIn]
      cases hts : req.topics with
      | none => exact StaysUnder.refl q s
      | some ts =>
          dsimp only [Option.map_some]
          rw [topicsToDescribe_requestIn]
          exact staysUnder_names hq _ (hnames.topicsToDescribe hts) s
  | offsetCommit | offsetDelete =>
      cases hs'
      exact staysUnder_serveGroup hq _ hnames s
  | deleteGroups =>
      cases hs'
      exact staysUnder_deleteGroupList ops hq hnames s
  | listOffsets | offsetFetch | listGroups =>
      cases hs'
      exact StaysUnder.refl q s
  | _ => cases h

/-! ### Runs -/

/-- The view of a reordered state is reordered. -/
theorem sameEntries_tenantView (p : GoString) {s s' : State D O} (h : SameEntries s s') :
    SameEntries (tenantView p s) (tenantView p s') :=
  ⟨Store.view_perm h.topics _, Store.view_perm h.offsets _⟩

/-- A request of a tenant, in the tenant's words, and the response of the shared cluster to
the rewritten request. -/
structure Visit (ι : Type) where
  tenant : ι
  exchange : Exchange

section
variable {ι : Type} (B : ConsumerCodec) (tenantPrefix : ι → GoString)

/-- What the shared cluster sees. -/
def Visit.upstream (x : Visit ι) : Exchange :=
  { x.exchange with
      request := requestIn B (tenantPrefix x.tenant) x.exchange.api x.exchange.request }

/-- What the tenant sees. -/
def Visit.client (host : GoString) (port : Int32) (x : Visit ι) : Exchange :=
  { x.exchange with
      response := responseOut B (tenantPrefix x.tenant) host port x.exchange.api
        x.exchange.response }

/-- The induction over a run. The private cluster may have its entries in another order. -/
theorem runs_tenantView [DecidableEq ι] (ops : Ops D O) (host : GoString) (port : Int32)
    (hne : ∀ t, tenantPrefix t ≠ [])
    (hinc : ∀ t u, t ≠ u → Incomparable (tenantPrefix t) (tenantPrefix u)) (t : ι)
    {visits : List (Visit ι)}
    (hnames : ∀ x ∈ visits, WellNamed x.exchange.version x.exchange.api x.exchange.request)
    {s s' : State D O} (howned : Owned (tenantPrefix t) s)
    (hrun : Runs ops s (visits.map (Visit.upstream B tenantPrefix)) s') {own : State D O}
    (hown : SameEntries own (tenantView (tenantPrefix t) s)) :
    ∃ own', SameEntries own' (tenantView (tenantPrefix t) s') ∧
      Runs (asVirtual host port ops) own
        ((visits.filter (·.tenant = t)).map (Visit.client B tenantPrefix host port)) own' := by
  -- The private run is built step by step; its state is the view, up to order.
  induction visits generalizing s own with
  | nil =>
      cases hrun
      exact ⟨own, hown, .nil own⟩
  | cons x visits ih =>
      cases hrun with
      | cons step rest =>
          rename_i s₂
          obtain ⟨s₁, hsame, hserve⟩ := step
          have hx := hnames x List.mem_cons_self
          have hlater := fun y hy => hnames y (List.mem_cons_of_mem x hy)
          -- The reordering before the request does not show in the view, up to order.
          have howned₁ : Owned (tenantPrefix t) s₁ := howned.perm hsame.offsets
          have hown₁ := hown.trans (sameEntries_tenantView (tenantPrefix t) hsame)
          have hunder := serve_staysUnder ops B (hne x.tenant) hx hserve
          by_cases htenant : x.tenant = t
          · -- The tenant's own request: both clusters take the step.
            subst htenant
            have howned₂ := hunder.owned _ (Or.inl rfl) howned₁
            obtain ⟨own', hown', hruns⟩ := ih hlater howned₂ rest (SameEntries.refl _)
            have hprivate := serve_own ops host port B (hne x.tenant) hx howned₁ hserve
            refine ⟨own', hown', ?_⟩
            rw [List.filter_cons_of_pos (by simp), List.map_cons]
            exact .cons ⟨_, hown₁, hprivate⟩ hruns
          · -- Another tenant's request: the view stays.
            have hother := hinc x.tenant t htenant
            have howned₂ := hunder.owned (tenantPrefix t) (Or.inr hother) howned₁
            have hview := hunder.hidden (tenantPrefix t) hother
            rw [List.filter_cons_of_neg (by simpa using htenant)]
            exact ih hlater howned₂ rest (hview ▸ hown₁)

/-- Tenants with non-empty, pairwise incomparable prefixes share a cluster. In every run that
starts without topics and groups, the requests of each tenant and the responses it receives
are a run of a private cluster that starts without topics and groups. -/
theorem virtualCluster [DecidableEq ι] (ops : Ops D O) (host : GoString) (port : Int32)
    (hne : ∀ t, tenantPrefix t ≠ [])
    (hinc : ∀ t u, t ≠ u → Incomparable (tenantPrefix t) (tenantPrefix u))
    (visits : List (Visit ι))
    (hnames : ∀ x ∈ visits, WellNamed x.exchange.version x.exchange.api x.exchange.request)
    (s : State D O)
    (hrun : Runs ops .empty (visits.map (Visit.upstream B tenantPrefix)) s) (t : ι) :
    ∃ own, Runs (asVirtual host port ops) .empty
      ((visits.filter (·.tenant = t)).map (Visit.client B tenantPrefix host port)) own := by
  have hstart : Owned (tenantPrefix t) (State.empty : State D O) := by
    intro k hk
    cases hk
  obtain ⟨own, -, hruns⟩ := runs_tenantView B tenantPrefix ops host port hne hinc t hnames
    hstart hrun (SameEntries.refl State.empty)
  exact ⟨own, hruns⟩

end

end

/-! ### A run of two tenants -/

/-- A cluster that keeps no more than which topics there are and the last offset. -/
def smallCluster : Ops Unit Int64 where
  createTopic := fun _ _ _ d => (some (), { errorCode := if d.isSome then 36 else 0 })
  deleteTopic := fun _ d => (none, { errorCode := if d.isSome then 0 else 3 })
  describeTopic := fun _ d => (d, { errorCode := if d.isSome then 0 else 3 })
  topicInfo := fun _ => { partitions := [{ partition := 0, leader := 7, replicas := [7],
                                           isr := [7] }] }
  produce := fun _ _ _ parts d =>
    (d, parts.map fun t => ⟨t.partition, if d.isSome then 0 else 3, 0, -1, -1⟩)
  listOffsets := fun _ parts d =>
    parts.map fun t => ⟨t.partition, if d.isSome then 0 else 3, -1, 0⟩
  commitOffset := fun _ _ parts _ _ =>
    (parts.head?.map (·.offset), parts.map fun t => ⟨t.partition, 0⟩)
  fetchOffset := fun _ parts o => parts.map fun t => { partition := t, offset := o.getD (-1) }
  offsetInfo := fun _ o => [{ partition := 0, offset := o }]
  fetchCode := fun _ => 0
  deleteOffset := fun parts _ _ => (none, parts.map fun t => ⟨t, 0⟩)
  deleteOffsetsCode := fun os => if os = [] then 69 else 0
  groupInfo := fun _ _ => some (goString "consumer", goString "Empty")
  deleteGroup := fun os => (true, if os = [] then 69 else 0)
  brokers := [⟨7, goString "kafka", 9092, none⟩]
  clusterID := none
  controllerID := 7

/-- The prefixes of two tenants. -/
def twoPrefixes : Bool → GoString
  | true => goString "tA."
  | false => goString "tB."

/-- Both tenants create the topic `orders`, the second commits an offset, and the first asks
for all topics and all groups. -/
def twoVisits : List (Visit Bool) :=
  let create : CreateTopicsRequest :=
    { topics := [{ topic := goString "orders", numPartitions := 1, replicationFactor := 1 }] }
  let line (name : String) : MetadataResponseTopic :=
    { smallCluster.topicInfo () with topic := some (goString name) }
  [⟨true, 1, .createTopics, create,
      { topics := [{ topic := goString "tA.orders", errorCode := 0 }] }⟩,
    ⟨false, 1, .createTopics, create,
      { topics := [{ topic := goString "tB.orders", errorCode := 0 }] }⟩,
    ⟨false, 2, .offsetCommit,
      { group := goString "g"
        topics := [⟨goString "orders", [{ partition := 0, offset := 5 }]⟩] },
      { topics := [⟨goString "tB.orders", [⟨0, 0⟩]⟩] }⟩,
    ⟨true, 1, .metadata, { topics := none },
      { brokers := smallCluster.brokers, controllerID := 7,
        topics := [line "tA.orders", line "tB.orders"] }⟩,
    ⟨true, 1, .listGroups, {},
      { groups := [⟨goString "tB.g", goString "consumer", goString "Empty"⟩] }⟩]

/-- The first tenant sees its own topic on the proxy's node, and no group. -/
theorem virtualCluster_two :
    ∃ own, Runs (asVirtual (goString "proxy") 9092 smallCluster) .empty
      ((twoVisits.filter (·.tenant = true)).map
        (Visit.client noBlobs twoPrefixes (goString "proxy") 9092)) own := by
  have hnames : ∀ x ∈ twoVisits,
      WellNamed x.exchange.version x.exchange.api x.exchange.request := by
    intro x hx
    simp only [twoVisits, List.mem_cons, List.not_mem_nil, or_false] at hx
    rcases hx with rfl | rfl | rfl | rfl | rfl
    · simp only [WellNamed]
      decide
    · simp only [WellNamed]
      decide
    · simp only [WellNamed]
      decide
    · simp [WellNamed]
    · exact True.intro
  have hrun : ∃ s, Runs smallCluster .empty
      (twoVisits.map (Visit.upstream noBlobs twoPrefixes)) s :=
    ⟨_, .cons ⟨_, .refl _, rfl⟩ (.cons ⟨_, .refl _, rfl⟩ (.cons ⟨_, .refl _, rfl⟩
      (.cons ⟨_, .refl _, rfl⟩ (.cons ⟨_, .refl _, rfl⟩ (.nil _)))))⟩
  obtain ⟨s, hrun⟩ := hrun
  exact virtualCluster noBlobs twoPrefixes smallCluster (goString "proxy") 9092 (by decide)
    (by decide) twoVisits hnames s hrun true

end Kroxy.Proofs
