import Kroxy.Rewrite.InPlace

/-!
# `Kroxy.Proofs.Filtering`: what a tenant sees of a listing

Three response rewriters filter the broker's answer for the tenant's own entries. Here is
what they are for, in terms of the answer: `ownTopic`, `ownGroup` and `shownResource` say
which entries the tenant may see, and `clientTopic`, `clientGroup` and `clientResource` what
it sees of them.

`filtersExactly` states it of the rewriters on their arrays. The output is the list of the
visible entries as the client sees them. The broker's other entries therefore have no
influence on it.
-/

set_option autoImplicit false

namespace Kroxy.Proofs

open Kroxy.Go
open Kroxy.Kmsg
open Kroxy.Rewrite

/-! ### What the tenant may see -/

/-- A topic with a name under the tenant's prefix. -/
def ownTopic (p : GoString) (t : MetadataResponseTopic) : Bool :=
  match t.topic with
  | none => false
  | some n => decide (p <+: n)

/-- Is the group one of the tenant's? -/
def ownGroup (p : GoString) (g : ListGroupsResponseGroup) : Bool := decide (p <+: g.group)

/-- A topic or group under the prefix, or a resource of another kind. -/
def shownResource (p : GoString) (r : DescribeConfigsResponseResource) : Bool :=
  !isTenantResource r.resourceType || decide (p <+: r.resourceName)

/-! ### What it sees of it -/

/-- The partition with 0 for every broker id. -/
def zeroBrokers (part : MetadataResponseTopicPartition) : MetadataResponseTopicPartition :=
  { part with
      leader := 0
      replicas := List.replicate part.replicas.length 0
      isr := List.replicate part.isr.length 0
      offlineReplicas := List.replicate part.offlineReplicas.length 0 }

/-- A topic as the client sees it. -/
def clientTopic (p : GoString) (t : MetadataResponseTopic) : MetadataResponseTopic :=
  { t with
      topic := t.topic.map (·.drop p.length)
      partitions := t.partitions.map zeroBrokers }

/-- A group as the client sees it. -/
def clientGroup (p : GoString) (g : ListGroupsResponseGroup) : ListGroupsResponseGroup :=
  { g with group := g.group.drop p.length }

/-- A resource as the client sees it. -/
def clientResource (p : GoString) (r : DescribeConfigsResponseResource) :
    DescribeConfigsResponseResource :=
  if isTenantResource r.resourceType then { r with resourceName := r.resourceName.drop p.length }
  else r

/-! ### The bodies of the loops -/

/-- A virtual partition has broker 0 wherever the partition names one. -/
theorem virtualPartition_eq_zeroBrokers : virtualPartition = zeroBrokers := by
  funext part
  simp [virtualPartition, zeroBrokers, List.map_const']

/-- A filter and a map in one pass. -/
theorem filterMap_eq_map_filter {α β : Type} {f : α → Option β} {keep : α → Bool} {g : α → β}
    (h : ∀ x, f x = if keep x then some (g x) else none) (xs : List α) :
    xs.filterMap f = (xs.filter keep).map g := by
  induction xs with
  | nil => rfl
  | cons x xs ih =>
      rw [List.filterMap_cons, h x]
      cases hx : keep x <;> simp [hx, ih]

section
variable {p : GoString} (hp : p ≠ [])
include hp

/-- Of a prefixed name the rest is kept. -/
theorem stripOut_of_prefix {n : GoString} (h : p <+: n) : stripOut p n = n.drop p.length := by
  obtain ⟨rest, rfl⟩ := h
  rw [stripOut_append hp, List.drop_left]

/-- A topic is kept when it is the tenant's own. -/
theorem metadataTopicOut_eq (t : MetadataResponseTopic) :
    metadataTopicOut p t = if ownTopic p t then some (clientTopic p t) else none := by
  unfold metadataTopicOut ownTopic clientTopic
  cases htopic : t.topic with
  | none => rfl
  | some n =>
      by_cases hown : p <+: n
      · simp only [(belongsToTenant_iff hp n).mpr hown, hown, if_true, decide_true,
          stripOutPtr_eq_map, Option.map_some, stripOut_of_prefix hp hown,
          virtualPartition_eq_zeroBrokers]
      · have hforeign : belongsToTenant p n = false := by
          rw [Bool.eq_false_iff, ne_eq, belongsToTenant_iff hp]
          exact hown
        simp [hforeign, hown]

/-- So is a group. -/
theorem listGroupsGroupOut_eq (g : ListGroupsResponseGroup) :
    listGroupsGroupOut p g = if ownGroup p g then some (clientGroup p g) else none := by
  unfold listGroupsGroupOut ownGroup clientGroup
  by_cases hown : p <+: g.group
  · simp only [(belongsToTenant_iff hp g.group).mpr hown, hown, if_true, decide_true,
      stripOut_of_prefix hp hown]
  · have hforeign : belongsToTenant p g.group = false := by
      rw [Bool.eq_false_iff, ne_eq, belongsToTenant_iff hp]
      exact hown
    simp [hforeign, hown]

/-- A resource is kept when it may be shown. -/
theorem describeConfigsResourceOut_eq (r : DescribeConfigsResponseResource) :
    describeConfigsResourceOut p r =
      if shownResource p r then some (clientResource p r) else none := by
  unfold describeConfigsResourceOut shownResource clientResource
  cases isTenantResource r.resourceType with
  | false => rfl
  | true =>
      by_cases hown : p <+: r.resourceName
      · simp [(belongsToTenant_iff hp r.resourceName).mpr hown, hown,
          stripOut_of_prefix hp hown]
      · have hforeign : belongsToTenant p r.resourceName = false := by
          rw [Bool.eq_false_iff, ne_eq, belongsToTenant_iff hp]
          exact hown
        simp [hforeign, hown]

end

/-! ### The responses -/

/-- The rewriters leave exactly the visible entries, in the order and as often as the broker
listed them, and nothing else of the broker's entries shows. -/
structure FiltersExactly (p advertisedHost : GoString) (advertisedPort : Int32) : Prop where
  metadata : ∀ spare resp,
    metadataResponseOutInPlace p advertisedHost advertisedPort spare resp =
      { resp with
          brokers := [{ nodeID := 0, host := advertisedHost, port := advertisedPort,
                        rack := resp.brokers.head?.bind (·.rack) }]
          controllerID := 0
          topics := (resp.topics.filter (ownTopic p)).map (clientTopic p) }
  listGroups : ∀ spare resp,
    listGroupsResponseOutInPlace p spare resp =
      { resp with groups := (resp.groups.filter (ownGroup p)).map (clientGroup p) }
  describeConfigs : ∀ spare resp,
    describeConfigsResponseOutInPlace p spare resp =
      { resp with
          resources := (resp.resources.filter (shownResource p)).map (clientResource p) }
  /-- Two answers that differ in foreign topics only look the same. -/
  metadata_hides : ∀ spare spare' resp resp',
    { resp with topics := [] } = { resp' with topics := [] } →
    resp.topics.filter (ownTopic p) = resp'.topics.filter (ownTopic p) →
    metadataResponseOutInPlace p advertisedHost advertisedPort spare resp =
      metadataResponseOutInPlace p advertisedHost advertisedPort spare' resp'
  listGroups_hides : ∀ spare spare' resp resp',
    { resp with groups := [] } = { resp' with groups := [] } →
    resp.groups.filter (ownGroup p) = resp'.groups.filter (ownGroup p) →
    listGroupsResponseOutInPlace p spare resp = listGroupsResponseOutInPlace p spare' resp'
  describeConfigs_hides : ∀ spare spare' resp resp',
    { resp with resources := [] } = { resp' with resources := [] } →
    resp.resources.filter (shownResource p) = resp'.resources.filter (shownResource p) →
    describeConfigsResponseOutInPlace p spare resp =
      describeConfigsResponseOutInPlace p spare' resp'

/-- The three rewriters filter exactly, under every non-empty prefix. -/
theorem filtersExactly {p : GoString} (hp : p ≠ []) (advertisedHost : GoString)
    (advertisedPort : Int32) : FiltersExactly p advertisedHost advertisedPort := by
  have hmetadata : ∀ spare resp,
      metadataResponseOutInPlace p advertisedHost advertisedPort spare resp =
        { resp with
            brokers := [{ nodeID := 0, host := advertisedHost, port := advertisedPort,
                          rack := resp.brokers.head?.bind (·.rack) }]
            controllerID := 0
            topics := (resp.topics.filter (ownTopic p)).map (clientTopic p) } := by
    intro spare resp
    rw [metadataResponseOutInPlace_eq, metadataResponseOut,
      filterMap_eq_map_filter (metadataTopicOut_eq hp)]
  have hgroups : ∀ spare resp, listGroupsResponseOutInPlace p spare resp =
      { resp with groups := (resp.groups.filter (ownGroup p)).map (clientGroup p) } := by
    intro spare resp
    rw [listGroupsResponseOutInPlace_eq, listGroupsResponseOut,
      filterMap_eq_map_filter (listGroupsGroupOut_eq hp)]
  have hconfigs : ∀ spare resp, describeConfigsResponseOutInPlace p spare resp =
      { resp with
          resources := (resp.resources.filter (shownResource p)).map (clientResource p) } := by
    intro spare resp
    rw [describeConfigsResponseOutInPlace_eq, describeConfigsResponseOut,
      filterMap_eq_map_filter (describeConfigsResourceOut_eq hp)]
  refine ⟨hmetadata, hgroups, hconfigs, ?_, ?_, ?_⟩
  · intro spare spare' resp resp' hrest hown
    rw [hmetadata, hmetadata, hown]
    simp only [MetadataResponse.mk.injEq] at hrest
    simp only [hrest]
  · intro spare spare' resp resp' hrest hown
    rw [hgroups, hgroups, hown]
    simp only [ListGroupsResponse.mk.injEq] at hrest
    simp only [hrest]
  · intro spare spare' resp resp' _ hown
    rw [hconfigs, hconfigs, hown]

/-- Two of four groups are the tenant's, one of them listed twice. -/
theorem filtersExactly_acme :
    FiltersExactly (goString "acme.") (goString "proxy") 9092 ∧
      listGroupsResponseOutInPlace (goString "acme.") [⟨goString "old", [], []⟩]
          ⟨0, [⟨goString "acme.a", [], []⟩, ⟨goString "other", [], []⟩,
            ⟨goString "acme.b", [], []⟩, ⟨goString "acme.a", [], []⟩]⟩ =
        ⟨0, [⟨goString "a", [], []⟩, ⟨goString "b", [], []⟩, ⟨goString "a", [], []⟩]⟩ :=
  ⟨filtersExactly (by decide) _ _, by decide⟩

end Kroxy.Proofs
