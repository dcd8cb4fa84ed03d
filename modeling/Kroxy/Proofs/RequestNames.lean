import Kroxy.Rewrite.Api

/-!
# `Kroxy.Proofs.RequestNames`: what the request rewriters do to names

Every request rewriter is a map over the names of the request, except for the names
`leftAlone` lists. The three lemmas state this kind by kind:

* `topicNames_requestIn`: all topic names are prefixed, for every API but Fetch.
* `groupIDs_requestIn`: all group ids are prefixed, for every API but FindCoordinator.
* `transactionalIDs_requestIn`: all transactional ids are prefixed, for every API but
  Produce.

`names_confined_iff` puts them together with the three exceptions. After rewriting under a
non-empty prefix, every name starts with the prefix exactly when no name was empty and each
name left alone starts with the prefix already.
-/

set_option autoImplicit false

namespace Kroxy.Proofs

open Kroxy.Go
open Kroxy.Kmsg
open Kroxy.Rewrite

/-! ### Lists of topics and resources -/

/-- The names of renamed topics. -/
theorem topicsNames_rename {π : Type} (f : GoString → GoString) (ts : List (TopicOf π)) :
    TopicOf.names (ts.map (·.rename f)) = (TopicOf.names ts).map f := by
  simp [TopicOf.names, TopicOf.rename]

/-- The same for a nullable list of topics. -/
theorem topicsNames_getD_rename {π : Type} (f : GoString → GoString)
    (ts : Option (List (TopicOf π))) :
    TopicOf.names ((ts.map fun l => l.map (·.rename f)).getD [])
      = (TopicOf.names (ts.getD [])).map f := by
  cases ts with
  | none => rfl
  | some l => exact topicsNames_rename f l

/-- Both resource types the proxy owns are rewritten in place, so selecting a type commutes
with the rewriter. -/
theorem resourceNames_requestIn (p : GoString) {τ : Int8} (hτ : isTenantResource τ = true)
    (rs : List DescribeConfigsRequestResource) :
    resourceNames τ (rs.map fun r =>
        if isTenantResource r.resourceType then
          { r with resourceName := prefixIn p r.resourceName }
        else r)
      = (resourceNames τ rs).map (prefixIn p) := by
  induction rs with
  | nil => rfl
  | cons r rs ih =>
      unfold resourceNames at ih ⊢
      by_cases hr : r.resourceType = τ
      · subst hr
        simp [hτ, ih]
      -- The rewriter keeps the type, so it neither adds to the selection nor takes from it.
      · have hkeep : (if isTenantResource r.resourceType then
              { r with resourceName := prefixIn p r.resourceName }
            else r).resourceType = r.resourceType := by
          split <;> rfl
        rw [List.map_cons, List.filter_cons_of_neg (by simpa [hkeep] using hr),
          List.filter_cons_of_neg (by simpa using hr), ih]

/-! ### Names by kind -/

/-- Every topic name is prefixed. Fetch is the exception, because of its forgotten
topics. -/
theorem topicNames_requestIn (B : ConsumerCodec) (p : GoString) (v : Int16) (a : Api)
    (r : a.Request) (ha : a ≠ .fetch) :
    topicNames v a (requestIn B p a r) = (topicNames v a r).map (prefixIn p) := by
  cases a with
  | fetch => exact absurd rfl ha
  | metadata =>
      simp only [topicNames, requestIn, metadataRequestIn, prefixInPtr_eq_map]
      cases r.topics with
      | none => rfl
      | some ts => simp [List.filterMap_map, List.map_filterMap]
  | produce =>
      simp only [topicNames, requestIn, produceRequestIn, topicsNames_rename]
      split <;> rfl
  | offsetCommit =>
      simp only [topicNames, requestIn, offsetCommitRequestIn, topicsNames_rename]
      split <;> rfl
  | offsetFetch =>
      simp only [topicNames, requestIn, offsetFetchRequestIn, topicsNames_getD_rename,
        List.flatMap_map]
      split
      · rfl
      · split
        · rw [List.map_flatMap]
        · rfl
  | addPartitionsToTxn =>
      simp only [topicNames, requestIn, addPartitionsToTxnRequestIn, topicsNames_rename,
        List.flatMap_map]
      split
      · rfl
      · rw [List.map_flatMap]
  | deleteTopics =>
      simp only [topicNames, requestIn, deleteTopicsRequestIn, prefixInPtr_eq_map]
      split
      · rfl
      · simp [List.filterMap_map, List.map_filterMap]
  | describeConfigs => exact resourceNames_requestIn p (by decide) r.resources
  | createTopics => simp [topicNames, requestIn, createTopicsRequestIn]
  | listOffsets => exact topicsNames_rename _ _
  | offsetDelete => exact topicsNames_rename _ _
  | txnOffsetCommit => exact topicsNames_rename _ _
  | _ => rfl

/-- Fetch prefixes the topics it asks for and leaves the forgotten ones as they are. -/
theorem topicNames_fetchRequestIn (B : ConsumerCodec) (p : GoString) (v : Int16)
    (r : FetchRequest) :
    topicNames v .fetch (requestIn B p .fetch r)
      = (if v < 13 then r.topics.map (fun t => prefixIn p t.topic) else [])
        ++ leftAlone v .fetch r := by
  simp only [topicNames, requestIn, fetchRequestIn, leftAlone, List.map_map]
  by_cases hv : v < 13
  · simp [hv, Function.comp_def]
  · simp [hv]

/-- The coordinator keys of a recognised type are prefixed. -/
theorem coordinatorKeysAt_requestIn (p : GoString) (v : Int16) (r : FindCoordinatorRequest)
    (h : r.coordinatorType = coordinatorTypeGroup ∨
      r.coordinatorType = coordinatorTypeTransaction) :
    coordinatorKeysAt v (findCoordinatorRequestIn p r)
      = (coordinatorKeysAt v r).map (prefixIn p) := by
  -- The early return of the source is not taken.
  have hguard : ¬ (r.coordinatorType ≠ coordinatorTypeGroup ∧
      r.coordinatorType ≠ coordinatorTypeTransaction) := by
    rintro ⟨hg, ht⟩
    exact h.elim hg ht
  rw [findCoordinatorRequestIn, if_neg hguard]
  unfold coordinatorKeysAt
  split <;> rfl

/-- The rewriter never changes the coordinator type. -/
@[simp] theorem coordinatorType_requestIn (p : GoString) (r : FindCoordinatorRequest) :
    (findCoordinatorRequestIn p r).coordinatorType = r.coordinatorType := by
  unfold findCoordinatorRequestIn
  split <;> rfl

/-- Every group id is prefixed. FindCoordinator is the exception, because of the
coordinator types it does not recognise. -/
theorem groupIDs_requestIn (B : ConsumerCodec) (p : GoString) (v : Int16) (a : Api)
    (r : a.Request) (ha : a ≠ .findCoordinator) :
    groupIDs v a (requestIn B p a r) = (groupIDs v a r).map (prefixIn p) := by
  cases a with
  | findCoordinator => exact absurd rfl ha
  | offsetFetch =>
      simp only [groupIDs, requestIn, offsetFetchRequestIn, List.map_map]
      split
      · rfl
      · rw [List.map_map]
        rfl
  | joinGroup =>
      simp only [groupIDs, requestIn, joinGroupRequestIn]
      split <;> rfl
  | syncGroup =>
      simp only [groupIDs, requestIn, syncGroupRequestIn]
      split <;> rfl
  | describeConfigs => exact resourceNames_requestIn p (by decide) r.resources
  | _ => rfl

/-- Every transactional id is prefixed. Produce is the exception: its rewriter does not
touch the field. -/
theorem transactionalIDs_requestIn (B : ConsumerCodec) (p : GoString) (v : Int16) (a : Api)
    (r : a.Request) (ha : a ≠ .produce) :
    transactionalIDs v a (requestIn B p a r) = (transactionalIDs v a r).map (prefixIn p) := by
  cases a with
  | produce => exact absurd rfl ha
  | findCoordinator =>
      simp only [transactionalIDs, requestIn, coordinatorType_requestIn]
      split
      · rename_i ht
        exact coordinatorKeysAt_requestIn p v r (Or.inr ht)
      · rfl
  | initProducerID =>
      simp only [transactionalIDs, requestIn, initProducerIDRequestIn, prefixInPtr_eq_map]
      cases r.transactionalID <;> rfl
  | addPartitionsToTxn =>
      simp only [transactionalIDs, requestIn, addPartitionsToTxnRequestIn, List.map_map]
      split
      · rfl
      · rw [List.map_map]
        rfl
  | _ => rfl

/-- Produce passes its transactional id on as it is. -/
theorem transactionalIDs_produceRequestIn (B : ConsumerCodec) (p : GoString) (v : Int16)
    (r : ProduceRequest) :
    transactionalIDs v .produce (requestIn B p .produce r) = transactionalIDs v .produce r :=
  rfl

/-! ### All names together -/

/-- Every name of the list starts with `p`. -/
def Confined (p : GoString) (ns : List GoString) : Prop := ∀ n ∈ ns, p <+: n

/-- Two lists of names are confined together. -/
theorem confined_append {p : GoString} {ns ms : List GoString} :
    Confined p (ns ++ ms) ↔ Confined p ns ∧ Confined p ms := by
  simp [Confined, or_imp, forall_and]

/-- Prefixed names are confined when none of them was empty. -/
theorem confined_map_prefixIn {p : GoString} (hp : p ≠ []) (ns : List GoString) :
    Confined p (ns.map (prefixIn p)) ↔ ∀ n ∈ ns, n ≠ [] := by
  simp [Confined, prefix_prefixIn_iff hp]

/-- A confined name is not empty. -/
theorem Confined.ne_nil {p : GoString} (hp : p ≠ []) {ns : List GoString}
    (h : Confined p ns) : ∀ n ∈ ns, n ≠ [] := by
  rintro n hn rfl
  exact hp (List.prefix_nil.mp (h [] hn))

/-- A list of names splits into names to prefix (`ns`) and names left alone (`ls`). After
the prefixing all are confined exactly when none was empty and the latter are confined. -/
theorem confined_split {p : GoString} (hp : p ≠ []) (ns ls : List GoString) :
    Confined p (ns.map (prefixIn p) ++ ls)
      ↔ (∀ n ∈ ns ++ ls, n ≠ []) ∧ Confined p ls := by
  rw [confined_append, confined_map_prefixIn hp]
  constructor
  · rintro ⟨hns, hls⟩
    refine ⟨?_, hls⟩
    intro n hn
    rcases List.mem_append.mp hn with h | h
    · exact hns n h
    · exact hls.ne_nil hp n h
  · rintro ⟨hne, hls⟩
    exact ⟨fun n hn => hne n (List.mem_append_left _ hn), hls⟩

/-- The names the request rewriter prefixes. -/
def prefixedNames (v : Int16) : (a : Api) → a.Request → List GoString
  | .produce, r => topicNames v .produce r
  | .fetch, r => if v < 13 then r.topics.map (·.topic) else []
  | .findCoordinator, r =>
      if r.coordinatorType ≠ coordinatorTypeGroup ∧
        r.coordinatorType ≠ coordinatorTypeTransaction then [] else coordinatorKeysAt v r
  | a, r => names v a r

/-- Every name is either prefixed or left alone. -/
theorem names_eq_prefixed_append (v : Int16) (a : Api) (r : a.Request) :
    names v a r = prefixedNames v a r ++ leftAlone v a r := by
  cases a with
  | produce => simp [names, prefixedNames, leftAlone, groupIDs, transactionalIDs]
  | fetch =>
      simp only [names, topicNames, groupIDs, transactionalIDs, prefixedNames, leftAlone,
        List.append_nil]
      by_cases hv : v < 13 <;> simp [hv]
  | findCoordinator =>
      simp only [names, topicNames, groupIDs, transactionalIDs, prefixedNames, leftAlone,
        List.nil_append]
      -- A recognised key is a group id or a transactional id, an unrecognised one counts
      -- as a group id.
      have hne : ¬ coordinatorTypeGroup = coordinatorTypeTransaction := by decide
      by_cases ht : r.coordinatorType = coordinatorTypeTransaction
      · simp [ht]
      · by_cases hg : r.coordinatorType = coordinatorTypeGroup
        · simp [hg, hne]
        · simp [ht, hg]
  | _ => exact (List.append_nil _).symm

/-- The rewriter is a map over the prefixed names and the identity on the others. -/
theorem names_requestIn (B : ConsumerCodec) (p : GoString) (v : Int16) (a : Api)
    (r : a.Request) :
    names v a (requestIn B p a r)
      = (prefixedNames v a r).map (prefixIn p) ++ leftAlone v a r := by
  -- Away from the three exceptions the kinds are mapped one by one.
  have hplain : a ≠ .fetch → a ≠ .findCoordinator → a ≠ .produce →
      names v a (requestIn B p a r) = (names v a r).map (prefixIn p) := by
    intro hf hc ht
    rw [names, topicNames_requestIn B p v a r hf, groupIDs_requestIn B p v a r hc,
      transactionalIDs_requestIn B p v a r ht, ← List.map_append, ← List.map_append]
    rfl
  cases a with
  | produce =>
      rw [names, topicNames_requestIn B p v .produce r (by decide),
        transactionalIDs_produceRequestIn]
      show _ ++ [] ++ _ = _
      rw [List.append_nil]
      rfl
  | fetch =>
      rw [names, topicNames_fetchRequestIn]
      show _ ++ _ ++ [] ++ [] = _
      rw [List.append_nil, List.append_nil]
      simp only [prefixedNames]
      split
      · rw [List.map_map]
        rfl
      · rfl
  | findCoordinator =>
      rw [names_eq_prefixed_append]
      simp only [prefixedNames, leftAlone, requestIn, coordinatorType_requestIn]
      split
      · rename_i h
        rw [findCoordinatorRequestIn, if_pos h]
        rfl
      · rename_i h
        rw [coordinatorKeysAt_requestIn p v r (by tauto)]
  | _ => exact (hplain (by decide) (by decide) (by decide)).trans (List.append_nil _).symm

/-- The exact condition under which a rewritten request names nothing outside the prefix:
no name was empty, and the names the rewriter leaves alone carry the prefix already. -/
theorem names_confined_iff (B : ConsumerCodec) {p : GoString} (hp : p ≠ []) (v : Int16)
    (a : Api) (r : a.Request) :
    Confined p (names v a (requestIn B p a r))
      ↔ (∀ n ∈ names v a r, n ≠ []) ∧ Confined p (leftAlone v a r) := by
  rw [names_requestIn, confined_split hp, ← names_eq_prefixed_append]
end Kroxy.Proofs
