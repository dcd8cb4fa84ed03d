import Kroxy.Proofs.RequestNames

/-!
# `Kroxy.Proofs.Namespaces`: group ids and transactional ids across requests

Two consequences of the spec of the request rewriters, one across tenants and one across
the requests of one tenant.

`sharedGroupID_iff` is about two tenants with incomparable prefixes. Whatever group
requests they send, the only group id their rewritten requests can share is the empty one,
and they share it exactly when both clients sent it: `prefixIn` leaves an empty id as it
is. `emptyGroupID_shared` is such a pair of requests.

`oneUpstreamID_iff` is about one transactional id and the requests of a transaction. All of
them carry the same prefixed id upstream exactly when none of them is a Produce, whose
rewriter does not touch the field. `produce_splits_transaction` is a transaction that the
proxy splits over two ids.
-/

set_option autoImplicit false

namespace Kroxy.Proofs

open Kroxy.Go
open Kroxy.Lib
open Kroxy.Kmsg
open Kroxy.Rewrite

/-! ### Group ids of two tenants -/

/-- The APIs a group member or a group administrator sends with group ids in the body. -/
def groupApis : List Api :=
  [.offsetCommit, .offsetFetch, .offsetDelete, .joinGroup, .syncGroup, .heartbeat,
    .leaveGroup, .describeGroups, .deleteGroups, .addOffsetsToTxn, .txnOffsetCommit]

/-- No group id of a request rewritten under `p` equals one of a request rewritten under
`q`, for all group requests, at all versions and for all ids. -/
def GroupIDsDisjoint (B : ConsumerCodec) (p q : GoString) : Prop :=
  ∀ a ∈ groupApis, ∀ b ∈ groupApis, ∀ (v w : Int16) (r : a.Request) (s : b.Request),
    ∀ g ∈ groupIDs v a (requestIn B p a r), ∀ h ∈ groupIDs w b (requestIn B q b s), g ≠ h

/-- A group id of a rewritten group request is the prefixed form of a client's id. -/
theorem mem_groupIDs_requestIn (B : ConsumerCodec) (p : GoString) (v : Int16) {a : Api}
    (ha : a ∈ groupApis) (r : a.Request) (g : GoString) :
    g ∈ groupIDs v a (requestIn B p a r) ↔ ∃ n ∈ groupIDs v a r, prefixIn p n = g := by
  have hne : a ≠ .findCoordinator := by
    rintro rfl
    exact absurd ha (by decide)
  rw [groupIDs_requestIn B p v a r hne, List.mem_map]

/-- Two tenants' group requests share a group id exactly when both clients sent the empty
id, and then the shared id is empty. -/
theorem sharedGroupID_iff (B : ConsumerCodec) {p q : GoString} (hp : p ≠ []) (hq : q ≠ [])
    (h : Incomparable p q) {a b : Api} (ha : a ∈ groupApis) (hb : b ∈ groupApis)
    (v w : Int16) (r : a.Request) (s : b.Request) (g : GoString) :
    (g ∈ groupIDs v a (requestIn B p a r) ∧ g ∈ groupIDs w b (requestIn B q b s))
      ↔ g = [] ∧ [] ∈ groupIDs v a r ∧ [] ∈ groupIDs w b s := by
  rw [mem_groupIDs_requestIn B p v ha r g, mem_groupIDs_requestIn B q w hb s g]
  constructor
  · rintro ⟨⟨n, hn, hng⟩, ⟨m, hm, hmg⟩⟩
    obtain ⟨hn0, hm0⟩ := prefixIn_eq_prefixIn hp hq h (hng.trans hmg.symm)
    subst hn0
    subst hm0
    exact ⟨by rw [← hng, prefixIn_nil], hn, hm⟩
  · rintro ⟨rfl, hr, hs⟩
    exact ⟨⟨[], hr, prefixIn_nil p⟩, ⟨[], hs, prefixIn_nil q⟩⟩

/-- An OffsetFetch and a Heartbeat of two tenants that both leave the group empty. -/
theorem sharedGroupID_iff_empty :
    [] ∈ groupIDs 5 .offsetFetch (requestIn noBlobs (goString "tA.") .offsetFetch
        ⟨[], none, [], false⟩) ∧
      [] ∈ groupIDs 4 .heartbeat (requestIn noBlobs (goString "tB.") .heartbeat
        ⟨[], 0, []⟩) :=
  (sharedGroupID_iff noBlobs (by decide) (by decide) (by decide) (by decide) (by decide)
    5 4 _ _ []).mpr (by decide)

/-- With the empty group id, commits of the tenants `tA.` and `tB.` go to one upstream
group. -/
theorem emptyGroupID_shared : ¬ GroupIDsDisjoint noBlobs (goString "tA.") (goString "tB.") := by
  intro h
  exact h .offsetCommit (by decide) .offsetCommit (by decide) 7 7 ⟨[], 0, [], []⟩
    ⟨[], 0, [], []⟩ [] (by decide) [] (by decide) rfl

/-! ### The transactional id of one transaction -/

/-- A request as a handler sees it: the API, the version of the header and the decoded
struct. -/
structure Call where
  api : Api
  version : Int16
  req : api.Request

/-- The request the handler sends upstream. -/
def Call.rewritten (B : ConsumerCodec) (p : GoString) (c : Call) : Call :=
  { c with req := requestIn B p c.api c.req }

/-- The transactional ids of the request. -/
def Call.transactionalIDs (c : Call) : List GoString :=
  Rewrite.transactionalIDs c.version c.api c.req

/-- Wherever a request of the sequence carries the client's id `x`, the rewritten request
carries `p ++ x` in the same place. -/
def OneUpstreamID (B : ConsumerCodec) (p x : GoString) (calls : List Call) : Prop :=
  ∀ c ∈ calls, ∀ i : Nat, c.transactionalIDs[i]? = some x →
    (c.rewritten B p).transactionalIDs[i]? = some (p ++ x)

/-- A transaction keeps one upstream id exactly when none of its requests is a Produce that
carries the id. -/
theorem oneUpstreamID_iff (B : ConsumerCodec) {p x : GoString} (hp : p ≠ []) (hx : x ≠ [])
    (calls : List Call) :
    OneUpstreamID B p x calls
      ↔ ∀ c ∈ calls, c.api = .produce → x ∉ c.transactionalIDs := by
  constructor
  · intro h c hc hproduce hmem
    -- The Produce carries `x` at some index, and the rewritten one the same `x` there.
    obtain ⟨i, hi⟩ := List.mem_iff_getElem?.mp hmem
    have hup := h c hc i hi
    obtain ⟨a, v, r⟩ := c
    subst hproduce
    have hsame : (Call.rewritten B p ⟨.produce, v, r⟩).transactionalIDs
        = Call.transactionalIDs ⟨.produce, v, r⟩ := transactionalIDs_produceRequestIn B p v r
    rw [hsame, hi] at hup
    have hself : x = p ++ x := Option.some.inj hup
    exact hp (List.append_left_eq_self.mp hself.symm)
  · intro h c hc i hi
    have hne : c.api ≠ .produce := fun hproduce =>
      h c hc hproduce (List.mem_iff_getElem?.mpr ⟨i, hi⟩)
    have hmap : (c.rewritten B p).transactionalIDs
        = c.transactionalIDs.map (prefixIn p) :=
      transactionalIDs_requestIn B p c.version c.api c.req hne
    rw [hmap, List.getElem?_map, hi, Option.map_some, prefixIn_of_ne_nil hp hx]

/-- A transaction without a Produce: the coordinator lookup, InitProducerID, both forms of
AddPartitionsToTxn and EndTxn all carry `tA.pay`. -/
theorem oneUpstreamID_iff_noProduce :
    OneUpstreamID noBlobs (goString "tA.") (goString "pay")
      [⟨.findCoordinator, 3, ⟨goString "pay", 1, []⟩⟩,
        ⟨.initProducerID, 4, ⟨some (goString "pay"), 0⟩⟩,
        ⟨.addPartitionsToTxn, 3, ⟨goString "pay", 0, 0, [], []⟩⟩,
        ⟨.addPartitionsToTxn, 4, ⟨[], 0, 0, [], [⟨goString "pay", 0, 0, []⟩]⟩⟩,
        ⟨.endTxn, 3, ⟨goString "pay", 0, 0, true⟩⟩] :=
  (oneUpstreamID_iff noBlobs (by decide) (by decide) _).mpr (by decide)

/-- InitProducerID and Produce of one transaction. The first goes upstream as `tA.pay`, the
second as `pay`. -/
theorem produce_splits_transaction :
    ¬ OneUpstreamID noBlobs (goString "tA.") (goString "pay")
      [⟨.initProducerID, 4, ⟨some (goString "pay"), 0⟩⟩,
        ⟨.produce, 9, ⟨some (goString "pay"), -1, 0, []⟩⟩] := by
  intro h
  have hup := h _ (List.mem_cons_of_mem _ List.mem_cons_self) 0 rfl
  exact absurd hup (by decide)

end Kroxy.Proofs
