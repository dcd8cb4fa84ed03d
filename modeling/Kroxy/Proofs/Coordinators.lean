import Kroxy.Rewrite.Groups

/-!
# `Kroxy.Proofs.Coordinators`: FindCoordinator there and back

A client asks for the coordinators of a list of keys. The request rewriter prefixes the keys,
the broker answers with one entry a key, and the response rewriter strips the prefix again
and puts the proxy's own address into every entry.

The two rewriters do not decide by the same data. The request has a coordinator type, and only
the keys of group and transaction coordinators are prefixed. The response has none, so every
key is stripped. `findCoordinator_symmetric_iff` says when the client still sees its own keys:
the type is one of the two, or no key happens to start with the prefix.
-/

set_option autoImplicit false

namespace Kroxy.Proofs

open Kroxy.Go
open Kroxy.Kmsg
open Kroxy.Rewrite

/-- The request rewriter owns the keys of this coordinator type. -/
def IsTenantCoordinator (type : Int8) : Prop :=
  type = coordinatorTypeGroup ∨ type = coordinatorTypeTransaction

/-- A broker's answer with one entry per key, in the order of the keys. -/
def Echoes (req : FindCoordinatorRequest) (resp : FindCoordinatorResponse) : Prop :=
  resp.coordinators.map (·.key) = req.coordinatorKeys

/-- Every entry of an answer points at node 0 and the given address. -/
def PointsAt (host : GoString) (port : Int32) (resp : FindCoordinatorResponse) : Prop :=
  ∀ c ∈ resp.coordinators, c.nodeID = 0 ∧ c.host = host ∧ c.port = port

/-- Whatever entries the broker echoes the rewritten keys in, the client sees its own keys in
its own order, at the proxy's address. -/
def FindCoordinatorSymmetric (p host : GoString) (port : Int32)
    (req : FindCoordinatorRequest) : Prop :=
  ∀ resp, Echoes (findCoordinatorRequestIn p req) resp →
    Echoes req (findCoordinatorResponseOut p host port resp) ∧
      PointsAt host port (findCoordinatorResponseOut p host port resp)

/-! ### One direction at a time -/

/-- The keys of a tenant's coordinators are prefixed. -/
theorem coordinatorKeys_requestIn (p : GoString) {req : FindCoordinatorRequest}
    (h : IsTenantCoordinator req.coordinatorType) :
    (findCoordinatorRequestIn p req).coordinatorKeys =
      req.coordinatorKeys.map (prefixIn p) := by
  rw [findCoordinatorRequestIn, if_neg]
  rintro ⟨hgroup, htxn⟩
  exact h.elim hgroup htxn

/-- The early return of the request rewriter. -/
theorem coordinatorKeys_requestIn_of_not (p : GoString) {req : FindCoordinatorRequest}
    (h : ¬ IsTenantCoordinator req.coordinatorType) :
    (findCoordinatorRequestIn p req).coordinatorKeys = req.coordinatorKeys := by
  rw [findCoordinatorRequestIn, if_pos (not_or.mp h)]

/-- The response rewriter strips every key, of whatever type. -/
theorem keys_responseOut (p host : GoString) (port : Int32) (resp : FindCoordinatorResponse) :
    (findCoordinatorResponseOut p host port resp).coordinators.map (·.key) =
      (resp.coordinators.map (·.key)).map (stripOut p) := by
  simp [findCoordinatorResponseOut]

/-- Every coordinator of the rewritten response is the proxy. -/
theorem pointsAt_responseOut (p host : GoString) (port : Int32)
    (resp : FindCoordinatorResponse) :
    PointsAt host port (findCoordinatorResponseOut p host port resp) := by
  intro c hc
  obtain ⟨c', -, rfl⟩ := List.mem_map.mp hc
  exact ⟨rfl, rfl, rfl⟩

/-! ### There and back -/

/-- An answer that echoes the given keys, all at one broker. -/
def echo (keys : List GoString) : FindCoordinatorResponse where
  errorCode := 0
  errorMessage := none
  nodeID := 3
  host := goString "broker"
  port := 9092
  coordinators := keys.map fun key => ⟨key, 3, goString "broker", 9092, 0, none⟩

/-- The echoed response names the keys it was asked for. -/
theorem keys_echo (keys : List GoString) : (echo keys).coordinators.map (·.key) = keys := by
  simp [echo, Function.comp_def]

/-- The client's keys come back exactly when stripping undoes what was done to them. -/
theorem symmetric_iff_strip {p host : GoString} {port : Int32} {req : FindCoordinatorRequest} :
    FindCoordinatorSymmetric p host port req ↔
      (findCoordinatorRequestIn p req).coordinatorKeys.map (stripOut p) =
        req.coordinatorKeys := by
  constructor
  · intro h
    have hseen := (h (echo _) (keys_echo _)).1
    rwa [Echoes, keys_responseOut, keys_echo] at hseen
  · intro h resp hresp
    refine ⟨?_, pointsAt_responseOut p host port resp⟩
    rw [Echoes] at hresp
    rw [Echoes, keys_responseOut, hresp]
    exact h

/-- When FindCoordinator rewriting is symmetric: the type is one whose keys are prefixed, or no
key starts with the prefix. -/
theorem findCoordinator_symmetric_iff {p : GoString} (hp : p ≠ []) (host : GoString)
    (port : Int32) (req : FindCoordinatorRequest) :
    FindCoordinatorSymmetric p host port req ↔
      IsTenantCoordinator req.coordinatorType ∨ ∀ key ∈ req.coordinatorKeys, ¬ p <+: key := by
  rw [symmetric_iff_strip]
  by_cases htype : IsTenantCoordinator req.coordinatorType
  · have hback : (req.coordinatorKeys.map (prefixIn p)).map (stripOut p) =
        req.coordinatorKeys := by
      simp [Function.comp_def]
    rw [coordinatorKeys_requestIn p htype]
    exact ⟨fun _ => Or.inl htype, fun _ => hback⟩
  · -- The keys went out as they were, so stripping must change none of them.
    rw [coordinatorKeys_requestIn_of_not p htype]
    have hkeys : req.coordinatorKeys.map (stripOut p) = req.coordinatorKeys ↔
        ∀ key ∈ req.coordinatorKeys, ¬ p <+: key := by
      have hself := List.map_inj_left (l := req.coordinatorKeys) (f := stripOut p) (g := id)
      rw [List.map_id] at hself
      rw [hself]
      exact forall₂_congr fun key _ => stripOut_eq_self_iff hp
    rw [hkeys]
    exact ⟨Or.inr, fun h => h.resolve_left htype⟩

/-- Two groups, one of which begins with the prefix itself. -/
theorem findCoordinator_symmetric_groups :
    FindCoordinatorSymmetric (goString "acme.") (goString "kroxy") 9092
      ⟨[], 0, [goString "acme.jobs", goString "pay"]⟩ :=
  (findCoordinator_symmetric_iff (by decide) _ _ _).mpr (Or.inl (Or.inl rfl))

/-- A share-group coordinator key that begins with the prefix. The broker echoes the key it
was sent, and the client sees another one. -/
theorem findCoordinator_share_group_key :
    Echoes (findCoordinatorRequestIn (goString "acme.") ⟨[], 2, [goString "acme.jobs"]⟩)
        (echo [goString "acme.jobs"]) ∧
      (findCoordinatorResponseOut (goString "acme.") (goString "kroxy") 9092
        (echo [goString "acme.jobs"])).coordinators.map (·.key) = [goString "jobs"] ∧
      ¬ FindCoordinatorSymmetric (goString "acme.") (goString "kroxy") 9092
        ⟨[], 2, [goString "acme.jobs"]⟩ := by
  have hsent : (findCoordinatorRequestIn (goString "acme.")
      ⟨[], 2, [goString "acme.jobs"]⟩).coordinatorKeys = [goString "acme.jobs"] := by decide
  refine ⟨hsent.symm, by decide, ?_⟩
  rw [symmetric_iff_strip]
  decide

end Kroxy.Proofs
