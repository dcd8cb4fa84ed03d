import Mathlib.Data.Finset.Image
import Kroxy.Rewrite.Topics

/-!
# `Kroxy.Proofs.FetchSession`: incremental fetch sessions behind the proxy

From v7 on a Fetch request updates a session the broker keeps: the partitions under
`Topics` join it, the partitions under `ForgottenTopics` leave it. `applyFetch` is that
update and `session` folds it over a sequence of requests. Folded over the client's
requests it is the session the client believes in, folded over the rewritten requests it is
the session the broker has.

The two should differ by the prefix only (`Tracks`). `fetchRequestIn` prefixes `Topics` and
not `ForgottenTopics`, so the broker forgets under the client's name. `applyFetch_step_iff`
says when one request still keeps the sessions in step, and `tracks_iff` carries this over
whole runs: the sessions stay in step exactly when no request forgets a partition of the
session under one of its two names only (`ForgetsAligned`).
-/

set_option autoImplicit false

namespace Kroxy.Proofs

open Kroxy.Go
open Kroxy.Kmsg
open Kroxy.Rewrite

/-- A fetch session: topic partitions. -/
abbrev Session := Finset (GoString × Int32)

/-- The partitions a request asks for. -/
def requested (req : FetchRequest) : Session :=
  (req.topics.flatMap fun t => t.partitions.map fun part => (t.topic, part.partition)).toFinset

/-- The partitions a request drops. -/
def forgotten (req : FetchRequest) : Session :=
  (req.forgottenTopics.flatMap fun t => t.partitions.map fun part => (t.topic, part)).toFinset

/-- The session after a request. -/
def applyFetch (s : Session) (req : FetchRequest) : Session :=
  (s ∪ requested req) \ forgotten req

/-- The session after a sequence of requests. -/
def session (reqs : List FetchRequest) : Session := reqs.foldl applyFetch ∅

/-- A topic partition under the upstream name of its topic. -/
def upstreamKey (p : GoString) (k : GoString × Int32) : GoString × Int32 := (p ++ k.1, k.2)

/-- The session under upstream names. -/
def upstreamSession (p : GoString) (s : Session) : Session := s.image (upstreamKey p)

/-- The session at the broker is the client's session under upstream names, after every
request of the run. -/
def Tracks (p : GoString) (reqs : List FetchRequest) : Prop :=
  ∀ done, done <+: reqs →
    session (done.map (fetchRequestIn p)) = upstreamSession p (session done)

/-- Every partition of the session, with those the request adds, is forgotten under the
client's name exactly when it is forgotten under the upstream name. -/
def ForgetsAligned (p : GoString) (s : Session) (req : FetchRequest) : Prop :=
  ∀ k ∈ s ∪ requested req, k ∈ forgotten req ↔ upstreamKey p k ∈ forgotten req

/-- No topic of a request has an empty name. -/
def NonEmptyNames (req : FetchRequest) : Prop :=
  (∀ t ∈ req.topics, t.topic ≠ []) ∧ ∀ t ∈ req.forgottenTopics, t.topic ≠ []

instance (p : GoString) (s : Session) (req : FetchRequest) :
    Decidable (ForgetsAligned p s req) :=
  inferInstanceAs (Decidable (∀ k ∈ s ∪ requested req, _ ↔ _))

instance (req : FetchRequest) : Decidable (NonEmptyNames req) :=
  inferInstanceAs (Decidable (_ ∧ _))

/-- Different partitions of a tenant stay different upstream. -/
theorem upstreamKey_injective (p : GoString) : Function.Injective (upstreamKey p) := by
  rintro ⟨n, i⟩ ⟨m, j⟩ h
  simp only [upstreamKey, Prod.mk.injEq, List.append_cancel_left_eq] at h
  rw [h.1, h.2]

/-! ### One request -/

/-- The rewriter leaves the forgotten partitions as they are. -/
theorem forgotten_fetchRequestIn (p : GoString) (req : FetchRequest) :
    forgotten (fetchRequestIn p req) = forgotten req := rfl

/-- The requested partitions go upstream under their upstream names. -/
theorem requested_fetchRequestIn {p : GoString} (hp : p ≠ []) {req : FetchRequest}
    (hne : NonEmptyNames req) :
    requested (fetchRequestIn p req) = upstreamSession p (requested req) := by
  ext k
  simp only [requested, fetchRequestIn, upstreamSession, List.mem_toFinset, List.mem_flatMap,
    List.mem_map, Finset.mem_image]
  constructor
  · rintro ⟨_, ⟨t, ht, rfl⟩, part, hpart, rfl⟩
    refine ⟨(t.topic, part.partition), ⟨t, ht, part, hpart, rfl⟩, ?_⟩
    rw [upstreamKey, prefixIn_of_ne_nil hp (hne.1 t ht)]
  · rintro ⟨_, ⟨t, ht, part, hpart, rfl⟩, rfl⟩
    refine ⟨_, ⟨t, ht, rfl⟩, part, hpart, ?_⟩
    rw [upstreamKey, prefixIn_of_ne_nil hp (hne.1 t ht)]

/-- One request keeps the broker's session in step with the client's session `s` exactly
when it forgets aligned. -/
theorem applyFetch_step_iff {p : GoString} (hp : p ≠ []) {req : FetchRequest}
    (hne : NonEmptyNames req) (s : Session) :
    applyFetch (upstreamSession p s) (fetchRequestIn p req)
        = upstreamSession p (applyFetch s req)
      ↔ ForgetsAligned p s req := by
  have hinj := upstreamKey_injective p
  rw [applyFetch, applyFetch, requested_fetchRequestIn hp hne, forgotten_fetchRequestIn]
  -- Before anything is forgotten both sides hold the upstream names of `s ∪ requested req`.
  have hunion : upstreamSession p s ∪ upstreamSession p (requested req)
      = upstreamSession p (s ∪ requested req) := (Finset.image_union _ _).symm
  rw [hunion]
  constructor
  -- Ask both sides about the upstream name of `k`: one answers by that name, one by `k`.
  · intro h k hk
    have hkey : upstreamKey p k ∈ upstreamSession p (s ∪ requested req) :=
      Finset.mem_image_of_mem _ hk
    have hleft : upstreamKey p k ∈ upstreamSession p (s ∪ requested req) \ forgotten req
        ↔ upstreamKey p k ∉ forgotten req := by
      simp [hkey]
    have hright : upstreamKey p k ∈ upstreamSession p ((s ∪ requested req) \ forgotten req)
        ↔ k ∉ forgotten req := by
      rw [upstreamSession, hinj.mem_finset_image, Finset.mem_sdiff]
      simp [hk]
    rw [h] at hleft
    exact not_iff_not.mp (hright.symm.trans hleft)
  · intro h
    ext k
    simp only [upstreamSession, Finset.mem_sdiff, Finset.mem_image]
    constructor
    · rintro ⟨⟨k', hk', rfl⟩, hnot⟩
      exact ⟨k', ⟨hk', fun hf => hnot ((h k' hk').mp hf)⟩, rfl⟩
    · rintro ⟨k', ⟨hk', hnot⟩, rfl⟩
      exact ⟨⟨k', hk', rfl⟩, fun hf => hnot ((h k' hk').mpr hf)⟩

/-! ### Whole runs -/

/-- One more request of a session. -/
theorem session_append (reqs : List FetchRequest) (req : FetchRequest) :
    session (reqs ++ [req]) = applyFetch (session reqs) req := by
  rw [session, List.foldl_append]
  rfl

/-- The broker's session follows the client's through a run exactly when every request of
the run forgets aligned with the session before it. -/
theorem tracks_iff {p : GoString} (hp : p ≠ []) (reqs : List FetchRequest)
    (hne : ∀ req ∈ reqs, NonEmptyNames req) :
    Tracks p reqs
      ↔ ∀ done req, done ++ [req] <+: reqs → ForgetsAligned p (session done) req := by
  constructor
  · intro h done req hpre
    have hreq : NonEmptyNames req := hne req (hpre.subset (by simp))
    have hbefore := h done ((List.prefix_append done [req]).trans hpre)
    have hafter := h (done ++ [req]) hpre
    rw [List.map_append, List.map_cons, List.map_nil, session_append, session_append,
      hbefore] at hafter
    exact (applyFetch_step_iff hp hreq (session done)).mp hafter
  · intro h done
    -- Induction on the requests done, the last one first.
    induction done using List.reverseRecOn with
    | nil => intro _; rfl
    | append_singleton done req ih =>
        intro hpre
        have hreq : NonEmptyNames req := hne req (hpre.subset (by simp))
        have hbefore := ih ((List.prefix_append done [req]).trans hpre)
        rw [List.map_append, List.map_cons, List.map_nil, session_append, session_append,
          hbefore]
        exact (applyFetch_step_iff hp hreq (session done)).mpr (h done req hpre)

/-- A client that fetches two partitions and then forgets one it never had stays in step. -/
theorem tracks_iff_unrelated :
    Tracks (goString "tA.")
      [⟨0, 0, 1, 0, [⟨goString "orders", 0, [⟨0, 0, 0⟩, ⟨1, 0, 0⟩]⟩], []⟩,
        ⟨0, 0, 1, 1, [], [⟨goString "other", 0, [0]⟩]⟩] := by
  refine (tracks_iff (by decide) _ (by decide)).mpr ?_
  intro done req hpre
  have hlen : done.length < 2 := by
    have := hpre.length_le
    simp only [List.length_append, List.length_cons, List.length_nil] at this
    omega
  match done, hlen with
  | [], _ =>
      rw [List.nil_append, List.cons_prefix_cons] at hpre
      rw [hpre.1]
      decide
  | [first], _ =>
      rw [List.cons_append, List.cons_prefix_cons, List.nil_append,
        List.cons_prefix_cons] at hpre
      rw [hpre.1, hpre.2.1]
      decide

/-- A client that fetches partition 0 of `orders` and then drops it. Its session is empty,
the broker keeps partition 0 of `tA.orders`. -/
theorem forgotten_partition_stays :
    ¬ Tracks (goString "tA.")
      [⟨0, 0, 1, 0, [⟨goString "orders", 0, [⟨0, 0, 0⟩]⟩], []⟩,
        ⟨0, 0, 1, 1, [], [⟨goString "orders", 0, [0]⟩]⟩] := by
  intro h
  exact absurd (h _ (List.prefix_refl _)) (by decide)

end Kroxy.Proofs
