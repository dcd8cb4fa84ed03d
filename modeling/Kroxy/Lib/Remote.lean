import Mathlib.Data.List.Nodup
import Kroxy.Lib.Interleave

/-!
# `Kroxy.Lib.Remote`: calls on an object behind a network

A caller sends a request to an object and waits for the answer. The request may arrive late or
never, also after the caller has returned without an answer, and the answer may be lost. The
object executes one request at a time, each at most once.

`Remote.system` is a system in the sense of `Kroxy.Lib.Interleave`: the object is the shared
state and the calls are the components.

* `Replays`: the object got from one state to another by executing calls one after the other.
* `Linear`: the calls that were executed are in one order, and every caller that has an answer
  has the answer of its place in it. Both are traced to the events of the run.
  `Remote.linear_run` says that this is so after every run.
* `Remote.order_prefix`: the order only grows at its end. With `Linear` it follows that a call
  which has its answer before another one starts comes before it (`Linear.realTime`).
-/

set_option autoImplicit false

namespace Kroxy.Lib

/-- A call that was started. -/
structure RemoteCall (ι ο ν : Type) where
  /-- How many calls were started before it. -/
  ticket : Nat
  request : ι
  /-- The answer of the object, once it has executed the call. -/
  answer : Option ο := none
  /-- What the caller got, once it has returned. -/
  result : Option ν := none

/-- A call that the object has executed. -/
structure Executed (ι ε ο : Type) where
  ticket : Nat
  request : ι
  /-- The circumstances it was executed in. -/
  env : ε
  answer : ο

/-- The object, with the calls it has executed, oldest first. -/
structure RemoteObject (σ ι ε ο : Type) where
  state : σ
  started : Nat := 0
  order : List (Executed ι ε ο) := []

/-- What happens to a call. -/
inductive RemoteEvent (ε φ : Type) where
  /-- The request arrives, in the circumstances `env`. -/
  | arrive (env : ε)
  /-- The answer arrives. -/
  | reply
  /-- The caller returns without an answer. -/
  | lost (why : φ)

/-- An object and its callers. -/
structure Remote (σ ι ε ο φ ν : Type) where
  exec : σ → ι → ε → ο × σ
  /-- What the caller makes of an answer. -/
  read : ο → ν
  /-- What it returns without one. -/
  lose : ι → φ → ν

namespace Remote

variable {σ ι ε ο φ ν : Type}

/-- A call after an event. -/
def act (R : Remote σ ι ε ο φ ν) (r : RemoteObject σ ι ε ο) (c : RemoteCall ι ο ν) :
    RemoteEvent ε φ → RemoteObject σ ι ε ο × RemoteCall ι ο ν
  | .arrive env =>
      match c.answer with
      | some _ => (r, c)
      | none =>
          let (answer, state) := R.exec r.state c.request env
          ({ r with state, order := r.order ++ [⟨c.ticket, c.request, env, answer⟩] },
            { c with answer := some answer })
  | .reply =>
      match c.answer, c.result with
      | some answer, none => (r, { c with result := some (R.read answer) })
      | _, _ => (r, c)
  | .lost why =>
      match c.result with
      | none => (r, { c with result := some (R.lose c.request why) })
      | some _ => (r, c)

/-- The object and its callers. A common event starts a call. -/
def system (R : Remote σ ι ε ο φ ν) :
    System (RemoteObject σ ι ε ο) (RemoteCall ι ο ν) (RemoteEvent ε φ) ι where
  act r c e := some (R.act r c e)
  change r _ _ := { r with started := r.started + 1 }
  spawn r request := [{ ticket := r.started, request }]

/-- An object that nobody has called. -/
def idle (state : σ) : Joint (RemoteObject σ ι ε ο) (RemoteCall ι ο ν) := ⟨{ state }, []⟩

/-- All that an event can do to a call. -/
inductive Step (R : Remote σ ι ε ο φ ν) (r : RemoteObject σ ι ε ο) (c : RemoteCall ι ο ν) :
    RemoteEvent ε φ → RemoteObject σ ι ε ο → RemoteCall ι ο ν → Prop where
  | idle (e : RemoteEvent ε φ) : Step R r c e r c
  | executed (env : ε) (answer : ο) (state : σ) (fresh : c.answer = none)
      (exec : R.exec r.state c.request env = (answer, state)) :
      Step R r c (.arrive env)
        { r with state, order := r.order ++ [⟨c.ticket, c.request, env, answer⟩] }
        { c with answer := some answer }
  | returned (answer : ο) (answered : c.answer = some answer) :
      Step R r c .reply r { c with result := some (R.read answer) }
  | gaveUp (why : φ) : Step R r c (.lost why) r { c with result := some (R.lose c.request why) }

/-- Every event does one of these. -/
theorem step_of_act {R : Remote σ ι ε ο φ ν} {r r' : RemoteObject σ ι ε ο}
    {c c' : RemoteCall ι ο ν} {e : RemoteEvent ε φ}
    (h : R.system.act r c e = some (r', c')) : Step R r c e r' c' := by
  obtain ⟨ticket, request, answer, result⟩ := c
  have hact : R.act r ⟨ticket, request, answer, result⟩ e = (r', c') := Option.some.inj h
  obtain ⟨rfl, rfl⟩ := Prod.mk.inj hact
  cases e with
  | arrive env =>
      cases answer with
      | some answer => exact .idle _
      | none => exact .executed env _ _ rfl rfl
  | reply =>
      cases answer with
      | none => exact .idle _
      | some answer =>
          cases result with
          | some v => exact .idle _
          | none => exact .returned answer rfl
  | lost why =>
      cases result with
      | some v => exact .idle _
      | none => exact .gaveUp why

end Remote

/-! ### One order -/

section
variable {σ ι ε ο φ ν : Type}

/-- Executing the calls one after the other takes the object from `init` to the last state, with
these answers. -/
inductive Replays (exec : σ → ι → ε → ο × σ) (init : σ) : List (Executed ι ε ο) → σ → Prop where
  | nil : Replays exec init [] init
  | concat (order : List (Executed ι ε ο)) (e : Executed ι ε ο) (state state' : σ)
      (before : Replays exec init order state)
      (last : exec state e.request e.env = (e.answer, state')) :
      Replays exec init (order ++ [e]) state'

/-- Every call in the order has its answer from the state that the calls before it left. -/
theorem Replays.at {exec : σ → ι → ε → ο × σ} {init state : σ} {order : List (Executed ι ε ο)}
    (h : Replays exec init order state) {e : Executed ι ε ο} (he : e ∈ order) :
    ∃ pre post before after, order = pre ++ e :: post ∧ Replays exec init pre before ∧
      exec before e.request e.env = (e.answer, after) := by
  induction h with
  | nil => cases he
  | concat order last before after hbefore hlast ih =>
      rcases List.mem_append.mp he with hold | hnew
      · obtain ⟨pre, post, b, a, rfl, hpre, hexec⟩ := ih hold
        exact ⟨pre, post ++ [last], b, a, by simp, hpre, hexec⟩
      · cases List.mem_singleton.mp hnew
        exact ⟨order, [], before, after, rfl, hbefore, hlast⟩

/-- After the events `es`, the executed calls are in one order, and the callers have the answers
of their places. -/
structure Linear (R : Remote σ ι ε ο φ ν) (init : σ) (es : List (Move (RemoteEvent ε φ) ι))
    (s : Joint (RemoteObject σ ι ε ο) (RemoteCall ι ο ν)) : Prop where
  replays : Replays R.exec init s.shared.order s.shared.state
  /-- No call is executed twice. -/
  once : (s.shared.order.map (·.ticket)).Nodup
  started : s.shared.started = s.parts.length
  tickets : ∀ i (c : RemoteCall ι ο ν), s.parts[i]? = some c → c.ticket = i
  /-- What was executed was called. -/
  called : ∀ e ∈ s.shared.order, ∃ c : RemoteCall ι ο ν, s.parts[e.ticket]? = some c ∧
    c.request = e.request ∧ c.answer = some e.answer
  /-- It arrived in the circumstances it was executed in. -/
  arrived : ∀ e ∈ s.shared.order, .own e.ticket (.arrive e.env) ∈ es
  answers : ∀ i (c : RemoteCall ι ο ν) answer, s.parts[i]? = some c → c.answer = some answer →
    ∃ env, ⟨i, c.request, env, answer⟩ ∈ s.shared.order
  /-- A caller returned with the answer, or it lost the answer. -/
  results : ∀ i (c : RemoteCall ι ο ν) v, s.parts[i]? = some c → c.result = some v →
    (∃ answer, c.answer = some answer ∧ v = R.read answer) ∨
      ∃ why, .own i (.lost why) ∈ es ∧ v = R.lose c.request why

variable {R : Remote σ ι ε ο φ ν} {init : σ} {es es' : List (Move (RemoteEvent ε φ) ι)}
variable {s s' t : Joint (RemoteObject σ ι ε ο) (RemoteCall ι ο ν)}

/-- Nobody has called. -/
theorem Linear.idle (R : Remote σ ι ε ο φ ν) (init : σ) :
    Linear R init [] (Remote.idle init) where
  replays := .nil
  once := List.nodup_nil
  started := rfl
  tickets := by simp [Remote.idle]
  called := by simp [Remote.idle]
  arrived := by simp [Remote.idle]
  answers := by simp [Remote.idle]
  results := by simp [Remote.idle]

/-- More events trace no less. -/
theorem Linear.mono (h : Linear R init es s) (hes : es ⊆ es') : Linear R init es' s where
  replays := h.replays
  once := h.once
  started := h.started
  tickets := h.tickets
  called := h.called
  arrived := fun e he => hes (h.arrived e he)
  answers := h.answers
  results := fun i c v hc hv =>
    (h.results i c v hc hv).imp_right fun ⟨why, hwhy, heq⟩ => ⟨why, hes hwhy, heq⟩

/-- The entries of a list in which one was replaced. -/
theorem getElem?_set_of_some {α : Type} {l : List α} {i : Nat} {a b : α} (h : l[i]? = some a)
    (j : Nat) : (l.set i b)[j]? = if i = j then some b else l[j]? := by
  have hlen : i < l.length := (List.getElem?_eq_some_iff.mp h).1
  simp [List.getElem?_set, hlen]

/-- Each of them is the new one, or it was there. -/
theorem getElem?_set_eq_some {α : Type} {l : List α} {i j : Nat} {a b d : α} (h : l[i]? = some a)
    (hd : (l.set i b)[j]? = some d) : i = j ∧ b = d ∨ l[j]? = some d := by
  rw [getElem?_set_of_some h] at hd
  split at hd
  · rename_i hij
    exact Or.inl ⟨hij, Option.some.inj hd⟩
  · exact Or.inr hd

/-- An entry of a longer list is an old one or the new one. -/
theorem getElem?_concat_eq_some {α : Type} {l : List α} {a b : α} {i : Nat}
    (h : (l ++ [a])[i]? = some b) : l[i]? = some b ∨ i = l.length ∧ b = a := by
  rw [List.getElem?_append] at h
  split at h
  · exact Or.inl h
  · rw [List.getElem?_singleton] at h
    split at h
    · refine Or.inr ⟨?_, (Option.some.inj h).symm⟩
      omega
    · cases h

/-- A caller that returns has its answer, or it lost it. -/
theorem Linear.returns (h : Linear R init es s) {i : Nat} {c : RemoteCall ι ο ν} {v : ν}
    (hc : s.parts[i]? = some c)
    (hv : (∃ answer, c.answer = some answer ∧ v = R.read answer) ∨
      ∃ why, .own i (.lost why) ∈ es ∧ v = R.lose c.request why) :
    Linear R init es ⟨s.shared, s.parts.set i { c with result := some v }⟩ where
  replays := h.replays
  once := h.once
  started := by simpa using h.started
  tickets := by
    intro j d hd
    rcases getElem?_set_eq_some hc hd with ⟨rfl, rfl⟩ | hd
    · exact h.tickets i c hc
    · exact h.tickets j d hd
  called := by
    intro e he
    obtain ⟨d, hd, hrest⟩ := h.called e he
    rw [getElem?_set_of_some hc]
    split
    · rename_i hij
      rw [← hij, hc] at hd
      cases hd
      exact ⟨_, rfl, hrest⟩
    · exact ⟨d, hd, hrest⟩
  arrived := h.arrived
  answers := by
    intro j d answer hd hanswer
    rcases getElem?_set_eq_some hc hd with ⟨rfl, rfl⟩ | hd
    · exact h.answers i c answer hc hanswer
    · exact h.answers j d answer hd hanswer
  results := by
    intro j d w hd hw
    rcases getElem?_set_eq_some hc hd with ⟨rfl, rfl⟩ | hd
    · cases hw
      exact hv
    · exact h.results j d w hd hw

/-- The call that is executed goes to the end of the order. -/
theorem Linear.executes (h : Linear R init es s) {i : Nat} {c : RemoteCall ι ο ν} {env : ε}
    {answer : ο} {state : σ} (hc : s.parts[i]? = some c) (hfresh : c.answer = none)
    (harrived : .own i (.arrive env) ∈ es)
    (hexec : R.exec s.shared.state c.request env = (answer, state)) :
    Linear R init es
      ⟨{ s.shared with state, order := s.shared.order ++ [⟨c.ticket, c.request, env, answer⟩] },
        s.parts.set i { c with answer := some answer }⟩ where
  replays := .concat _ _ _ _ h.replays hexec
  once := by
    -- Whatever is in the order has an answer, and this call had none.
    have hnew : c.ticket ∉ s.shared.order.map (·.ticket) := by
      intro hmem
      obtain ⟨e, he, hticket⟩ := List.mem_map.mp hmem
      obtain ⟨d, hd, -, hanswer⟩ := h.called e he
      rw [hticket, h.tickets i c hc, hc] at hd
      cases hd
      cases hfresh.symm.trans hanswer
    rw [List.map_append, List.map_singleton]
    exact List.Nodup.append h.once (List.nodup_singleton _) (List.disjoint_singleton.mpr hnew)
  started := by simpa using h.started
  tickets := by
    intro j d hd
    rcases getElem?_set_eq_some hc hd with ⟨rfl, rfl⟩ | hd
    · exact h.tickets i c hc
    · exact h.tickets j d hd
  called := by
    intro e he
    rw [getElem?_set_of_some hc]
    rcases List.mem_append.mp he with hold | hnew
    · obtain ⟨d, hd, hrequest, hanswer⟩ := h.called e hold
      have hij : i ≠ e.ticket := by
        intro hij
        rw [← hij, hc] at hd
        cases hd
        cases hfresh.symm.trans hanswer
      rw [if_neg hij]
      exact ⟨d, hd, hrequest, hanswer⟩
    · cases List.mem_singleton.mp hnew
      rw [if_pos (h.tickets i c hc).symm]
      exact ⟨_, rfl, rfl, rfl⟩
  arrived := by
    intro e he
    rcases List.mem_append.mp he with hold | hnew
    · exact h.arrived e hold
    · cases List.mem_singleton.mp hnew
      exact h.tickets i c hc ▸ harrived
  answers := by
    intro j d a hd ha
    rcases getElem?_set_eq_some hc hd with ⟨rfl, rfl⟩ | hd
    · cases ha
      exact ⟨env, List.mem_append_right _ (by simp [h.tickets i c hc])⟩
    · obtain ⟨env', hmem⟩ := h.answers j d a hd ha
      exact ⟨env', List.mem_append_left _ hmem⟩
  results := by
    intro j d w hd hw
    rcases getElem?_set_eq_some hc hd with ⟨rfl, rfl⟩ | hd
    · rcases h.results i c w hc hw with ⟨a, ha, -⟩ | hlost
      · cases hfresh.symm.trans ha
      · exact Or.inr hlost
    · exact h.results j d w hd hw

/-- A call that starts has the next ticket. -/
theorem Linear.starts (h : Linear R init es s) (request : ι) :
    Linear R init es ⟨{ s.shared with started := s.shared.started + 1 },
      s.parts ++ [{ ticket := s.shared.started, request }]⟩ where
  replays := h.replays
  once := h.once
  started := by simp [h.started]
  tickets := by
    intro i c hc
    rcases getElem?_concat_eq_some hc with hold | ⟨hlast, rfl⟩
    · exact h.tickets i c hold
    · exact h.started.trans hlast.symm
  called := by
    intro e he
    obtain ⟨c, hc, hrest⟩ := h.called e he
    exact ⟨c, List.getElem?_append_left (List.getElem?_eq_some_iff.mp hc).1 ▸ hc, hrest⟩
  arrived := h.arrived
  answers := by
    intro i c answer hc hanswer
    rcases getElem?_concat_eq_some hc with hold | ⟨-, rfl⟩
    · exact h.answers i c answer hold hanswer
    · cases hanswer
  results := by
    intro i c v hc hv
    rcases getElem?_concat_eq_some hc with hold | ⟨-, rfl⟩
    · exact h.results i c v hold hv
    · cases hv

/-- One more event. -/
theorem Linear.step {e : Move (RemoteEvent ε φ) ι} (h : Linear R init es s)
    (hstep : R.system.step s e = some s') : Linear R init (es ++ [e]) s' := by
  have hmore : Linear R init (es ++ [e]) s := h.mono (List.subset_append_left _ _)
  have hlast : e ∈ es ++ [e] := List.mem_append_right _ List.mem_cons_self
  obtain ⟨i, x, -, -, rfl⟩ | ⟨i, x, c, r, c', rfl, hc, hact, rfl⟩ | ⟨request, -, rfl⟩ :=
    System.step_cases hstep
  · exact hmore
  · cases Remote.step_of_act hact with
    | idle =>
        obtain ⟨hlt, hget⟩ := List.getElem?_eq_some_iff.mp hc
        rw [← hget, List.set_getElem_self]
        exact hmore
    | executed env answer state fresh exec => exact hmore.executes hc fresh hlast exec
    | returned answer answered => exact hmore.returns hc (Or.inl ⟨answer, answered, rfl⟩)
    | gaveUp why => exact hmore.returns hc (Or.inr ⟨why, hlast, rfl⟩)
  · exact hmore.starts request

/-- Every run is linear. -/
theorem Remote.linear_run (h : R.system.run (Remote.idle init) es = some s) :
    Linear R init es s :=
  System.run_induction (P := fun es s => Linear R init es s) (.idle R init)
    (fun _ _ _ _ hs hstep => hs.step hstep) h

/-- The order grows at its end. -/
theorem Remote.order_prefix {es : List (Move (RemoteEvent ε φ) ι)}
    (h : R.system.run t es = some s) : t.shared.order <+: s.shared.order := by
  refine System.invariant (P := fun u => t.shared.order <+: u.shared.order) ?_ h
    (List.prefix_refl _)
  intro u e u' hu hstep
  obtain ⟨i, x, -, -, rfl⟩ | ⟨i, x, c, r, c', -, hc, hact, rfl⟩ | ⟨request, -, rfl⟩ :=
    System.step_cases hstep
  · exact hu
  · cases Remote.step_of_act hact with
    | executed env answer state fresh exec => exact hu.trans (List.prefix_append _ _)
    | _ => exact hu
  · exact hu

/-- A call that has its answer comes before every call that is started later. -/
theorem Linear.realTime (ht : Linear R init es t) {i j : Nat} {c : RemoteCall ι ο ν} {answer : ο}
    (hc : t.parts[i]? = some c) (hanswer : c.answer = some answer) (hj : t.parts.length ≤ j)
    (hs : t.shared.order <+: s.shared.order) :
    ∃ pre post, s.shared.order = pre ++ post ∧ i ∈ pre.map (·.ticket) ∧
      j ∉ pre.map (·.ticket) := by
  obtain ⟨post, hpost⟩ := hs
  refine ⟨t.shared.order, post, hpost.symm, ?_, ?_⟩
  · obtain ⟨env, hmem⟩ := ht.answers i c answer hc hanswer
    exact List.mem_map.mpr ⟨_, hmem, rfl⟩
  · intro hmem
    obtain ⟨e, he, hticket⟩ := List.mem_map.mp hmem
    obtain ⟨d, hd, -⟩ := ht.called e he
    have hlt : e.ticket < t.parts.length := (List.getElem?_eq_some_iff.mp hd).1
    omega

end

end Kroxy.Lib
