import Kroxy.Proofs.Goroutines

/-!
# `Kroxy.Proofs.Shutdown`: how the server stops

`Run` accepts until the context is cancelled or the listener is closed, and returns when the
last connection is done. What a connection still does after the cancellation is small: it looks
at the context before every read, so it serves the frame it was waiting for and no other
(`Winds`), and two more turns end it, unless the read of a frame keeps it waiting
(`remaining`).

* `frames_after_cancel`: at most one more frame for each connection.
* `run_returns`: once every connection has had two deadlines pass, `Run` can return.
* `acceptLoop_run`: `Run` leaves its loop for one of the two reasons only, waits for every
  connection, and sleeps between 5 ms and a second after a failed `Accept`.
-/

set_option autoImplicit false

namespace Kroxy.Proofs

open Kroxy.Go
open Kroxy.Lib
open Kroxy.Kmsg
open Kroxy.Protocol
open Kroxy.Proxy
open Kroxy.Resolver
open Kroxy.Observability

/-! ### What is still served -/

/-- How many frames a goroutine is about to read. -/
def readingCount (c : Client) : Nat := if c.phase = .reading then 1 else 0

/-- From `c` to `c'` the goroutine has served the frames it was waiting for, and no others. -/
def Winds (c c' : Client) : Prop :=
  ∃ more, c'.frames = c.frames ++ more ∧ more.length + readingCount c' ≤ readingCount c

/-- Nothing was handed on. -/
theorem Winds.refl (c : Client) : Winds c c := ⟨[], by simp, by simp⟩

/-- One wind-down after the other. -/
theorem Winds.trans {a b c : Client} (hab : Winds a b) (hbc : Winds b c) : Winds a c := by
  obtain ⟨more, hmore, hle⟩ := hab
  obtain ⟨more', hmore', hle'⟩ := hbc
  refine ⟨more ++ more', by rw [hmore', hmore, List.append_assoc], ?_⟩
  rw [List.length_append]
  omega

/-- After the cancellation every step winds down. -/
theorem ClientStep.winds {X : Server} {r r' : ServerState} {c c' : Client}
    (h : ClientStep X r c r' c') (hctx : r.cancelled = true) : Winds c c' := by
  cases h with
  | idle => exact .refl c
  | arrived bytes => exact ⟨[], by simp, by simp [readingCount]⟩
  | hungUp => exact ⟨[], by simp, by simp [readingCount]⟩
  | started phase => exact ⟨[], by simp, by simp [readingCount]⟩
  | reads phase live =>
      -- The look at the context comes before the read.
      rw [hctx] at live
      cases live
  | ended err phase => exact ⟨[], by simp, by simp [readingCount]⟩
  | served net frame rest m phase polled run =>
      exact ⟨[frame], rfl, by simp [readingCount, phase]⟩
  | failed net frame rest e m phase polled run =>
      exact ⟨[frame], rfl, by simp [readingCount, phase]⟩

/-- A cancelled context stays cancelled. -/
theorem change_cancelled {r : ServerState} (h : r.cancelled = true) (cs : List Client)
    (g : ServerEvent) : (r.change cs g).cancelled = true := by
  have hstep := change_step r cs g
  generalize r.change cs g = r' at hstep ⊢
  cases hstep with
  | cancel => rfl
  | _ => exact h

/-- A cancelled context stays so. -/
theorem keeps_cancelled (X : Server) :
    System.Keeps (process X) fun r => r.cancelled = true where
  act := by
    intro r c x r' c' hctx hact
    exact (act_step hact).shared.2.1.trans hctx
  change := by
    intro r cs g hctx
    exact change_cancelled hctx cs g

/-- Once the context is cancelled, a connection serves the frame it was waiting for and no
other, and a connection accepted after that serves none. -/
theorem frames_after_cancel {X : Server} {es : List (Move ClientEvent ServerEvent)}
    {s s' : Joint ServerState Client} (h : (process X).run s es = some s')
    (hctx : s.shared.cancelled = true) {i : Nat} {c' : Client} (hc : s'.parts[i]? = some c') :
    (∀ c, s.parts[i]? = some c → ∃ more, c'.frames = c.frames ++ more ∧
      more.length ≤ if c.phase = .reading then 1 else 0) ∧
    (s.parts[i]? = none → c'.frames = []) := by
  obtain ⟨c, hfrom, more, hmore, hle⟩ := System.evolves (R := fun r => r.cancelled = true)
    Winds.refl (fun _ _ _ hab hbc => hab.trans hbc)
    (fun _ _ _ _ _ hctx hact => (act_step hact).winds hctx) h
    (fun _ _ _ hpre => (keeps_cancelled X).run hctx hpre) hc
  have hbound : more.length ≤ readingCount c := by omega
  constructor
  · intro d hd
    rcases hfrom with hc | ⟨hnone, -⟩
    · cases hc.symm.trans hd
      exact ⟨more, hmore, hbound⟩
    · rw [hnone] at hd
      cases hd
  · intro hnone
    rcases hfrom with hc | ⟨-, r, g, hnew⟩
    · rw [hnone] at hc
      cases hc
    · -- A new connection starts before the look at the context.
      obtain ⟨rfl, -⟩ := mem_spawn hnew
      have hnil : more = [] := List.eq_nil_of_length_eq_zero (Nat.le_zero.mp hbound)
      rw [hmore, hnil]
      rfl

/-- A server with a cancelled context and one client, which waits for a frame while two of them
are there. -/
def lateFrames : Joint ServerState Client :=
  let frame := [0, 0, 0, 10] ++ requestFrame apiVersionsKey 0 7 []
  ⟨{ resolver := acmeTable, cancelled := true, loop := .draining },
    [{ phase := .reading, inbox := frame ++ frame }]⟩

/-- The first of the two frames is served, and the second is not. -/
theorem frames_after_cancel_late :
    ∃ s' c', (process relayServer).run lateFrames
        [.own 0 (.turn quietNet), .own 0 (.turn quietNet), .own 0 (.turn quietNet)] = some s' ∧
      s'.parts[0]? = some c' ∧ c'.frames.length = 1 ∧
      ∃ more, c'.frames = [] ++ more ∧ more.length ≤ 1 := by
  have hrun : ∃ s', (process relayServer).run lateFrames
      [.own 0 (.turn quietNet), .own 0 (.turn quietNet), .own 0 (.turn quietNet)] = some s' ∧
      s'.parts[0]?.map (·.frames.length) = some 1 :=
    Option.map_eq_some_iff.mp (by decide +kernel)
  obtain ⟨s', hs', hlen⟩ := hrun
  obtain ⟨c', hc', hone⟩ := Option.map_eq_some_iff.mp hlen
  exact ⟨s', c', hs', hc', hone, (frames_after_cancel hs' rfl hc').1 _ rfl⟩

/-! ### How long it takes -/

/-- How many turns a goroutine has left, once the context is cancelled. -/
def remaining (c : Client) : Nat :=
  match c.phase with
  | .returned _ => 0
  | .looking => 1
  | .started => 2
  | .reading => 2

/-- A goroutine that has returned has no turns left. -/
theorem remaining_eq_zero {c : Client} : remaining c = 0 ↔ c.phase.isReturned = true := by
  unfold remaining Phase.isReturned
  cases c.phase <;> simp

/-- Does the event give goroutine `i` a turn on which a read would not wait? -/
def timesOut (i : Nat) : Move ClientEvent ServerEvent → Bool
  | .own j (.turn net) => j == i && net.read.isSome
  | _ => false

/-- A goroutine does not go back once the context is cancelled. -/
theorem ClientStep.remaining_le {X : Server} {r r' : ServerState} {c c' : Client}
    (h : ClientStep X r c r' c') (hctx : r.cancelled = true) : remaining c' ≤ remaining c := by
  cases h with
  | idle => exact Nat.le_refl _
  | arrived bytes => exact Nat.le_refl _
  | hungUp => exact Nat.le_refl _
  | started phase => simp [remaining, phase]
  | reads phase live =>
      rw [hctx] at live
      cases live
  | ended err phase => exact Nat.zero_le _
  | served net frame rest m phase polled run => simp [remaining, phase]
  | failed net frame rest e m phase polled run => exact Nat.zero_le _

/-- A turn on which the read gives up brings a goroutine forward. -/
theorem remaining_timesOut {X : Server} {r r' : ServerState} {c c' : Client} {net : ClientNet}
    (h : Client.turn X r net c = some (r', c')) (hctx : r.cancelled = true)
    (hread : net.read.isSome = true) : remaining c' ≤ remaining c - 1 := by
  obtain ⟨e, he⟩ := Option.isSome_iff_exists.mp hread
  unfold Client.turn at h
  cases hphase : c.phase with
  | started =>
      simp only [hphase] at h
      cases h
      simp [remaining, hphase]
  | looking =>
      simp only [hphase, hctx, if_true] at h
      cases h
      exact Nat.zero_le _
  | reading =>
      simp only [hphase, he] at h
      cases h
      exact Nat.zero_le _
  | returned err =>
      simp only [hphase] at h
      cases h
      simp [remaining, hphase]

/-- The turns left go down with every deadline that passes. -/
theorem remaining_run {X : Server} {es : List (Move ClientEvent ServerEvent)}
    {s s' : Joint ServerState Client} (h : (process X).run s es = some s')
    (hctx : s.shared.cancelled = true) {i : Nat} {c : Client} (hc : s.parts[i]? = some c) :
    ∃ c', s'.parts[i]? = some c' ∧ remaining c' ≤ remaining c - es.countP (timesOut i) := by
  refine (System.run_induction (P := fun es t => t.shared.cancelled = true ∧
    ∃ c', t.parts[i]? = some c' ∧ remaining c' ≤ remaining c - es.countP (timesOut i))
    ⟨hctx, c, hc, by simp⟩ ?_ h).2
  intro es t e t' hinv hstep
  obtain ⟨hctx, c', hc', hle⟩ := hinv
  refine ⟨(keeps_cancelled X).step hctx hstep, ?_⟩
  rw [List.countP_append, List.countP_singleton]
  obtain ⟨j, x, rfl, hj, rfl⟩ | ⟨j, x, d, r, d', rfl, hj, hact, rfl⟩ | ⟨g, rfl, rfl⟩ :=
    System.step_cases hstep
  · -- There is no goroutine `j`, so it is not `i`.
    have hne : j ≠ i := by
      rintro rfl
      rw [hc'] at hj
      cases hj
    refine ⟨c', hc', ?_⟩
    have hfalse : timesOut i (.own j x) = false := by cases x <;> simp [timesOut, hne]
    simpa [hfalse] using hle
  · by_cases hij : j = i
    · subst hij
      cases hc'.symm.trans hj
      refine ⟨d', ?_, ?_⟩
      · have hlen : j < t.parts.length := (List.getElem?_eq_some_iff.mp hj).1
        simp [hlen]
      · by_cases hout : timesOut j (.own j x) = true
        · cases x with
          | arrive bytes => cases hout
          | hangUp => cases hout
          | turn net =>
              have hread : net.read.isSome = true := by simpa [timesOut] using hout
              have hdown := remaining_timesOut hact hctx hread
              rw [if_pos hout]
              omega
        · have hdown := (act_step hact).remaining_le hctx
          rw [if_neg hout]
          omega
    · refine ⟨c', by rw [← hc']; exact List.getElem?_set_ne hij, ?_⟩
      have hfalse : timesOut i (.own j x) = false := by cases x <;> simp [timesOut, hij]
      simpa [hfalse] using hle
  · have hlen : i < t.parts.length := (List.getElem?_eq_some_iff.mp hc').1
    refine ⟨c', ?_, by simpa [timesOut] using hle⟩
    show (t.parts ++ _)[i]? = _
    rw [List.getElem?_append_left hlen, hc']

/-- Once `Run` waits for the connections, it goes on waiting or returns, and no connection is
added. -/
theorem keeps_closing (X : Server) :
    System.Keeps (process X) fun r => r.loop = .draining ∨ r.loop = .returned where
  act := by
    intro r c x r' c' hloop hact
    rw [(act_step hact).shared.2.2.1]
    exact hloop
  change := by
    intro r cs g hloop
    show (r.change cs g).loop = .draining ∨ (r.change cs g).loop = .returned
    have hstep := change_step r cs g
    generalize r.change cs g = r' at hstep ⊢
    cases hstep with
    | stopped errClosed loop why => exact Or.inl rfl
    | woken loop ctx => exact Or.inl rfl
    | waited loop all => exact Or.inr rfl
    | transient loop live => simp [loop] at hloop
    | timer loop => simp [loop] at hloop
    | _ => exact hloop

/-- No connection is accepted any more. -/
theorem length_closing {X : Server} {es : List (Move ClientEvent ServerEvent)}
    {s s' : Joint ServerState Client} (h : (process X).run s es = some s')
    (hloop : s.shared.loop = .draining ∨ s.shared.loop = .returned) :
    s'.parts.length = s.parts.length := by
  refine (System.invariant (P := fun t => (t.shared.loop = .draining ∨ t.shared.loop = .returned) ∧
    t.parts.length = s.parts.length) ?_ h ⟨hloop, rfl⟩).2
  intro t e t' hinv hstep
  obtain ⟨hloop, hlen⟩ := hinv
  refine ⟨(keeps_closing X).step hloop hstep, ?_⟩
  obtain ⟨j, x, -, -, rfl⟩ | ⟨j, x, d, r, d', -, -, -, rfl⟩ | ⟨g, -, rfl⟩ :=
    System.step_cases hstep
  · exact hlen
  · simpa using hlen
  · have hnone : t.shared.spawn g = [] := by
      apply List.eq_nil_iff_forall_not_mem.mpr
      intro c hc
      obtain ⟨-, -, hacc⟩ := mem_spawn hc
      simp [hacc] at hloop
    show (t.parts ++ t.shared.spawn g).length = _
    rw [hnone, List.append_nil, hlen]

/-- After the cancellation `Run` waits for no connection for longer than two deadlines of its
reads: when two have passed for each, `wg.Wait()` returns, and `Run` with it. -/
theorem run_returns {X : Server} {es : List (Move ClientEvent ServerEvent)}
    {s s' : Joint ServerState Client} (h : (process X).run s es = some s')
    (hctx : s.shared.cancelled = true) (hloop : s.shared.loop = .draining)
    (hturns : ∀ i, i < s.parts.length → 2 ≤ es.countP (timesOut i)) :
    ∃ t, (process X).step s' (.common .waited) = some t ∧ t.shared.loop = .returned := by
  have hall : ∀ c' ∈ s'.parts, c'.phase.isReturned = true := by
    intro c' hc'
    obtain ⟨i, hi⟩ := List.getElem?_of_mem hc'
    have hlt : i < s.parts.length := by
      rw [← length_closing h (Or.inl hloop)]
      exact (List.getElem?_eq_some_iff.mp hi).1
    obtain ⟨d, hd, hle⟩ := remaining_run h hctx (List.getElem?_eq_getElem hlt)
    cases hi.symm.trans hd
    have htwo : remaining s.parts[i] ≤ 2 := by
      unfold remaining
      split <;> omega
    have hturn := hturns i hlt
    exact remaining_eq_zero.mp (by omega)
  refine ⟨_, rfl, ?_⟩
  show (s'.shared.change s'.parts .waited).loop = .returned
  rcases (keeps_closing X).run (Or.inl hloop) h with hdrain | hret
  · simp only [ServerState.change, hdrain, true_and]
    rw [if_pos (List.all_eq_true.mpr hall)]
  · simp only [ServerState.change, hret]
    simp [hret]

/-- The network of a client whose read deadline has passed. -/
def timedOutNet : ClientNet :=
  { quietNet with read := some (errorsNew (goString "i/o timeout")) }

/-- The deadlines of the one client pass, although it has frames to read. -/
theorem run_returns_late :
    ∃ s' t, (process relayServer).run lateFrames
        [.own 0 (.turn timedOutNet), .own 0 (.turn timedOutNet)] = some s' ∧
      (process relayServer).step s' (.common .waited) = some t ∧ t.shared.loop = .returned := by
  have hrun : ((process relayServer).run lateFrames
      [.own 0 (.turn timedOutNet), .own 0 (.turn timedOutNet)]).isSome = true := by
    decide +kernel
  obtain ⟨s', hs'⟩ := Option.isSome_iff_exists.mp hrun
  have hturns : ∀ i, i < lateFrames.parts.length → 2 ≤ List.countP (timesOut i)
      [.own 0 (.turn timedOutNet), .own 0 (.turn timedOutNet)] := by
    intro i hi
    have hzero : i = 0 := Nat.lt_one_iff.mp hi
    subst hzero
    decide
  obtain ⟨t, ht, hloop⟩ := run_returns hs' rfl rfl hturns
  exact ⟨s', t, hs', ht, hloop⟩

/-! ### The accept loop -/

/-- The delay after `k + 1` failures in a row doubles up to the limit. -/
theorem iterate_nextBackoff (k : Nat) :
    nextBackoff^[k + 1] 0 = min (5000000 * 2 ^ k) maxAcceptBackoff := by
  induction k with
  | zero => rfl
  | succ k ih =>
      rw [Function.iterate_succ_apply', ih, nextBackoff, maxAcceptBackoff]
      have hpos : 0 < 2 ^ k := Nat.two_pow_pos k
      rw [if_neg (by omega), Nat.pow_succ]
      omega

/-- What holds of `Run` in every state. -/
structure AcceptLoopSound (es : List (Move ClientEvent ServerEvent))
    (s : Joint ServerState Client) : Prop where
  /-- `Run` leaves its loop only when the context is cancelled or the listener is closed. -/
  left : s.shared.loop = .draining ∨ s.shared.loop = .returned →
    s.shared.cancelled = true ∨ .common (.acceptFailed true) ∈ es
  /-- It returns after every connection. -/
  drained : s.shared.loop = .returned → ∀ c ∈ s.parts, c.phase.isReturned = true
  /-- The delay is that of some number of failures in a row. -/
  backoff : ∃ k, s.shared.backoff = nextBackoff^[k] 0
  /-- It sleeps after a failure only. -/
  sleeps : s.shared.loop = .sleeping → s.shared.backoff ≠ 0

/-- A goroutine that has returned stays so. -/
theorem ClientStep.isReturned {X : Server} {r r' : ServerState} {c c' : Client}
    (h : ClientStep X r c r' c') (hret : c.phase.isReturned = true) :
    c'.phase.isReturned = true := by
  cases h with
  | idle => exact hret
  | arrived bytes => exact hret
  | hungUp => exact hret
  | ended err phase => rfl
  | failed net frame rest e m phase polled run => rfl
  | started phase => simp [phase, Phase.isReturned] at hret
  | reads phase live => simp [phase, Phase.isReturned] at hret
  | served net frame rest m phase polled run => simp [phase, Phase.isReturned] at hret

/-- There is always some backoff. -/
theorem nextBackoff_ne_zero (b : Nat) : nextBackoff b ≠ 0 := by
  unfold nextBackoff maxAcceptBackoff
  split <;> omega

section
variable {X : Server} {es : List (Move ClientEvent ServerEvent)}
variable {t : Joint ServerState Client}

/-- No client can move `Run`. -/
theorem AcceptLoopSound.own (h : AcceptLoopSound es t) {i : Nat} {x : ClientEvent}
    {c c' : Client} {r : ServerState} (hi : t.parts[i]? = some c)
    (hstep : ClientStep X t.shared c r c') :
    AcceptLoopSound (es ++ [.own i x]) ⟨r, t.parts.set i c'⟩ := by
  obtain ⟨-, hctx, hloop, hbackoff⟩ := hstep.shared
  refine ⟨?_, ?_, ?_, ?_⟩
  · show r.loop = _ ∨ r.loop = _ → _
    rw [hloop, hctx]
    exact fun hleft => (h.left hleft).imp_right (List.mem_append_left _)
  · show r.loop = _ → _
    rw [hloop]
    intro hret d hd
    rcases List.mem_or_eq_of_mem_set hd with hd | rfl
    · exact h.drained hret d hd
    · exact hstep.isReturned (h.drained hret c (List.mem_of_getElem? hi))
  · show ∃ k, r.backoff = _
    rw [hbackoff]
    exact h.backoff
  · show r.loop = _ → r.backoff ≠ 0
    rw [hloop, hbackoff]
    exact h.sleeps

/-- A change of the server keeps the accept loop sound. -/
theorem AcceptLoopSound.common (h : AcceptLoopSound es t) (g : ServerEvent) :
    AcceptLoopSound (es ++ [.common g])
      ⟨t.shared.change t.parts g, t.parts ++ t.shared.spawn g⟩ := by
  have hstep := change_step t.shared t.parts g
  have hleft : t.shared.loop = .draining ∨ t.shared.loop = .returned →
      t.shared.cancelled = true ∨ .common (.acceptFailed true) ∈ es ++ [.common g] :=
    fun hl => (h.left hl).imp_right (List.mem_append_left _)
  generalize t.shared.change t.parts g = r' at hstep ⊢
  obtain ⟨k, hk⟩ := h.backoff
  cases hstep with
  | stutter _ spawn table ctx =>
      rw [spawn, List.append_nil]
      exact ⟨hleft, h.drained, h.backoff, h.sleeps⟩
  | accepted loop =>
      refine ⟨?_, ?_, ⟨0, rfl⟩, ?_⟩
      · simp [loop]
      · simp [loop]
      · simp [loop]
  | stopped errClosed loop why =>
      refine ⟨?_, nofun, h.backoff, nofun⟩
      intro _
      rcases why with hcancel | hclosed
      · exact Or.inl hcancel
      · rw [hclosed]
        exact Or.inr (List.mem_append_right _ List.mem_cons_self)
  | transient loop live =>
      refine ⟨by simp, nofun, ⟨k + 1, ?_⟩, fun _ => nextBackoff_ne_zero _⟩
      rw [Function.iterate_succ_apply', hk]
  | timer loop => exact ⟨by simp, nofun, h.backoff, nofun⟩
  | woken loop ctx => exact ⟨fun _ => Or.inl ctx, nofun, h.backoff, nofun⟩
  | waited loop all =>
      refine ⟨fun _ => hleft (Or.inl loop), ?_, h.backoff, nofun⟩
      intro _ c hc
      rcases List.mem_append.mp hc with hc | hc
      · exact all c hc
      · cases hc
  | cancel =>
      refine ⟨fun _ => Or.inl rfl, ?_, h.backoff, h.sleeps⟩
      simpa [ServerState.spawn] using h.drained
  | admin op =>
      refine ⟨hleft, ?_, h.backoff, h.sleeps⟩
      simpa [ServerState.spawn] using h.drained

end

/-- `Run` leaves its loop for one of its two reasons only, whatever the clients do, and returns
when all of them are done. After a failed `Accept` it sleeps for 5 ms doubled with every further
failure, and for a second at most. -/
theorem acceptLoop_run {X : Server} {table : MemoryResolver} {metrics : Option Metrics}
    {es : List (Move ClientEvent ServerEvent)} {s : Joint ServerState Client}
    (h : (process X).run (listening table metrics) es = some s) :
    (s.shared.loop = .draining ∨ s.shared.loop = .returned →
      s.shared.cancelled = true ∨ .common (.acceptFailed true) ∈ es) ∧
    (s.shared.loop = .returned → ∀ c ∈ s.parts, c.phase.isReturned = true) ∧
    (s.shared.loop = .sleeping → ∃ k, s.shared.backoff =
      min (5000000 * 2 ^ k) maxAcceptBackoff) := by
  have hsound : AcceptLoopSound es s := by
    refine System.run_induction (P := AcceptLoopSound) ?_ ?_ h
    · exact ⟨by simp [listening], nofun, ⟨0, rfl⟩, nofun⟩
    · intro es t e t' ht hstep
      obtain ⟨i, x, rfl, hi, rfl⟩ | ⟨i, x, c, r, c', rfl, hi, hact, rfl⟩ | ⟨g, rfl, rfl⟩ :=
        System.step_cases hstep
      · refine ⟨fun hl => ?_, ht.drained, ht.backoff, ht.sleeps⟩
        exact (ht.left hl).imp_right (List.mem_append_left _)
      · exact ht.own hi (act_step hact)
      · exact ht.common g
  refine ⟨hsound.left, hsound.drained, ?_⟩
  intro hsleep
  obtain ⟨k, hk⟩ := hsound.backoff
  cases k with
  | zero => exact absurd hk (hsound.sleeps hsleep)
  | succ k => exact ⟨k, hk.trans (iterate_nextBackoff k)⟩

/-- Three failures in a row. -/
def failingAccepts : List (Move ClientEvent ServerEvent) :=
  [.common (.acceptFailed false), .common .timer, .common (.acceptFailed false),
    .common .timer, .common (.acceptFailed false)]

/-- Three failing accepts double the backoff twice. -/
theorem acceptLoop_run_failing :
    ∃ s, (process relayServer).run (listening acmeTable none) failingAccepts = some s ∧
      s.shared.backoff = 20000000 ∧
      ∃ k, s.shared.backoff = min (5000000 * 2 ^ k) maxAcceptBackoff := by
  have hrun : (process relayServer).run (listening acmeTable none) failingAccepts =
      some ⟨{ resolver := acmeTable, loop := .sleeping, backoff := 20000000 }, []⟩ := rfl
  exact ⟨_, hrun, rfl, (acceptLoop_run hrun).2.2 rfl⟩

end Kroxy.Proofs
