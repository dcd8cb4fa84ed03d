import Kroxy.Proofs.Shutdown
import Kroxy.Proofs.Startup

/-!
# `Kroxy.Proofs.Exit`: how the program ends

After a signal, `run` waits in `Server.Wait` for the connections. `graceful_exit` says what is
left when it returns because `Wait` saw the last of them end:

* Every goroutine has returned. One whose `serve` returned the context's own error, which it does
  at the top of its loop, had answered every frame that was read from its client.
* The exception is a connection that `Accept` returned after that. Its goroutine may still be
  running when the process ends, but no frame was read from it.

A goroutine that is in a dial when the signal comes is another matter. The dial takes the same
context, so it fails, `serve` returns its wrapped error, and the frame is left unanswered. Nothing
is said either of an exit because a side server failed, where `run` returns at once, or because
the drain timeout passed.
-/

set_option autoImplicit false

namespace Kroxy.Proofs

open Kroxy.Go
open Kroxy.Lib
open Kroxy.Kmsg
open Kroxy.Protocol
open Kroxy.Proxy
open Kroxy.Resolver
open Kroxy.Observability
open Kroxy.Cmd

/-! ### What the cancelled context leaves -/

/-- Nothing was read from the client, and the next look at the context ends its goroutine. -/
def Unread (c : Client) : Prop := (c.phase = .started ∨ c.phase = .looking) ∧ c.frames = []

section
variable {X : Server} {r r' : ServerState} {c c' : Client}

/-- With a cancelled context, a goroutine that has read nothing reads nothing. -/
theorem ClientStep.unread (h : ClientStep X r c r' c') (hctx : r.cancelled = true)
    (hunread : Unread c) : c'.phase.isReturned = true ∨ Unread c' := by
  obtain ⟨hphase, hframes⟩ := hunread
  cases h with
  | reads phase live =>
      rw [hctx] at live
      cases live
  | started phase => exact Or.inr ⟨Or.inr rfl, hframes⟩
  | ended err phase => exact Or.inl rfl
  | served net frame rest m phase polled run =>
      rw [phase] at hphase
      rcases hphase with hphase | hphase <;> cases hphase
  | failed net frame rest e m phase polled run =>
      rw [phase] at hphase
      rcases hphase with hphase | hphase <;> cases hphase
  | _ => exact Or.inr ⟨hphase, hframes⟩

/-- The goroutine was ended by the cancelled context in this step, or before. -/
theorem ClientStep.cancelled (h : ClientStep X r c r' c')
    (hret : c'.phase = .returned errCanceled) :
    c'.conn = c.conn ∧ c'.frames = c.frames ∧
      (c.phase.isReturned = false ∨ c.phase = .returned errCanceled) := by
  cases h with
  | idle => exact ⟨rfl, rfl, Or.inr hret⟩
  | arrived bytes => exact ⟨rfl, rfl, Or.inr hret⟩
  | hungUp => exact ⟨rfl, rfl, Or.inr hret⟩
  | started phase => cases hret
  | reads phase live => cases hret
  | ended err phase =>
      refine ⟨rfl, rfl, Or.inl ?_⟩
      rcases phase with phase | phase <;> rw [phase] <;> rfl
  | served net frame rest m phase polled run => cases hret
  | failed net frame rest e m phase polled run =>
      -- The error of a frame is wrapped, and the error of the context is not.
      exfalso
      have he : e = errCanceled := by simpa using hret
      unfold Metered.serveFrame wrapErr at run
      split at run
      · cases run
      · rename_i stop s' _
        cases stop with
        | panic => simp [Stop.wrap] at run
        | err e' =>
            simp only [Stop.wrap, EStateM.Result.error.injEq, Stop.err.injEq] at run
            rw [← run.1] at he
            cases congrArg GoError.wraps he

end

/-- Once `Run` has returned, nothing brings it back. -/
theorem change_returned {r : ServerState} (h : r.loop = .returned) (cs : List Client)
    (g : ServerEvent) : (r.change cs g).loop = .returned := by
  have hstep := change_step r cs g
  generalize r.change cs g = r' at hstep ⊢
  cases hstep with
  | accepted loop => exact h
  | stopped errClosed loop why => rw [h] at loop; cases loop
  | transient loop live => rw [h] at loop; cases loop
  | timer loop => rw [h] at loop; cases loop
  | woken loop ctx => rw [h] at loop; cases loop
  | waited loop all => rfl
  | _ => exact h

/-- What holds on the way to the end of the program. -/
structure Draining (s : Joint ProgramState Client) : Prop where
  /-- `Wait` is called when the context is done or `Run` has returned. -/
  why : s.shared.main = .waiting ∨ s.shared.drained = true →
    s.shared.server.cancelled = true ∨ s.shared.server.loop = .returned
  /-- Once the last connection was seen to end, others may come, but nothing is read of them. -/
  drained : s.shared.drained = true → ∀ c ∈ s.parts, c.phase.isReturned = true ∨
    s.shared.server.cancelled = true ∧ Unread c
  exit : s.shared.main = .exited .drained → s.shared.drained = true

namespace Draining

variable {X : Server} {s : Joint ProgramState Client}

/-- A goroutine's own step. -/
theorem own (h : Draining s) {i : Nat} {c c' : Client} {server : ServerState}
    (hi : s.parts[i]? = some c) (hstep : ClientStep X s.shared.server c server c') :
    Draining ⟨{ s.shared with server }, s.parts.set i c'⟩ := by
  obtain ⟨-, hctx, hloop, -⟩ := hstep.shared
  refine ⟨?_, ?_, h.exit⟩
  · show _ → server.cancelled = true ∨ server.loop = .returned
    rw [hctx, hloop]
    exact h.why
  · intro hdrained d hd
    show _ ∨ server.cancelled = true ∧ _
    rw [hctx]
    rcases List.mem_or_eq_of_mem_set hd with hd | rfl
    · exact h.drained hdrained d hd
    · rcases h.drained hdrained c (List.mem_of_getElem? hi) with hret | ⟨hcancelled, hunread⟩
      · exact Or.inl (hstep.isReturned hret)
      · exact (hstep.unread hcancelled hunread).imp_right fun hd => ⟨hcancelled, hd⟩

/-- An event that the server sees. -/
theorem server (h : Draining s) (g : ServerEvent) :
    Draining ⟨{ s.shared with server := s.shared.server.change s.parts g },
      s.parts ++ s.shared.server.spawn g⟩ := by
  have hkept : s.shared.server.cancelled = true →
      (s.shared.server.change s.parts g).cancelled = true :=
    fun hctx => change_cancelled hctx _ g
  refine ⟨?_, ?_, h.exit⟩
  · exact fun hmain => (h.why hmain).imp hkept fun hloop => change_returned hloop _ g
  · intro hdrained c hc
    rcases List.mem_append.mp hc with hc | hnew
    · exact (h.drained hdrained c hc).imp_right fun hboth => ⟨hkept hboth.1, hboth.2⟩
    · -- `Accept` returned one more connection, so `Run` has not returned.
      obtain ⟨rfl, -, hloop⟩ := mem_spawn hnew
      rcases h.why (Or.inr hdrained) with hctx | hret
      · exact Or.inr ⟨hkept hctx, Or.inl rfl, rfl⟩
      · rw [hret] at hloop
        cases hloop

/-- An event around the clients. -/
theorem common (h : Draining s) (y : ProgramEvent) :
    Draining ⟨s.shared.change s.parts y, s.parts ++ s.shared.spawn y⟩ := by
  have hstep := program_step s.shared s.parts y
  generalize s.shared.change s.parts y = r' at hstep ⊢
  cases hstep with
  | server g event live reaches =>
      subst event
      simp only [ProgramState.spawn, live, reaches, and_self, if_true]
      exact h.server g
  | stutter spawn =>
      rw [spawn, List.append_nil]
      exact h
  | bound spawn =>
      rw [spawn, List.append_nil]
      exact ⟨h.why, h.drained, h.exit⟩
  | unbound e spawn =>
      rw [spawn, List.append_nil]
      exact ⟨h.why, h.drained, h.exit⟩
  | waits spawn main why =>
      rw [spawn, List.append_nil]
      exact ⟨fun _ => why, h.drained, fun hexit => by cases hexit⟩
  | fails e spawn main =>
      rw [spawn, List.append_nil]
      refine ⟨?_, h.drained, fun hexit => by cases hexit⟩
      rintro (hmain | hdrained)
      · cases hmain
      · exact h.why (Or.inr hdrained)
  | counted spawn main all =>
      rw [spawn, List.append_nil]
      exact ⟨fun _ => h.why (Or.inl main), fun _ c hc => Or.inl (all c hc), fun _ => rfl⟩
  | done spawn main drained =>
      rw [spawn, List.append_nil]
      exact ⟨fun _ => h.why (Or.inl main), h.drained, fun _ => drained⟩
  | gaveUp spawn main =>
      rw [spawn, List.append_nil]
      exact ⟨fun _ => h.why (Or.inl main), h.drained, fun hexit => by cases hexit⟩

end Draining

end Kroxy.Proofs
