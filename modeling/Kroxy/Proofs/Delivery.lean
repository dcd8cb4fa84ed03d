import Kroxy.Proofs.FrameStream
import Kroxy.Proofs.Goroutines

/-!
# `Kroxy.Proofs.Delivery`: from the bytes of a client to the frames that are served

TCP delivers the bytes of a client in order and in pieces of any size. What has arrived is, at
every moment, the frames that were served followed by the bytes that were not read yet
(`Streamed`). A stream of frames can be cut into frames in one way only
(`frameBytes_append_inj`), so the frames that are served are the ones the client wrote.
-/

set_option autoImplicit false

namespace Kroxy.Proofs

open Kroxy.Go
open Kroxy.Lib
open Kroxy.Kmsg
open Kroxy.Protocol
open Kroxy.Protocol.Framing
open Kroxy.Proxy
open Kroxy.Resolver
open Kroxy.Observability

/-! ### Frames can be read back -/

/-- `ReadFrame` on a stream that starts with a frame. -/
theorem readFrame_frameBytes {body : Bytes} (h : FitsFrame body) (rest : Bytes) :
    readFrame (frameBytes body ++ rest) = .ok body rest := by
  have hread := readFrame_take h rest (Nat.le_refl (frameBytes body ++ rest).length)
  have hlen : (frameBytes body ++ rest).length = 4 + body.length + rest.length := by simp
  rw [List.take_length, hlen, if_pos (by omega), Nat.add_sub_cancel_left,
    List.take_length] at hread
  exact hread

/-- What `ReadFrame` returns was there, behind its length. -/
theorem readFrame_eq_ok {r body rest : Bytes} (h : readFrame r = .ok body rest) :
    r = frameBytes body ++ rest ∧ FitsFrame body := by
  unfold readFrame at h
  by_cases hlen : 4 ≤ r.length
  · rw [bind_of_ok (by rw [readHeader_eq, if_pos hlen])] at h
    have hput : putBE32 (getBE32 (r.take 4)) = r.take 4 := by
      rw [putBE32_getBE32 (by simp [hlen]), List.take_take, Nat.min_self]
    generalize getBE32 (r.take 4) = size at h hput
    split at h
    · cases h
    · rename_i hzero
      split at h
      · cases h
      · rename_i hmax
        rw [wrapErr_readFull] at h
        split at h
        · rename_i hwhole
          cases h
          have hbody : ((r.drop 4).take size.toNat).length = size.toNat :=
            List.length_take_of_le hwhole
          have hpos : size.toNat ≠ 0 := fun hz => hzero (UInt32.toNat_inj.mp hz)
          refine ⟨?_, ?_, ?_⟩
          · rw [frameBytes, hbody, UInt32.ofNat_toNat, hput, List.append_assoc,
              List.take_append_drop, List.take_append_drop]
          · rw [hbody]
            omega
          · rw [hbody]
            omega
        · cases h
  · rw [bind_of_error (by rw [readHeader_eq, if_neg hlen])] at h
    cases h

/-- Two streams that start with a frame and agree start with the same frame. -/
theorem frameBytes_append_inj {f b x y : Bytes} (hf : FitsFrame f) (hb : FitsFrame b)
    (h : frameBytes f ++ x = frameBytes b ++ y) : f = b ∧ x = y := by
  have hread := readFrame_frameBytes hf x
  rw [h, readFrame_frameBytes hb y] at hread
  cases hread
  exact ⟨rfl, rfl⟩

/-- The bytes of two lists of frames. -/
theorem written_append (bodies rest : List Bytes) :
    written (bodies ++ rest) = written bodies ++ written rest := by
  rw [written_eq, written_eq, written_eq, List.map_append, List.flatten_append]

/-- Frames at the front of a stream of frames are its first frames. -/
theorem written_prefix {frames bodies : List Bytes} {x : Bytes}
    (hframes : ∀ f ∈ frames, FitsFrame f) (hbodies : ∀ b ∈ bodies, FitsFrame b)
    (h : written frames ++ x = written bodies) :
    ∃ rest, bodies = frames ++ rest ∧ x = written rest := by
  induction frames generalizing bodies with
  | nil => exact ⟨bodies, rfl, h⟩
  | cons f frames ih =>
      cases bodies with
      | nil =>
          -- Nothing was written, but a frame is at least its length.
          have hlen := congrArg List.length h
          simp [written_eq] at hlen
      | cons b bodies =>
          rw [written_cons, written_cons, List.append_assoc] at h
          obtain ⟨rfl, hrest⟩ := frameBytes_append_inj (hframes f List.mem_cons_self)
            (hbodies b List.mem_cons_self) h
          obtain ⟨rest, rfl, hx⟩ := ih (fun f hf => hframes f (List.mem_cons_of_mem _ hf))
            (fun b hb => hbodies b (List.mem_cons_of_mem _ hb)) hrest
          exact ⟨rest, rfl, hx⟩

/-! ### The stream of a client -/

/-- What has arrived is the frames that were served and the bytes not read yet. -/
structure Streamed (c : Client) : Prop where
  stream : c.arrived = written c.frames ++ c.inbox
  fits : ∀ f ∈ c.frames, FitsFrame f

/-- A frame that `poll` has is the one `ReadFrame` reads. -/
theorem readFrame_of_poll {c : Client} {frame rest : Bytes}
    (h : c.poll = some (.ok (frame, rest))) : readFrame c.inbox = .ok frame rest := by
  unfold Client.poll at h
  split at h
  · rename_i frame' rest' hread
    cases h
    exact hread
  · split at h <;> cases h
  · cases h

/-- A frame moves from the unread bytes to the served frames. -/
theorem Streamed.frame {c c' : Client} {frame rest : Bytes} (h : Streamed c)
    (hpoll : c.poll = some (.ok (frame, rest))) (hinbox : c'.inbox = rest)
    (harrived : c'.arrived = c.arrived) (hframes : c'.frames = c.frames ++ [frame]) :
    Streamed c' := by
  obtain ⟨hread, hfits⟩ := readFrame_eq_ok (readFrame_of_poll hpoll)
  constructor
  · rw [harrived, h.stream, hframes, hinbox, hread, written_append, List.append_assoc,
      written_cons, written_eq [], List.append_assoc]
    rfl
  · intro f hf
    rw [hframes] at hf
    rcases List.mem_append.mp hf with hold | hnew
    · exact h.fits f hold
    · rw [List.mem_singleton.mp hnew]
      exact hfits

/-- A step of the goroutine keeps the stream. -/
theorem Streamed.step {X : Server} {r r' : ServerState} {c c' : Client} (h : Streamed c)
    (hstep : ClientStep X r c r' c') : Streamed c' := by
  cases hstep with
  | arrived bytes =>
      refine ⟨?_, h.fits⟩
      show c.arrived ++ bytes = _
      rw [h.stream, List.append_assoc]
  | served net frame rest m phase polled run => exact h.frame polled rfl rfl rfl
  | failed net frame rest e m phase polled run => exact h.frame polled rfl rfl rfl
  | _ => exact ⟨h.stream, h.fits⟩

/-- While a whole frame is unread, `ReadFrame` does not wait. -/
theorem poll_written {c : Client} {body : Bytes} {rest : List Bytes}
    (h : c.inbox = written (body :: rest)) (hfits : FitsFrame body) : c.poll ≠ none := by
  unfold Client.poll
  rw [h, written_cons, readFrame_frameBytes hfits]
  exact nofun

/-- In every run, what a client's goroutine has read is whole frames of what came in. -/
theorem streamed_run {X : Server} {table : MemoryResolver} {metrics : Option Metrics}
    {es : List (Move ClientEvent ServerEvent)} {s : Joint ServerState Client}
    (h : (process X).run (listening table metrics) es = some s) {c : Client}
    (hc : c ∈ s.parts) : Streamed c := by
  refine System.parts_invariant (Q := fun _ c => Streamed c) System.Keeps.true ?_ ?_ ?_ ?_ h
    trivial (by simp [System.Each, listening]) c hc
  · intro r c x r' c' _ hc hact
    exact hc.step (act_step hact)
  · exact fun _ _ _ _ _ _ _ hd => hd
  · exact fun _ _ _ _ hc => hc
  · intro r cs g _ c hc
    obtain ⟨rfl, -⟩ := mem_spawn hc
    exact ⟨rfl, by simp⟩

/-- However the bytes of a client are cut into pieces and mixed with those of other clients, the
frames that are served are the first ones the client wrote, whole and in order. An open
connection has answered each of them, and when it waits for more and everything has arrived,
they are all of them. -/
theorem frames_delivered {X : Server} {table : MemoryResolver} {metrics : Option Metrics}
    {es : List (Move ClientEvent ServerEvent)} {s : Joint ServerState Client}
    (h : (process X).run (listening table metrics) es = some s) {c : Client}
    (hc : c ∈ s.parts) {bodies : List Bytes} (hbodies : ∀ b ∈ bodies, FitsFrame b)
    (harrived : c.arrived <+: written bodies) :
    c.frames <+: bodies ∧
      (c.phase.isReturned = false → c.conn.written.map responseCorrelationID =
        c.frames.map requestCorrelationID) ∧
      (c.poll = none → c.arrived = written bodies → c.frames = bodies) := by
  have hstreamed := streamed_run h hc
  refine ⟨?_, ?_, ?_⟩
  · obtain ⟨later, hlater⟩ := harrived
    rw [hstreamed.stream, List.append_assoc] at hlater
    obtain ⟨rest, hrest, -⟩ := written_prefix hstreamed.fits hbodies hlater
    exact ⟨rest, hrest.symm⟩
  · intro hopen
    obtain ⟨inputs, hlived, -⟩ := client_lives h c hc
    have hids := (open_run X table inputs (hlived.stopped hopen)).2
    rw [hlived.conn, hlived.frames] at hids
    exact hids
  · intro hwaits hall
    rw [hstreamed.stream] at hall
    obtain ⟨rest, hrest, hinbox⟩ := written_prefix hstreamed.fits hbodies hall
    cases rest with
    | nil => rw [hrest, List.append_nil]
    | cons body rest =>
        -- A frame that was not served is whole in the unread bytes.
        exact absurd hwaits (poll_written hinbox (hbodies body (by simp [hrest])))

/-- The request that arrived in two pieces. -/
theorem frames_delivered_two :
    ∃ s c, (process relayServer).run (listening acmeTable (some {})) twoClients = some s ∧
      s.parts[0]? = some c ∧ c.frames = [requestFrame apiVersionsKey 0 7 []] := by
  have hrun : ∃ s, (process relayServer).run (listening acmeTable (some {})) twoClients =
      some s ∧ (s.parts[0]?.map fun c => (c.arrived, c.poll.isNone)) =
        some (written [requestFrame apiVersionsKey 0 7 []], true) :=
    Option.map_eq_some_iff.mp (by decide +kernel)
  obtain ⟨s, hs, hfacts⟩ := hrun
  obtain ⟨c, hc, hc'⟩ := Option.map_eq_some_iff.mp hfacts
  obtain ⟨harrived, hwaits⟩ := Prod.mk.inj hc'
  have hfits : ∀ b ∈ [requestFrame apiVersionsKey 0 7 []], FitsFrame b := by
    intro b hb
    rw [List.mem_singleton.mp hb]
    exact ⟨by decide, by decide⟩
  have hdelivered := frames_delivered hs (List.mem_of_getElem? hc) hfits
    (harrived ▸ List.prefix_refl _)
  exact ⟨s, c, hs, hc, hdelivered.2.2 (Option.isNone_iff_eq_none.mp hwaits) harrived⟩

end Kroxy.Proofs
