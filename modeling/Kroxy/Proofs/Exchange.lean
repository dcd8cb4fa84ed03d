import Kroxy.Lib.Program
import Kroxy.Upstream.Conn

/-!
# `Kroxy.Proofs.Exchange`: what the upstream functions do to a connection

One statement for each function of `Kroxy.Upstream.Conn`, as the pre- and postconditions of
`Kroxy.Lib.Program`. They speak of the history of a connection only.

* `InStep`: every request of the history was answered by its own reply, in turn. A
  connection starts in step and a complete round keeps it in step (`Round.inStep`), so no
  reply to an earlier request is left to be read.
* `exchange_spec`: a request is sent in any case, and a frame that comes back completes the
  round.
* `roundTrip_spec`, `roundTripRequest_spec`, `directRoundTrip_spec`: the same for the three
  round-trip functions, with what they return of the frame.
-/

set_option autoImplicit false

namespace Kroxy.Proofs

open Kroxy.Go
open Kroxy.Lib
open Kroxy.Kmsg
open Kroxy.Protocol
open Kroxy.Auth
open Kroxy.Upstream

/-! ### Rounds -/

/-- Every request of the history was answered by its own reply before the next was sent.
The number counts the rounds. -/
inductive InStep (peer : Peer) : Nat → List Event → Prop where
  | start : InStep peer 0 []
  | round {n : Nat} {log : List Event} {frame : Bytes} (packet : Packet) :
      InStep peer n log → peer.reply n = some frame →
        InStep peer (n + 1) (log ++ [.sent packet, .received n frame])

/-- Packets are counted log by log. -/
theorem sentCount_append (log es : List Event) :
    sentCount (log ++ es) = sentCount log + sentCount es := List.countP_append

/-- So are frames. -/
theorem receivedCount_append (log es : List Event) :
    receivedCount (log ++ es) = receivedCount log + receivedCount es := List.countP_append

/-- In step, as many frames were read as requests were sent, and all those requests had a
reply. -/
theorem InStep.counts {peer : Peer} {n : Nat} {log : List Event} (h : InStep peer n log) :
    sentCount log = n ∧ receivedCount log = n ∧ ∀ i < n, (peer.reply i).isSome := by
  induction h with
  | start => exact ⟨rfl, rfl, fun i hi => absurd hi (Nat.not_lt_zero i)⟩
  | round packet _ hreply ih =>
      obtain ⟨hsent, hread, hall⟩ := ih
      refine ⟨?_, ?_, ?_⟩
      · rw [sentCount_append, hsent]
        rfl
      · rw [receivedCount_append, hread]
        rfl
      · intro i hi
        rcases Nat.lt_succ_iff_lt_or_eq.mp hi with hlt | heq
        · exact hall i hlt
        · rw [heq, hreply]
          rfl

/-- The answers to the first `n` requests, when all of them were answered. -/
theorem length_filterMap_range {f : Nat → Option (Nat × Bytes)} {n : Nat}
    (h : ∀ i < n, (f i).isSome) : ((List.range n).filterMap f).length = n := by
  induction n with
  | zero => rfl
  | succ n ih =>
      obtain ⟨x, hx⟩ := Option.isSome_iff_exists.mp (h n (Nat.lt_succ_self n))
      have hlen := ih fun i hi => h i (Nat.lt_succ_of_lt hi)
      rw [List.range_succ, List.filterMap_append, List.length_append, hlen]
      simp [hx]

/-- In step, the only frame a read can get after one more request is the reply to it. -/
theorem InStep.unread_sent {c : Conn} {n : Nat} (h : InStep c.peer n c.log)
    (packet : Packet) :
    Conn.unread { c with log := c.log ++ [.sent packet] } =
      ((c.peer.reply n).map fun frame => (n, frame)).toList := by
  obtain ⟨hsent, hread, hall⟩ := h.counts
  have hall' : ∀ i < n, ((c.peer.reply i).map fun frame => (i, frame)).isSome := by
    intro i hi
    rw [Option.isSome_map]
    exact hall i hi
  have hlen := length_filterMap_range hall'
  have hsent' : sentCount (c.log ++ [Event.sent packet]) = n + 1 := by
    rw [sentCount_append, hsent]
    rfl
  have hread' : receivedCount (c.log ++ [Event.sent packet]) = n := by
    rw [receivedCount_append, hread]
    rfl
  -- Of `n + 1` requests the first `n` answers are read, which leaves the last one.
  unfold Conn.unread
  rw [hsent', hread', List.range_succ, List.filterMap_append, List.drop_append, hlen,
    Nat.sub_self, List.drop_zero, List.drop_of_length_le (Nat.le_of_eq hlen),
    List.nil_append]
  cases hreply : c.peer.reply n <;> simp [hreply]

/-- A complete round: `packet` was sent and `frame` was the next unread frame. -/
structure Round (packet : Packet) (frame : Bytes) (c c' : Conn) : Prop where
  peer : c'.peer = c.peer
  log : ∃ i, c'.log = c.log ++ [.sent packet, .received i frame] ∧
    (Conn.unread { c with log := c.log ++ [.sent packet] }).head? = some (i, frame)

/-- In step, the frame of a round is the reply to its request, and the connection stays in
step. -/
theorem Round.inStep {packet : Packet} {frame : Bytes} {c c' : Conn} {n : Nat}
    (h : Round packet frame c c') (hstep : InStep c.peer n c.log) :
    c.peer.reply n = some frame ∧
      c'.log = c.log ++ [.sent packet, .received n frame] ∧
      InStep c'.peer (n + 1) c'.log := by
  obtain ⟨i, hlog, hnext⟩ := h.log
  rw [hstep.unread_sent packet] at hnext
  -- There was a frame to read, so the peer has a reply to this request.
  have hreply : c.peer.reply n = some frame ∧ i = n := by
    cases hr : c.peer.reply n with
    | none =>
        rw [hr] at hnext
        cases hnext
    | some b =>
        rw [hr] at hnext
        cases hnext
        exact ⟨rfl, rfl⟩
  obtain ⟨hreply, rfl⟩ := hreply
  refine ⟨hreply, hlog, ?_⟩
  rw [h.peer, hlog]
  exact hstep.round packet hreply

/-- The connection was called, and nothing went over it. -/
structure Quiet (c c' : Conn) : Prop where
  peer : c'.peer = c.peer
  log : c'.log = c.log

/-- `packet` was sent, and at most one frame read after it. -/
structure Sends (packet : Packet) (c c' : Conn) : Prop where
  peer : c'.peer = c.peer
  log : ∃ tail, c'.log = c.log ++ .sent packet :: tail ∧ ∀ e ∈ tail, e.isSent = false

/-- A round sends its packet. -/
theorem Round.sends {packet : Packet} {frame : Bytes} {c c' : Conn}
    (h : Round packet frame c c') : Sends packet c c' := by
  obtain ⟨i, hlog, _⟩ := h.log
  refine ⟨h.peer, [.received i frame], hlog, ?_⟩
  intro e he
  rw [List.mem_singleton.mp he]
  rfl

/-- Two calls without traffic. -/
theorem Quiet.trans {c c₁ c₂ : Conn} (h : Quiet c c₁) (h' : Quiet c₁ c₂) : Quiet c c₂ :=
  ⟨h'.peer.trans h.peer, h'.log.trans h.log⟩

/-- What came before a round without traffic does not matter. -/
theorem Quiet.round {packet : Packet} {frame : Bytes} {c c₁ c₂ : Conn} (h : Quiet c c₁)
    (h' : Round packet frame c₁ c₂) : Round packet frame c c₂ := by
  obtain ⟨i, hlog, hnext⟩ := h'.log
  refine ⟨h'.peer.trans h.peer, i, ?_, ?_⟩
  · rw [hlog, h.log]
  · rw [← hnext]
    simp only [Conn.unread, h.log, h.peer]

/-- What happened quietly before a packet does not matter. -/
theorem Quiet.sends {packet : Packet} {c c₁ c₂ : Conn} (h : Quiet c c₁)
    (h' : Sends packet c₁ c₂) : Sends packet c c₂ := by
  obtain ⟨tail, hlog, htail⟩ := h'.log
  exact ⟨h'.peer.trans h.peer, tail, by rw [hlog, h.log], htail⟩

/-! ### The network calls -/

/-- A call succeeds exactly when the network has no fault for it. -/
theorem netCall_spec (c : Conn) :
    Ends netCall (fun _ c' => Quiet c c' ∧ c'.corrIDGen = c.corrIDGen ∧
        c.peer.fault c.calls = none)
      (fun _ c' => Quiet c c' ∧ c.peer.fault c.calls ≠ none) c := by
  unfold Ends netCall
  cases hf : c.peer.fault c.calls with
  | none => exact ⟨⟨rfl, rfl⟩, rfl, rfl⟩
  | some e => exact ⟨⟨rfl, rfl⟩, by simp⟩

/-- A packet counts as sent, whatever the calls return. -/
theorem write_spec (packet : Packet) (c : Conn) :
    Ends (write packet)
      (fun _ c' => Quiet { c with log := c.log ++ [.sent packet] } c')
      (fun _ c' => Quiet { c with log := c.log ++ [.sent packet] } c') c := by
  refine Ends.bind (Ends.modify ?_)
  cases packet with
  | formatted msg cid clientID =>
      exact (netCall_spec _).imp (fun _ _ h => h.1) (fun _ _ h => h.1)
  | raw frame =>
      refine ends_wrapErr (Ends.bind ((netCall_spec _).imp ?_ fun _ _ h => h.1))
      intro _ c₁ h₁
      exact (netCall_spec c₁).imp (fun _ _ h₂ => h₁.1.trans h₂.1) fun _ _ h₂ => h₁.1.trans h₂.1

/-- A read takes the next unread frame. -/
theorem readFrame_spec (c : Conn) :
    Ends readFrame
      (fun frame c' => c'.peer = c.peer ∧
        ∃ i, c'.log = c.log ++ [.received i frame] ∧ c.unread.head? = some (i, frame))
      (fun _ c' => Quiet c c') c := by
  refine Ends.bind ((netCall_spec c).imp ?_ (fun _ _ h => h.1))
  intro _ c₁ hc₁
  refine Ends.bind (Ends.get ?_)
  have hunread : c₁.unread = c.unread := by
    simp only [Conn.unread, hc₁.1.log, hc₁.1.peer]
  rw [hunread]
  cases hnext : c.unread with
  | nil => exact ends_fail hc₁.1
  | cons r rest =>
      obtain ⟨i, frame⟩ := r
      dsimp only
      split
      · exact ends_fail hc₁.1
      · split
        · exact ends_fail hc₁.1
        · refine Ends.bind (Ends.modify (Ends.pure ⟨hc₁.1.peer, i, ?_, rfl⟩))
          show c₁.log ++ _ = _
          rw [hc₁.1.log]

/-- `exchange` sends its packet in any case. When it returns, the frame is the next unread
one and has the correlation id asked for. -/
theorem exchange_spec (fn short : String) (packet : Packet) (cid : Int32) (c : Conn) :
    Ends (exchange fn short packet cid)
      (fun frame c' => Round packet frame c c' ∧ 4 ≤ frame.length)
      (fun _ c' => Sends packet c c') c := by
  refine Ends.bind (ends_wrapErr ((write_spec packet c).imp ?_ ?_))
  · intro _ c₁ h₁
    refine Ends.bind (ends_wrapErr ((readFrame_spec c₁).imp ?_ ?_))
    · rintro frame c₂ ⟨hpeer, i, hlog, hnext⟩
      have hround : Round packet frame c c₂ := by
        refine ⟨hpeer.trans h₁.peer, i, ?_, ?_⟩
        · rw [hlog, h₁.log, List.append_assoc]
          rfl
        · rw [← hnext]
          simp only [Conn.unread, h₁.log, h₁.peer]
      -- The two checks on the frame come after the read, so the round stands either way.
      split
      · exact ends_fail hround.sends
      · rename_i hlen
        split
        · exact ends_fail hround.sends
        · exact Ends.pure ⟨hround, by omega⟩
    -- The read failed, with the packet already sent.
    · intro _ c₂ h₂
      refine ⟨h₂.peer.trans h₁.peer, [], ?_, by simp⟩
      rw [h₂.log, h₁.log]
  · intro _ c₁ h₁
    exact ⟨h₁.peer, [], h₁.log, by simp⟩

/-! ### The round trips -/

/-- The next call on the connection succeeds. -/
def Ready (c : Conn) : Prop := c.peer.fault c.calls = none

instance (c : Conn) : Decidable (Ready c) := inferInstanceAs (Decidable (_ = none))

/-- A round trip that failed: nothing was sent because setting the deadline failed, or the
packet was sent. -/
def Tried (packet : Packet) (c c' : Conn) : Prop :=
  (¬ Ready c ∧ Quiet c c') ∨ (Ready c ∧ Sends packet c c')

/-- Each correlation id is one more than the last. -/
theorem nextCorrelationID_spec {E : Stop → Conn → Prop} (c : Conn) :
    Ends nextCorrelationID
      (fun cid c' => c' = { c with corrIDGen := cid } ∧ cid = c.corrIDGen + 1) E c :=
  ⟨rfl, rfl⟩

/-- A successful exchange is a round of a connection that was ready. -/
theorem timedExchange_spec (fn short : String) (packet : Int32 → Packet) (c : Conn) :
    Ends (timedExchange fn short packet)
      (fun frame c' => Ready c ∧ Round (packet (c.corrIDGen + 1)) frame c c' ∧
        4 ≤ frame.length)
      (fun _ c' => Tried (packet (c.corrIDGen + 1)) c c') c := by
  refine Ends.bind ((nextCorrelationID_spec c).imp ?_ (fun _ _ h => h))
  rintro cid c₁ ⟨hc₁, hcid⟩
  -- Drawing a correlation id makes no call, so the deadline meets the same fault.
  have hquiet : Quiet c c₁ := by
    rw [hc₁]
    exact ⟨rfl, rfl⟩
  have hready : c₁.peer.fault c₁.calls = c.peer.fault c.calls := by rw [hc₁]
  refine Ends.bind (ends_wrapErr ((netCall_spec c₁).imp ?_ ?_))
  · rintro _ c₂ ⟨h₂, -, hnone⟩
    have hquiet₂ : Quiet c c₂ := ⟨h₂.peer.trans hquiet.peer, h₂.log.trans hquiet.log⟩
    rw [hready] at hnone
    rw [hcid]
    refine (exchange_spec fn short _ _ c₂).imp ?_ ?_
    · rintro frame c₃ ⟨hround, hlen⟩
      exact ⟨hnone, hquiet₂.round hround, hlen⟩
    · intro _ c₃ hsends
      exact Or.inr ⟨hnone, hquiet₂.sends hsends⟩
  · rintro _ c₂ ⟨h₂, hfault⟩
    rw [hready] at hfault
    exact Or.inl ⟨hfault, h₂.peer.trans hquiet.peer, h₂.log.trans hquiet.log⟩

/-- The body starts behind the four bytes of the correlation id. -/
theorem drop_headerLength (apiKey apiVersion : Int16) (frame : Bytes) :
    frame.drop (headerLength apiKey apiVersion) =
      (frame.drop 4).drop (headerLength apiKey apiVersion - 4) := by
  rw [List.drop_drop]
  congr 1
  unfold headerLength
  split <;> rfl

/-- `afterHeader` takes the response header off. -/
theorem afterHeader_spec {E : Conn → Prop} {apiKey apiVersion : Int16} {frame : Bytes}
    {c : Conn} (herr : E c) :
    Ends (afterHeader apiKey apiVersion frame)
      (fun body c' => c' = c ∧ body = frame.drop (headerLength apiKey apiVersion))
      (fun _ => E) c := by
  unfold afterHeader
  split
  · exact Ends.pure ⟨rfl, rfl⟩
  · exact Ends.throw herr

/-- `roundTrip` returns the reply under the client's correlation id. -/
theorem roundTrip_spec {frame : Bytes} (hlen : 8 ≤ frame.length) (cid : Int32) (c : Conn) :
    Ends (roundTrip frame cid)
      (fun resp c' => ∃ reply, Ready c ∧
        Round (.raw (setCorrelationID frame (c.corrIDGen + 1))) reply c c' ∧
        resp = putBE32 cid.toUInt32 ++ reply.drop 4)
      (fun _ c' => Tried (.raw (setCorrelationID frame (c.corrIDGen + 1))) c c') c := by
  unfold roundTrip
  rw [if_neg (by omega)]
  refine Ends.bind ((timedExchange_spec _ _ _ c).imp ?_ (fun _ _ h => h))
  rintro reply c' ⟨hready, hround, -⟩
  exact Ends.pure ⟨reply, hready, hround, rfl⟩

/-- `roundTripRequest` returns the body of the reply. -/
theorem roundTripRequest_spec (msg : Message) (clientID : GoString) (c : Conn) :
    Ends (roundTripRequest msg clientID)
      (fun body c' => ∃ reply, Ready c ∧
        Round (.formatted msg (c.corrIDGen + 1) clientID) reply c c' ∧
        body = reply.drop (headerLength msg.key msg.version))
      (fun _ c' => Tried (.formatted msg (c.corrIDGen + 1) clientID) c c') c := by
  refine Ends.bind ((timedExchange_spec _ _ _ c).imp ?_ (fun _ _ h => h))
  rintro reply c₁ ⟨hready, hround, -⟩
  refine (afterHeader_spec (Or.inr ⟨hready, hround.sends⟩)).imp ?_ (fun _ _ h => h)
  rintro body c' ⟨rfl, hbody⟩
  exact ⟨reply, hready, hround, hbody⟩

/-- `directRoundTrip` sends its message in any case. -/
theorem directRoundTrip_spec (msg : Message) (apiKey apiVersion : Int16) (c : Conn) :
    Ends (directRoundTrip msg apiKey apiVersion)
      (fun body c' => ∃ reply,
        Round (.formatted msg (c.corrIDGen + 1) (goString "kroxy")) reply c c' ∧
        body = reply.drop (headerLength apiKey apiVersion))
      (fun _ c' => Sends (.formatted msg (c.corrIDGen + 1) (goString "kroxy")) c c') c := by
  refine Ends.bind ((nextCorrelationID_spec c).imp ?_ (fun _ _ h => h))
  rintro cid c₁ ⟨rfl, rfl⟩
  have hquiet : Quiet c { c with corrIDGen := c.corrIDGen + 1 } := ⟨rfl, rfl⟩
  refine Ends.bind ((exchange_spec _ _ _ _ _).imp ?_ (fun _ _ h => hquiet.sends h))
  rintro reply c₂ ⟨hround, -⟩
  refine (afterHeader_spec (hquiet.sends hround.sends)).imp ?_ (fun _ _ h => h)
  rintro body c' ⟨rfl, hbody⟩
  exact ⟨reply, hquiet.round hround, hbody⟩

end Kroxy.Proofs
