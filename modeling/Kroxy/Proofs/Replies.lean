import Kroxy.Proofs.Exchange

/-!
# `Kroxy.Proofs.Replies`: what a round trip does with any reply

The round-trip functions check that a reply has the four bytes of a correlation id and that
these are the request's. Then `RoundTripRequest` and `directRoundTrip` cut off the response
header, which is five bytes long for a flexible version.

`exchange_reply` says what comes out of the common part in terms of the connection before it.
`roundTrip_reply` and `afterHeader_inBounds_iff` add the last step of the functions, and
`replies_inBounds_iff` puts them together: a reply is sliced out of range exactly when it is a
`BareReply`, the correlation id and nothing else where a tagged-field section is due.
-/

set_option autoImplicit false

namespace Kroxy.Proofs

open Kroxy.Go
open Kroxy.Lib
open Kroxy.Kmsg
open Kroxy.Protocol
open Kroxy.Upstream

/-! ### The reply of the upstream -/

/-- The next `n` calls on the connection succeed. -/
def CallsSucceed (c : Conn) (n : Nat) : Prop := ∀ i < n, c.peer.fault (c.calls + i) = none

/-- The frame that is read after one more request: the first answer not read yet. -/
def incoming (c : Conn) : Option Bytes :=
  (Conn.unread { c with log := c.log ++ [.sent (.raw [])] }).head?.map Prod.snd

/-- Which answers are left to read does not depend on what the last request was. -/
theorem unread_sent (c : Conn) (packet packet' : Packet) :
    Conn.unread { c with log := c.log ++ [.sent packet] } =
      Conn.unread { c with log := c.log ++ [.sent packet'] } := by
  simp only [Conn.unread, sentCount_append, receivedCount_append]
  rfl

/-- The frame with the correlation id `cid` the upstream answers the next request with, when
the `n` calls up to the read succeed. -/
structure Answers (c : Conn) (n : Nat) (cid : Int32) (reply : Bytes) : Prop where
  calls : CallsSucceed c n
  next : incoming c = some reply
  long : 4 ≤ reply.length
  fits : reply.length ≤ Framing.maxFrameSize
  correlationID : responseCorrelationID reply = cid

/-- There is one frame to read, so at most one answer. -/
theorem Answers.eq_of_incoming {c : Conn} {n : Nat} {cid : Int32} {reply frame : Bytes}
    (h : Answers c n cid reply) (hnext : incoming c = some frame) : reply = frame :=
  Option.some.inj (h.next.symm.trans hnext)

/-- An answer after `n + 1` calls is an answer after `n`, behind the first. -/
theorem answers_succ (c : Conn) (n : Nat) (id cid : Int32) (reply : Bytes) :
    Answers c (n + 1) cid reply ↔ c.peer.fault c.calls = none ∧
      Answers { c with corrIDGen := id, calls := c.calls + 1 } n cid reply := by
  have hcall : ∀ i, c.calls + 1 + i = c.calls + (i + 1) := by
    intro i
    omega
  constructor
  · intro h
    refine ⟨h.calls 0 (Nat.succ_pos n), ?_, h.next, h.long, h.fits, h.correlationID⟩
    intro i hi
    show c.peer.fault (c.calls + 1 + i) = none
    rw [hcall]
    exact h.calls (i + 1) (Nat.succ_lt_succ hi)
  · intro h
    obtain ⟨hfirst, hcalls, hnext, hlong, hfits, hid⟩ := h
    refine ⟨?_, hnext, hlong, hfits, hid⟩
    intro i hi
    cases i with
    | zero => exact hfirst
    | succ i =>
        rw [← hcall]
        exact hcalls i (Nat.lt_of_succ_lt_succ hi)

/-- The program returns what `want` makes of the upstream's reply, which has at least `least`
bytes, or it returns an error. It does not panic. -/
def InBounds (x : GoM Conn Bytes) (least : Nat) (want : Bytes → Bytes) (c : Conn) : Prop :=
  Ends x (fun body _ => ∃ reply, incoming c = some reply ∧ least ≤ reply.length ∧
    body = want reply) (fun stop _ => stop ≠ .panic) c

/-- The response header has a tagged-field section, and the reply the upstream gives after
`n` successful calls is the correlation id of the request and nothing else. -/
def BareReply (c : Conn) (n : Nat) (apiKey apiVersion : Int16) : Prop :=
  responseHeaderVersion apiKey apiVersion ≥ 1 ∧
    ∃ reply, Answers c n (c.corrIDGen + 1) reply ∧ reply.length = 4

/-! ### The common part -/

/-- A network call fails when the peer has a fault for it. -/
theorem netCall_reply (c : Conn) :
    Ends netCall (fun _ c' => c' = { c with calls := c.calls + 1 } ∧
        c.peer.fault c.calls = none)
      (fun stop _ => stop ≠ .panic ∧ c.peer.fault c.calls ≠ none) c := by
  unfold Ends netCall
  cases hf : c.peer.fault c.calls with
  | none => exact ⟨rfl, rfl⟩
  | some e => exact ⟨by simp, by simp⟩

/-- The number of calls that write a packet. -/
def writes : Packet → Nat
  | .formatted _ _ _ => 1
  | .raw _ => 2

/-- A packet is written when its calls succeed. -/
theorem write_reply (packet : Packet) (c : Conn) :
    Ends (write packet)
      (fun _ c' =>
        c' = { c with log := c.log ++ [.sent packet], calls := c.calls + writes packet } ∧
          CallsSucceed c (writes packet))
      (fun stop _ => stop ≠ .panic ∧ ¬ CallsSucceed c (writes packet)) c := by
  refine Ends.bind (Ends.modify ?_)
  cases packet with
  | formatted msg cid clientID =>
      refine (netCall_reply _).imp ?_ fun _ _ h =>
        ⟨h.1, fun hall => h.2 (hall 0 Nat.zero_lt_one)⟩
      rintro _ c₁ ⟨rfl, hfirst⟩
      refine ⟨rfl, fun i hi => ?_⟩
      match i, hi with
      | 0, _ => exact hfirst
  | raw frame =>
      refine ends_wrapErr_err (Ends.bind ((netCall_reply _).imp ?_ fun _ _ h =>
        ⟨h.1, fun hall => h.2 (hall 0 Nat.zero_lt_two)⟩))
      rintro _ c₁ ⟨rfl, hfirst⟩
      refine (netCall_reply _).imp ?_ fun _ _ h =>
        ⟨h.1, fun hall => h.2 (hall 1 Nat.one_lt_two)⟩
      rintro _ c₂ ⟨rfl, hsecond⟩
      refine ⟨rfl, fun i hi => ?_⟩
      match i, hi with
      | 0, _ => exact hfirst
      | 1, _ => exact hsecond

/-- A read returns the next frame when it has a size that `ReadFrame` takes. -/
theorem readFrame_reply (c : Conn) :
    Ends readFrame (fun frame _ => c.peer.fault c.calls = none ∧
        c.unread.head?.map Prod.snd = some frame ∧ frame.length ≤ Framing.maxFrameSize)
      (fun stop _ => stop ≠ .panic ∧
        ¬ (c.peer.fault c.calls = none ∧ ∃ frame, c.unread.head?.map Prod.snd = some frame ∧
          frame ≠ [] ∧ frame.length ≤ Framing.maxFrameSize)) c := by
  refine Ends.bind ((netCall_reply c).imp ?_ ?_)
  · rintro _ c₁ ⟨hcalled, hfault⟩
    refine Ends.bind (Ends.get ?_)
    -- The call is counted and nothing else.
    have hunread : c₁.unread = c.unread := by
      rw [hcalled]
      rfl
    rw [hunread]
    cases hnext : c.unread with
    | nil =>
        refine Ends.throw ⟨by simp, ?_⟩
        rintro ⟨-, frame, hsome, -⟩
        cases hsome
    | cons r rest =>
        dsimp only
        split
        · rename_i hempty
          refine Ends.throw ⟨by simp, ?_⟩
          rintro ⟨-, frame, hsome, hne, -⟩
          cases hsome
          exact hne hempty
        · split
          · rename_i hlarge
            refine Ends.throw ⟨by simp, ?_⟩
            rintro ⟨-, frame, hsome, -, hfits⟩
            cases hsome
            omega
          · rename_i hfits
            exact Ends.bind (Ends.modify (Ends.pure ⟨hfault, rfl, not_lt.mp hfits⟩))
  · intro stop c₁ h
    exact ⟨h.1, fun hno => h.2 hno.1⟩

/-- The exchange returns exactly the frames that answer its packet. -/
theorem exchange_reply (fn short : String) (packet : Packet) (cid : Int32) (c : Conn) :
    Ends (exchange fn short packet cid) (fun frame _ => Answers c (writes packet + 1) cid frame)
      (fun stop _ => stop ≠ .panic ∧ ∀ reply, ¬ Answers c (writes packet + 1) cid reply) c := by
  refine Ends.bind (ends_wrapErr_err ((write_reply packet c).imp ?_ ?_))
  · rintro _ c₁ ⟨rfl, hwrite⟩
    refine Ends.bind (ends_wrapErr_err ((readFrame_reply _).imp ?_ ?_))
    · rintro frame _ ⟨hread, hnext, hfits⟩
      have hcalls : CallsSucceed c (writes packet + 1) := by
        intro i hi
        rcases Nat.lt_succ_iff_lt_or_eq.mp hi with hi | rfl
        · exact hwrite i hi
        · exact hread
      have hincoming : incoming c = some frame := by
        rw [incoming, unread_sent c _ packet]
        exact hnext
      -- An answer can only be this frame, so each failing check rules answers out.
      split
      · rename_i hshort
        refine Ends.throw ⟨by simp, ?_⟩
        intro reply h
        have hlong := h.long
        rw [h.eq_of_incoming hincoming] at hlong
        omega
      · rename_i hlong
        split
        · rename_i hcid
          refine Ends.throw ⟨by simp, ?_⟩
          intro reply h
          have hid := h.correlationID
          rw [h.eq_of_incoming hincoming] at hid
          exact hcid hid
        · rename_i hcid
          exact Ends.pure ⟨hcalls, hincoming, by omega, hfits, not_not.mp hcid⟩
    · intro stop _ hstop
      refine ⟨hstop.1, ?_⟩
      intro reply h
      have hnext := h.next
      rw [incoming, unread_sent c _ packet] at hnext
      have hne : reply ≠ [] := by
        rintro rfl
        exact absurd h.long (by decide)
      exact hstop.2 ⟨h.calls _ (Nat.lt_succ_self _), reply, hnext, hne, h.fits⟩
  · intro stop _ hstop
    exact ⟨hstop.1, fun reply h => hstop.2 fun i hi => h.calls i (Nat.lt_succ_of_lt hi)⟩

/-- The deadline is one more call in front of the exchange. -/
theorem timedExchange_reply (fn short : String) (packet : Int32 → Packet) {n : Nat}
    (hn : ∀ cid, writes (packet cid) = n) (c : Conn) :
    Ends (timedExchange fn short packet)
      (fun frame _ => Answers c (n + 2) (c.corrIDGen + 1) frame)
      (fun stop _ => stop ≠ .panic ∧ ∀ reply, ¬ Answers c (n + 2) (c.corrIDGen + 1) reply) c := by
  refine Ends.bind ((nextCorrelationID_spec c).imp ?_ (fun _ _ h => h))
  rintro cid c₁ ⟨rfl, hcid⟩
  refine Ends.bind (ends_wrapErr_err ((netCall_reply _).imp ?_ ?_))
  · rintro _ c₂ ⟨rfl, hdeadline⟩
    refine (exchange_reply fn short _ _ _).imp ?_ ?_
    · intro frame _ h
      rw [hn, hcid] at h
      exact (answers_succ c (n + 1) _ _ frame).mpr ⟨hdeadline, h⟩
    · intro stop _ hstop
      rw [hn, hcid] at hstop
      exact ⟨hstop.1, fun reply h => hstop.2 reply ((answers_succ c (n + 1) _ _ reply).mp h).2⟩
  · intro stop _ hstop
    exact ⟨hstop.1, fun reply h => hstop.2 (h.calls 0 (by omega))⟩

/-- The part of `directRoundTrip` in front of the slice. -/
def directExchange (msg : Message) : GoM Conn Bytes := do
  let cid ← nextCorrelationID
  exchange "directRoundTrip" "short response" (.formatted msg cid (goString "kroxy")) cid

/-- The same for an exchange that sets no deadline. -/
theorem directExchange_reply (msg : Message) (c : Conn) :
    Ends (directExchange msg) (fun frame _ => Answers c 2 (c.corrIDGen + 1) frame)
      (fun stop _ => stop ≠ .panic ∧ ∀ reply, ¬ Answers c 2 (c.corrIDGen + 1) reply) c := by
  refine Ends.bind ((nextCorrelationID_spec c).imp ?_ (fun _ _ h => h))
  rintro cid c₁ ⟨rfl, hcid⟩
  refine (exchange_reply _ _ _ _ _).imp ?_ ?_
  · intro frame _ h
    exact ⟨h.calls, h.next, h.long, h.fits, hcid ▸ h.correlationID⟩
  · intro stop _ hstop
    refine ⟨hstop.1, ?_⟩
    intro reply h
    exact hstop.2 reply ⟨h.calls, h.next, h.long, h.fits, hcid ▸ h.correlationID⟩

/-! ### The three functions -/

/-- The header is sliced off in range unless the frame is four bytes long and the header
five. -/
theorem afterHeader_reply (apiKey apiVersion : Int16) {frame : Bytes} (hlen : 4 ≤ frame.length)
    (c : Conn) :
    afterHeader apiKey apiVersion frame c =
      if responseHeaderVersion apiKey apiVersion ≥ 1 ∧ frame.length = 4 then .error .panic c
      else .ok (frame.drop (headerLength apiKey apiVersion)) c := by
  unfold afterHeader headerLength
  by_cases hv : responseHeaderVersion apiKey apiVersion ≥ 1
  · by_cases hfour : frame.length = 4
    · simp only [hv, hfour, and_self, if_true]
      rfl
    · have hfive : 5 ≤ frame.length := by omega
      simp only [hv, hfour, hfive, and_false, if_true, if_false]
      rfl
  · simp only [hv, hlen, false_and, if_true, if_false]
    rfl

/-- Slicing the header off after an exchange goes out of range on bare replies only. -/
theorem afterHeader_inBounds_iff {x : GoM Conn Bytes} {c : Conn} {n : Nat} {cid : Int32}
    (h : Ends x (fun frame _ => Answers c n cid frame)
      (fun stop _ => stop ≠ .panic ∧ ∀ reply, ¬ Answers c n cid reply) c)
    (apiKey apiVersion : Int16) :
    InBounds (x >>= afterHeader apiKey apiVersion) (headerLength apiKey apiVersion)
        (fun reply => reply.drop (headerLength apiKey apiVersion)) c ↔
      ¬ (responseHeaderVersion apiKey apiVersion ≥ 1 ∧
        ∃ reply, Answers c n cid reply ∧ reply.length = 4) := by
  unfold InBounds Ends
  cases hx : x c with
  | error stop c₁ =>
      -- The exchange itself failed: no panic, and no reply at all.
      have hstop := h.of_error hx
      rw [bind_of_error hx]
      constructor
      · intro _ hbare
        obtain ⟨-, reply, hreply, -⟩ := hbare
        exact hstop.2 reply hreply
      · intro _
        exact hstop.1
  | ok frame c₁ =>
      have hframe : Answers c n cid frame := h.of_ok hx
      rw [bind_of_ok hx, afterHeader_reply apiKey apiVersion hframe.long]
      by_cases hbare : responseHeaderVersion apiKey apiVersion ≥ 1 ∧ frame.length = 4
      · rw [if_pos hbare]
        constructor
        · intro hpanic
          exact absurd rfl hpanic
        · intro hnot
          exact absurd ⟨hbare.1, frame, hframe, hbare.2⟩ hnot
      · rw [if_neg hbare]
        constructor
        · intro _ hreply
          obtain ⟨hv, reply, hreply, hfour⟩ := hreply
          exact hbare ⟨hv, hframe.eq_of_incoming hreply.next ▸ hfour⟩
        · intro _
          refine ⟨frame, hframe.next, ?_, rfl⟩
          have hlong := hframe.long
          unfold headerLength
          split
          · rename_i hv
            have hne : frame.length ≠ 4 := fun hfour => hbare ⟨hv, hfour⟩
            omega
          · exact hlong

/-- `RoundTrip` replaces the first four bytes of any reply that has them. -/
theorem roundTrip_reply (reqFrame : Bytes) (clientCorrelationID : Int32) (c : Conn) :
    InBounds (roundTrip reqFrame clientCorrelationID) 4
      (fun reply => putBE32 clientCorrelationID.toUInt32 ++ reply.drop 4) c := by
  unfold InBounds roundTrip
  split
  · exact Ends.throw (by simp)
  · have hends := timedExchange_reply "RoundTrip" "response frame too short"
      (fun upstreamCID => .raw (setCorrelationID reqFrame upstreamCID)) (fun _ => rfl) c
    refine Ends.bind (hends.imp ?_ (fun _ _ h => h.1))
    intro reply _ h
    exact Ends.pure ⟨reply, h.next, h.long, rfl⟩

/-- `RoundTrip` handles every reply. `RoundTripRequest` and `directRoundTrip` return an error
or the reply without its header, and panic on the bare replies to flexible requests. -/
theorem replies_inBounds_iff (reqFrame : Bytes) (clientCorrelationID : Int32) (msg : Message)
    (clientID : GoString) (apiKey apiVersion : Int16) (c : Conn) :
    InBounds (roundTrip reqFrame clientCorrelationID) 4
        (fun reply => putBE32 clientCorrelationID.toUInt32 ++ reply.drop 4) c ∧
      (InBounds (roundTripRequest msg clientID) (headerLength msg.key msg.version)
          (fun reply => reply.drop (headerLength msg.key msg.version)) c ↔
        ¬ BareReply c 3 msg.key msg.version) ∧
      (InBounds (directRoundTrip msg apiKey apiVersion) (headerLength apiKey apiVersion)
          (fun reply => reply.drop (headerLength apiKey apiVersion)) c ↔
        ¬ BareReply c 2 apiKey apiVersion) := by
  refine ⟨roundTrip_reply reqFrame clientCorrelationID c, ?_, ?_⟩
  · have hends := timedExchange_reply "RoundTripRequest" "short response"
      (fun cid => .formatted msg cid clientID) (fun _ => rfl) c
    exact afterHeader_inBounds_iff hends msg.key msg.version
  · have hbind : directRoundTrip msg apiKey apiVersion =
        directExchange msg >>= afterHeader apiKey apiVersion := (bind_assoc _ _ _).symm
    rw [hbind]
    exact afterHeader_inBounds_iff (directExchange_reply msg c) apiKey apiVersion

/-- A broker that answers every request with the four bytes of its correlation id. -/
def barePeer : Peer where
  reply := fun i => some (putBE32 (UInt32.ofNat (i + 1)))
  fault := fun _ => none

/-- A Metadata v9 request that is answered with four bytes brings the proxy down. -/
theorem bareReply_panics :
    roundTripRequest (.api .metadata 9 { topics := none }) [] { peer := barePeer } =
        .error .panic
          { peer := barePeer, corrIDGen := 1, calls := 3,
            log := [.sent (.formatted (.api .metadata 9 { topics := none }) 1 []),
              .received 0 [0, 0, 0, 1]] } ∧
      BareReply { peer := barePeer } 3 metadataKey 9 := by
  refine ⟨rfl, by decide, [0, 0, 0, 1], ⟨?_, by decide, by decide, by decide, by decide⟩, rfl⟩
  intro i _
  rfl

end Kroxy.Proofs
