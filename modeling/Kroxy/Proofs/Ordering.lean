import Kroxy.Proofs.Turn

/-!
# `Kroxy.Proofs.Ordering`: one response for each request, in order

The client's requests are answered one after the other. Two facts carry the proof. Every
turn that does not end the connection writes exactly one frame, under the correlation id of
the frame it answers. And while the connection is open its upstream connection is in step
(`UpstreamInStep`), so a read after a request can only return the reply to that request. A
failed round trip may leave the upstream connection out of step, but it ends the client
connection with it.

Nothing here depends on the upstream correlation ids being distinct, so the counter may wrap
around.
-/

set_option autoImplicit false

namespace Kroxy.Proofs

open Kroxy.Go
open Kroxy.Lib
open Kroxy.Kmsg
open Kroxy.Protocol
open Kroxy.Resolver
open Kroxy.Proxy
open Kroxy.Auth
open Kroxy.Upstream (Packet Event sentCount dialForSCRAM)

/-! ### Correlation ids -/

/-- The correlation id in the header of a request frame. -/
def requestCorrelationID (frame : Bytes) : Int32 := (getBE32 (frame.drop 4)).toInt32

/-- The frames the client sends. -/
def clientFrames (inputs : List Input) : List Bytes :=
  inputs.filterMap fun
    | .frame bytes _ => some bytes
    | .admin _ => none

/-- The frames of a run with one more input. -/
theorem clientFrames_concat (inputs : List Input) (next : Input) :
    clientFrames (inputs ++ [next]) = clientFrames inputs ++ clientFrames [next] :=
  List.filterMap_append

/-- An answer carries the correlation id of the request. -/
theorem responseCorrelationID_answerTo {X : Server} {p : GoString} {hdr : RequestHeader}
    {rest resp : Bytes} (h : answerTo X p hdr rest = some resp) :
    responseCorrelationID resp = hdr.correlationID := by
  unfold answerTo at h
  split at h
  · cases h
    rw [responseCorrelationID, getBE32_putBE32_append, Int32.toInt32_toUInt32]
  · split at h
    · cases h
      exact responseCorrelationID_encodeResponse _ _ _ _
    · cases h

/-! ### Where a response comes from -/

/-- `reply` is the peer's answer to the request that was sent over `up` and made it `up'`:
the request has number `n` on the connection, and so has the answer. -/
structure RepliesTo (packet : Packet) (reply : Bytes) (up up' : Upstream.Conn) (n : Nat) :
    Prop where
  number : sentCount up.log = n
  log : up'.log = up.log ++ [.sent packet, .received n reply]
  peer : up'.peer = up.peer
  answer : up.peer.reply n = some reply

/-- The upstream connection a SaslAuthenticate payload is relayed over: the one the relay
has, or, for a first message, the one dialled for the tenant it names. -/
inductive RelaysOver (X : Server) (E : Env) (c : Conn) (payload : Bytes) (up : Upstream.Conn) :
    Prop where
  | kept (state : c.state = .relaySaslInFlight) (upstream : c.upstream = some up)
  | dialled (username : GoString) (tenant : Tenant) (state : c.state = .awaitAuth)
      (parsed : parseSCRAMClientFirstUsername payload = .ok username)
      (known : E.resolver.get username = .ok tenant)
      (dialled : dialForSCRAM X.codec (E.dial tenant.upstream) c.clientMechanism =
        .connected up)

/-- Where the response to a request comes from, over a turn from `c` to `c'`. The upstream
connection `up` is the one the turn found in `c`, or the one it dialled. -/
inductive Origin (X : Server) (E : Env) (hdr : RequestHeader) (frame body : Bytes) (c : Conn)
    (resp : Bytes) (c' : Conn) : Prop where
  /-- The proxy answered a handshake request itself and left the upstream connection
  alone. -/
  | own (answer : Bytes) (key : needsAuth hdr.apiKey = false)
      (own : OwnBody X E hdr body c answer)
      (response : resp = encodeResponse answer hdr.correlationID hdr.apiKey hdr.apiVersion)
      (upstream : c'.upstream = c.upstream)
  /-- The answer to a relayed SaslAuthenticate payload. -/
  | relayed (up up' : Upstream.Conn) (payload reply : Bytes) (sasl : SASLAuthenticateResponse)
      (n : Nat) (key : hdr.apiKey = saslAuthenticateKey)
      (request : X.codec.readSASLAuthenticateRequest hdr.apiVersion body = .ok payload)
      (before : RelaysOver X E c payload up) (after : c'.upstream = some up')
      (replies : RepliesTo (saslPacket up payload) reply up up' n)
      (decoded : X.codec.readSASLAuthenticateResponse 1 (reply.drop 4) = .ok sasl)
      (response : resp = saslAnswer X hdr sasl)
  /-- The answer to a forwarded request. -/
  | forwarded (up up' : Upstream.Conn) (packet : Packet) (reply : Bytes) (n : Nat)
      (key : needsAuth hdr.apiKey = true) (state : c.state = .authenticated)
      (request : forwardedPacket X c.tenant.topicPrefix hdr frame body (up.corrIDGen + 1) =
        some packet)
      (before : HasUpstream X E c up) (after : c'.upstream = some up')
      (replies : RepliesTo packet reply up up' n)
      (response : answerTo X c.tenant.topicPrefix hdr (reply.drop 4) = some resp)

section
variable {X : Server} {E : Env} {hdr : RequestHeader} {frame body : Bytes} {c c' : Conn}
  {resp : Bytes}

/-- A response carries the correlation id of the request, wherever it comes from. -/
theorem Origin.correlationID (h : Origin X E hdr frame body c resp c') :
    responseCorrelationID resp = hdr.correlationID := by
  cases h with
  | own answer key own response =>
      rw [response]
      exact responseCorrelationID_encodeResponse _ _ _ _
  | relayed up up' payload reply sasl n key request before after replies decoded response =>
      rw [response]
      exact responseCorrelationID_encodeResponse _ _ _ _
  | forwarded up up' packet reply n key state request before after replies response =>
      exact responseCorrelationID_answerTo response

/-- The written frames play no part. -/
theorem Origin.written (h : Origin X E hdr frame body c resp c') (frames : List Bytes) :
    Origin X E hdr frame body c resp { c' with written := frames } := by
  cases h with
  | own answer key own response upstream => exact .own answer key own response upstream
  | relayed up up' payload reply sasl n key request before after replies decoded response =>
      exact .relayed up up' payload reply sasl n key request before after replies decoded
        response
  | forwarded up up' packet reply n key state request before after replies response =>
      exact .forwarded up up' packet reply n key state request before after replies response

end

/-! ### In step -/

/-- The upstream connection, if there is one, is in step. -/
def UpstreamInStep (c : Conn) : Prop :=
  ∀ up, c.upstream = some up → ∃ n, InStep up.peer n up.log

/-- A round on a connection in step answers its own request. -/
theorem Round.repliesTo {packet : Packet} {reply : Bytes} {up up' : Upstream.Conn}
    (h : Round packet reply up up') (hstep : ∃ n, InStep up.peer n up.log) :
    (∃ n, RepliesTo packet reply up up' n) ∧ ∃ n, InStep up'.peer n up'.log := by
  obtain ⟨n, hn⟩ := hstep
  obtain ⟨hreply, hlog, hnext⟩ := h.inStep hn
  exact ⟨⟨n, hn.counts.1, hlog, h.peer, hreply⟩, n + 1, hnext⟩

/-- The connection a client request goes to is in step. -/
theorem UpstreamInStep.hasUpstream {X : Server} {E : Env} {c : Conn} {up : Upstream.Conn}
    (h : UpstreamInStep c) (hup : HasUpstream X E c up) : ∃ n, InStep up.peer n up.log := by
  rcases hup with hsome | ⟨-, hdialled⟩
  · exact h up hsome
  · have hdial := dialUpstream_spec X E c
    rw [hdialled] at hdial
    exact hdial.1.inStep

/-- A round of the relay keeps the upstream connection. -/
theorem upstream_afterRound (c : Conn) (up : Upstream.Conn) (code : Int16) :
    (afterRound c up code).upstream = some up := by
  unfold afterRound
  split <;> rfl

/-- A relayed round with a response: the upstream connection stays in step, and the response
comes from the reply to the payload. -/
theorem RelayTurn.origin {X : Server} {E : Env} {hdr : RequestHeader}
    {payload frame body : Bytes} {c₀ c c' : Conn} {up : Upstream.Conn} {resp : Bytes}
    (h : RelayTurn X hdr payload c up (some resp) c') (key : hdr.apiKey = saslAuthenticateKey)
    (request : X.codec.readSASLAuthenticateRequest hdr.apiVersion body = .ok payload)
    (hover : RelaysOver X E c₀ payload up) (hstep : ∃ n, InStep up.peer n up.log) :
    Origin X E hdr frame body c₀ resp c' ∧ UpstreamInStep c' := by
  cases h with
  | answered up' reply sasl _ round decoded answer =>
      obtain ⟨⟨n, hreplies⟩, hnext⟩ := round.repliesTo hstep
      have hup := upstream_afterRound c up' sasl.errorCode
      refine ⟨.relayed up up' payload reply sasl n key request hover hup hreplies decoded
        (answer resp rfl), ?_⟩
      intro up₁ hup₁
      cases hup.symm.trans hup₁
      exact hnext

/-- A turn with a response. The invariant passes to the next state, so that no stale reply
is left for the next request. -/
theorem Turn.origin {X : Server} {E : Env} {hdr : RequestHeader} {frame body : Bytes}
    {c c' : Conn} {resp : Bytes} (hturn : Turn X E hdr frame body c (some resp) c')
    (hstep : UpstreamInStep c) :
    Origin X E hdr frame body c resp c' ∧ UpstreamInStep c' := by
  -- The turns of the first kind: the proxy answers and the upstream connection stays.
  have hown : ∀ {c₁ : Conn}, OwnResponse X E hdr body c (some resp) →
      needsAuth hdr.apiKey = false → c₁.upstream = c.upstream →
      Origin X E hdr frame body c resp c₁ ∧ UpstreamInStep c₁ := by
    intro c₁ own hkey hup
    obtain ⟨answer, hanswer, hresp⟩ := own resp rfl
    refine ⟨.own answer hkey hanswer hresp hup, ?_⟩
    intro up hsome
    exact hstep up (hup.symm.trans hsome)
  cases hturn with
  | idle _ own key => exact hown own key rfl
  | chose mech _ own key state => exact hown own (not_needsAuth_handshake key) rfl
  | plain payload creds tenant _ own key state mech request parsed known =>
      exact hown own (not_needsAuth_authenticate key) rfl
  | undialled payload username tenant closed _ own key state mech request parsed known only =>
      exact hown own (not_needsAuth_authenticate key) rfl
  | opened payload username tenant up _ _ key state mech request parsed known handshaking rounds
      relayed dialled =>
      exact relayed.origin key request (.dialled username tenant state parsed known dialled)
        handshaking.inStep
  | relayed payload up _ _ key state mech request upstream relayed =>
      exact relayed.origin key request (.kept state upstream) (hstep up upstream)
  | answered up up' packet reply _ key state upstream ready forwarded packetKey round answer =>
      -- In step before the request, so the frame that came back is the reply to it.
      obtain ⟨⟨n, hreplies⟩, hnext⟩ := round.repliesTo (hstep.hasUpstream upstream)
      refine ⟨.forwarded up up' packet reply n key state forwarded upstream rfl hreplies
        answer, ?_⟩
      intro up₁ hup₁
      cases hup₁
      exact hnext

/-! ### Runs -/

/-- It does not write to the client by itself. -/
theorem RelayTurn.written {X : Server} {hdr : RequestHeader} {payload : Bytes} {c c' : Conn}
    {up : Upstream.Conn} {out : Option Bytes} (h : RelayTurn X hdr payload c up out c') :
    c'.written = c.written := by
  cases h with
  | broken up' traffic => rfl
  | answered up' reply resp out round decoded answer =>
      unfold afterRound
      split <;> rfl

/-- A turn itself writes nothing: its response comes after it. -/
theorem Turn.written {X : Server} {E : Env} {hdr : RequestHeader} {frame body : Bytes}
    {c c' : Conn} {out : Option Bytes} (hturn : Turn X E hdr frame body c out c') :
    c'.written = c.written := by
  cases hturn with
  | opened payload username tenant up _ _ key state mech request parsed known handshaking rounds
      relayed => exact relayed.written
  | relayed payload up _ _ key state mech request upstream relayed => exact relayed.written
  | _ => rfl

/-- A frame that leaves the connection open has one response. -/
theorem FrameStep.responds {X : Server} {w w' : World} {bytes : Bytes} {net : Net}
    (h : FrameStep X w bytes net w') (hstep : UpstreamInStep w.conn)
    (hafter : w'.stopped = none) :
    ∃ hdr body resp, parseRequestHeader bytes = .ok hdr ∧
      sliceFrom bytes hdr.headerSize = .ok body ∧
      w'.conn.written = w.conn.written ++ [resp] ∧
      Origin X { net with resolver := w.resolver } hdr bytes body w.conn resp w'.conn ∧
      UpstreamInStep w'.conn := by
  cases h with
  | answered hdr body resp c parsed sliced turn =>
      obtain ⟨horigin, hnext⟩ := turn.origin hstep
      refine ⟨hdr, body, resp, parsed, sliced, ?_, horigin.written _, hnext⟩
      show c.written ++ [resp] = _
      rw [turn.written]
  | ended stop hdr body c parsed sliced turn => cases hafter
  | malformed stop => cases hafter

/-- A frame that ends the connection has none. -/
theorem FrameStep.silent {X : Server} {w w' : World} {bytes : Bytes} {net : Net}
    (h : FrameStep X w bytes net w') (hopen : w.stopped = none)
    (hafter : w'.stopped.isSome) : w'.conn.written = w.conn.written := by
  cases h with
  | answered hdr body resp c parsed sliced turn =>
      have hstopped : w.stopped.isSome := hafter
      rw [hopen] at hstopped
      cases hstopped
  | ended stop hdr body c parsed sliced turn => exact turn.written
  | malformed stop => rfl

/-- While the connection is open, it is in step and every request has its response. -/
theorem open_run (X : Server) (r : MemoryResolver) (inputs : List Input) :
    (World.run X (World.start r) inputs).stopped = none →
      UpstreamInStep (World.run X (World.start r) inputs).conn ∧
      (World.run X (World.start r) inputs).conn.written.map responseCorrelationID =
        (clientFrames inputs).map requestCorrelationID := by
  refine run_induction (P := fun inputs w => w.stopped = none → UpstreamInStep w.conn ∧
    w.conn.written.map responseCorrelationID =
      (clientFrames inputs).map requestCorrelationID) ?_ ?_ ?_ ?_ inputs
  · intro _
    refine ⟨?_, rfl⟩
    intro up hup
    cases hup
  · intro inputs op ih hopen
    rw [clientFrames_concat, show clientFrames [Input.admin op] = [] from rfl, List.append_nil]
    exact ih hopen
  · intro inputs bytes net stop hstop _ hopen
    cases hstop.symm.trans hopen
  · intro inputs bytes net w' hopen ih hframe hafter
    obtain ⟨hstep, hids⟩ := ih hopen
    obtain ⟨hdr, body, resp, hparse, -, hwritten, horigin, hnext⟩ :=
      hframe.responds hstep hafter
    -- One frame, one response, and the same correlation id on both.
    have hid : responseCorrelationID resp = requestCorrelationID bytes :=
      horigin.correlationID.trans (parseRequestHeader_eq_ok hparse).2.2.2
    refine ⟨hnext, ?_⟩
    rw [hwritten, clientFrames_concat, List.map_append, List.map_append, hids,
      show clientFrames [Input.frame bytes net] = [bytes] from rfl, List.map_singleton,
      List.map_singleton, hid]

/-- A stopped connection stopped at one frame, and wrote nothing for it or after it. -/
theorem stopped_run (X : Server) (r : MemoryResolver) (inputs : List Input) :
    (World.run X (World.start r) inputs).stopped.isSome →
      ∃ pre bytes net, pre ++ [Input.frame bytes net] <+: inputs ∧
        (World.run X (World.start r) pre).stopped = none ∧
        (World.run X (World.start r) inputs).conn.written =
          (World.run X (World.start r) pre).conn.written := by
  refine run_induction (P := fun inputs w => w.stopped.isSome →
    ∃ pre bytes net, pre ++ [Input.frame bytes net] <+: inputs ∧
      (World.run X (World.start r) pre).stopped = none ∧
      w.conn.written = (World.run X (World.start r) pre).conn.written) ?_ ?_ ?_ ?_ inputs
  · intro h
    cases h
  · intro inputs op ih hstop
    obtain ⟨pre, bytes, net, hpre, hrest⟩ := ih hstop
    exact ⟨pre, bytes, net, hpre.trans (List.prefix_append _ _), hrest⟩
  · intro inputs _ _ _ _ ih hstop
    obtain ⟨pre, bytes, net, hpre, hrest⟩ := ih hstop
    exact ⟨pre, bytes, net, hpre.trans (List.prefix_append _ _), hrest⟩
  · -- The connection was open before this frame, so it is the one.
    intro inputs bytes net w' hopen _ hframe hstop
    exact ⟨inputs, bytes, net, List.prefix_refl _, hopen, hframe.silent hopen hstop⟩

/-- The responses of a connection, in a world `w` that a run has reached and over the next
step to `w'`. -/
structure InOrder (X : Server) (r : MemoryResolver) (inputs : List Input) (next : Input)
    (w w' : World) : Prop where
  /-- The responses answer the requests in order, from the first on. -/
  ids : w.conn.written.map responseCorrelationID <+:
    (clientFrames inputs).map requestCorrelationID
  /-- While the connection is open every request has exactly one response. -/
  complete : w.stopped = none → w.conn.written.length = (clientFrames inputs).length
  /-- Of a connection that has ended, only the request it ended at has none. -/
  last : w.stopped.isSome → ∃ pre bytes net, pre ++ [Input.frame bytes net] <+: inputs ∧
    (World.run X (World.start r) pre).stopped = none ∧
    w.conn.written = (World.run X (World.start r) pre).conn.written ∧
    w.conn.written.length = (clientFrames pre).length
  /-- A response is computed from the reply to its own request, over the upstream connection
  the frame found or dialled, and without the correlation id of that reply. -/
  origin : ∀ bytes net, next = .frame bytes net → w.stopped = none → w'.stopped = none →
    ∃ hdr body resp, parseRequestHeader bytes = .ok hdr ∧
      sliceFrom bytes hdr.headerSize = .ok body ∧
      w'.conn.written = w.conn.written ++ [resp] ∧
      Origin X { net with resolver := w.resolver } hdr bytes body w.conn resp w'.conn

/-- Responses come in order and exactly once, in every run: any frames, any changes of the
tenant table, and any upstream that answers each request at most once and in order. -/
theorem responses_inOrder (X : Server) (r : MemoryResolver) (inputs : List Input)
    (next : Input) :
    InOrder X r inputs next (World.run X (World.start r) inputs)
      (World.run X (World.start r) (inputs ++ [next])) where
  ids := by
    cases hstop : (World.run X (World.start r) inputs).stopped with
    | none => rw [(open_run X r inputs hstop).2]
    | some stop =>
        obtain ⟨pre, bytes, net, hpre, hopen, hwritten⟩ :=
          stopped_run X r inputs (by rw [hstop]; rfl)
        -- The connection stopped at a frame: up to it every request was answered.
        rw [hwritten, (open_run X r pre hopen).2]
        have hframes : clientFrames pre <+: clientFrames inputs :=
          ((List.prefix_append pre _).trans hpre).filterMap _
        exact hframes.map _
  complete := by
    intro hopen
    have hids := congrArg List.length (open_run X r inputs hopen).2
    rw [List.length_map, List.length_map] at hids
    exact hids
  last := by
    intro hstop
    obtain ⟨pre, bytes, net, hpre, hopen, hwritten⟩ := stopped_run X r inputs hstop
    have hids := congrArg List.length (open_run X r pre hopen).2
    rw [List.length_map, List.length_map] at hids
    exact ⟨pre, bytes, net, hpre, hopen, hwritten, hwritten ▸ hids⟩
  origin := by
    rintro bytes net rfl hopen
    rw [run_concat]
    intro hafter
    obtain ⟨hdr, body, resp, hparse, hslice, hwritten, horigin, -⟩ :=
      (step_frame bytes net hopen).responds (open_run X r inputs hopen).1 hafter
    exact ⟨hdr, body, resp, hparse, hslice, hwritten, horigin⟩

end Kroxy.Proofs
