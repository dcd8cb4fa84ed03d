import Mathlib.Data.List.Forall2
import Kroxy.Kmsg.Schema
import Kroxy.Proofs.PlainLogin

/-!
# `Kroxy.Proofs.RelayVerbatim`: what the SCRAM relay passes on

Between a SCRAM client and its broker the proxy takes every message apart and builds it
again, in `RelaySASLAuthenticate` and in `handleSaslAuthenticateSCRAM`. `relayedRequests`
lists the requests of a run that were relayed, with what the client got for each.
`saslPayloads` and `saslReplies` are what the broker got and what it answered.

`RelayProgress` is the invariant. The requests answered so far stand against the broker's
replies one to one, and each answer is built from its own reply (`saslAnswer`). Of the
requests only the last may be without an answer, when the connection ended with it.

The payloads arrive unchanged. The replies do not all: `relayedResponse` has no session
lifetime, and it takes an empty error message for none. `relayVerbatim_iff` says that these
two are the only differences.
-/

set_option autoImplicit false

namespace Kroxy.Proofs

open Kroxy.Go
open Kroxy.Lib
open Kroxy.Kmsg
open Kroxy.Protocol
open Kroxy.Auth
open Kroxy.Resolver
open Kroxy.Proxy
open Kroxy.Upstream (Packet Event Peer Dialled negotiate setDeadline dialForSCRAM headerLength
  drop_encodeResponse)

/-! ### The replies in a history -/

/-- The frames read after SaslAuthenticate requests. `waiting` says that such a request was
the last one sent. -/
def saslFrames : (waiting : Bool) → List Event → List Bytes
  | _, [] => []
  | _, .sent packet :: log => saslFrames (saslPayload packet).isSome log
  | true, .received _ frame :: log => frame :: saslFrames false log
  | false, .received _ _ :: log => saslFrames false log

/-- A SaslAuthenticate v1 reply. -/
def saslReply (K : Codec) (frame : Bytes) : Option SASLAuthenticateResponse :=
  (K.readSASLAuthenticateResponse 1 (frame.drop 4)).toOption

/-- The replies to the SaslAuthenticate requests of a history, oldest first. -/
def saslReplies (K : Codec) (log : List Event) : List SASLAuthenticateResponse :=
  (saslFrames false log).filterMap (saslReply K)

/-- A request cuts the history: nothing read after it belongs to an earlier one. -/
theorem saslFrames_append (log : List Event) (packet : Packet) (es : List Event) :
    ∀ waiting, saslFrames waiting (log ++ .sent packet :: es) =
      saslFrames waiting log ++ saslFrames (saslPayload packet).isSome es := by
  induction log with
  | nil => exact fun waiting => by cases waiting <;> rfl
  | cons e log ih =>
      intro waiting
      cases e with
      | sent packet' => cases waiting <;> exact ih _
      | received i frame =>
          cases waiting with
          | true => exact congrArg (frame :: ·) (ih false)
          | false => exact ih false

/-- No frame is read for SaslAuthenticate when none was sent. -/
theorem saslFrames_of_no_payloads {log : List Event} (h : saslPayloads log = []) :
    saslFrames false log = [] := by
  induction log with
  | nil => rfl
  | cons e log ih =>
      unfold saslPayloads at h ih
      cases e with
      | sent packet =>
          cases hsent : saslPayload packet with
          | some payload => simp [hsent] at h
          | none =>
              show saslFrames (saslPayload packet).isSome log = []
              rw [hsent]
              exact ih (by simpa [hsent] using h)
      | received i frame => exact ih (by simpa using h)

/-- The replies to one more packet come behind the others. -/
theorem saslReplies_append (K : Codec) (log : List Event) (packet : Packet)
    (es : List Event) :
    saslReplies K (log ++ .sent packet :: es) = saslReplies K log ++
      (saslFrames (saslPayload packet).isSome es).filterMap (saslReply K) := by
  unfold saslReplies
  rw [saslFrames_append, List.filterMap_append]

section
variable {packet : Packet} {c c' : Upstream.Conn}

/-- Replies are only added. -/
theorem Sends.saslReplies_prefix (h : Sends packet c c') (K : Codec) :
    saslReplies K c.log <+: saslReplies K c'.log := by
  obtain ⟨tail, hlog, -⟩ := h.log
  rw [hlog, saslReplies_append]
  exact List.prefix_append _ _

/-- A client request leaves the replies as they are. -/
theorem Sends.saslReplies_client (h : Sends packet c c') (K : Codec)
    (hneeds : needsAuth packet.key = true) : saslReplies K c'.log = saslReplies K c.log := by
  obtain ⟨tail, hlog, htail⟩ := h.log
  have hframes : saslFrames false tail = [] :=
    saslFrames_of_no_payloads (saslPayloads_read htail)
  rw [hlog, saslReplies_append, saslPayload_of_needsAuth hneeds, Option.isSome_none, hframes]
  exact List.append_nil _

/-- A round adds its reply. -/
theorem Round.saslReplies {K : Codec} {payload reply : Bytes}
    {resp : SASLAuthenticateResponse} (h : Round (saslPacket c payload) reply c c')
    (decoded : K.readSASLAuthenticateResponse 1 (reply.drop 4) = .ok resp) :
    Proofs.saslReplies K c'.log = Proofs.saslReplies K c.log ++ [resp] := by
  obtain ⟨i, hlog, -⟩ := h.log
  have hreply : saslReply K reply = some resp := toOption_eq_some.mpr decoded
  rw [hlog, saslReplies_append]
  show Proofs.saslReplies K c.log ++ [reply].filterMap (saslReply K) = _
  rw [List.filterMap_cons_some hreply, List.filterMap_nil]

end

/-- The connection `DialForSCRAM` returns has carried no payload yet. -/
theorem dialForSCRAM_payloads (K : Codec) (link : Except GoError Peer) (mechanism : GoString) :
    DialLeaves (fun up => saslPayloads up.log = []) (fun _ => True)
      (dialForSCRAM K link mechanism) := by
  unfold dialForSCRAM
  split
  · refine dialWith_leaves fun peer => ?_
    refine Ends.bind ((negotiate_payloads K mechanism _).imp ?_ (fun _ _ _ => trivial))
    intro _ c₁ h₁
    exact (setDeadline_payloads c₁).imp (fun _ _ h => h.trans h₁) (fun _ _ _ => trivial)
  · intro up hup
    trivial

/-! ### The relayed requests of a run -/

/-- A SaslAuthenticate request that was relayed, and the frame the client got for it. -/
structure RelayedRequest where
  hdr : RequestHeader
  payload : Bytes
  answer : Option Bytes

/-- The header and the payload of a SaslAuthenticate request. -/
def saslRequest (X : Server) (bytes : Bytes) : Option (RequestHeader × Bytes) :=
  match parseRequestHeader bytes with
  | .error _ => none
  | .ok hdr =>
      match sliceFrom bytes hdr.headerSize with
      | .error _ => none
      | .ok body =>
          if hdr.apiKey = saslAuthenticateKey then
            (X.codec.readSASLAuthenticateRequest hdr.apiVersion body).toOption.map (hdr, ·)
          else none

/-- The frames that are SaslAuthenticate requests. -/
theorem saslRequest_eq_some {X : Server} {bytes : Bytes} {hdr : RequestHeader}
    {payload : Bytes} :
    saslRequest X bytes = some (hdr, payload) ↔
      ∃ body, parseRequestHeader bytes = .ok hdr ∧ sliceFrom bytes hdr.headerSize = .ok body ∧
        hdr.apiKey = saslAuthenticateKey ∧
        X.codec.readSASLAuthenticateRequest hdr.apiVersion body = .ok payload := by
  unfold saslRequest
  constructor
  · intro h
    split at h
    · cases h
    · rename_i hdr' hparse
      split at h
      · cases h
      · rename_i body hslice
        split at h
        · rename_i hkey
          obtain ⟨payload', hread, heq⟩ := Option.map_eq_some_iff.mp h
          cases heq
          exact ⟨body, hparse, hslice, hkey, toOption_eq_some.mp hread⟩
        · cases h
  · rintro ⟨body, hparse, hslice, hkey, hread⟩
    simp only [hparse, hslice, if_pos hkey, hread]
    rfl

/-- The client may relay in the world `w`: it is connected, and its SCRAM exchange is about
to start or under way. -/
def MayRelay (w : World) : Prop :=
  w.stopped = none ∧ isSCRAMMechanism w.conn.clientMechanism = true ∧
    (w.conn.state = .awaitAuth ∨ w.conn.state = .relaySaslInFlight)

instance (w : World) : Decidable (MayRelay w) :=
  inferInstanceAs (Decidable (_ ∧ _))

/-- The request that `next` relays in the world `w`. The first message of an exchange is not
relayed when there is no upstream connection after it: then the proxy has refused it. -/
def relayedIn (X : Server) (w : World) : Input → Option RelayedRequest
  | .admin _ => none
  | .frame bytes net =>
      let after := (w.step X (.frame bytes net)).conn
      (saslRequest X bytes).bind fun (hdr, payload) =>
        if MayRelay w ∧ after.upstream.isSome then
          some ⟨hdr, payload, (after.written.drop w.conn.written.length).head?⟩
        else none

/-- The ones of them that are relayed. -/
theorem relayedIn_eq_some {X : Server} {w : World} {bytes : Bytes} {net : Net}
    {request : RelayedRequest} :
    relayedIn X w (.frame bytes net) = some request ↔
      saslRequest X bytes = some (request.hdr, request.payload) ∧ MayRelay w ∧
      (w.step X (.frame bytes net)).conn.upstream.isSome ∧ request.answer =
        ((w.step X (.frame bytes net)).conn.written.drop w.conn.written.length).head? := by
  show (saslRequest X bytes).bind _ = _ ↔ _
  rw [Option.bind_eq_some_iff]
  constructor
  · rintro ⟨⟨hdr, payload⟩, hrequest, h⟩
    dsimp only at h
    split at h
    · rename_i hmay
      cases h
      exact ⟨hrequest, hmay.1, hmay.2, rfl⟩
    · cases h
  · rintro ⟨hrequest, hmay, hafter, hanswer⟩
    refine ⟨_, hrequest, ?_⟩
    dsimp only
    rw [if_pos ⟨hmay, hafter⟩, ← hanswer]

/-- The relayed requests of a run from `w`, oldest first. -/
def relayedRequests (X : Server) : World → List Input → List RelayedRequest
  | _, [] => []
  | w, next :: rest =>
      (relayedIn X w next).toList ++ relayedRequests X (w.step X next) rest

/-- The relayed requests of a run with one more input. -/
theorem relayedRequests_concat (X : Server) (inputs : List Input) (next : Input) :
    ∀ w, relayedRequests X w (inputs ++ [next]) =
      relayedRequests X w inputs ++ (relayedIn X (World.run X w inputs) next).toList := by
  induction inputs with
  | nil => exact fun w => List.append_nil _
  | cons first rest ih =>
      intro w
      show (relayedIn X w first).toList ++ relayedRequests X (w.step X first) (rest ++ [next]) = _
      rw [ih, ← List.append_assoc]
      rfl

/-- The requests that were answered. -/
def answered (requests : List RelayedRequest) : List RelayedRequest :=
  requests.filter fun request => request.answer.isSome

/-- What the client reads in its answer, with the header its own request asks for. -/
def clientReads (X : Server) (request : RelayedRequest) : Option SASLAuthenticateResponse :=
  request.answer.bind fun frame =>
    (X.codec.readSASLAuthenticateResponse request.hdr.apiVersion
      (frame.drop (headerLength request.hdr.apiKey request.hdr.apiVersion))).toOption

/-- The payloads the upstream connection has carried. -/
def sentPayloads (c : Conn) : List Bytes :=
  c.upstream.elim [] fun up => saslPayloads up.log

/-- The replies that were read from the upstream connection. -/
def readReplies (K : Codec) (c : Conn) : List SASLAuthenticateResponse :=
  c.upstream.elim [] fun up => saslReplies K up.log

section
variable {c : Conn} {up : Upstream.Conn}

/-- Without an upstream nothing was sent. -/
theorem sentPayloads_none (h : c.upstream = none) : sentPayloads c = [] := by
  rw [sentPayloads, h]
  rfl

/-- The payloads are those on the log of the upstream. -/
theorem sentPayloads_some (h : c.upstream = some up) :
    sentPayloads c = saslPayloads up.log := by
  rw [sentPayloads, h]
  rfl

/-- Without an upstream nothing was read. -/
theorem readReplies_none (K : Codec) (h : c.upstream = none) : readReplies K c = [] := by
  rw [readReplies, h]
  rfl

/-- The replies are those on the log of the upstream. -/
theorem readReplies_some (K : Codec) (h : c.upstream = some up) :
    readReplies K c = saslReplies K up.log := by
  rw [readReplies, h]
  rfl

end

/-- The replies to the requests that were answered. -/
def passedOn (X : Server) (requests : List RelayedRequest) (c : Conn) :
    List SASLAuthenticateResponse :=
  (readReplies X.codec c).take (answered requests).length

/-- The relay is verbatim: the upstream gets the payloads of the client, and the client gets
the replies of the upstream, both in order. -/
structure RelayVerbatim (X : Server) (requests : List RelayedRequest) (w : World) : Prop where
  /-- While the connection is open every relayed request has its answer. -/
  complete : w.stopped = none → answered requests = requests
  /-- The upstream has received the payloads of the answered requests, and no others but
  that of a request the connection ended with. -/
  upstream : (answered requests).map (·.payload) <+: sentPayloads w.conn ∧
    sentPayloads w.conn <+: requests.map (·.payload)
  /-- What the client reads is what the upstream replied. -/
  client : (answered requests).map (clientReads X) = (passedOn X requests w.conn).map some

/-! ### One relayed request -/

section
variable {X : Server} {E : Env} {hdr : RequestHeader} {payload : Bytes} {c : Conn}

/-- The outcomes of a SaslAuthenticate request of a SCRAM client. It is refused without an
upstream, or relayed over a connection with the history `c` had. -/
def RelayOutcome (X : Server) (hdr : RequestHeader) (payload : Bytes) (c : Conn)
    (out : Option Bytes) (c' : Conn) : Prop :=
  c'.upstream = none ∨ ∃ c₁ up, c₁.written = c.written ∧
    saslPayloads up.log = sentPayloads c ∧ saslReplies X.codec up.log = readReplies X.codec c ∧
    RelayTurn X hdr payload c₁ up out c'

/-- A SaslAuthenticate request of a SCRAM login is relayed or gets no upstream. -/
theorem handleSaslAuthenticate_relays {body : Bytes} (hsound : Sound X.codec c)
    (key : hdr.apiKey = saslAuthenticateKey) (mech : isSCRAMMechanism c.clientMechanism = true)
    (state : c.state = .awaitAuth ∨ c.state = .relaySaslInFlight)
    (request : X.codec.readSASLAuthenticateRequest hdr.apiVersion body = .ok payload) :
    Ends (handleSaslAuthenticate X E hdr body) (fun _ => Wrote (RelayOutcome X hdr payload c))
      (fun _ => RelayOutcome X hdr payload c none) c := by
  refine Ends.bind (Ends.get ?_)
  rw [if_pos mech]
  unfold handleSaslAuthenticateSCRAM
  rw [request]
  refine Ends.bind (Ends.pure (Ends.bind (Ends.get ?_)))
  rcases state with hstate | hstate
  · rw [if_pos hstate]
    have hnone : c.upstream = none := hsound.fresh (Or.inr hstate)
    refine openRelay_ends key hstate mech request (fun _ _ => Or.inl hnone)
      (fun _ _ _ _ _ _ _ _ _ => Or.inl hnone) ?_
    -- The new connection has no SASL history, and there was no connection before it.
    intro username tenant up out c' _ _ hconnected hrelay
    have hdial := dialForSCRAM_payloads X.codec (E.dial tenant.upstream) c.clientMechanism
    rw [hconnected] at hdial
    have hpayloads : saslPayloads up.log = [] := hdial
    refine Or.inr ⟨_, up, ?_, ?_, ?_, hrelay⟩
    · rfl
    · rw [hpayloads, sentPayloads_none hnone]
    · rw [saslReplies, saslFrames_of_no_payloads hpayloads, readReplies_none _ hnone]
      rfl
  · obtain ⟨up, hup, -⟩ := hsound.relaying hstate
    rw [if_neg (by rw [hstate]; decide), if_pos hstate]
    exact relayRound_ends hup fun out c' hrelay => Or.inr ⟨c, up, rfl,
      (sentPayloads_some hup).symm, (readReplies_some X.codec hup).symm, hrelay⟩

/-- A relayed request with an answer. -/
theorem RelayTurn.answers {up : Upstream.Conn} {resp : Bytes} {c' : Conn}
    (h : RelayTurn X hdr payload c up (some resp) c') :
    ∃ reply, resp = saslAnswer X hdr reply ∧
      sentPayloads c' = saslPayloads up.log ++ [payload] ∧
      readReplies X.codec c' = saslReplies X.codec up.log ++ [reply] := by
  cases h with
  | answered up' reply sasl _ round decoded answer =>
      have hup := upstream_afterRound c up' sasl.errorCode
      refine ⟨sasl, answer resp rfl, ?_, ?_⟩
      · rw [sentPayloads_some hup]
        exact round.sends.saslPayloads
      · rw [readReplies_some X.codec hup]
        exact round.saslReplies decoded

/-- A relayed request without one. -/
theorem RelayTurn.breaks {up : Upstream.Conn} {c' : Conn}
    (h : RelayTurn X hdr payload c up none c') :
    saslPayloads up.log <+: sentPayloads c' ∧
      sentPayloads c' <+: saslPayloads up.log ++ [payload] ∧
      saslReplies X.codec up.log <+: readReplies X.codec c' := by
  -- Whether a reply came or not, the payload was sent.
  have hsends : ∀ {up' : Upstream.Conn}, c'.upstream = some up' →
      Sends (saslPacket up payload) up up' →
      saslPayloads up.log <+: sentPayloads c' ∧
        sentPayloads c' <+: saslPayloads up.log ++ [payload] ∧
        saslReplies X.codec up.log <+: readReplies X.codec c' := by
    intro up' hup sends
    have hsent : saslPayloads up'.log = saslPayloads up.log ++ [payload] := sends.saslPayloads
    rw [sentPayloads_some hup, readReplies_some X.codec hup, hsent]
    exact ⟨List.prefix_append _ _, List.prefix_refl _, sends.saslReplies_prefix X.codec⟩
  cases h with
  | broken up' traffic =>
      rcases traffic with quiet | sends
      · show saslPayloads up.log <+: saslPayloads up'.log ∧
          saslPayloads up'.log <+: saslPayloads up.log ++ [payload] ∧
          saslReplies X.codec up.log <+: saslReplies X.codec up'.log
        rw [quiet.log]
        exact ⟨List.prefix_refl _, List.prefix_append _ _, List.prefix_refl _⟩
      · exact hsends rfl sends
  | answered up' reply sasl _ round decoded answer =>
      exact hsends (upstream_afterRound _ _ _) round.sends

end

/-! ### The invariant of a run -/

/-- The frame written for the request is the answer built from `reply`. -/
def AnsweredWith (X : Server) (request : RelayedRequest) (reply : SASLAuthenticateResponse) :
    Prop :=
  request.answer = some (saslAnswer X request.hdr reply)

/-- The relay of a connection so far: the requests `done` are answered with `replies`, and
the requests `last` never will be. -/
structure RelayProgress (X : Server) (w : World) (done last : List RelayedRequest)
    (replies : List SASLAuthenticateResponse) : Prop where
  answers : List.Forall₂ (AnsweredWith X) done replies
  silent : ∀ request ∈ last, request.answer = none
  sent : done.map (·.payload) <+: sentPayloads w.conn
  only : sentPayloads w.conn <+: (done ++ last).map (·.payload)
  read : replies <+: readReplies X.codec w.conn
  /-- Only a connection that has ended owes an answer. -/
  serving : w.stopped = none → last = [] ∧ readReplies X.codec w.conn = replies

/-- What a relayed request does to the history of an open connection. -/
inductive RelayStep (X : Server) (w : World) (request : RelayedRequest) (w' : World) :
    Prop where
  | answered (reply : SASLAuthenticateResponse) (answer : AnsweredWith X request reply)
      (sent : sentPayloads w'.conn = sentPayloads w.conn ++ [request.payload])
      (read : readReplies X.codec w'.conn = readReplies X.codec w.conn ++ [reply])
  | ended (answer : request.answer = none) (stopped : w'.stopped.isSome)
      (sent : sentPayloads w.conn <+: sentPayloads w'.conn)
      (only : sentPayloads w'.conn <+: sentPayloads w.conn ++ [request.payload])
      (read : readReplies X.codec w.conn <+: readReplies X.codec w'.conn)

/-- A frame that is one longer than before has its answer at the end. -/
theorem head?_drop_append {α : Type} (written : List α) (resp : α) :
    ((written ++ [resp]).drop written.length).head? = some resp := by
  rw [List.drop_left]
  rfl

/-- What an input that is relayed does. -/
theorem relayedIn_step {X : Server} {w : World} {next : Input} {request : RelayedRequest}
    (hsound : Sound X.codec w.conn) (h : relayedIn X w next = some request) :
    RelayStep X w request (w.step X next) := by
  cases next with
  | admin op => cases h
  | frame bytes net =>
      obtain ⟨hrequest, ⟨hopen, hmech, hstate⟩, hafter, hanswer⟩ := relayedIn_eq_some.mp h
      obtain ⟨body, hparse, hslice, hkey, hread⟩ := saslRequest_eq_some.mp hrequest
      obtain ⟨resolver, c, stopped⟩ := w
      cases hopen
      have hends : Ends (serveFrame X { net with resolver } bytes)
          (fun _ => Wrote (RelayOutcome X request.hdr request.payload c))
          (fun _ => RelayOutcome X request.hdr request.payload c none) c := by
        refine serveFrame_ends hparse hslice ?_
        rw [dispatch_authenticate hkey]
        exact handleSaslAuthenticate_relays hsound hkey hmech hstate hread
      unfold World.step at hafter hanswer ⊢
      dsimp only at hafter hanswer ⊢
      cases hrun : serveFrame X { net with resolver } bytes c with
      | ok u c' =>
          rw [hrun] at hafter hanswer
          obtain ⟨resp, c₁, houtcome, rfl⟩ := hends.of_ok hrun
          rcases houtcome with hnone | ⟨c₀, up, hwritten, hsent, hreplies, hturn⟩
          · rw [show c₁.upstream = none from hnone] at hafter
            cases hafter
          · obtain ⟨reply, hresp, hsent', hreplies'⟩ := hturn.answers
            refine .answered reply ?_ (hsent ▸ hsent') (hreplies ▸ hreplies')
            rw [AnsweredWith, hanswer, ← hresp]
            dsimp only
            rw [hturn.written, hwritten]
            exact head?_drop_append _ _
      | error stop c' =>
          rw [hrun] at hafter hanswer
          rcases hends.of_error hrun with hnone | ⟨c₀, up, hwritten, hsent, hreplies, hturn⟩
          · rw [hnone] at hafter
            cases hafter
          · obtain ⟨hgrows, honly, hreplies'⟩ := hturn.breaks
            refine .ended ?_ rfl (hsent ▸ hgrows) (hsent ▸ honly) (hreplies ▸ hreplies')
            rw [hanswer]
            dsimp only
            rw [hturn.written, hwritten, List.drop_length]
            rfl

section
variable {X : Server} {E : Env} {hdr : RequestHeader} {frame body : Bytes} {c c' : Conn}
variable {out : Option Bytes}

/-- After a round of the relay there is an upstream. -/
theorem RelayTurn.upstream_ne_none {payload : Bytes} {up : Upstream.Conn}
    (h : RelayTurn X hdr payload c up out c') : c'.upstream ≠ none := by
  cases h with
  | broken up' traffic => simp
  | answered up' reply resp out round decoded answer => simp [upstream_afterRound]

/-- The mechanism is chosen once, in the first state. -/
theorem Turn.scram_or_first (h : Turn X E hdr frame body c out c')
    (hscram : isSCRAMMechanism c'.clientMechanism = true) :
    isSCRAMMechanism c.clientMechanism = true ∨ c.state = .awaitHandshake := by
  cases h with
  | chose mech _ own key state => exact Or.inr state
  | opened payload username tenant up _ _ key state mech request parsed known handshaking rounds
      relayed => exact Or.inl mech
  | relayed payload up _ _ key state mech request upstream relayed => exact Or.inl mech
  | _ => exact Or.inl hscram

/-- No turn leads back to the first state. -/
theorem Turn.awaitHandshake (h : Turn X E hdr frame body c out c')
    (hstate : c'.state = .awaitHandshake) : c.state = .awaitHandshake := by
  cases h with
  | chose mech _ own key state => cases hstate
  | plain payload creds tenant _ own key state mech request parsed known => cases hstate
  | opened payload username tenant up _ _ key state mech request parsed known handshaking rounds
      relayed =>
      rcases relayed.state with hsame | hauth
      · cases hsame.symm.trans hstate
      · cases hauth.symm.trans hstate
  | relayed payload up _ _ key state mech request upstream relayed =>
      rcases relayed.state with hsame | hauth
      · exact hsame.symm.trans hstate
      · cases hauth.symm.trans hstate
  | _ => exact hstate

/-- An authenticated SCRAM client does not dial. -/
theorem HasUpstream.of_scram {up : Upstream.Conn} (h : HasUpstream X E c up)
    (hsound : Sound X.codec c) (state : c.state = .authenticated)
    (hscram : isSCRAMMechanism c.clientMechanism = true) : c.upstream = some up := by
  rcases h with hsome | ⟨hnone, -⟩
  · exact hsome
  · have hup : c.upstream.isSome := hsound.scram state hscram
    rw [hnone] at hup
    cases hup

/-- A client request over `up` leaves the SASL history of the connection as it is. -/
theorem Sends.history {up up' : Upstream.Conn} {packet : Packet} (h : Sends packet up up')
    (hneeds : needsAuth packet.key = true) (hup : c.upstream = some up) :
    sentPayloads { c with upstream := some up' } = sentPayloads c ∧
      readReplies X.codec { c with upstream := some up' } = readReplies X.codec c := by
  rw [sentPayloads_some hup, readReplies_some X.codec hup]
  exact ⟨h.saslPayloads_client hneeds, h.saslReplies_client X.codec hneeds⟩

/-- A turn of a SCRAM client that relays nothing leaves the SASL history as it is. -/
theorem Turn.history (h : Turn X E hdr frame body c out c') (hsound : Sound X.codec c)
    (hscram : isSCRAMMechanism c'.clientMechanism = true)
    (hnot : ∀ payload, hdr.apiKey = saslAuthenticateKey →
      X.codec.readSASLAuthenticateRequest hdr.apiVersion body = .ok payload →
      isSCRAMMechanism c.clientMechanism = true →
      c.state = .awaitAuth ∨ c.state = .relaySaslInFlight → c'.upstream = none) :
    sentPayloads c' = sentPayloads c ∧ readReplies X.codec c' = readReplies X.codec c := by
  cases h with
  | opened payload username tenant up _ _ key state mech request parsed known handshaking rounds
      relayed =>
      exact absurd (hnot payload key request mech (Or.inl state)) relayed.upstream_ne_none
  | relayed payload up _ _ key state mech request upstream relayed =>
      exact absurd (hnot payload key request mech (Or.inr state)) relayed.upstream_ne_none
  | unsent up up' key state upstream quiet why =>
      have hup := upstream.of_scram hsound state hscram
      rw [sentPayloads_some hup, readReplies_some X.codec hup, ← quiet.log]
      exact ⟨rfl, rfl⟩
  | failed up up' packet key state upstream ready forwarded packetKey sends =>
      rw [← packetKey] at key
      exact sends.history key (upstream.of_scram hsound state hscram)
  | answered up up' packet reply resp key state upstream ready forwarded packetKey round
      answer =>
      rw [← packetKey] at key
      exact round.sends.history key (upstream.of_scram hsound state hscram)
  | _ => exact ⟨rfl, rfl⟩

end

/-- A frame that relays nothing, from a SCRAM client. -/
theorem relayedIn_none_step {X : Server} {w : World} {bytes : Bytes} {net : Net}
    (hsound : Sound X.codec w.conn) (hopen : w.stopped = none)
    (hscram : isSCRAMMechanism (w.step X (.frame bytes net)).conn.clientMechanism = true)
    (h : relayedIn X w (.frame bytes net) = none) :
    (sentPayloads (w.step X (.frame bytes net)).conn = sentPayloads w.conn ∧
      readReplies X.codec (w.step X (.frame bytes net)).conn = readReplies X.codec w.conn) ∧
    (isSCRAMMechanism w.conn.clientMechanism = true ∨ w.conn.state = .awaitHandshake) := by
  have hnot : ∀ hdr body payload, parseRequestHeader bytes = .ok hdr →
      sliceFrom bytes hdr.headerSize = .ok body → hdr.apiKey = saslAuthenticateKey →
      X.codec.readSASLAuthenticateRequest hdr.apiVersion body = .ok payload →
      isSCRAMMechanism w.conn.clientMechanism = true →
      w.conn.state = .awaitAuth ∨ w.conn.state = .relaySaslInFlight →
      (w.step X (.frame bytes net)).conn.upstream = none := by
    intro hdr body payload hparse hslice hkey hread hmech hstate
    by_contra hsome
    let after := (w.step X (.frame bytes net)).conn
    have hrelayed : relayedIn X w (.frame bytes net) =
        some ⟨hdr, payload, (after.written.drop w.conn.written.length).head?⟩ :=
      relayedIn_eq_some.mpr ⟨saslRequest_eq_some.mpr ⟨body, hparse, hslice, hkey, hread⟩,
        ⟨hopen, hmech, hstate⟩, Option.isSome_iff_ne_none.mpr hsome, rfl⟩
    cases h.symm.trans hrelayed
  have hstep := step_frame (X := X) bytes net hopen
  generalize w.step X (.frame bytes net) = w' at hscram hnot hstep
  cases hstep with
  | answered hdr body resp c parsed sliced turn =>
      exact ⟨turn.history hsound hscram fun payload => hnot hdr body payload parsed sliced,
        turn.scram_or_first hscram⟩
  | ended stop hdr body c parsed sliced turn =>
      exact ⟨turn.history hsound hscram fun payload => hnot hdr body payload parsed sliced,
        turn.scram_or_first hscram⟩
  | malformed stop => exact ⟨⟨rfl, rfl⟩, Or.inl hscram⟩

/-- Only a connection that waits for its handshake goes on doing so. -/
theorem step_awaitHandshake {X : Server} {w : World} {next : Input}
    (h : (w.step X next).conn.state = .awaitHandshake) : w.conn.state = .awaitHandshake := by
  rcases step_conn X w next with hsame | ⟨E, hdr, frame, body, out, c, frames, turn, hconn⟩
  · rw [hsame] at h
    exact h
  · rw [hconn] at h
    exact turn.awaitHandshake h

section
variable {X : Server} {w w' : World} {done last : List RelayedRequest}
variable {replies : List SASLAuthenticateResponse}

/-- Nothing was relayed yet. -/
theorem RelayProgress.start (hsent : sentPayloads w.conn = [])
    (hread : readReplies X.codec w.conn = []) : RelayProgress X w [] [] [] where
  answers := .nil
  silent := by simp
  sent := List.nil_prefix
  only := by rw [hsent]; exact List.nil_prefix
  read := List.nil_prefix
  serving := fun _ => ⟨rfl, hread⟩

/-- What a step without a relayed request keeps. -/
theorem RelayProgress.same (h : RelayProgress X w done last replies)
    (hsent : sentPayloads w'.conn = sentPayloads w.conn)
    (hread : readReplies X.codec w'.conn = readReplies X.codec w.conn)
    (hopen : w'.stopped = none → w.stopped = none) : RelayProgress X w' done last replies where
  answers := h.answers
  silent := h.silent
  sent := by rw [hsent]; exact h.sent
  only := by rw [hsent]; exact h.only
  read := by rw [hread]; exact h.read
  serving := by
    rw [hread]
    exact fun hserving => h.serving (hopen hserving)

/-- A relayed request is answered or is the last one. -/
theorem RelayProgress.step {request : RelayedRequest}
    (h : RelayProgress X w done last replies) (hopen : w.stopped = none)
    (hstep : RelayStep X w request w') :
    ∃ done' last' replies', done ++ last ++ [request] = done' ++ last' ∧
      RelayProgress X w' done' last' replies' := by
  obtain ⟨rfl, hread⟩ := h.serving hopen
  have hsent : sentPayloads w.conn = done.map (·.payload) := by
    have honly := h.only
    rw [List.append_nil] at honly
    exact honly.eq_of_length (Nat.le_antisymm honly.length_le h.sent.length_le)
  cases hstep with
  | answered reply answer sent read =>
      rw [hsent] at sent
      rw [hread] at read
      refine ⟨done ++ [request], [], replies ++ [reply], by simp, ?_⟩
      refine ⟨List.rel_append h.answers (.cons answer .nil), by simp, ?_, ?_, ?_, ?_⟩
      · rw [sent, List.map_append]
        exact List.prefix_refl _
      · rw [sent, List.append_nil, List.map_append]
        exact List.prefix_refl _
      · rw [read]
      · exact fun _ => ⟨rfl, read⟩
  | ended answer stopped sent only read =>
      rw [hsent] at sent only
      rw [hread] at read
      refine ⟨done, [request], replies, by simp, h.answers, ?_, sent, ?_, read, ?_⟩
      · intro q hq
        rw [List.mem_singleton.mp hq]
        exact answer
      · rw [List.map_append]
        exact only
      · intro hnone
        rw [hnone] at stopped
        cases stopped

end

/-- What holds of the requests relayed so far, for every client. -/
structure RelaySound (X : Server) (requests : List RelayedRequest) (w : World) : Prop where
  /-- Nothing is relayed before the client has chosen its mechanism. -/
  first : w.conn.state = .awaitHandshake → requests = []
  scram : isSCRAMMechanism w.conn.clientMechanism = true → ∃ done last replies,
    requests = done ++ last ∧ RelayProgress X w done last replies

/-- What is relayed is relayed in a state that may. -/
theorem mayRelay_of_relayedIn {X : Server} {w : World} {next : Input}
    {request : RelayedRequest} (h : relayedIn X w next = some request) : MayRelay w := by
  cases next with
  | admin op => cases h
  | frame bytes net => exact (relayedIn_eq_some.mp h).2.1

/-- A step that relays nothing. -/
theorem RelaySound.step_none {X : Server} {w : World} {requests : List RelayedRequest}
    {next : Input} (h : RelaySound X requests w) (hsound : Sound X.codec w.conn)
    (hnone : relayedIn X w next = none) : RelaySound X requests (w.step X next) := by
  refine ⟨fun hstate => h.first (step_awaitHandshake hstate), ?_⟩
  intro hscram
  cases next with
  | admin op =>
      obtain ⟨done, last, replies, hrequests, hprogress⟩ := h.scram hscram
      exact ⟨done, last, replies, hrequests, hprogress.same rfl rfl id⟩
  | frame bytes net =>
      cases hstop : w.stopped with
      | some stop =>
          rw [step_stopped hstop] at hscram ⊢
          exact h.scram hscram
      | none =>
          obtain ⟨⟨hsent, hread⟩, hbefore⟩ := relayedIn_none_step hsound hstop hscram hnone
          rcases hbefore with hmech | hfirst
          · obtain ⟨done, last, replies, hrequests, hprogress⟩ := h.scram hmech
            exact ⟨done, last, replies, hrequests, hprogress.same hsent hread fun _ => hstop⟩
          · -- The client has just chosen SCRAM, and there is no upstream connection yet.
            have hup : w.conn.upstream = none := hsound.fresh (Or.inl hfirst)
            exact ⟨[], [], [], h.first hfirst, .start (hsent.trans (sentPayloads_none hup))
              (hread.trans (readReplies_none X.codec hup))⟩

/-- A step that relays a request. -/
theorem RelaySound.step_some {X : Server} {w : World} {requests : List RelayedRequest}
    {next : Input} {request : RelayedRequest} (h : RelaySound X requests w)
    (hsound : Sound X.codec w.conn) (hsome : relayedIn X w next = some request) :
    RelaySound X (requests ++ [request]) (w.step X next) := by
  obtain ⟨hopen, hmech, hstate⟩ := mayRelay_of_relayedIn hsome
  refine ⟨?_, ?_⟩
  · intro hfirst
    rw [step_awaitHandshake hfirst] at hstate
    simp at hstate
  · intro _
    obtain ⟨done, last, replies, rfl, hprogress⟩ := h.scram hmech
    exact hprogress.step hopen (relayedIn_step hsound hsome)

/-- The relay is sound at every point of a run. -/
theorem relaySound_run (X : Server) (r : MemoryResolver) (inputs : List Input) :
    RelaySound X (relayedRequests X (World.start r) inputs)
      (World.run X (World.start r) inputs) := by
  induction inputs using List.reverseRecOn with
  | nil => exact ⟨fun _ => rfl, fun _ => ⟨[], [], [], rfl, .start rfl rfl⟩⟩
  | append_singleton inputs next ih =>
      have hsound : Sound X.codec (World.run X (World.start r) inputs).conn :=
        sound_run X r inputs
      rw [run_concat, relayedRequests_concat]
      cases hrelayed : relayedIn X (World.run X (World.start r) inputs) next with
      | none =>
          rw [Option.toList_none, List.append_nil]
          exact ih.step_none hsound hrelayed
      | some request => exact ih.step_some hsound hrelayed

/-! ### What the client reads -/

/-- What the two functions make of a reply. -/
def relayedResponse (resp : SASLAuthenticateResponse) : SASLAuthenticateResponse where
  errorCode := resp.errorCode
  errorMessage :=
    if resp.errorMessage.getD [] = [] then none else some (resp.errorMessage.getD [])
  saslAuthBytes := resp.saslAuthBytes

/-- The two things that get lost: a session lifetime, and an empty error message. -/
theorem relayedResponse_eq_self_iff (resp : SASLAuthenticateResponse) :
    relayedResponse resp = resp ↔
      resp.sessionLifetimeMillis = 0 ∧ resp.errorMessage ≠ some [] := by
  obtain ⟨code, msg, bytes, lifetime⟩ := resp
  have hmessage : (if msg.getD [] = [] then none else some (msg.getD [])) = msg ↔
      msg ≠ some [] := by
    cases msg with
    | none => simp
    | some m => by_cases hm : m = [] <;> simp [hm]
  simp only [relayedResponse, SASLAuthenticateResponse.mk.injEq, true_and, hmessage]
  constructor
  · rintro ⟨hmsg, hlifetime⟩
    exact ⟨hlifetime.symm, hmsg⟩
  · rintro ⟨hlifetime, hmsg⟩
    exact ⟨hmsg, hlifetime.symm⟩

/-- A response whose fields have lengths that the wire can carry. -/
def SaslFits (resp : SASLAuthenticateResponse) : Prop :=
  (∀ msg ∈ resp.errorMessage, msg.length ≤ maxString) ∧ resp.saslAuthBytes.length ≤ maxInt32

/-- The response to the client fits when the broker's did. -/
theorem SaslFits.relayedResponse {resp : SASLAuthenticateResponse} (h : SaslFits resp) :
    SaslFits (relayedResponse resp) := by
  refine ⟨?_, h.2⟩
  obtain ⟨code, msg, bytes, lifetime⟩ := resp
  intro m hm
  cases msg with
  | none => simp [Proofs.relayedResponse] at hm
  | some m' =>
      have hm' : m' = m := by
        by_cases hempty : m' = [] <;> simp [Proofs.relayedResponse, hempty] at hm
        exact hm
      exact hm' ▸ h.1 m' rfl

/-- What kmsg does with SaslAuthenticate responses: it reads fields of lengths that fit, and
what fits is read back in the versions 1 and 2. -/
structure SaslLawful (K : Codec) : Prop where
  fits : ∀ {body resp}, K.readSASLAuthenticateResponse 1 body = .ok resp → SaslFits resp
  reads : ∀ {version : Int16} {resp}, version = 1 ∨ version = 2 → SaslFits resp →
    K.readSASLAuthenticateResponse version (K.appendSASLAuthenticateResponse version resp) =
      .ok resp

/-- What fits the wire format of the versions before the flexible ones. -/
theorem fits_saslAuthenticateResponse {version : Int16} (hversion : ¬ version < 1)
    (resp : SASLAuthenticateResponse) :
    (saslAuthenticateResponseFormat version).Fits resp ↔ SaslFits resp := by
  rw [saslAuthenticateResponseFormat, Format.fits_iso, Format.fits_pair, Format.fits_pair,
    Format.fits_pair, Format.fits_since, if_pos hversion]
  constructor
  · rintro ⟨-, hmsg, hbytes, -⟩
    exact ⟨hmsg, hbytes⟩
  · rintro ⟨hmsg, hbytes⟩
    exact ⟨trivial, hmsg, hbytes, trivial⟩

/-- The codec of the two SASL messages is one. -/
theorem sasl_lawful : SaslLawful Codec.sasl where
  fits := by
    intro body resp h
    have hdecode : (saslAuthenticateResponseFormat 1).decode body = .ok resp :=
      (readSASLAuthenticateResponse_eq 1 body).symm.trans h
    exact (fits_saslAuthenticateResponse (by decide) resp).mp (Format.fits_of_decode hdecode)
  reads := by
    intro version resp hversion hfits
    have hone : ¬ version < 1 := by rcases hversion with rfl | rfl <;> decide
    show readSASLAuthenticateResponse version (appendSASLAuthenticateResponse version resp) = _
    rw [readSASLAuthenticateResponse_eq, appendSASLAuthenticateResponse_eq]
    exact ((saslAuthenticateResponseFormat version).decode_append_iff resp).mpr
      ((fits_saslAuthenticateResponse hone resp).mpr hfits)

/-- What the client reads in the answer to a request. -/
theorem clientReads_answered {X : Server} {request : RelayedRequest}
    {reply : SASLAuthenticateResponse} (hlawful : SaslLawful X.codec)
    (h : AnsweredWith X request reply) (hfits : SaslFits reply)
    (hversion : request.hdr.apiVersion = 1 ∨ request.hdr.apiVersion = 2) :
    clientReads X request = some (relayedResponse reply) := by
  have hanswer : request.answer = some (encodeResponse
      (X.codec.appendSASLAuthenticateResponse request.hdr.apiVersion (relayedResponse reply))
      request.hdr.correlationID request.hdr.apiKey request.hdr.apiVersion) := h
  rw [clientReads, hanswer, Option.bind_some, drop_encodeResponse,
    hlawful.reads hversion hfits.relayedResponse]
  rfl

/-- The replies of a connection were decoded from frames. -/
theorem fits_of_mem_readReplies {K : Codec} (hlawful : SaslLawful K) {c : Conn}
    {reply : SASLAuthenticateResponse} (h : reply ∈ readReplies K c) : SaslFits reply := by
  cases hup : c.upstream with
  | none =>
      rw [readReplies_none K hup] at h
      cases h
  | some up =>
      rw [readReplies_some K hup] at h
      obtain ⟨frame, -, hreply⟩ := List.mem_filterMap.mp h
      exact hlawful.fits (toOption_eq_some.mp hreply)

/-- Answered requests, in terms of what the client reads. -/
theorem map_clientReads {X : Server} (hlawful : SaslLawful X.codec)
    {done : List RelayedRequest} {replies : List SASLAuthenticateResponse}
    (h : List.Forall₂ (AnsweredWith X) done replies) :
    (∀ reply ∈ replies, SaslFits reply) →
    (∀ request ∈ done, request.hdr.apiVersion = 1 ∨ request.hdr.apiVersion = 2) →
      done.map (clientReads X) = replies.map fun reply => some (relayedResponse reply) := by
  induction h with
  | nil => exact fun _ _ => rfl
  | cons hanswer _ ih =>
      intro hfits hversions
      rw [List.forall_mem_cons] at hfits hversions
      rw [List.map_cons, List.map_cons, ih hfits.2 hversions.2,
        clientReads_answered hlawful hanswer hfits.1 hversions.1]

section
variable {X : Server} {w : World} {done last : List RelayedRequest}
variable {replies : List SASLAuthenticateResponse}

/-- The answered requests are the ones that are done. -/
theorem RelayProgress.answered (h : RelayProgress X w done last replies) :
    answered (done ++ last) = done := by
  have hdone : ∀ {done : List RelayedRequest} {replies : List SASLAuthenticateResponse},
      List.Forall₂ (AnsweredWith X) done replies →
      ∀ request ∈ done, request.answer.isSome = true := by
    intro done replies hanswers
    induction hanswers with
    | nil => simp
    | cons hanswer _ ih =>
        refine List.forall_mem_cons.mpr ⟨?_, ih⟩
        rw [show _ = some _ from hanswer]
        rfl
  have hlast : last.filter (fun request => request.answer.isSome) = [] := by
    refine List.filter_eq_nil_iff.mpr fun request hrequest => ?_
    rw [h.silent request hrequest]
    simp
  unfold Proofs.answered
  rw [List.filter_append, hlast, List.append_nil]
  exact List.filter_eq_self.mpr (hdone h.answers)

/-- What was passed on are the broker's replies. -/
theorem RelayProgress.passedOn (h : RelayProgress X w done last replies) :
    passedOn X (done ++ last) w.conn = replies := by
  unfold Proofs.passedOn
  rw [h.answered, h.answers.length_eq]
  exact (List.prefix_iff_eq_take.mp h.read).symm

end

/-- The relay of a SCRAM client is verbatim exactly when no reply that was passed on had a
session lifetime or an empty error message. -/
theorem relayVerbatim_iff (X : Server) (hlawful : SaslLawful X.codec) (r : MemoryResolver)
    (inputs : List Input)
    (hscram : isSCRAMMechanism (World.run X (World.start r) inputs).conn.clientMechanism = true)
    (hversions : ∀ request ∈ relayedRequests X (World.start r) inputs,
      request.hdr.apiVersion = 1 ∨ request.hdr.apiVersion = 2) :
    RelayVerbatim X (relayedRequests X (World.start r) inputs)
        (World.run X (World.start r) inputs) ↔
      ∀ reply ∈ passedOn X (relayedRequests X (World.start r) inputs)
          (World.run X (World.start r) inputs).conn,
        reply.sessionLifetimeMillis = 0 ∧ reply.errorMessage ≠ some [] := by
  obtain ⟨done, last, replies, hrequests, hprogress⟩ := (relaySound_run X r inputs).scram hscram
  rw [hrequests] at hversions ⊢
  have hfits : ∀ reply ∈ replies, SaslFits reply := fun reply hreply =>
    fits_of_mem_readReplies hlawful (hprogress.read.subset hreply)
  have hreads : done.map (clientReads X) =
      replies.map fun reply => some (relayedResponse reply) :=
    map_clientReads hlawful hprogress.answers hfits fun request hrequest =>
      hversions request (List.mem_append_left last hrequest)
  have hanswered := hprogress.answered
  have hpassed := hprogress.passedOn
  have hclient : (answered (done ++ last)).map (clientReads X) =
      (passedOn X (done ++ last) (World.run X (World.start r) inputs).conn).map some ↔
      ∀ reply ∈ replies, reply.sessionLifetimeMillis = 0 ∧ reply.errorMessage ≠ some [] := by
    rw [hanswered, hpassed, hreads, List.map_inj_left]
    simp only [Option.some.injEq, relayedResponse_eq_self_iff]
  rw [hpassed]
  constructor
  · exact fun hverbatim => hclient.mp hverbatim.client
  · intro hplain
    refine ⟨?_, ?_, hclient.mpr hplain⟩
    · intro hopen
      rw [hanswered, (hprogress.serving hopen).1, List.append_nil]
    · rw [hanswered]
      exact ⟨hprogress.sent, hprogress.only⟩

/-- A broker that accepts the handshake and answers the rounds with `replies`. -/
def replyingBroker (replies : List SASLAuthenticateResponse) : Peer where
  reply
    | 0 => some (appendInt32 1 ++ appendInt16 0 ++ appendInt32 0)
    | 1 => some (appendInt32 2 ++ Kmsg.appendSASLHandshakeResponse ⟨0, []⟩)
    | i + 2 => replies[i]?.map fun resp =>
        appendInt32 (Int32.ofNat (i + 3)) ++ Kmsg.appendSASLAuthenticateResponse 1 resp
  fault := fun _ => none

/-- A SCRAM client that sends `payloads`, in version 1, to a broker that answers with
`replies`. -/
def relayClient (payloads : List String) (replies : List SASLAuthenticateResponse) :
    List Input :=
  let net : Net := { dial := fun _ => .ok (replyingBroker replies) }
  .frame (requestFrame saslHandshakeKey 1 1 (appendString mechanismSCRAMSHA256)) net ::
    payloads.map fun payload =>
      .frame (requestFrame saslAuthenticateKey 1 2 (appendBytes (goString payload))) net

/-- An exchange whose second message is rejected with a text. Three requests are relayed. -/
theorem relayVerbatim_iff_acme :
    let inputs := relayClient
      ["n,,n=acme,r=abc", "c=biws,r=abcdef,p=d3Jvbmc=", "c=biws,r=abcdef,p=cHJvb2Y="]
      [⟨0, none, goString "r=abcdef,s=c2FsdA==,i=4096", 0⟩,
        ⟨58, some (goString "invalid credentials"), [], 0⟩, ⟨0, none, goString "v=c2ln", 0⟩]
    let requests := relayedRequests relayServer (World.start acmeTable) inputs
    requests.length = 3 ∧ RelayVerbatim relayServer requests
      (World.run relayServer (World.start acmeTable) inputs) := by
  intro inputs requests
  refine ⟨by decide +kernel, ?_⟩
  refine (relayVerbatim_iff relayServer sasl_lawful acmeTable inputs ?_ ?_).mpr ?_
  · decide +kernel
  · decide +kernel
  · decide +kernel

/-- A broker that limits its sessions to an hour, and sends an empty error message. The client
is told of neither. -/
theorem sessionLifetime_dropped :
    let inputs := relayClient ["n,,n=acme,r=abc", "c=biws,r=abcdef,p=cHJvb2Y="]
      [⟨0, none, goString "r=abcdef,s=c2FsdA==,i=4096", 0⟩,
        ⟨0, some [], goString "v=c2ln", 3600000⟩]
    let w := World.run relayServer (World.start acmeTable) inputs
    let requests := relayedRequests relayServer (World.start acmeTable) inputs
    passedOn relayServer requests w.conn =
        [⟨0, none, goString "r=abcdef,s=c2FsdA==,i=4096", 0⟩,
          ⟨0, some [], goString "v=c2ln", 3600000⟩] ∧
      requests.map (clientReads relayServer) =
        [some ⟨0, none, goString "r=abcdef,s=c2FsdA==,i=4096", 0⟩,
          some ⟨0, none, goString "v=c2ln", 0⟩] ∧
      ¬ RelayVerbatim relayServer requests w := by
  intro inputs w requests
  refine ⟨by decide +kernel, by decide +kernel, ?_⟩
  intro hverbatim
  have hclient := hverbatim.client
  revert hclient
  decide +kernel

end Kroxy.Proofs
