import Kroxy.Proofs.Dial
import Kroxy.Proxy.Serve

/-!
# `Kroxy.Proofs.Turn`: everything one frame can do to a connection

`Turn` lists the ways the handling of one frame can change a connection, with the response
written, if one was. `dispatch_turn` proves the list complete. The invariants of a
connection follow from it by a case analysis that never looks into a handler again.

`forwardedPacket` is what goes upstream for a frame and `answerTo` is what the client gets
for the reply. Both are plain functions of the frame, the tenant's prefix and the reply.
-/

set_option autoImplicit false

namespace Kroxy.Proofs

open Kroxy.Go
open Kroxy.Lib
open Kroxy.Kmsg
open Kroxy.Protocol
open Kroxy.Auth
open Kroxy.Rewrite
open Kroxy.Proxy
open Kroxy.Upstream (Packet Peer Dialled headerLength setCorrelationID dialForSCRAM)

/-! ### What goes up and what comes back -/

/-- A Produce request that asks for no response. -/
def wantsNoResponse : (a : Api) → a.Request → Bool
  | .produce, req => req.acks == 0
  | _, _ => false

/-- What is sent upstream for a frame under a correlation id. `none` when the body does not
decode or asks for no response. -/
def forwardedPacket (X : Server) (p : GoString) (hdr : RequestHeader) (frame body : Bytes)
    (cid : Int32) : Option Packet :=
  match apiOf hdr.apiKey with
  | none => some (.raw (setCorrelationID frame cid))
  | some a =>
      match X.codec.readRequest a hdr.apiVersion body with
      | .error _ => none
      | .ok req =>
          -- `handleProduce` refuses acks=0 before the round trip.
          if wantsNoResponse a req then none
          else some (.formatted
            (.api a hdr.apiVersion (requestIn X.codec.consumer p a req)) cid hdr.clientID)

/-- The address a response carries, for the two that carry one. -/
def addressFor (X : Server) : Api → Except GoError (GoString × Int32)
  | .metadata => advertised X
  | .findCoordinator => advertised X
  | _ => .ok ([], 0)

/-- What the client gets for a reply, from what follows the correlation id in it. -/
def answerTo (X : Server) (p : GoString) (hdr : RequestHeader) (rest : Bytes) :
    Option Bytes :=
  match apiOf hdr.apiKey with
  | none => some (putBE32 hdr.correlationID.toUInt32 ++ rest)
  | some a =>
      match X.codec.readResponse a hdr.apiVersion
          (rest.drop (headerLength a.key hdr.apiVersion - 4)), addressFor X a with
      | .ok resp, .ok (host, port) =>
          some (encodeResponse (X.codec.appendResponse a hdr.apiVersion
              (responseOut X.codec.consumer p host port a resp))
            hdr.correlationID hdr.apiKey hdr.apiVersion)
      | _, _ => none

/-- What the client gets for a decoded SaslAuthenticate reply. -/
def saslAnswer (X : Server) (hdr : RequestHeader) (resp : SASLAuthenticateResponse) : Bytes :=
  encodeResponse (X.codec.appendSASLAuthenticateResponse hdr.apiVersion
      { errorCode := resp.errorCode
        errorMessage :=
          if resp.errorMessage.getD [] = [] then none else some (resp.errorMessage.getD [])
        saslAuthBytes := resp.saslAuthBytes })
    hdr.correlationID hdr.apiKey hdr.apiVersion

/-- The connection after a relayed round with error code `code`. -/
def afterRound (c : Conn) (up : Upstream.Conn) (code : Int16) : Conn :=
  if code ≠ 0 then { c with upstream := some up }
  else
    { c with
        upstream := some up
        scramRoundsCompleted := c.scramRoundsCompleted + 1
        state := if c.scramRoundsCompleted + 1 ≥ 2 then .authenticated else c.state }

/-! ### The turns -/

/-- The user name in a SaslAuthenticate payload, under the mechanism the client chose. -/
def NamesUser (c : Conn) (payload : Bytes) (username : GoString) : Prop :=
  if isSCRAMMechanism c.clientMechanism then
    parseSCRAMClientFirstUsername payload = .ok username
  else ∃ creds, parsePlain payload = .ok creds ∧ creds.username = username

/-- The error code of a SaslHandshake answer. -/
def handshakeCode (c : Conn) (mech : GoString) : Int16 :=
  if c.state ≠ .awaitHandshake then errIllegalSaslState
  else if mech ≠ mechanismPlain ∧ ¬ isSCRAMMechanism mech then errUnsupportedSaslMech
  else 0

/-- The proxy refuses a SaslAuthenticate payload with an error code and a message. -/
inductive AuthRefused (X : Server) (E : Env) (c : Conn) (payload : Bytes) :
    Int16 → String → Prop where
  /-- No mechanism was chosen, or the client is authenticated already. -/
  | state (state : c.state ≠ .awaitAuth)
      (relay : isSCRAMMechanism c.clientMechanism = true → c.state ≠ .relaySaslInFlight) :
      AuthRefused X E c payload errIllegalSaslState "SASL handshake required"
  | plain (e : GoError) (state : c.state = .awaitAuth)
      (mech : isSCRAMMechanism c.clientMechanism = false)
      (parsed : parsePlain payload = .error e) :
      AuthRefused X E c payload errSaslAuthFailed "malformed PLAIN payload"
  | clientFirst (e : GoError) (state : c.state = .awaitAuth)
      (mech : isSCRAMMechanism c.clientMechanism = true)
      (parsed : parseSCRAMClientFirstUsername payload = .error e) :
      AuthRefused X E c payload errSaslAuthFailed "malformed SCRAM client-first-message"
  /-- The resolver does not know the user name. -/
  | unknown (username : GoString) (e : GoError) (state : c.state = .awaitAuth)
      (parsed : NamesUser c payload username) (unknown : E.resolver.get username = .error e) :
      AuthRefused X E c payload errSaslAuthFailed "authentication failed"
  | unreachable (username : GoString) (tenant : Resolver.Tenant) (e : GoError)
      (closed : Option Upstream.Conn) (state : c.state = .awaitAuth)
      (mech : isSCRAMMechanism c.clientMechanism = true)
      (parsed : parseSCRAMClientFirstUsername payload = .ok username)
      (known : E.resolver.get username = .ok tenant)
      (dialled : dialForSCRAM X.codec (E.dial tenant.upstream) c.clientMechanism =
        .failed (.err e) closed) :
      AuthRefused X E c payload errSaslAuthFailed "upstream unavailable"

/-- The answers the proxy gives to the handshake requests without asking an upstream. -/
inductive OwnBody (X : Server) (E : Env) (hdr : RequestHeader) (body : Bytes) (c : Conn) :
    Bytes → Prop where
  | versions (key : hdr.apiKey = apiVersionsKey) :
      OwnBody X E hdr body c
        (X.codec.appendApiVersionsResponse hdr.apiVersion advertisedVersions)
  /-- The error code follows from the state and from the mechanism asked for. -/
  | handshake (mech : GoString) (key : hdr.apiKey = saslHandshakeKey)
      (request : X.codec.readSASLHandshakeRequest hdr.apiVersion body = .ok mech) :
      OwnBody X E hdr body c (X.codec.appendSASLHandshakeResponse hdr.apiVersion
        { errorCode := handshakeCode c mech
          supportedMechanisms := [mechanismPlain, mechanismSCRAMSHA256, mechanismSCRAMSHA512] })
  | refused (payload : Bytes) (code : Int16) (msg : String)
      (key : hdr.apiKey = saslAuthenticateKey)
      (request : X.codec.readSASLAuthenticateRequest hdr.apiVersion body = .ok payload)
      (refused : AuthRefused X E c payload code msg) :
      OwnBody X E hdr body c (X.codec.appendSASLAuthenticateResponse hdr.apiVersion
        { errorCode := code, errorMessage := some (goString msg), saslAuthBytes := [] })
  /-- PLAIN credentials with a user name the resolver knows. -/
  | accepted (payload : Bytes) (creds : PlainCredentials) (tenant : Resolver.Tenant)
      (key : hdr.apiKey = saslAuthenticateKey) (state : c.state = .awaitAuth)
      (mech : isSCRAMMechanism c.clientMechanism = false)
      (request : X.codec.readSASLAuthenticateRequest hdr.apiVersion body = .ok payload)
      (parsed : parsePlain payload = .ok creds)
      (known : E.resolver.get creds.username = .ok tenant) :
      OwnBody X E hdr body c (X.codec.appendSASLAuthenticateResponse hdr.apiVersion
        { errorCode := 0, errorMessage := none, saslAuthBytes := [] })

/-- A response of the proxy's own. -/
def OwnResponse (X : Server) (E : Env) (hdr : RequestHeader) (body : Bytes) (c : Conn)
    (out : Option Bytes) : Prop :=
  ∀ resp ∈ out, ∃ answer, OwnBody X E hdr body c answer ∧
    resp = encodeResponse answer hdr.correlationID hdr.apiKey hdr.apiVersion

/-- The upstream connection a request goes to: the one there is, or a new one. -/
def HasUpstream (X : Server) (E : Env) (c : Conn) (up : Upstream.Conn) : Prop :=
  c.upstream = some up ∨ (c.upstream = none ∧ dialUpstream X E c = .connected up)

/-- A payload was relayed, or could not be. -/
inductive RelayTurn (X : Server) (hdr : RequestHeader) (payload : Bytes) (c : Conn)
    (up : Upstream.Conn) : Option Bytes → Conn → Prop where
  | broken (up' : Upstream.Conn)
      (traffic : Quiet up up' ∨ Sends (saslPacket up payload) up up') :
      RelayTurn X hdr payload c up none { c with upstream := some up' }
  | answered (up' : Upstream.Conn) (reply : Bytes) (resp : SASLAuthenticateResponse)
      (out : Option Bytes) (round : Round (saslPacket up payload) reply up up')
      (decoded : X.codec.readSASLAuthenticateResponse 1 (reply.drop 4) = .ok resp)
      (answer : ∀ r ∈ out, r = saslAnswer X hdr resp)
      (ran : ∃ r, Upstream.relaySASLAuthenticate X.codec payload up = .ok r up' ∧
        r.errCode = resp.errorCode) :
      RelayTurn X hdr payload c up out (afterRound c up' resp.errorCode)

/-- What one frame does to the connection `c`, and the response it leads to. Without a
response the connection ends. -/
inductive Turn (X : Server) (E : Env) (hdr : RequestHeader) (frame body : Bytes) (c : Conn) :
    Option Bytes → Conn → Prop where
  /-- A handshake request changes nothing. -/
  | idle (out : Option Bytes) (own : OwnResponse X E hdr body c out)
      (key : needsAuth hdr.apiKey = false) : Turn X E hdr frame body c out c
  /-- A client request came too early. -/
  | early (key : needsAuth hdr.apiKey = true) (state : c.state ≠ .authenticated) :
      Turn X E hdr frame body c none c
  /-- The client chose a mechanism. -/
  | chose (mech : GoString) (out : Option Bytes) (own : OwnResponse X E hdr body c out)
      (key : hdr.apiKey = saslHandshakeKey) (state : c.state = .awaitHandshake) :
      Turn X E hdr frame body c out
        { c with clientMechanism := mech, state := .awaitAuth }
  /-- PLAIN credentials were accepted. -/
  | plain (payload : Bytes) (creds : PlainCredentials) (tenant : Resolver.Tenant)
      (out : Option Bytes) (own : OwnResponse X E hdr body c out)
      (key : hdr.apiKey = saslAuthenticateKey) (state : c.state = .awaitAuth)
      (mech : isSCRAMMechanism c.clientMechanism = false)
      (request : X.codec.readSASLAuthenticateRequest hdr.apiVersion body = .ok payload)
      (parsed : parsePlain payload = .ok creds)
      (known : E.resolver.get creds.username = .ok tenant) :
      Turn X E hdr frame body c out
        { c with
            resolved := c.resolved ++ [(creds.username, tenant)]
            tenant, password := creds.password, state := .authenticated }
  /-- A SCRAM client's tenant was found and its upstream could not be dialled. -/
  | undialled (payload : Bytes) (username : GoString) (tenant : Resolver.Tenant)
      (closed : Option Upstream.Conn) (out : Option Bytes) (own : OwnResponse X E hdr body c out)
      (key : hdr.apiKey = saslAuthenticateKey) (state : c.state = .awaitAuth)
      (mech : isSCRAMMechanism c.clientMechanism = true)
      (request : X.codec.readSASLAuthenticateRequest hdr.apiVersion body = .ok payload)
      (parsed : parseSCRAMClientFirstUsername payload = .ok username)
      (known : E.resolver.get username = .ok tenant)
      (only : ∀ up ∈ closed, HandshakeOnly up.log) :
      Turn X E hdr frame body c out
        { c with
            resolved := c.resolved ++ [(username, tenant)]
            tenant, closed := c.closed ++ closed.toList }
  /-- A SCRAM client's first message went to a new upstream connection. -/
  | opened (payload : Bytes) (username : GoString) (tenant : Resolver.Tenant)
      (up : Upstream.Conn) (out : Option Bytes) (c' : Conn)
      (key : hdr.apiKey = saslAuthenticateKey) (state : c.state = .awaitAuth)
      (mech : isSCRAMMechanism c.clientMechanism = true)
      (request : X.codec.readSASLAuthenticateRequest hdr.apiVersion body = .ok payload)
      (parsed : parseSCRAMClientFirstUsername payload = .ok username)
      (known : E.resolver.get username = .ok tenant)
      (handshaking : Handshaking up) (rounds : saslRounds X.codec up.log = [])
      (relayed : RelayTurn X hdr payload
        { c with
            resolved := c.resolved ++ [(username, tenant)]
            tenant, upstream := some up, state := .relaySaslInFlight } up out c')
      (dialled : dialForSCRAM X.codec (E.dial tenant.upstream) c.clientMechanism =
        .connected up) :
      Turn X E hdr frame body c out c'
  /-- A further message of a SCRAM client went upstream. -/
  | relayed (payload : Bytes) (up : Upstream.Conn) (out : Option Bytes) (c' : Conn)
      (key : hdr.apiKey = saslAuthenticateKey) (state : c.state = .relaySaslInFlight)
      (mech : isSCRAMMechanism c.clientMechanism = true)
      (request : X.codec.readSASLAuthenticateRequest hdr.apiVersion body = .ok payload)
      (upstream : c.upstream = some up)
      (relayed : RelayTurn X hdr payload c up out c') : Turn X E hdr frame body c out c'
  /-- There was no upstream to forward to. -/
  | unreachable (closed : Option Upstream.Conn) (key : needsAuth hdr.apiKey = true)
      (state : c.state = .authenticated) (upstream : c.upstream = none)
      (dialled : ∃ stop, dialUpstream X E c = .failed stop closed)
      (only : ∀ up ∈ closed, HandshakeOnly up.log) :
      Turn X E hdr frame body c none { c with closed := c.closed ++ closed.toList }
  /-- The request was not sent: it was refused, or the connection is broken. -/
  | unsent (up up' : Upstream.Conn) (key : needsAuth hdr.apiKey = true)
      (state : c.state = .authenticated) (upstream : HasUpstream X E c up)
      (quiet : Quiet up up')
      (why : forwardedPacket X c.tenant.topicPrefix hdr frame body (up.corrIDGen + 1) = none ∨
        ¬ Ready up) :
      Turn X E hdr frame body c none { c with upstream := some up' }
  /-- The request was sent and no response came of it. -/
  | failed (up up' : Upstream.Conn) (packet : Packet) (key : needsAuth hdr.apiKey = true)
      (state : c.state = .authenticated) (upstream : HasUpstream X E c up) (ready : Ready up)
      (forwarded : forwardedPacket X c.tenant.topicPrefix hdr frame body (up.corrIDGen + 1) =
        some packet)
      (packetKey : packet.key = hdr.apiKey) (sends : Sends packet up up') :
      Turn X E hdr frame body c none { c with upstream := some up' }
  /-- The request was sent and its reply went back to the client. -/
  | answered (up up' : Upstream.Conn) (packet : Packet) (reply resp : Bytes)
      (key : needsAuth hdr.apiKey = true) (state : c.state = .authenticated)
      (upstream : HasUpstream X E c up) (ready : Ready up)
      (forwarded : forwardedPacket X c.tenant.topicPrefix hdr frame body (up.corrIDGen + 1) =
        some packet)
      (packetKey : packet.key = hdr.apiKey) (round : Round packet reply up up')
      (answer : answerTo X c.tenant.topicPrefix hdr (reply.drop 4) = some resp) :
      Turn X E hdr frame body c (some resp) { c with upstream := some up' }

/-! ### Every frame takes one of these turns -/

/-- The connection after a turn with a response, which is the last frame written. -/
def Answered (X : Server) (E : Env) (hdr : RequestHeader) (frame body : Bytes)
    (c c' : Conn) : Prop :=
  ∃ resp c₁, Turn X E hdr frame body c (some resp) c₁ ∧
    c' = { c₁ with written := c₁.written ++ [resp] }

/-- The connection after an outcome with a response, which is the last frame written. -/
def Wrote (T : Option Bytes → Conn → Prop) (c' : Conn) : Prop :=
  ∃ resp c₁, T (some resp) c₁ ∧ c' = { c₁ with written := c₁.written ++ [resp] }

section
variable {X : Server} {E : Env} {hdr : RequestHeader} {frame body : Bytes} {c c₁ : Conn}
variable {T : Option Bytes → Conn → Prop}

/-- A frame that ends a handler is written, or the connection ends. -/
theorem writeFrame_ends {resp : Bytes} (h : ∀ out, (∀ r ∈ out, r = resp) → T out c₁) :
    Ends (writeFrame E resp) (fun _ => Wrote T) (fun _ => T none) c₁ := by
  unfold writeFrame
  cases E.clientWrite with
  -- The write fails, so there is no response and `serve` returns.
  | some e => exact Ends.throw (h none (by simp))
  | none => exact Ends.modify ⟨resp, c₁, h (some resp) (by simp), rfl⟩

/-- A response of the proxy's own that ends a handler. -/
theorem writeResponse_ends {b : Bytes} (hb : OwnBody X E hdr body c b)
    (h : ∀ out, OwnResponse X E hdr body c out → T out c₁) :
    Ends (writeResponse E hdr b) (fun _ => Wrote T) (fun _ => T none) c₁ := by
  refine ends_wrapErr (writeFrame_ends fun out hout => h out ?_)
  intro resp hresp
  exact ⟨b, hb, hout resp hresp⟩

/-- A frame that ends a turn. -/
theorem writeFrame_turn {resp : Bytes}
    (h : ∀ out, (∀ r ∈ out, r = resp) → Turn X E hdr frame body c out c₁) :
    Ends (writeFrame E resp) (fun _ => Answered X E hdr frame body c)
      (fun _ => Turn X E hdr frame body c none) c₁ := writeFrame_ends h

/-- A response of the proxy's own that ends a turn. -/
theorem writeResponse_turn {b : Bytes} (hb : OwnBody X E hdr body c b)
    (h : ∀ out, OwnResponse X E hdr body c out → Turn X E hdr frame body c out c₁) :
    Ends (writeResponse E hdr b) (fun _ => Answered X E hdr frame body c)
      (fun _ => Turn X E hdr frame body c none) c₁ := writeResponse_ends hb h

/-- Failing without a trace is a turn of a handshake request. -/
theorem idle_none (key : needsAuth hdr.apiKey = false) : Turn X E hdr frame body c none c :=
  .idle none (fun _ h => by cases h) key

/-- The cases of `handleSaslHandshake`. -/
theorem handleSaslHandshake_turn (key : hdr.apiKey = saslHandshakeKey) :
    Ends (handleSaslHandshake X E hdr body) (fun _ => Answered X E hdr frame body c)
      (fun _ => Turn X E hdr frame body c none) c := by
  have hauth := not_needsAuth_handshake key
  refine Ends.bind (ends_liftErr ?_ (idle_none hauth))
  intro mech hrequest
  -- The code of the answer is that of the branch taken, so each branch rewrites it.
  have hbody := OwnBody.handshake (E := E) (c := c) mech key hrequest
  unfold handshakeCode at hbody
  refine Ends.bind (Ends.get ?_)
  split
  · rename_i hstate
    rw [if_pos hstate] at hbody
    exact writeResponse_turn hbody fun out own => .idle out own hauth
  · rename_i hstate
    rw [if_neg hstate] at hbody
    split
    · rename_i hmech
      rw [if_pos hmech] at hbody
      exact writeResponse_turn hbody fun out own => .idle out own hauth
    -- Both checks passed: the mechanism is stored before the answer goes out.
    · rename_i hmech
      rw [if_neg hmech] at hbody
      exact Ends.bind (writeResponse_turn hbody fun out own =>
        .chose mech out own key (not_not.mp hstate))

/-- What `resolve` does when the resolver knows the user name, and when it does not. -/
theorem resolve_spec {Q : Except GoError Resolver.Tenant → Conn → Prop}
    {F : Stop → Conn → Prop} {username : GoString}
    (hknown : ∀ tenant, E.resolver.get username = .ok tenant →
      Q (.ok tenant) { c with resolved := c.resolved ++ [(username, tenant)] })
    (hunknown : ∀ e, E.resolver.get username = .error e → Q (.error e) c) :
    Ends (resolve E username) Q F c := by
  unfold resolve
  cases hget : E.resolver.get username with
  | error e => exact Ends.pure (hunknown e hget)
  | ok tenant => exact Ends.bind (Ends.modify (Ends.pure (hknown tenant hget)))

/-- The cases of a PLAIN login. -/
theorem handleSaslAuthenticatePlain_turn (key : hdr.apiKey = saslAuthenticateKey)
    (mech : isSCRAMMechanism c.clientMechanism = false) :
    Ends (handleSaslAuthenticatePlain X E hdr body) (fun _ => Answered X E hdr frame body c)
      (fun _ => Turn X E hdr frame body c none) c := by
  have hauth := not_needsAuth_authenticate key
  refine Ends.bind (ends_liftErr ?_ (idle_none hauth))
  intro payload hrequest
  have hrefused : ∀ {code : Int16} {msg : String}, AuthRefused X E c payload code msg →
      Ends (refuse X E hdr code msg) (fun _ => Answered X E hdr frame body c)
        (fun _ => Turn X E hdr frame body c none) c := fun hwhy =>
    writeResponse_turn (.refused payload _ _ key hrequest hwhy)
      fun out own => .idle out own hauth
  refine Ends.bind (Ends.get ?_)
  split
  · rename_i hstate
    exact hrefused (.state hstate fun hscram => by rw [mech] at hscram; cases hscram)
  · rename_i hstate
    have state : c.state = .awaitAuth := not_not.mp hstate
    split
    · rename_i e hparsed
      exact hrefused (.plain e state mech hparsed)
    · rename_i creds hparsed
      refine Ends.bind (resolve_spec ?_ ?_)
      -- A known user name authenticates, and only then does the state change.
      · intro tenant hknown
        exact Ends.bind (Ends.modify (writeResponse_turn
          (.accepted payload creds tenant key state mech hrequest hparsed hknown)
          fun out own => .plain payload creds tenant out own key state mech hrequest hparsed
            hknown))
      · intro e hunknown
        refine hrefused (.unknown creds.username e state ?_ hunknown)
        rw [NamesUser, mech]
        exact ⟨creds, hparsed, rfl⟩

/-- A program on the upstream connection, seen from the client connection. -/
theorem onUpstream_spec {α : Type} {prog : GoM Upstream.Conn α} {up : Upstream.Conn}
    {Q : α → Conn → Prop} {F : Conn → Prop} (hup : c.upstream = some up)
    (h : Ends prog (fun a up' => Q a { c with upstream := some up' })
      (fun _ up' => F { c with upstream := some up' }) up) :
    Ends (onUpstream prog) Q (fun _ => F) c := by
  unfold Ends onUpstream
  rw [hup]
  dsimp only
  cases hrun : prog up with
  | ok a up' => exact h.of_ok hrun
  | error stop up' => exact h.of_error hrun

/-- Without an upstream connection the call panics. -/
theorem onUpstream_none {α : Type} {prog : GoM Upstream.Conn α} {Q : α → Conn → Prop}
    {F : Conn → Prop} (hup : c.upstream = none) (h : F c) :
    Ends (onUpstream prog) Q (fun _ => F) c := by
  unfold Ends onUpstream
  rw [hup]
  exact h

/-- `relayRound` takes a relay turn of the connection it is called on. -/
theorem relayRound_ends {payload : Bytes} {up : Upstream.Conn} (hup : c₁.upstream = some up)
    (h : ∀ out c', RelayTurn X hdr payload c₁ up out c' → T out c') :
    Ends (relayRound X E hdr payload) (fun _ => Wrote T) (fun _ => T none) c₁ := by
  refine Ends.bind (ends_wrapErr (onUpstream_spec hup
    ((relaySASLAuthenticate_spec X.codec payload up).withRun.imp ?_ ?_)))
  · rintro r up' ⟨⟨reply, resp, hround, hresp, rfl⟩, hran⟩
    have hturn : ∀ out, (∀ r ∈ out, r = saslAnswer X hdr resp) →
        T out (afterRound c₁ up' resp.errorCode) := fun out hout =>
      h out _ (.answered up' reply resp out hround hresp hout ⟨_, hran, rfl⟩)
    -- The error code decides here as in `afterRound`.
    unfold afterRound at hturn
    show Ends (if resp.errorCode ≠ 0 then _ else _) _ _ _
    by_cases hcode : resp.errorCode ≠ 0
    · rw [if_pos hcode] at hturn ⊢
      exact ends_wrapErr (writeFrame_ends hturn)
    · rw [if_neg hcode] at hturn ⊢
      exact Ends.bind (Ends.modify (ends_wrapErr (writeFrame_ends hturn)))
  · intro _ up' htraffic
    exact h none _ (.broken up' htraffic.1)

/-- `openRelay` refuses the first message, fails to dial for it, or relays it over the new
connection. -/
theorem openRelay_ends {payload : Bytes} (key : hdr.apiKey = saslAuthenticateKey)
    (state : c.state = .awaitAuth) (mech : isSCRAMMechanism c.clientMechanism = true)
    (request : X.codec.readSASLAuthenticateRequest hdr.apiVersion body = .ok payload)
    (refused : ∀ out, OwnResponse X E hdr body c out → T out c)
    (undialled : ∀ username tenant stop closed out,
      parseSCRAMClientFirstUsername payload = .ok username →
      E.resolver.get username = .ok tenant →
      dialForSCRAM X.codec (E.dial tenant.upstream) c.clientMechanism = .failed stop closed →
      OwnResponse X E hdr body c out →
      T out { c with
        resolved := c.resolved ++ [(username, tenant)]
        tenant, closed := c.closed ++ closed.toList })
    (opened : ∀ username tenant up out c',
      parseSCRAMClientFirstUsername payload = .ok username →
      E.resolver.get username = .ok tenant →
      dialForSCRAM X.codec (E.dial tenant.upstream) c.clientMechanism = .connected up →
      RelayTurn X hdr payload
        { c with
            resolved := c.resolved ++ [(username, tenant)]
            tenant, upstream := some up, state := .relaySaslInFlight } up out c' →
      T out c') :
    Ends (openRelay X E hdr payload) (fun _ => Wrote T) (fun _ => T none) c := by
  have hrefused : ∀ {code : Int16} {msg : String}, AuthRefused X E c payload code msg →
      OwnBody X E hdr body c _ := fun hwhy => .refused payload _ _ key request hwhy
  unfold openRelay
  split
  · rename_i e hparsed
    exact writeResponse_ends (hrefused (.clientFirst e state mech hparsed)) refused
  · rename_i username hparsed
    refine Ends.bind (resolve_spec ?_ ?_)
    · intro tenant hknown
      -- The tenant is set before the dial, so all three outcomes below have it.
      refine Ends.bind (Ends.modify (Ends.bind (Ends.get ?_)))
      dsimp only
      split
      -- The dial panicked.
      · rename_i closed hfailed
        exact Ends.bind (Ends.modify (Ends.throw
          (undialled username tenant _ closed none hparsed hknown hfailed
            (fun _ h => by cases h))))
      -- The dial failed, and the client is told so.
      · rename_i e closed hfailed
        exact Ends.bind (Ends.modify (writeResponse_ends
          (hrefused (.unreachable username tenant e closed state mech hparsed hknown hfailed))
          fun out own => undialled username tenant _ closed out hparsed hknown hfailed own))
      -- The dial succeeded, and the first message is relayed at once.
      · rename_i up hconnected
        exact Ends.bind (relayRound_ends rfl fun out c' hrelay =>
          opened username tenant up out c' hparsed hknown hconnected hrelay)
    · intro e hunknown
      refine writeResponse_ends (hrefused (.unknown username e state ?_ hunknown)) refused
      rw [NamesUser, if_pos mech]
      exact hparsed

/-- The cases of the first SCRAM message. -/
theorem openRelay_turn {payload : Bytes} (key : hdr.apiKey = saslAuthenticateKey)
    (state : c.state = .awaitAuth) (mech : isSCRAMMechanism c.clientMechanism = true)
    (request : X.codec.readSASLAuthenticateRequest hdr.apiVersion body = .ok payload) :
    Ends (openRelay X E hdr payload) (fun _ => Answered X E hdr frame body c)
      (fun _ => Turn X E hdr frame body c none) c := by
  have hdial := fun tenant : Resolver.Tenant =>
    dialForSCRAM_spec X.codec (E.dial tenant.upstream) c.clientMechanism
  refine openRelay_ends key state mech request ?_ ?_ ?_
  · exact fun out own => .idle out own (not_needsAuth_authenticate key)
  · intro username tenant stop closed out hparsed hknown hfailed own
    have hclosed := hdial tenant
    rw [hfailed] at hclosed
    exact .undialled payload username tenant closed out own key state mech request hparsed
      hknown hclosed
  · intro username tenant up out c' hparsed hknown hconnected hrelay
    have hopen := hdial tenant
    rw [hconnected] at hopen
    exact .opened payload username tenant up out c' key state mech request hparsed hknown
      hopen.1 hopen.2 hrelay hconnected

/-- The cases of any SCRAM message. -/
theorem handleSaslAuthenticateSCRAM_turn (key : hdr.apiKey = saslAuthenticateKey)
    (mech : isSCRAMMechanism c.clientMechanism = true) :
    Ends (handleSaslAuthenticateSCRAM X E hdr body) (fun _ => Answered X E hdr frame body c)
      (fun _ => Turn X E hdr frame body c none) c := by
  have hauth := not_needsAuth_authenticate key
  refine Ends.bind (ends_liftErr ?_ (idle_none hauth))
  intro payload hrequest
  refine Ends.bind (Ends.get ?_)
  split
  · rename_i hstate
    exact openRelay_turn key hstate mech hrequest
  · rename_i hstate
    split
    · rename_i hrelay
      cases hup : c.upstream with
      -- No run gets here, but this lemma does not know that yet.
      | none => exact Ends.bind (ends_wrapErr (onUpstream_none hup (idle_none hauth)))
      | some up =>
          exact relayRound_ends hup fun out c' hround =>
            .relayed payload up out c' key hrelay mech hrequest hup hround
    · rename_i hrelay
      exact writeResponse_turn
        (.refused payload _ _ key hrequest (.state hstate fun _ => hrelay))
        fun out own => .idle out own hauth

/-- The cases of a login. -/
theorem handleSaslAuthenticate_turn (key : hdr.apiKey = saslAuthenticateKey) :
    Ends (handleSaslAuthenticate X E hdr body) (fun _ => Answered X E hdr frame body c)
      (fun _ => Turn X E hdr frame body c none) c := by
  refine Ends.bind (Ends.get ?_)
  split
  · rename_i hmech
    exact handleSaslAuthenticateSCRAM_turn key hmech
  · rename_i hmech
    exact handleSaslAuthenticatePlain_turn key (by simpa using hmech)

/-! ### Forwarding -/

/-- The connection `ensureUpstream` dials is authenticated. -/
theorem dialUpstream_spec (X : Server) (E : Env) (c : Conn) :
    DialEnds (fun up => Handshaking up ∧ Accepted X.codec up.log) (dialUpstream X E c) := by
  unfold dialUpstream
  split
  · exact dialSCRAM_spec _ _ _ _ _ _
  · exact dial_spec _ _ _ _

/-- `ensureUpstream` provides the connection requests go to, or the frame ends here. -/
theorem ensureUpstream_turn (key : needsAuth hdr.apiKey = true)
    (state : c.state = .authenticated) :
    Ends (ensureUpstream X E)
      (fun _ c' => ∃ up, HasUpstream X E c up ∧ c' = { c with upstream := some up })
      (fun _ => Turn X E hdr frame body c none) c := by
  refine Ends.bind (Ends.get ?_)
  split
  -- The connection of an earlier frame is used again.
  · rename_i hsome
    obtain ⟨up, hup⟩ := Option.isSome_iff_exists.mp hsome
    refine Ends.pure ⟨up, Or.inl hup, ?_⟩
    rw [← hup]
  · rename_i hnone
    have hup : c.upstream = none := by simpa using hnone
    have hdial := dialUpstream_spec X E c
    split
    · rename_i up hconnected
      exact ⟨up, Or.inr ⟨hup, hconnected⟩, rfl⟩
    · rename_i stop closed hfailed
      rw [hfailed] at hdial
      exact Ends.bind (Ends.modify (Ends.throw
        (.unreachable closed key state hup ⟨stop, hfailed⟩ hdial)))

/-- Once the reply is there the turn is answered, or failed when the client is gone. -/
theorem answered_or_failed {up up' : Upstream.Conn} {packet : Packet} {reply resp : Bytes}
    (key : needsAuth hdr.apiKey = true) (state : c.state = .authenticated)
    (hup : HasUpstream X E c up) (ready : Ready up)
    (hpacket : forwardedPacket X c.tenant.topicPrefix hdr frame body (up.corrIDGen + 1) =
      some packet)
    (hkey : packet.key = hdr.apiKey) (hround : Round packet reply up up')
    (hanswer : answerTo X c.tenant.topicPrefix hdr (reply.drop 4) = some resp) :
    ∀ out, (∀ r ∈ out, r = resp) →
      Turn X E hdr frame body c out { c with upstream := some up' } := by
  intro out hout
  cases out with
  | none => exact .failed up up' packet key state hup ready hpacket hkey hround.sends
  | some r =>
      rw [hout r rfl]
      exact .answered up up' packet reply resp key state hup ready hpacket hkey hround hanswer

/-- Another correlation id does not change the key in a frame. -/
theorem getBE16_setCorrelationID {frame : Bytes} (hlen : 8 ≤ frame.length) (cid : Int32) :
    getBE16 (setCorrelationID frame cid) = getBE16 frame := by
  match frame, hlen with
  | a :: b :: rest, _ => rfl

/-- `forwardPassthrough` sends the frame on and its reply back. -/
theorem forwardPassthrough_turn (hlen : 8 ≤ frame.length)
    (hframe : hdr.apiKey = (getBE16 frame).toInt16) (key : needsAuth hdr.apiKey = true)
    (state : c.state = .authenticated) (hapi : apiOf hdr.apiKey = none) :
    Ends (forwardPassthrough X E hdr frame) (fun _ => Answered X E hdr frame body c)
      (fun _ => Turn X E hdr frame body c none) c := by
  refine Ends.bind (ends_wrapErr ((ensureUpstream_turn key state).imp ?_ (fun _ _ h => h)))
  rintro _ c₁ ⟨up, hup, rfl⟩
  have hpacket : forwardedPacket X c.tenant.topicPrefix hdr frame body (up.corrIDGen + 1) =
      some (.raw (setCorrelationID frame (up.corrIDGen + 1))) := by
    rw [forwardedPacket, hapi]
  have hkey : (Packet.raw (setCorrelationID frame (up.corrIDGen + 1))).key = hdr.apiKey := by
    show (getBE16 _).toInt16 = _
    rw [getBE16_setCorrelationID hlen, hframe]
  refine Ends.bind (ends_wrapErr (onUpstream_spec rfl
    ((roundTrip_spec hlen hdr.correlationID up).imp ?_ ?_)))
  · rintro resp up' ⟨reply, hready, hround, rfl⟩
    have hanswer : answerTo X c.tenant.topicPrefix hdr (reply.drop 4) =
        some (putBE32 hdr.correlationID.toUInt32 ++ reply.drop 4) := by
      rw [answerTo, hapi]
    exact writeFrame_turn
      (answered_or_failed key state hup hready hpacket hkey hround hanswer)
  -- A failed round trip: before the write, or after it.
  · rintro _ up' (⟨hready, hquiet⟩ | ⟨hready, hsends⟩)
    · exact .unsent up up' key state hup hquiet (Or.inr hready)
    · exact .failed up up' _ key state hup hready hpacket hkey hsends

/-- A handler decodes and prefixes the request, and touches nothing. -/
theorem readRewritten_spec {fn : String} {a : Api} {Q : a.Request → Conn → Prop}
    {F : Conn → Prop}
    (hok : ∀ req, X.codec.readRequest a hdr.apiVersion body = .ok req →
      Q (requestIn X.codec.consumer c.tenant.topicPrefix a req) c)
    (herr : ∀ e, X.codec.readRequest a hdr.apiVersion body = .error e → F c) :
    Ends (readRewritten X fn a hdr body) Q (fun _ => F) c := by
  unfold readRewritten
  cases hread : X.codec.readRequest a hdr.apiVersion body with
  | error e => exact Ends.bind (Ends.throw (herr e hread))
  | ok req => exact Ends.bind (Ends.pure (Ends.bind (Ends.get (Ends.pure (hok req hread)))))

/-- `roundTripTyped` sends the request and decodes the reply to it. -/
theorem roundTripTyped_spec {a : Api} {version : Int16} {req : a.Request}
    {clientID : GoString} {up : Upstream.Conn} (hup : c.upstream = some up) :
    Ends (roundTripTyped X a version req clientID)
      (fun resp c' => ∃ up' reply, c' = { c with upstream := some up' } ∧ Ready up ∧
        Round (.formatted (.api a version req) (up.corrIDGen + 1) clientID) reply up up' ∧
        X.codec.readResponse a version
          ((reply.drop 4).drop (headerLength a.key version - 4)) = .ok resp)
      (fun _ c' => ∃ up', c' = { c with upstream := some up' } ∧
        Tried (.formatted (.api a version req) (up.corrIDGen + 1) clientID) up up') c := by
  refine Ends.bind (ends_wrapErr (onUpstream_spec hup
    ((roundTripRequest_spec _ clientID up).imp ?_ ?_)))
  · rintro b up' ⟨reply, hready, hround, rfl⟩
    refine ends_liftErr ?_ ⟨up', rfl, Or.inr ⟨hready, hround.sends⟩⟩
    intro resp hresp
    rw [drop_headerLength] at hresp
    exact ⟨up', reply, rfl, hready, hround, hresp⟩
  · intro _ up' htried
    exact ⟨up', rfl, htried⟩

/-- A key with a rewrite handler is the key of its API. -/
theorem key_of_apiOf {apiKey : Int16} {a : Api} (h : apiOf apiKey = some a) :
    a.key = apiKey := by
  have hfound := List.find?_some h
  exact eq_of_beq hfound

/-- The middle of a handler: what is left after the request is decoded and before the
response is written. `k` is the rest of the handler. -/
theorem typed_turn {a : Api} {fn : String} {req : a.Request} {up : Upstream.Conn}
    {k : a.Response → GoM Conn Unit} (hapi : apiOf hdr.apiKey = some a)
    (hread : X.codec.readRequest a hdr.apiVersion body = .ok req)
    (hacks : wantsNoResponse a req = false) (key : needsAuth hdr.apiKey = true)
    (state : c.state = .authenticated) (hup : HasUpstream X E c up)
    (hk : ∀ resp reply up' packet, Ready up →
      forwardedPacket X c.tenant.topicPrefix hdr frame body (up.corrIDGen + 1) =
        some packet →
      packet.key = hdr.apiKey → Round packet reply up up' →
      X.codec.readResponse a hdr.apiVersion
        ((reply.drop 4).drop (headerLength a.key hdr.apiVersion - 4)) = .ok resp →
      Ends (k resp) (fun _ => Answered X E hdr frame body c)
        (fun _ => Turn X E hdr frame body c none) { c with upstream := some up' }) :
    Ends (wrapErr fn (roundTripTyped X a hdr.apiVersion
        (requestIn X.codec.consumer c.tenant.topicPrefix a req) hdr.clientID) >>= k)
      (fun _ => Answered X E hdr frame body c)
      (fun _ => Turn X E hdr frame body c none) { c with upstream := some up } := by
  have hpacket : forwardedPacket X c.tenant.topicPrefix hdr frame body (up.corrIDGen + 1) =
      some (.formatted (.api a hdr.apiVersion
        (requestIn X.codec.consumer c.tenant.topicPrefix a req)) (up.corrIDGen + 1)
          hdr.clientID) := by
    rw [forwardedPacket, hapi]
    simp only [hread, hacks, Bool.false_eq_true, if_false]
  refine Ends.bind (ends_wrapErr ((roundTripTyped_spec rfl).imp ?_ ?_))
  · rintro resp c₁ ⟨up', reply, rfl, hready, hround, hresp⟩
    exact hk resp reply up' _ hready hpacket (key_of_apiOf hapi) hround hresp
  · rintro _ c₁ ⟨up', rfl, ⟨hready, hquiet⟩ | ⟨hready, hsends⟩⟩
    · exact .unsent up up' key state hup hquiet (Or.inr hready)
    · exact .failed up up' _ key state hup hready hpacket (key_of_apiOf hapi) hsends

/-- The end of a handler writes the answer to the reply. -/
theorem writeRewritten_turn {a : Api} {host : GoString} {port : Int32} {resp : a.Response}
    {up up' : Upstream.Conn} {packet : Packet} {reply : Bytes}
    (hapi : apiOf hdr.apiKey = some a) (haddr : addressFor X a = .ok (host, port))
    (key : needsAuth hdr.apiKey = true) (state : c.state = .authenticated)
    (hup : HasUpstream X E c up) (ready : Ready up)
    (hpacket : forwardedPacket X c.tenant.topicPrefix hdr frame body (up.corrIDGen + 1) =
      some packet)
    (hkey : packet.key = hdr.apiKey) (hround : Round packet reply up up')
    (hresp : X.codec.readResponse a hdr.apiVersion
      ((reply.drop 4).drop (headerLength a.key hdr.apiVersion - 4)) = .ok resp) :
    Ends (writeRewritten X E a hdr host port resp) (fun _ => Answered X E hdr frame body c)
      (fun _ => Turn X E hdr frame body c none) { c with upstream := some up' } := by
  refine Ends.bind (Ends.get (writeFrame_turn
    (answered_or_failed key state hup ready hpacket hkey hround ?_)))
  rw [answerTo, hapi]
  simp only [hresp, haddr]

/-- What a handler has to do, from the connection `ensureUpstream` leaves. -/
def HandlerTurn (X : Server) (E : Env) (a : Api) (h : Handler) : Prop :=
  ∀ (hdr : RequestHeader) (frame body : Bytes) (c : Conn) (up : Upstream.Conn),
    apiOf hdr.apiKey = some a → needsAuth hdr.apiKey = true → c.state = .authenticated →
    HasUpstream X E c up →
    Ends (h hdr body) (fun _ => Answered X E hdr frame body c)
      (fun _ => Turn X E hdr frame body c none) { c with upstream := some up }

/-- A body that does not decode is not sent. -/
theorem undecoded_turn {a : Api} {up : Upstream.Conn} {e : GoError}
    (hapi : apiOf hdr.apiKey = some a) (key : needsAuth hdr.apiKey = true)
    (state : c.state = .authenticated) (hup : HasUpstream X E c up)
    (hread : X.codec.readRequest a hdr.apiVersion body = .error e) :
    Turn X E hdr frame body c none { c with upstream := some up } := by
  refine .unsent up up key state hup ⟨rfl, rfl⟩ (Or.inl ?_)
  rw [forwardedPacket, hapi]
  simp only [hread]

/-- The cases of a handler that needs no address and is answered. -/
theorem relay_turn {fn : String} {a : Api} (haddr : addressFor X a = .ok ([], 0))
    (hacks : ∀ req, wantsNoResponse a req = false) : HandlerTurn X E a (relay X E fn a) := by
  intro hdr frame body c up hapi key state hup
  refine Ends.bind (readRewritten_spec ?_ fun e => undecoded_turn hapi key state hup)
  intro req hread
  refine typed_turn hapi hread (hacks req) key state hup ?_
  intro resp reply up' packet hready hpacket hkey hround hresp
  exact writeRewritten_turn hapi haddr key state hup hready hpacket hkey hround hresp

/-- The cases of `handleProduce`, which may not be. -/
theorem handleProduce_turn : HandlerTurn X E .produce (handleProduce X E) := by
  intro hdr frame body c up hapi key state hup
  refine Ends.bind (readRewritten_spec ?_ fun e => undecoded_turn hapi key state hup)
  intro req hread
  -- The rewriter does not touch the acks.
  show Ends (if req.acks = 0 then _ else _) _ _ _
  by_cases hacks : req.acks = 0
  · rw [if_pos hacks]
    refine ends_fail (.unsent up up key state hup ⟨rfl, rfl⟩ (Or.inl ?_))
    rw [forwardedPacket, hapi]
    simp [hread, wantsNoResponse, hacks]
  · rw [if_neg hacks]
    refine typed_turn hapi hread (by simpa [wantsNoResponse] using hacks) key state hup ?_
    intro resp reply up' packet hready hpacket hkey hround hresp
    exact writeRewritten_turn hapi rfl key state hup hready hpacket hkey hround hresp

/-- Metadata and FindCoordinator: a relay that needs the advertised address. -/
theorem addressed_turn {fn : String} {a : Api} (haddr : addressFor X a = advertised X)
    (hacks : ∀ req, wantsNoResponse a req = false) :
    HandlerTurn X E a (fun hdr body => do
      let req ← readRewritten X fn a hdr body
      let resp ← wrapErr fn (roundTripTyped X a hdr.apiVersion req hdr.clientID)
      let (host, port) ← liftErr fn (advertised X)
      writeRewritten X E a hdr host port resp) := by
  intro hdr frame body c up hapi key state hup
  refine Ends.bind (readRewritten_spec ?_ fun e => undecoded_turn hapi key state hup)
  intro req hread
  refine typed_turn hapi hread (hacks req) key state hup ?_
  intro resp reply up' packet hready hpacket hkey hround hresp
  refine Ends.bind (ends_liftErr ?_
    (.failed up up' packet key state hup hready hpacket hkey hround.sends))
  rintro ⟨host, port⟩ hadv
  exact writeRewritten_turn hapi (haddr.trans hadv) key state hup hready hpacket hkey hround hresp

/-- The cases of every handler. -/
theorem handlerOf_turn (a : Api) : HandlerTurn X E a (handlerOf X E a) := by
  cases a with
  | metadata => exact addressed_turn (a := .metadata) rfl fun _ => rfl
  | findCoordinator => exact addressed_turn (a := .findCoordinator) rfl fun _ => rfl
  -- The one handler with a check between decoding and the round trip.
  | produce => exact handleProduce_turn
  | _ => exact relay_turn rfl fun _ => rfl

/-- Every frame takes one of the turns. -/
theorem dispatch_turn (hlen : 8 ≤ frame.length)
    (hframe : hdr.apiKey = (getBE16 frame).toInt16) :
    Ends (dispatch X E hdr frame body) (fun _ => Answered X E hdr frame body c)
      (fun _ => Turn X E hdr frame body c none) c := by
  unfold dispatch
  split
  · rename_i hkey
    have hauth : needsAuth hdr.apiKey = false := needsAuth_eq_false.mpr (Or.inl hkey)
    exact writeResponse_turn (.versions hkey) fun out own => .idle out own hauth
  · split
    · rename_i hkey
      exact handleSaslHandshake_turn hkey
    · split
      · rename_i hkey
        exact handleSaslAuthenticate_turn hkey
      -- None of the three handshake keys: a request of a client.
      · rename_i h₁ h₂ h₃
        have key : needsAuth hdr.apiKey = true := by simp [needsAuth, h₁, h₂, h₃]
        refine Ends.bind (Ends.get ?_)
        split
        · rename_i hstate
          exact ends_fail (.early key hstate)
        · rename_i hstate
          have state : c.state = .authenticated := not_not.mp hstate
          unfold rewriteHandler
          cases hapi : apiOf hdr.apiKey with
          | none => exact forwardPassthrough_turn hlen hframe key state hapi
          | some a =>
              refine Ends.bind (ends_wrapErr
                ((ensureUpstream_turn key state).imp ?_ (fun _ _ h => h)))
              rintro _ c₁ ⟨up, hup, rfl⟩
              exact handlerOf_turn a hdr frame body c up hapi key state hup

end

/-- A frame with a header is handled by `dispatch`. -/
theorem serveFrame_ends {X : Server} {E : Env} {hdr : RequestHeader} {frame body : Bytes}
    {c : Conn} {Q : Unit → Conn → Prop} {F : Conn → Prop}
    (hparse : parseRequestHeader frame = .ok hdr)
    (hslice : sliceFrom frame hdr.headerSize = .ok body)
    (h : Ends (dispatch X E hdr frame body) Q (fun _ => F) c) :
    Ends (serveFrame X E frame) Q (fun _ => F) c := by
  unfold serveFrame
  rw [hparse]
  refine ends_wrapErr (Ends.bind (Ends.pure ?_))
  rw [hslice]
  exact Ends.bind (Ends.pure h)

/-- `dispatch` on a SaslHandshake request. -/
theorem dispatch_handshake {X : Server} {E : Env} {hdr : RequestHeader}
    (key : hdr.apiKey = saslHandshakeKey) (frame body : Bytes) :
    dispatch X E hdr frame body = handleSaslHandshake X E hdr body := by
  unfold dispatch
  rw [key, if_neg (by decide), if_pos rfl]

/-- `dispatch` on a SaslAuthenticate request. -/
theorem dispatch_authenticate {X : Server} {E : Env} {hdr : RequestHeader}
    (key : hdr.apiKey = saslAuthenticateKey) (frame body : Bytes) :
    dispatch X E hdr frame body = handleSaslAuthenticate X E hdr body := by
  unfold dispatch
  rw [key, if_neg (by decide), if_neg (by decide), if_pos rfl]

/-- A frame with a header takes a turn. -/
theorem serveFrame_parsed {X : Server} {E : Env} {hdr : RequestHeader} {frame body : Bytes}
    (hparse : parseRequestHeader frame = .ok hdr)
    (hslice : sliceFrom frame hdr.headerSize = .ok body) (c : Conn) :
    Ends (serveFrame X E frame) (fun _ => Answered X E hdr frame body c)
      (fun _ => Turn X E hdr frame body c none) c := by
  obtain ⟨hlen, hframe, -⟩ := parseRequestHeader_eq_ok hparse
  exact serveFrame_ends hparse hslice (dispatch_turn hlen hframe)

/-- What the handling of one frame leaves. Either the frame has no header, and the
connection ends as it was, or the frame takes a turn. -/
theorem serveFrame_turn (X : Server) (E : Env) (frame : Bytes) (c : Conn) :
    Ends (serveFrame X E frame)
      (fun _ c' => ∃ hdr body, parseRequestHeader frame = .ok hdr ∧
        sliceFrom frame hdr.headerSize = .ok body ∧ Answered X E hdr frame body c c')
      (fun _ c' => c' = c ∨ ∃ hdr body, parseRequestHeader frame = .ok hdr ∧
        sliceFrom frame hdr.headerSize = .ok body ∧
        Turn X E hdr frame body c none c') c := by
  cases hparse : parseRequestHeader frame with
  | error stop =>
      unfold serveFrame
      rw [hparse]
      exact ends_wrapErr (Ends.bind (Ends.throw (Or.inl rfl)))
  | ok hdr =>
      cases hslice : sliceFrom frame hdr.headerSize with
      | error stop =>
          unfold serveFrame
          rw [hparse]
          refine ends_wrapErr (Ends.bind (Ends.pure ?_))
          rw [hslice]
          exact Ends.bind (Ends.throw (Or.inl rfl))
      | ok body =>
          refine (serveFrame_parsed hparse hslice c).imp ?_ ?_
          · intro _ c' h
            exact ⟨hdr, body, rfl, hslice, h⟩
          · intro _ c' h
            exact Or.inr ⟨hdr, body, rfl, hslice, h⟩

/-! ### Steps and runs of the world -/

/-- What a frame does to a world whose connection is still open. -/
inductive FrameStep (X : Server) (w : World) (bytes : Bytes) (net : Net) : World → Prop where
  /-- A response was written. -/
  | answered (hdr : RequestHeader) (body resp : Bytes) (c : Conn)
      (parsed : parseRequestHeader bytes = .ok hdr)
      (sliced : sliceFrom bytes hdr.headerSize = .ok body)
      (turn : Turn X { net with resolver := w.resolver } hdr bytes body w.conn (some resp) c) :
      FrameStep X w bytes net { w with conn := { c with written := c.written ++ [resp] } }
  /-- The connection ended. -/
  | ended (stop : Stop) (hdr : RequestHeader) (body : Bytes) (c : Conn)
      (parsed : parseRequestHeader bytes = .ok hdr)
      (sliced : sliceFrom bytes hdr.headerSize = .ok body)
      (turn : Turn X { net with resolver := w.resolver } hdr bytes body w.conn none c) :
      FrameStep X w bytes net { w with conn := c, stopped := some stop }
  /-- The frame had no header, and the connection ended as it was. -/
  | malformed (stop : Stop) : FrameStep X w bytes net { w with stopped := some stop }

/-- What a frame does to an open connection. -/
theorem step_frame {X : Server} {w : World} (bytes : Bytes) (net : Net)
    (hopen : w.stopped = none) : FrameStep X w bytes net (w.step X (.frame bytes net)) := by
  obtain ⟨resolver, conn, stopped⟩ := w
  cases hopen
  have hends := serveFrame_turn X { net with resolver } bytes conn
  unfold World.step
  dsimp only
  cases hrun : serveFrame X { net with resolver } bytes conn with
  -- `serveFrame` returned: there was a turn with a response, now written.
  | ok u c' =>
      obtain ⟨hdr, body, hparse, hslice, resp, c₁, hturn, rfl⟩ := hends.of_ok hrun
      exact .answered hdr body resp c₁ hparse hslice hturn
  | error stop c' =>
      rcases hends.of_error hrun with rfl | ⟨hdr, body, hparse, hslice, hturn⟩
      · exact .malformed stop
      · exact .ended stop hdr body c' hparse hslice hturn

/-- A closed connection reads no more frames. -/
theorem step_stopped {X : Server} {w : World} {stop : Stop} (h : w.stopped = some stop)
    (bytes : Bytes) (net : Net) : w.step X (.frame bytes net) = w := by
  unfold World.step
  rw [h]

/-- What holds of the connection wherever `serveFrame` ends holds after the step. -/
theorem step_ends {X : Server} {w : World} {bytes : Bytes} {net : Net} {P : Conn → Prop}
    (hopen : w.stopped = none)
    (h : Ends (serveFrame X { net with resolver := w.resolver } bytes) (fun _ => P)
      (fun _ => P) w.conn) : P (w.step X (.frame bytes net)).conn := by
  unfold World.step
  rw [hopen]
  dsimp only
  cases hrun : serveFrame X { net with resolver := w.resolver } bytes w.conn with
  | ok u c => exact h.of_ok hrun
  | error stop c => exact h.of_error hrun

/-- A run with one more input. -/
theorem run_concat (X : Server) (w : World) (inputs : List Input) (next : Input) :
    World.run X w (inputs ++ [next]) = (World.run X w inputs).step X next := by
  rw [World.run, List.foldl_append]
  rfl

/-- Induction over a run. A frame does something only while the connection is open, and then
it is one of the frame steps. -/
theorem run_induction {X : Server} {w₀ : World} {P : List Input → World → Prop}
    (start : P [] w₀)
    (admin : ∀ inputs op, P inputs (World.run X w₀ inputs) →
      P (inputs ++ [.admin op]) ((World.run X w₀ inputs).step X (.admin op)))
    (stopped : ∀ inputs bytes net stop, (World.run X w₀ inputs).stopped = some stop →
      P inputs (World.run X w₀ inputs) →
      P (inputs ++ [.frame bytes net]) (World.run X w₀ inputs))
    (frame : ∀ inputs bytes net w', (World.run X w₀ inputs).stopped = none →
      P inputs (World.run X w₀ inputs) → FrameStep X (World.run X w₀ inputs) bytes net w' →
      P (inputs ++ [.frame bytes net]) w')
    (inputs : List Input) : P inputs (World.run X w₀ inputs) := by
  induction inputs using List.reverseRecOn with
  | nil => exact start
  | append_singleton inputs next ih =>
      rw [run_concat]
      cases next with
      | admin op => exact admin inputs op ih
      | frame bytes net =>
          cases hstop : (World.run X w₀ inputs).stopped with
          | some stop =>
              rw [step_stopped hstop]
              exact stopped inputs bytes net stop hstop ih
          | none => exact frame inputs bytes net _ hstop ih (step_frame bytes net hstop)

/-- One step leaves the connection alone, or takes it through a turn and may add a frame to
the written ones. -/
theorem step_conn (X : Server) (w : World) (next : Input) :
    (w.step X next).conn = w.conn ∨ ∃ E hdr frame body out c frames,
      Turn X E hdr frame body w.conn out c ∧
        (w.step X next).conn = { c with written := frames } := by
  cases next with
  | admin op => exact Or.inl rfl
  | frame bytes net =>
      cases hstop : w.stopped with
      | some stop =>
          rw [step_stopped hstop]
          exact Or.inl rfl
      | none =>
          have hstep := step_frame (X := X) bytes net hstop
          generalize World.step X w (.frame bytes net) = w' at hstep ⊢
          cases hstep with
          | answered hdr body resp c parsed sliced turn =>
              exact Or.inr ⟨_, hdr, bytes, body, some resp, c, _, turn, rfl⟩
          | ended stop hdr body c parsed sliced turn =>
              exact Or.inr ⟨_, hdr, bytes, body, none, c, c.written, turn, rfl⟩
          | malformed stop => exact Or.inl rfl

/-- An invariant of the connection holds in every world of a run, when it holds at the start
and every turn keeps it. The history of written frames is left out of it. -/
theorem run_invariant {X : Server} {P : Conn → Prop} {w : World} (h₀ : P w.conn)
    (hturn : ∀ E hdr frame body c out c', P c → Turn X E hdr frame body c out c' → P c')
    (hwritten : ∀ c frames, P c → P { c with written := frames }) (inputs : List Input) :
    P (World.run X w inputs).conn := by
  induction inputs using List.reverseRecOn with
  | nil => exact h₀
  | append_singleton inputs next ih =>
      rw [run_concat]
      rcases step_conn X (World.run X w inputs) next with
        hsame | ⟨E, hdr, frame, body, out, c, frames, turn, hconn⟩
      · rw [hsame]
        exact ih
      · rw [hconn]
        exact hwritten c frames (hturn E hdr frame body _ out c ih turn)

end Kroxy.Proofs
