import Kroxy.Lib.Fails
import Kroxy.Proofs.AuthGate
import Kroxy.Proofs.Goroutines
import Kroxy.Proofs.Replies

/-!
# `Kroxy.Proofs.Crash`: what brings the process down

Nothing in the proxy recovers from a panic, so a panic in the goroutine of one client ends the
service of all of them. `process_down_iff` says at which events that happens. The goroutine has
read a whole frame, and

* the header of the frame makes `ParseRequestHeader` or the slice behind it go out of range, or
* the frame is a request that is rewritten, and the upstream answers it with a bare correlation
  id where the response header is longer (`BareAnswer`), or
* the instruments are on, and the turn ends with a tenant whose id the metrics library does not
  take for a label value (`Metered.UnlabelledFrame`). Nothing checks the ids before.

Nothing else a client, a broker or an administrator does is on the list: no dial and no relayed
round of a SASL exchange panics, whatever comes back, and `c.upstream` is not nil where it is
used.
-/

set_option autoImplicit false

namespace Kroxy.Proofs

open Kroxy.Go
open Kroxy.Lib
open Kroxy.Kmsg
open Kroxy.Protocol
open Kroxy.Auth
open Kroxy.Rewrite
open Kroxy.Proxy
open Kroxy.Resolver
open Kroxy.Observability
open Kroxy.Upstream (Message Packet Dialled headerLength afterHeader)

/-! ### Panics of the Go primitives -/

section
variable {σ α : Type} {s : σ}

/-- Wrapping an error makes no panic and hides none. -/
@[simp] theorem panics_wrapErr {fn : String} {x : GoM σ α} :
    Fails .panic (wrapErr fn x) s ↔ Fails .panic x s := by
  unfold Fails wrapErr
  cases x s with
  | ok a s' => simp
  | error stop s' => cases stop <;> simp [Stop.wrap]

/-- `wrapErr` leaves a result alone. -/
theorem wrapErr_eq_ok {fn : String} {x : GoM σ α} {a : α} {s' : σ} :
    wrapErr fn x s = .ok a s' ↔ x s = .ok a s' := by
  unfold wrapErr
  cases x s <;> simp

/-- An error is not a panic. -/
@[simp] theorem panics_fail {msg : GoString} :
    Fails .panic (fail msg : GoM σ α) s ↔ False := by
  simp [fail]

/-- Nor is an error of a pure function. -/
@[simp] theorem panics_liftErr {fn : String} {r : Except GoError α} :
    Fails .panic (liftErr fn r : GoM σ α) s ↔ False := by
  cases r <;> simp [liftErr]

/-- A lifted result leaves the state as it was. -/
theorem liftErr_eq_ok {fn : String} {r : Except GoError α} {a : α} {s' : σ}
    (h : (liftErr fn r : GoM σ α) s = .ok a s') : s' = s ∧ r = .ok a := by
  cases r with
  | ok b =>
      cases h
      exact ⟨rfl, rfl⟩
  | error e => cases h

end

/-! ### The upstream connection -/

section
variable {c : Upstream.Conn}

/-- `RoundTrip` checks the length of a reply before it reads its correlation id. -/
theorem panics_roundTrip (reqFrame : Bytes) (cid : Int32) :
    ¬ Fails .panic (Upstream.roundTrip reqFrame cid) c := by
  unfold Upstream.roundTrip
  split
  · simp
  · refine not_fails_bind ?_ (by simp)
    rintro ⟨c', hrun⟩
    exact ((timedExchange_reply _ _ _ (fun _ => rfl) c).of_error hrun).1 rfl

/-- `RoundTripRequest` panics on the bare replies to requests with a flexible response
header. -/
theorem panics_roundTripRequest (msg : Message) (clientID : GoString) :
    Fails .panic (Upstream.roundTripRequest msg clientID) c ↔
      BareReply c 3 msg.key msg.version := by
  have hends := timedExchange_reply "RoundTripRequest" "short response"
    (fun cid => .formatted msg cid clientID) (fun _ => rfl) c
  unfold Upstream.roundTripRequest
  rw [fails_bind]
  constructor
  · rintro (⟨c', hrun⟩ | ⟨frame, c', hrun, hslice⟩)
    · exact absurd rfl (hends.of_error hrun).1
    · have hframe := hends.of_ok hrun
      obtain ⟨c'', hslice⟩ := hslice
      rw [afterHeader_reply _ _ hframe.long] at hslice
      split at hslice
      · rename_i hbare
        exact ⟨hbare.1, frame, hframe, hbare.2⟩
      · cases hslice
  · rintro ⟨hversion, reply, hreply, hfour⟩
    cases hrun : Upstream.timedExchange "RoundTripRequest" "short response"
        (fun cid => .formatted msg cid clientID) c with
    | error stop c' => exact absurd hreply ((hends.of_error hrun).2 reply)
    | ok frame c' =>
        have hframe : Answers c 3 (c.corrIDGen + 1) frame := hends.of_ok hrun
        have hlen : frame.length = 4 := hreply.eq_of_incoming hframe.next ▸ hfour
        refine Or.inr ⟨frame, c', rfl, c', ?_⟩
        rw [afterHeader_reply _ _ hframe.long, if_pos ⟨hversion, hlen⟩]

/-- `directRoundTrip` does not panic where the response header is the short one. -/
theorem panics_directRoundTrip {msg : Message} {apiKey apiVersion : Int16}
    (hheader : ¬ responseHeaderVersion apiKey apiVersion ≥ 1) :
    ¬ Fails .panic (Upstream.directRoundTrip msg apiKey apiVersion) c := by
  have hends := directExchange_reply msg c
  have hbind : Upstream.directRoundTrip msg apiKey apiVersion =
      directExchange msg >>= afterHeader apiKey apiVersion := (bind_assoc _ _ _).symm
  rw [hbind, fails_bind]
  rintro (⟨c', hrun⟩ | ⟨frame, c', hrun, c'', hslice⟩)
  · exact (hends.of_error hrun).1 rfl
  · rw [afterHeader_reply _ _ (hends.of_ok hrun).long, if_neg (fun h => hheader h.1)] at hslice
    cases hslice

/-- A network call fails with an error. -/
theorem panics_netCall : ¬ Fails .panic Upstream.netCall c := by
  rintro ⟨c', hrun⟩
  exact ((netCall_reply c).of_error hrun).1 rfl

/-- `RelaySASLAuthenticate` does not panic. -/
theorem panics_relaySASLAuthenticate (K : Codec) (payload : Bytes) :
    ¬ Fails .panic (Upstream.relaySASLAuthenticate K payload) c := by
  refine not_fails_bind (panics_wrapErr.not.mpr panics_netCall) fun _ _ => ?_
  refine not_fails_bind ?_ fun _ _ => not_fails_bind (by simp) (by simp)
  simpa using panics_directRoundTrip (by decide)

/-- A SCRAM round does not panic. -/
theorem panics_scramRound (K : Codec) (clientMsg : Bytes) :
    ¬ Fails .panic (Upstream.scramRound K clientMsg) c := by
  refine not_fails_bind (by simpa using panics_relaySASLAuthenticate K clientMsg) fun r _ => ?_
  split <;> simp [Upstream.upstreamError]

/-- The session with the broker has any number of rounds, and none of them panics. -/
theorem panics_scramRounds (K : Codec) (turn : ScramTurn) :
    ¬ Fails .panic (Upstream.scramRounds K turn) c := by
  induction turn generalizing c with
  | failed e => simp [Upstream.scramRounds]
  | done next =>
      unfold Upstream.scramRounds
      split
      · exact not_fails_bind (panics_scramRound K next) (by simp)
      · simp
  | send clientMsg challenge ih =>
      exact not_fails_bind (panics_scramRound K clientMsg) fun serverMsg _ => ih serverMsg

/-- Nor does a session, however many rounds it has. -/
theorem panics_scramAuthenticate (K : Codec) (S : ScramClient) (mech user pass : GoString) :
    ¬ Fails .panic (Upstream.scramAuthenticate K S mech user pass) c := by
  unfold Upstream.scramAuthenticate
  split
  · rw [fails_get_bind]
    refine not_fails_bind (by simp) fun p _ => ?_
    exact panics_scramRounds K _
  · simp

/-- `plainAuthenticate` does not panic. -/
theorem panics_plainAuthenticate (K : Codec) (user pass : GoString) :
    ¬ Fails .panic (Upstream.plainAuthenticate K user pass) c := by
  refine not_fails_bind (by simpa using panics_directRoundTrip (by decide)) fun body _ => ?_
  refine not_fails_bind (by simp) fun resp _ => ?_
  split <;> simp [Upstream.upstreamError]

/-- Nor does the negotiation before it. -/
theorem panics_negotiate (K : Codec) (mech : GoString) :
    ¬ Fails .panic (Upstream.negotiate K mech) c := by
  refine not_fails_bind (panics_wrapErr.not.mpr panics_netCall) fun _ _ =>
    not_fails_bind ?_ fun _ _ => ?_
  · rw [panics_wrapErr]
    refine not_fails_bind ?_ (by simp)
    simpa using panics_directRoundTrip (by decide)
  · rw [panics_wrapErr]
    refine not_fails_bind (by simpa using panics_directRoundTrip (by decide)) fun body _ => ?_
    refine not_fails_bind (by simp) fun resp _ => ?_
    split <;> simp

end

/-- A dial panics when its program does. -/
theorem dialWith_ne_panic {fn : String} {link : Except GoError Upstream.Peer}
    {prog : GoM Upstream.Conn Unit} (h : ∀ c, ¬ Fails .panic prog c) (closed) :
    Upstream.dialWith fn link prog ≠ .failed .panic closed := by
  unfold Upstream.dialWith
  intro hdial
  split at hdial
  · cases hdial
  · rename_i peer
    split at hdial
    · cases hdial
    · rename_i stop c hrun
      cases hdial
      exact h { peer } (panics_wrapErr.mp ⟨c, hrun⟩)

/-- `DialForSCRAM` does not panic. -/
theorem dialForSCRAM_ne_panic (K : Codec) (link : Except GoError Upstream.Peer)
    (mech : GoString) (closed) :
    Upstream.dialForSCRAM K link mech ≠ .failed .panic closed := by
  unfold Upstream.dialForSCRAM
  split
  · exact dialWith_ne_panic (fun c => not_fails_bind (panics_negotiate K mech)
      fun _ _ => panics_netCall) closed
  · exact nofun

/-- No dial does. -/
theorem dialUpstream_ne_panic (X : Server) (E : Env) (c : Conn) (closed) :
    dialUpstream X E c ≠ .failed .panic closed := by
  unfold dialUpstream
  split
  · unfold Upstream.dialSCRAM
    split
    · exact dialWith_ne_panic (fun _ => not_fails_bind (panics_negotiate _ _) fun _ _ =>
        not_fails_bind (panics_scramAuthenticate _ _ _ _ _) fun _ _ => panics_netCall) closed
    · exact nofun
  · exact dialWith_ne_panic (fun _ => not_fails_bind (panics_negotiate _ _) fun _ _ =>
      not_fails_bind (panics_plainAuthenticate _ _ _) fun _ _ => panics_netCall) closed

/-! ### The handlers -/

/-- The answer to a rewritten request is a bare correlation id where more is due. -/
def BareAnswer (X : Server) (E : Env) (hdr : RequestHeader) (body : Bytes) (c : Conn) : Prop :=
  c.state = .authenticated ∧ ∃ a req up, apiOf hdr.apiKey = some a ∧
    X.codec.readRequest a hdr.apiVersion body = .ok req ∧ wantsNoResponse a req = false ∧
    HasUpstream X E c up ∧ BareReply up 3 a.key hdr.apiVersion

section
variable {X : Server} {E : Env} {hdr : RequestHeader} {frame body : Bytes} {c : Conn}

/-- Writing to the client does not panic. -/
@[simp] theorem panics_writeFrame (resp : Bytes) :
    Fails .panic (writeFrame E resp) c ↔ False := by
  unfold writeFrame
  cases E.clientWrite <;> simp

/-- Nor does it with a response header in front. -/
@[simp] theorem panics_writeResponse (b : Bytes) :
    Fails .panic (writeResponse E hdr b) c ↔ False := by
  simp [writeResponse]

/-- The answer to a SaslAuthenticate request. -/
@[simp] theorem panics_authReply (resp : SASLAuthenticateResponse) :
    Fails .panic (authReply X E hdr resp) c ↔ False := by
  simp [authReply]

/-- The refusal of one. -/
@[simp] theorem panics_refuse (code : Int16) (msg : String) :
    Fails .panic (refuse X E hdr code msg) c ↔ False := by
  simp [refuse]

/-- The answer to a SaslHandshake request. -/
@[simp] theorem panics_handshakeReply (code : Int16) :
    Fails .panic (handshakeReply X E hdr code) c ↔ False := by
  simp [handshakeReply]

/-- A lookup returns an error at worst. -/
theorem panics_resolve (username : GoString) : ¬ Fails .panic (resolve E username) c := by
  unfold resolve
  cases E.resolver.get username with
  | error e => simp
  | ok tenant => exact not_fails_bind (by simp) (by simp)

/-- A call on the upstream connection panics when there is none, or when the call does. -/
theorem panics_onUpstream {α : Type} {prog : GoM Upstream.Conn α} :
    Fails .panic (onUpstream prog) c ↔
      c.upstream = none ∨ ∃ up, c.upstream = some up ∧ Fails .panic prog up := by
  unfold Fails onUpstream
  cases hup : c.upstream with
  | none => simp
  | some up => cases hrun : prog up <;> simp [hrun]

/-- `handleSaslHandshake` does not panic. -/
theorem panics_handleSaslHandshake :
    ¬ Fails .panic (handleSaslHandshake X E hdr body) c := by
  refine not_fails_bind (by simp) fun mech c' => ?_
  rw [fails_get_bind]
  split
  · simp
  · split <;> simp

/-- Nor does a PLAIN login. -/
theorem panics_handleSaslAuthenticatePlain :
    ¬ Fails .panic (handleSaslAuthenticatePlain X E hdr body) c := by
  refine not_fails_bind (by simp) fun payload c' => ?_
  rw [fails_get_bind]
  split
  · simp
  · split
    · simp
    · refine not_fails_bind (panics_resolve _) fun known c'' => ?_
      cases known <;> simp

/-- Nor does a round of the relay that has its upstream. -/
theorem panics_relayRound {payload : Bytes} (hup : c.upstream.isSome = true) :
    ¬ Fails .panic (relayRound X E hdr payload) c := by
  refine not_fails_bind ?_ fun r c' => ?_
  · rw [panics_wrapErr, panics_onUpstream]
    rintro (hnone | ⟨up, -, hpanic⟩)
    · rw [hnone] at hup
      cases hup
    · exact panics_relaySASLAuthenticate _ _ hpanic
  · dsimp only
    split <;> simp

/-- Nor does the first SCRAM message. -/
theorem panics_openRelay {payload : Bytes} : ¬ Fails .panic (openRelay X E hdr payload) c := by
  unfold openRelay
  split
  · simp
  · refine not_fails_bind (panics_resolve _) fun known c' => ?_
    cases known with
    | error e => simp
    | ok tenant =>
        simp only [fails_modify_bind, fails_get_bind]
        split
        · rename_i closed hdial
          exact absurd hdial (dialForSCRAM_ne_panic _ _ _ _)
        · simp [noteClosed]
        · rw [fails_set_bind]
          exact panics_relayRound rfl

/-- No SASL message panics. A relay in flight has its upstream connection. -/
theorem panics_handleSaslAuthenticate (hsound : Sound X.codec c) :
    ¬ Fails .panic (handleSaslAuthenticate X E hdr body) c := by
  unfold handleSaslAuthenticate
  rw [fails_get_bind]
  split
  · unfold handleSaslAuthenticateSCRAM
    rw [fails_bind]
    rintro (hlift | ⟨payload, c', hlift, hpanic⟩)
    · simp at hlift
    · -- Decoding the message leaves the connection as it was.
      obtain ⟨rfl, -⟩ := liftErr_eq_ok hlift
      rw [fails_get_bind] at hpanic
      split at hpanic
      · exact panics_openRelay hpanic
      · split at hpanic
        · rename_i hstate
          obtain ⟨up, hup, -⟩ := hsound.relaying hstate
          exact panics_relayRound (by rw [hup]; rfl) hpanic
        · simp at hpanic
  · exact panics_handleSaslAuthenticatePlain

/-! ### Forwarding -/

/-- `ensureUpstream` does not panic. -/
theorem panics_ensureUpstream : ¬ Fails .panic (ensureUpstream X E) c := by
  unfold ensureUpstream
  rw [fails_get_bind]
  split
  · simp
  · split
    · simp
    · rename_i stop closed hdial
      cases stop with
      | panic => exact absurd hdial (dialUpstream_ne_panic X E c closed)
      | err e => simp [noteClosed, Stop.wrap]

/-- A dial that succeeds becomes the upstream connection. -/
theorem ensureUpstream_of_connected {up : Upstream.Conn} (hup : c.upstream = none)
    (h : dialUpstream X E c = .connected up) :
    ensureUpstream X E c = .ok () { c with upstream := some up } := by
  unfold ensureUpstream
  rw [get_bind, if_neg (by simp [hup]), h]
  rfl

/-- The error of one that fails is passed on. -/
theorem ensureUpstream_of_failed {stop : Stop} {closed : Option Upstream.Conn}
    (hup : c.upstream = none) (h : dialUpstream X E c = .failed stop closed) :
    ensureUpstream X E c = .error (stop.wrap (goString "ensureUpstream"))
      { c with closed := c.closed ++ closed.toList } := by
  unfold ensureUpstream
  rw [get_bind, if_neg (by simp [hup]), h]
  rfl

/-- `ensureUpstream` returns with each connection a request can go to, and with no other. -/
theorem ensureUpstream_eq_ok {c' : Conn} :
    ensureUpstream X E c = .ok () c' ↔
      ∃ up, HasUpstream X E c up ∧ c' = { c with upstream := some up } := by
  unfold HasUpstream
  cases hup : c.upstream with
  | some up =>
      have hsame : { c with upstream := some up } = c := by rw [← hup]
      rw [ensureUpstream_of_isSome (by rw [hup]; rfl)]
      simp [hsame, eq_comm]
  | none =>
      cases hdial : dialUpstream X E c with
      | connected up =>
          rw [ensureUpstream_of_connected hup hdial]
          simp [eq_comm]
      | failed stop closed =>
          rw [ensureUpstream_of_failed hup hdial]
          simp

/-- Behind `ensureUpstream` a program panics on one of the connections a request can go to. -/
theorem panics_ensureUpstream_bind {fn : String} {k : GoM Conn Unit} :
    Fails .panic (wrapErr fn (ensureUpstream X E) >>= fun _ => k) c ↔
      ∃ up, HasUpstream X E c up ∧ Fails .panic k { c with upstream := some up } := by
  rw [fails_bind, panics_wrapErr]
  constructor
  · rintro (h | ⟨_, c', hok, hk⟩)
    · exact absurd h panics_ensureUpstream
    · obtain ⟨up, hup, rfl⟩ := ensureUpstream_eq_ok.mp (wrapErr_eq_ok.mp hok)
      exact ⟨up, hup, hk⟩
  · rintro ⟨up, hup, hk⟩
    exact Or.inr ⟨(), _, wrapErr_eq_ok.mpr (ensureUpstream_eq_ok.mpr ⟨up, hup, rfl⟩), hk⟩

/-- A frame that is passed on as it is brings nothing down. -/
theorem panics_forwardPassthrough :
    ¬ Fails .panic (forwardPassthrough X E hdr frame) c := by
  unfold forwardPassthrough
  rw [panics_ensureUpstream_bind]
  rintro ⟨up, -, hpanic⟩
  refine not_fails_bind ?_ (by simp) hpanic
  rw [panics_wrapErr, panics_onUpstream]
  simp [panics_roundTrip]

/-- A request that decodes is rewritten for the rest of the handler. -/
theorem readRewritten_bind {fn : String} {a : Api} {k : a.Request → GoM Conn Unit}
    {req : a.Request} (h : X.codec.readRequest a hdr.apiVersion body = .ok req) :
    (readRewritten X fn a hdr body >>= k) c =
      k (requestIn X.codec.consumer c.tenant.topicPrefix a req) c := by
  unfold readRewritten
  rw [h]
  rfl

/-- A handler panics when its body decodes and the part behind the decoding panics. -/
theorem panics_readRewritten_bind {fn : String} {a : Api} {k : a.Request → GoM Conn Unit} :
    Fails .panic (readRewritten X fn a hdr body >>= k) c ↔
      ∃ req, X.codec.readRequest a hdr.apiVersion body = .ok req ∧
        Fails .panic (k (requestIn X.codec.consumer c.tenant.topicPrefix a req)) c := by
  cases hread : X.codec.readRequest a hdr.apiVersion body with
  | ok req =>
      unfold Fails
      rw [readRewritten_bind hread]
      simp
  | error e =>
      have hnot : ¬ Fails .panic (readRewritten X fn a hdr body >>= k) c := by
        unfold readRewritten
        rw [hread]
        exact nofun
      simp [hnot]

/-- The round trip of a handler panics on a bare reply, and what follows it does not. -/
theorem panics_roundTripTyped_bind {fn : String} {a : Api} {version : Int16} {req : a.Request}
    {clientID : GoString} {up : Upstream.Conn} {k : a.Response → GoM Conn Unit}
    (hup : c.upstream = some up) (hk : ∀ resp c', ¬ Fails .panic (k resp) c') :
    Fails .panic (wrapErr fn (roundTripTyped X a version req clientID) >>= k) c ↔
      BareReply up 3 a.key version := by
  have hmsg := panics_roundTripRequest (c := up) (.api a version req) clientID
  rw [fails_bind, panics_wrapErr, roundTripTyped, fails_bind, panics_wrapErr,
    panics_onUpstream, hup]
  simp [hmsg, hk]
  rfl

/-- Writing a rewritten response does not panic. -/
theorem panics_writeRewritten {a : Api} {host : GoString} {port : Int32} {resp : a.Response} :
    ¬ Fails .panic (writeRewritten X E a hdr host port resp) c := by
  simp [writeRewritten]

/-- A handler panics when the request gets through to the upstream and is answered with a bare
correlation id. -/
def HandlerPanics (X : Server) (a : Api) (h : Handler) : Prop :=
  ∀ (hdr : RequestHeader) (body : Bytes) (c : Conn) (up : Upstream.Conn),
    c.upstream = some up →
    (Fails .panic (h hdr body) c ↔ ∃ req,
      X.codec.readRequest a hdr.apiVersion body = .ok req ∧ wantsNoResponse a req = false ∧
        BareReply up 3 a.key hdr.apiVersion)

/-- When a handler without an address panics. -/
theorem panics_relay {fn : String} {a : Api} (hacks : ∀ req, wantsNoResponse a req = false) :
    HandlerPanics X a (relay X E fn a) := by
  intro hdr body c up hup
  unfold relay
  rw [panics_readRewritten_bind]
  simp [panics_roundTripTyped_bind hup fun _ _ => panics_writeRewritten, hacks]

/-- When `handleProduce` does. -/
theorem panics_handleProduce : HandlerPanics X .produce (handleProduce X E) := by
  intro hdr body c up hup
  unfold handleProduce
  rw [panics_readRewritten_bind]
  refine exists_congr fun req => and_congr_right fun _ => ?_
  -- The rewriter does not touch the acks.
  show Fails .panic (if req.acks = 0 then _ else _ : GoM Conn Unit) c ↔ _
  by_cases hacks : req.acks = 0
  · simp [hacks, wantsNoResponse]
  · rw [if_neg hacks, panics_roundTripTyped_bind hup fun _ _ => panics_writeRewritten]
    simp [hacks, wantsNoResponse]

/-- When a handler that puts the advertised address into its response does. -/
theorem panics_addressed {fn : String} {a : Api} (hacks : ∀ req, wantsNoResponse a req = false) :
    HandlerPanics X a (fun hdr body => do
      let req ← readRewritten X fn a hdr body
      let resp ← wrapErr fn (roundTripTyped X a hdr.apiVersion req hdr.clientID)
      let (host, port) ← liftErr fn (advertised X)
      writeRewritten X E a hdr host port resp) := by
  intro hdr body c up hup
  have hk : ∀ (resp : a.Response) c', ¬ Fails .panic (do
      let (host, port) ← liftErr fn (advertised X)
      writeRewritten X E a hdr host port resp) c' := fun resp c' =>
    not_fails_bind (by simp) fun _ _ => panics_writeRewritten
  rw [panics_readRewritten_bind]
  simp [panics_roundTripTyped_bind hup hk, hacks]

/-- Every handler panics in the same case only. -/
theorem panics_handlerOf (a : Api) : HandlerPanics X a (handlerOf X E a) := by
  cases a with
  | metadata => exact panics_addressed (a := .metadata) fun _ => rfl
  | findCoordinator => exact panics_addressed (a := .findCoordinator) fun _ => rfl
  | produce => exact panics_handleProduce
  | _ => exact panics_relay fun _ => rfl

/-- The handshake requests have no rewrite handler. -/
theorem needsAuth_of_apiOf {apiKey : Int16} {a : Api} (h : apiOf apiKey = some a) :
    needsAuth apiKey = true := by
  rw [← key_of_apiOf h]
  cases a <;> decide

/-- A frame with a header panics on a bare answer only. -/
theorem panics_dispatch (hsound : Sound X.codec c) :
    Fails .panic (dispatch X E hdr frame body) c ↔ BareAnswer X E hdr body c := by
  by_cases hkey : needsAuth hdr.apiKey = true
  swap
  · -- A handshake request is handled here, and is not on the list.
    have hnot : ¬ BareAnswer X E hdr body c := by
      rintro ⟨-, a, req, up, hapi, -⟩
      exact hkey (needsAuth_of_apiOf hapi)
    refine iff_of_false ?_ hnot
    rcases needsAuth_eq_false.mp (by simpa using hkey) with h | h | h
    · unfold dispatch
      rw [if_pos h]
      simp [handleApiVersions]
    · rw [dispatch_handshake h]
      exact panics_handleSaslHandshake
    · rw [dispatch_authenticate h]
      exact panics_handleSaslAuthenticate hsound
  · simp only [needsAuth, Bool.and_eq_true, bne_iff_ne, ne_eq] at hkey
    unfold dispatch BareAnswer
    rw [if_neg hkey.1.1, if_neg hkey.1.2, if_neg hkey.2, fails_get_bind]
    by_cases hstate : c.state = .authenticated
    swap
    · rw [if_pos hstate]
      simp [hstate]
    · rw [if_neg (not_not.mpr hstate), rewriteHandler]
      cases hapi : apiOf hdr.apiKey with
      | none => simpa using panics_forwardPassthrough
      | some a =>
          show Fails .panic (forwardRewritten X E (handlerOf X E a) hdr body) c ↔ _
          rw [forwardRewritten, panics_ensureUpstream_bind]
          constructor
          · rintro ⟨up, hup, hpanic⟩
            obtain ⟨req, hread, hacks, hbare⟩ := (panics_handlerOf a hdr body _ up rfl).mp hpanic
            exact ⟨hstate, a, req, up, rfl, hread, hacks, hup, hbare⟩
          · rintro ⟨-, b, req, up, hb, hread, hacks, hup, hbare⟩
            cases hb
            exact ⟨up, hup, (panics_handlerOf a hdr body _ up rfl).mpr ⟨req, hread, hacks, hbare⟩⟩

end

/-! ### The process -/

/-- `ParseRequestHeader` panics on the frame, or the slice behind the header does. -/
def HeaderPanics (frame : Bytes) : Prop :=
  parseRequestHeader frame = .error .panic ∨
    ∃ hdr, parseRequestHeader frame = .ok hdr ∧ sliceFrom frame hdr.headerSize = .error .panic

/-- The request in the frame is answered with too little. -/
def BareAnswered (X : Server) (E : Env) (frame : Bytes) (c : Conn) : Prop :=
  ∃ hdr body, parseRequestHeader frame = .ok hdr ∧ sliceFrom frame hdr.headerSize = .ok body ∧
    BareAnswer X E hdr body c

/-- The frame makes the goroutine of its connection panic, with the instruments on or off. -/
def Fatal (X : Server) (E : Env) (on : Bool) (frame : Bytes) (c : Conn) : Prop :=
  HeaderPanics frame ∨ BareAnswered X E frame c ∨
    (on = true ∧ Metered.UnlabelledFrame X E frame c)

/-- The turn without the reports panics on two kinds of frames. -/
theorem panics_serveFrame {X : Server} {E : Env} {frame : Bytes} {c : Conn}
    (hsound : Sound X.codec c) :
    Fails .panic (serveFrame X E frame) c ↔ HeaderPanics frame ∨ BareAnswered X E frame c := by
  unfold serveFrame BareAnswered HeaderPanics
  rw [panics_wrapErr]
  cases hparse : parseRequestHeader frame with
  | error stop => simp [liftStop]
  | ok hdr =>
      show Fails .panic (liftStop (sliceFrom frame hdr.headerSize) >>= _) c ↔ _
      cases hslice : sliceFrom frame hdr.headerSize with
      | error stop => simp [liftStop, hslice]
      | ok body =>
          show Fails .panic (dispatch X E hdr frame body) c ↔ _
          rw [panics_dispatch hsound]
          simp [hslice]

/-- The event is a turn of a goroutine that has a fatal frame to read. -/
inductive Crash (X : Server) (s : Joint ServerState Client) :
    Move ClientEvent ServerEvent → Prop where
  | turn (i : Nat) (c : Client) (net : ClientNet) (frame rest : Bytes)
      (client : s.parts[i]? = some c) (phase : c.phase = .reading) (read : net.read = none)
      (polled : c.poll = some (.ok (frame, rest))) (cleared : net.clearDeadline = none)
      (fatal : Fatal X { net.toNet with resolver := s.shared.resolver }
        s.shared.metrics.isSome frame c.conn) :
      Crash X s (.own i (.turn net))

/-- A turn that takes the process down is one with a fatal frame. -/
theorem serve_eq_none {X : Server} {r : ServerState} {net : Net} {frame : Bytes} {c : Client}
    (hsound : Sound X.codec c.conn) :
    Client.serve X r net frame c = none ↔
      Fatal X { net with resolver := r.resolver } r.metrics.isSome frame c.conn := by
  have hpanics : Fails .panic (Metered.serveFrame X { net with resolver := r.resolver } frame)
      ⟨c.conn, r.metrics⟩ ↔
      Fatal X { net with resolver := r.resolver } r.metrics.isSome frame c.conn := by
    rw [Metered.panics_serveFrame_iff, panics_serveFrame hsound, or_assoc]
    rfl
  rw [← hpanics]
  unfold Client.serve Fails
  cases hrun : Metered.serveFrame X { net with resolver := r.resolver } frame
      ⟨c.conn, r.metrics⟩ with
  | ok u m => simp
  | error stop m => cases stop <;> simp

/-- A turn brings the process down at one place only: where it serves a frame. -/
theorem turn_eq_none {X : Server} {r : ServerState} {net : ClientNet} {c : Client} :
    Client.turn X r net c = none ↔ ∃ frame rest, c.phase = .reading ∧ net.read = none ∧
      c.poll = some (.ok (frame, rest)) ∧ net.clearDeadline = none ∧
      Client.serve X r net.toNet frame
        { c with inbox := rest, frames := c.frames ++ [frame] } = none := by
  unfold Client.turn
  cases hphase : c.phase with
  | started => simp
  | returned err => simp
  | looking =>
      cases r.cancelled <;> cases net.setDeadline <;> simp
  | reading =>
      cases net.read with
      | some e => simp
      | none =>
          cases c.poll with
          | none => simp
          | some got =>
              cases got with
              | error e => simp
              | ok p => cases net.clearDeadline <;> simp [Prod.ext_iff]

/-- A step brings the process down exactly when it is a crash. -/
theorem step_eq_none {X : Server} {s : Joint ServerState Client}
    (hsound : ∀ c ∈ s.parts, Sound X.codec c.conn) (e : Move ClientEvent ServerEvent) :
    (process X).step s e = none ↔ Crash X s e := by
  have hserve : ∀ c ∈ s.parts, ∀ net frame rest,
      Client.serve X s.shared net frame
        { c with inbox := rest, frames := c.frames ++ [frame] } = none ↔
      Fatal X { net with resolver := s.shared.resolver } s.shared.metrics.isSome frame c.conn :=
    fun c hc net frame rest =>
      serve_eq_none (c := { c with inbox := rest, frames := c.frames ++ [frame] }) (hsound c hc)
  constructor
  · intro h
    cases e with
    | common g => cases h
    | own i x =>
        cases hc : s.parts[i]? with
        | none => simp [System.step, hc] at h
        | some c =>
            simp only [System.step, hc, Option.map_eq_none_iff] at h
            cases x with
            | arrive bytes => cases h
            | hangUp => cases h
            | turn net =>
                obtain ⟨frame, rest, hphase, hread, hpoll, hclear, hnone⟩ := turn_eq_none.mp h
                exact .turn i c net frame rest hc hphase hread hpoll hclear
                  ((hserve c (List.mem_of_getElem? hc) _ frame rest).mp hnone)
  · rintro ⟨i, c, net, frame, rest, client, phase, read, polled, cleared, fatal⟩
    have hnone := (hserve c (List.mem_of_getElem? client) _ frame rest).mpr fatal
    have hturn : Client.turn X s.shared net c = none :=
      turn_eq_none.mpr ⟨frame, rest, phase, read, polled, cleared, hnone⟩
    simp only [System.step, client, Option.map_eq_none_iff]
    exact hturn

/-- In every state of a running server, each connection is sound. -/
theorem sound_clients {X : Server} {table : MemoryResolver} {metrics : Option Metrics}
    {es : List (Move ClientEvent ServerEvent)} {s : Joint ServerState Client}
    (h : (process X).run (listening table metrics) es = some s) :
    ∀ c ∈ s.parts, Sound X.codec c.conn := by
  intro c hc
  obtain ⟨inputs, hlived, -⟩ := client_lives h c hc
  rw [← hlived.conn]
  exact sound_run X table inputs

/-- The process goes down exactly when a goroutine reads a fatal frame: one whose header is
parsed out of range, a rewritten request whose answer is a bare correlation id, or, with the
instruments on, a request that ends under a tenant id which is no label value. -/
theorem process_down_iff (X : Server) (table : MemoryResolver) (metrics : Option Metrics)
    (es : List (Move ClientEvent ServerEvent)) :
    (process X).run (listening table metrics) es = none ↔
      ∃ pre e post s, es = pre ++ e :: post ∧
        (process X).run (listening table metrics) pre = some s ∧ Crash X s e := by
  rw [System.run_eq_none_iff]
  refine exists_congr fun pre => exists_congr fun e => exists_congr fun post => ?_
  refine exists_congr fun s => and_congr_right fun _ => and_congr_right fun hpre => ?_
  exact step_eq_none (sound_clients hpre) e

/-- One frame of one client, with a tagged field whose length takes the header to offset -8, ends
the service of the other. -/
example : ((process relayServer).run (listening acmeTable none)
    [.common .accepted, .common .accepted, .own 0 (.turn quietNet), .own 0 (.turn quietNet),
      .own 0 (.arrive ([0, 0, 0, 22, 0, 18, 0, 3, 0, 0, 0, 1, 0xff, 0xff, 1, 5] ++
        [0xe2, 0xff, 0xff, 0xff, 0xff, 0xff, 0xff, 0xff, 0xff, 1])),
      .own 0 (.turn quietNet)]).isNone = true := by decide +kernel

/-- A tenant whose id is the byte 0xff. -/
def oddTable : MemoryResolver :=
  MemoryResolver.empty.apply (.set ⟨[0xff], goString "odd.", goString "k:9"⟩)

/-- Its client logs in with PLAIN. With the instruments on, the login brings the process down, and
with the instruments off it does not. -/
example :
    let login := requestFrame saslHandshakeKey 1 1 (appendString mechanismPlain)
    let auth := requestFrame saslAuthenticateKey 1 2 (appendBytes [0, 0xff, 0, 0x70])
    let es : List (Move ClientEvent ServerEvent) :=
      [.common .accepted, .own 0 (.turn quietNet), .own 0 (.turn quietNet),
        .own 0 (.arrive ([0, 0, 0, 17] ++ login ++ [0, 0, 0, 18] ++ auth)),
        .own 0 (.turn quietNet), .own 0 (.turn quietNet), .own 0 (.turn quietNet)]
    ((process relayServer).run (listening oddTable (some {})) es).isNone = true ∧
      ((process relayServer).run (listening oddTable none) es).isSome = true := by
  decide +kernel

end Kroxy.Proofs
