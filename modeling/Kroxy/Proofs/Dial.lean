import Kroxy.Proofs.Exchange

/-!
# `Kroxy.Proofs.Dial`: what a dial leaves on a connection

`needsAuth` separates the requests of clients from the three APIs of a handshake.
`saslRounds` reads the SaslAuthenticate rounds out of a connection's history, and `Gated`
says that client requests were sent only when the latest of them had error code 0.

A dial sends handshake messages only, whether it succeeds or not. The connection it returns
is in step, and `dial` and `dialSCRAM` return one only when the latest code is 0
(`dial_spec`, `dialSCRAM_spec`). `dialForSCRAM` returns one before any SaslAuthenticate
request (`dialForSCRAM_spec`).
-/

set_option autoImplicit false

namespace Kroxy.Proofs

open Kroxy.Go
open Kroxy.Lib
open Kroxy.Kmsg
open Kroxy.Protocol
open Kroxy.Auth
open Kroxy.Upstream

/-! ### Reading a history -/

/-- Is it the key of an API that only authenticated clients may use? -/
def needsAuth (apiKey : Int16) : Bool :=
  apiKey != apiVersionsKey && apiKey != saslHandshakeKey && apiKey != saslAuthenticateKey

/-- The keys a client may use at any time. -/
theorem needsAuth_eq_false {apiKey : Int16} :
    needsAuth apiKey = false ↔
      apiKey = apiVersionsKey ∨ apiKey = saslHandshakeKey ∨ apiKey = saslAuthenticateKey := by
  simp only [needsAuth, Bool.and_eq_false_iff, bne_eq_false_iff_eq, or_assoc]

/-- SaslHandshake comes before the login. -/
theorem not_needsAuth_handshake {apiKey : Int16} (h : apiKey = saslHandshakeKey) :
    needsAuth apiKey = false := needsAuth_eq_false.mpr (Or.inr (Or.inl h))

/-- So does SaslAuthenticate. -/
theorem not_needsAuth_authenticate {apiKey : Int16} (h : apiKey = saslAuthenticateKey) :
    needsAuth apiKey = false := needsAuth_eq_false.mpr (Or.inr (Or.inr h))

/-- The error code in a SaslAuthenticate v1 reply, `none` when it does not decode. -/
def saslCode (K : Codec) (frame : Bytes) : Option Int16 :=
  match K.readSASLAuthenticateResponse 1 (frame.drop 4) with
  | .ok resp => some resp.errorCode
  | .error _ => none

/-- The payload of a SaslAuthenticate request. -/
def saslPayload : Packet → Option Bytes
  | .formatted (.saslAuthenticate payload) _ _ => some payload
  | _ => none

/-- A SaslAuthenticate round: the payload sent, and the error code of the reply. -/
abbrev SaslRound := Bytes × Option Int16

/-- The SaslAuthenticate rounds so far, and the payload that waits for its reply when the
last request was a SaslAuthenticate. -/
structure SaslHistory where
  pending : Option Bytes := none
  rounds : List SaslRound := []

/-- The history with one more event. -/
def SaslHistory.step (K : Codec) (h : SaslHistory) : Event → SaslHistory
  | .sent packet => { h with pending := saslPayload packet }
  | .received _ frame =>
      match h.pending with
      | some payload =>
          { pending := none, rounds := h.rounds ++ [(payload, saslCode K frame)] }
      | none => h

/-- The history of a log. -/
def saslHistory (K : Codec) (log : List Event) : SaslHistory :=
  log.foldl (SaslHistory.step K) {}

/-- The SaslAuthenticate rounds of a history, oldest first. -/
def saslRounds (K : Codec) (log : List Event) : List SaslRound := (saslHistory K log).rounds

/-- The latest SaslAuthenticate reply had error code 0. -/
def Accepted (K : Codec) (log : List Event) : Prop :=
  ∃ payload, (saslRounds K log).getLast? = some (payload, some 0)

/-- Every client request was sent when the latest SaslAuthenticate reply had code 0. -/
def Gated (K : Codec) (log : List Event) : Prop :=
  ∀ pre packet, pre ++ [Event.sent packet] <+: log → needsAuth packet.key = true →
    Accepted K pre

/-- Only handshake messages were sent. -/
def HandshakeOnly (log : List Event) : Prop :=
  ∀ packet, Event.sent packet ∈ log → needsAuth packet.key = false

/-- The history of a longer log goes on from that of the shorter. -/
theorem saslHistory_append (K : Codec) (log es : List Event) :
    saslHistory K (log ++ es) = es.foldl (SaslHistory.step K) (saslHistory K log) :=
  List.foldl_append

/-- A SaslAuthenticate request and the frame read after it are one round. -/
theorem saslRounds_append_sasl (K : Codec) (log : List Event) {packet : Packet}
    {payload : Bytes} (h : saslPayload packet = some payload) (i : Nat) (frame : Bytes) :
    saslRounds K (log ++ [.sent packet, .received i frame]) =
      saslRounds K log ++ [(payload, saslCode K frame)] := by
  rw [saslRounds, saslHistory_append]
  simp [SaslHistory.step, h, saslRounds]

/-- Any other request adds no round, whatever is read after it. -/
theorem saslRounds_append_other (K : Codec) (log : List Event) {packet : Packet}
    (h : saslPayload packet = none) {tail : List Event}
    (htail : ∀ e ∈ tail, e.isSent = false) :
    saslRounds K (log ++ .sent packet :: tail) = saslRounds K log := by
  -- Nothing waits for a reply after the request, so reading leaves the rounds alone.
  have hquiet : ∀ h₀ : SaslHistory, h₀.pending = none →
      tail.foldl (SaslHistory.step K) h₀ = h₀ := by
    induction tail with
    | nil => exact fun _ _ => rfl
    | cons e tail ih =>
        intro h₀ hpending
        have hstep : SaslHistory.step K h₀ e = h₀ := by
          cases e with
          | sent packet => exact absurd (htail _ List.mem_cons_self) (by simp [Event.isSent])
          | received i frame => simp [SaslHistory.step, hpending]
        rw [List.foldl_cons, hstep]
        exact ih (fun e he => htail e (List.mem_cons_of_mem _ he)) h₀ hpending
  have hsent : (SaslHistory.step K (saslHistory K log) (.sent packet)).pending = none := h
  rw [saslRounds, saslHistory_append, List.foldl_cons, hquiet _ hsent]
  rfl

/-- A packet without a payload adds no round. -/
theorem Sends.saslRounds {packet : Packet} {c c' : Conn} (hs : Sends packet c c') (K : Codec)
    (h : saslPayload packet = none) : saslRounds K c'.log = saslRounds K c.log := by
  obtain ⟨tail, hlog, htail⟩ := hs.log
  rw [hlog]
  exact saslRounds_append_other K c.log h htail

/-- A client request carries no SaslAuthenticate payload. -/
theorem saslPayload_of_needsAuth {packet : Packet} (h : needsAuth packet.key = true) :
    saslPayload packet = none := by
  match packet with
  | .raw frame => rfl
  | .formatted .apiVersions _ _ => rfl
  | .formatted (.saslHandshake _) _ _ => rfl
  | .formatted (.saslAuthenticate _) _ _ => cases h
  | .formatted (.api _ _ _) _ _ => rfl

/-- Nothing was sent yet. -/
theorem HandshakeOnly.nil : HandshakeOnly [] := by
  intro packet h
  cases h

/-- A handshake packet may be added. -/
theorem HandshakeOnly.sends {packet : Packet} {c c' : Conn} (h : HandshakeOnly c.log)
    (hs : Sends packet c c') (hkey : needsAuth packet.key = false) : HandshakeOnly c'.log := by
  obtain ⟨tail, hlog, htail⟩ := hs.log
  intro q hq
  rw [hlog, List.mem_append, List.mem_cons] at hq
  rcases hq with hold | hnew | hread
  · exact h q hold
  · cases hnew
    exact hkey
  · exact absurd (htail _ hread) (by simp [Event.isSent])

/-- A history of handshake messages is gated. -/
theorem HandshakeOnly.gated {K : Codec} {log : List Event} (h : HandshakeOnly log) :
    Gated K log := by
  intro pre packet hpre hneeds
  have hmem : Event.sent packet ∈ log := hpre.subset (by simp)
  rw [h packet hmem] at hneeds
  cases hneeds

/-- One more event keeps a history gated when it is no client request or the latest code
is 0. -/
theorem Gated.concat {K : Codec} {log : List Event} {e : Event} (h : Gated K log)
    (hacc : ∀ packet, e = .sent packet → needsAuth packet.key = true → Accepted K log) :
    Gated K (log ++ [e]) := by
  intro pre packet hpre hneeds
  -- The request is the new event, or it was in the history before.
  rcases List.prefix_concat_iff.mp hpre with heq | hold
  · obtain ⟨rfl, he⟩ := List.append_inj' heq rfl
    exact hacc packet (List.cons.inj he).1.symm hneeds
  · exact h pre packet hold hneeds

/-- Frames that are read keep a history gated. -/
theorem Gated.append_read {K : Codec} {tail : List Event}
    (htail : ∀ e ∈ tail, e.isSent = false) :
    ∀ {log : List Event}, Gated K log → Gated K (log ++ tail) := by
  induction tail with
  | nil =>
      intro log h
      rw [List.append_nil]
      exact h
  | cons e tail ih =>
      intro log h
      have he : ∀ packet, e = .sent packet → needsAuth packet.key = true → Accepted K log := by
        intro packet heq
        have hread := htail e List.mem_cons_self
        rw [heq] at hread
        cases hread
      rw [List.append_cons]
      exact ih (fun e he => htail e (List.mem_cons_of_mem _ he)) (h.concat he)

/-- A request keeps a history gated when it is a handshake message or the latest code
is 0. -/
theorem Gated.sends {K : Codec} {packet : Packet} {c c' : Conn} (h : Gated K c.log)
    (hs : Sends packet c c') (hacc : needsAuth packet.key = true → Accepted K c.log) :
    Gated K c'.log := by
  obtain ⟨tail, hlog, htail⟩ := hs.log
  have hsent : Gated K (c.log ++ [.sent packet]) := by
    refine h.concat fun q hq hneeds => hacc ?_
    cases hq
    exact hneeds
  rw [hlog, List.append_cons]
  exact hsent.append_read htail

/-- A client request leaves the latest code as it is. -/
theorem Accepted.sends {K : Codec} {packet : Packet} {c c' : Conn} (h : Accepted K c.log)
    (hs : Sends packet c c') (hneeds : needsAuth packet.key = true) : Accepted K c'.log := by
  rw [Accepted, hs.saslRounds K (saslPayload_of_needsAuth hneeds)]
  exact h

/-! ### The handshake -/

/-- A connection during its handshake: in step, with handshake messages only. -/
structure Handshaking (c : Conn) : Prop where
  only : HandshakeOnly c.log
  inStep : ∃ n, InStep c.peer n c.log

/-- A fresh connection is in its handshake. -/
theorem Handshaking.start (peer : Peer) : Handshaking { peer } :=
  ⟨HandshakeOnly.nil, 0, InStep.start⟩

/-- It stays so when nothing is sent. -/
theorem Handshaking.quiet {c c' : Conn} (h : Handshaking c) (hq : Quiet c c') :
    Handshaking c' := by
  refine ⟨?_, ?_⟩
  · rw [hq.log]
    exact h.only
  · rw [hq.log, hq.peer]
    exact h.inStep

/-- And after a round of the handshake. -/
theorem Handshaking.round {packet : Packet} {frame : Bytes} {c c' : Conn}
    (h : Handshaking c) (hr : Round packet frame c c')
    (hkey : needsAuth packet.key = false) : Handshaking c' := by
  obtain ⟨n, hn⟩ := h.inStep
  exact ⟨h.only.sends hr.sends hkey, n + 1, (hr.inStep hn).2.2⟩

/-- The packet of a SaslAuthenticate request on a connection. -/
def saslPacket (c : Conn) (payload : Bytes) : Packet :=
  .formatted (.saslAuthenticate payload) (c.corrIDGen + 1) (goString "kroxy")

/-- A SaslAuthenticate round is recorded with the code of its reply. -/
theorem saslRounds_round (K : Codec) {c c' : Conn} {payload reply : Bytes}
    (h : Round (saslPacket c payload) reply c c') :
    saslRounds K c'.log = saslRounds K c.log ++ [(payload, saslCode K reply)] := by
  obtain ⟨i, hlog, -⟩ := h.log
  rw [hlog]
  exact saslRounds_append_sasl K c.log rfl i reply

/-- The code of a reply that decodes. -/
theorem saslCode_of_decoded {K : Codec} {reply : Bytes} {resp : SASLAuthenticateResponse}
    (hresp : K.readSASLAuthenticateResponse 1 (reply.drop 4) = .ok resp) :
    saslCode K reply = some resp.errorCode := by
  rw [saslCode, hresp]

/-- `relaySASLAuthenticate` returns what the reply to the payload decodes to. -/
theorem relaySASLAuthenticate_spec (K : Codec) (payload : Bytes) (c : Conn) :
    Ends (relaySASLAuthenticate K payload)
      (fun r c' => ∃ reply resp, Round (saslPacket c payload) reply c c' ∧
        K.readSASLAuthenticateResponse 1 (reply.drop 4) = .ok resp ∧
        r = ⟨resp.saslAuthBytes, resp.errorCode, resp.errorMessage.getD []⟩)
      (fun _ c' => Quiet c c' ∨ Sends (saslPacket c payload) c c') c := by
  refine Ends.bind (ends_wrapErr ((netCall_spec c).imp ?_ (fun _ _ h => Or.inl h.1)))
  rintro _ c₁ ⟨hquiet, hcid, -⟩
  -- Setting the deadline draws no correlation id.
  have hpacket : saslPacket c₁ payload = saslPacket c payload := by
    rw [saslPacket, hcid]
    rfl
  refine Ends.bind (ends_wrapErr ((directRoundTrip_spec _ _ _ c₁).imp ?_ ?_))
  · rintro body c₂ ⟨reply, hround, hbody⟩
    have hround' : Round (saslPacket c payload) reply c c₂ :=
      hpacket ▸ hquiet.round hround
    refine Ends.bind (ends_liftErr (E := fun c' => _) ?_ (Or.inr hround'.sends))
    intro resp hresp
    rw [hbody] at hresp
    exact Ends.pure ⟨reply, resp, hround', hresp, rfl⟩
  · intro _ c₂ hsends
    exact Or.inr (hpacket ▸ hquiet.sends hsends)

/-- An accepted SaslAuthenticate round makes 0 the latest code. -/
theorem accepted_round {K : Codec} {c c' : Conn} {payload reply : Bytes}
    {resp : SASLAuthenticateResponse} (h : Round (saslPacket c payload) reply c c')
    (hresp : K.readSASLAuthenticateResponse 1 (reply.drop 4) = .ok resp)
    (hcode : resp.errorCode = 0) : Accepted K c'.log := by
  refine ⟨payload, ?_⟩
  rw [saslRounds_round K h, List.getLast?_concat, saslCode_of_decoded hresp, hcode]

/-- A message of the handshake keeps the connection handshaking. -/
theorem handshakeRoundTrip_spec {c : Conn} (msg : Message) (apiKey apiVersion : Int16)
    (hmsg : needsAuth msg.key = false) (h : Handshaking c) :
    Ends (directRoundTrip msg apiKey apiVersion)
      (fun body c' => Handshaking c' ∧ ∃ reply,
        Round (.formatted msg (c.corrIDGen + 1) (goString "kroxy")) reply c c' ∧
        body = reply.drop (headerLength apiKey apiVersion))
      (fun _ c' => HandshakeOnly c'.log) c := by
  refine (directRoundTrip_spec msg apiKey apiVersion c).imp ?_ ?_
  · rintro body c' ⟨reply, hround, hbody⟩
    exact ⟨h.round hround hmsg, reply, hround, hbody⟩
  · intro _ c' hsends
    exact h.only.sends hsends hmsg

/-- `apiVersions` is part of the handshake and no SASL round. -/
theorem apiVersions_spec {c : Conn} (K : Codec) (h : Handshaking c) :
    Ends apiVersions
      (fun _ c' => Handshaking c' ∧ saslRounds K c'.log = saslRounds K c.log)
      (fun _ c' => HandshakeOnly c'.log) c := by
  refine Ends.bind (ends_wrapErr ((handshakeRoundTrip_spec .apiVersions _ _ (by decide) h).imp
    ?_ (fun _ _ h => h)))
  rintro body c' ⟨hdone, reply, hround, -⟩
  exact Ends.pure ⟨hdone, hround.sends.saslRounds K rfl⟩

/-- So is `saslHandshake`. -/
theorem saslHandshake_spec {c : Conn} (K : Codec) (mechanism : GoString)
    (h : Handshaking c) :
    Ends (saslHandshake K mechanism)
      (fun _ c' => Handshaking c' ∧ saslRounds K c'.log = saslRounds K c.log)
      (fun _ c' => HandshakeOnly c'.log) c := by
  have hauth := not_needsAuth_handshake rfl
  refine Ends.bind (ends_wrapErr
    ((handshakeRoundTrip_spec (.saslHandshake mechanism) _ _ hauth h).imp ?_ (fun _ _ h => h)))
  rintro body c' ⟨hdone, reply, hround, -⟩
  have hrounds := hround.sends.saslRounds K rfl
  refine Ends.bind (ends_liftErr ?_ hdone.only)
  intro resp _
  split
  · exact ends_fail hdone.only
  · exact Ends.pure ⟨hdone, hrounds⟩

/-- And the two together. -/
theorem negotiate_spec {c : Conn} (K : Codec) (mechanism : GoString) (h : Handshaking c) :
    Ends (negotiate K mechanism)
      (fun _ c' => Handshaking c' ∧ saslRounds K c'.log = saslRounds K c.log)
      (fun _ c' => HandshakeOnly c'.log) c := by
  refine Ends.bind (ends_wrapErr ((netCall_spec c).imp ?_ ?_))
  · rintro _ c₁ ⟨hquiet, -⟩
    refine Ends.bind (ends_wrapErr ((apiVersions_spec K (h.quiet hquiet)).imp ?_
      (fun _ _ h => h)))
    rintro _ c₂ ⟨h₂, hrounds₂⟩
    refine ends_wrapErr ((saslHandshake_spec K mechanism h₂).imp ?_ (fun _ _ h => h))
    rintro _ c₃ ⟨h₃, hrounds₃⟩
    refine ⟨h₃, ?_⟩
    rw [hrounds₃, hrounds₂, hquiet.log]
  · rintro _ c₁ ⟨hquiet, -⟩
    exact (h.quiet hquiet).only

/-- `plainAuthenticate` succeeds only when the broker accepted. -/
theorem plainAuthenticate_spec {c : Conn} (K : Codec) (username password : GoString)
    (h : Handshaking c) :
    Ends (plainAuthenticate K username password)
      (fun _ c' => Handshaking c' ∧ Accepted K c'.log)
      (fun _ c' => HandshakeOnly c'.log) c := by
  have hauth := not_needsAuth_authenticate rfl
  refine Ends.bind (ends_wrapErr
    ((handshakeRoundTrip_spec (.saslAuthenticate _) _ _ hauth h).imp ?_ (fun _ _ h => h)))
  rintro body c' ⟨hdone, reply, hround, hbody⟩
  refine Ends.bind (ends_liftErr ?_ hdone.only)
  intro resp hresp
  rw [hbody] at hresp
  split
  · exact ends_fail hdone.only
  · rename_i hcode
    exact Ends.pure ⟨hdone, accepted_round hround hresp (not_not.mp hcode)⟩

/-- So does a SCRAM round. -/
theorem scramRound_spec {c : Conn} (K : Codec) (clientMsg : Bytes) (h : Handshaking c) :
    Ends (scramRound K clientMsg)
      (fun _ c' => Handshaking c' ∧ Accepted K c'.log)
      (fun _ c' => HandshakeOnly c'.log) c := by
  have hauth := not_needsAuth_authenticate rfl
  refine Ends.bind (ends_wrapErr ((relaySASLAuthenticate_spec K clientMsg c).imp ?_ ?_))
  · rintro r c' ⟨reply, resp, hround, hresp, rfl⟩
    have hdone := h.round hround hauth
    split
    · exact ends_fail hdone.only
    · rename_i hcode
      exact Ends.pure ⟨hdone, accepted_round hround hresp (not_not.mp hcode)⟩
  · rintro _ c' (hquiet | hsends)
    · exact (h.quiet hquiet).only
    · exact h.only.sends hsends hauth

/-- The SCRAM loop keeps 0 the latest code. The induction is on the session. -/
theorem scramRounds_spec (K : Codec) (turn : ScramTurn) :
    ∀ {c : Conn}, Handshaking c → Accepted K c.log →
      Ends (scramRounds K turn)
        (fun _ c' => Handshaking c' ∧ Accepted K c'.log)
        (fun _ c' => HandshakeOnly c'.log) c := by
  induction turn with
  | failed e => exact fun h _ => Ends.throw h.only
  | done next =>
      intro c h hacc
      unfold scramRounds
      split
      -- A last message to send: its round must be accepted as well.
      · exact Ends.bind ((scramRound_spec K next h).imp (fun _ _ h => h) (fun _ _ h => h))
      · exact Ends.pure ⟨h, hacc⟩
  | send clientMsg challenge ih =>
      intro c h _
      refine Ends.bind ((scramRound_spec K clientMsg h).imp ?_ (fun _ _ h => h))
      rintro serverMsg c' ⟨h', hacc'⟩
      exact ih serverMsg h' hacc'

/-- And a session, by its last round. -/
theorem scramAuthenticate_spec {c : Conn} (K : Codec) (S : ScramClient)
    (mechanism username password : GoString) (h : Handshaking c) :
    Ends (scramAuthenticate K S mechanism username password)
      (fun _ c' => Handshaking c' ∧ Accepted K c'.log)
      (fun _ c' => HandshakeOnly c'.log) c := by
  unfold scramAuthenticate
  split
  · refine Ends.bind (Ends.get (Ends.bind (ends_liftErr ?_ h.only)))
    rintro ⟨clientMsg, challenge⟩ _
    -- The first message is always sent, so the loop starts with an accepted round.
    refine Ends.bind ((scramRound_spec K clientMsg h).imp ?_ (fun _ _ h => h))
    rintro serverMsg c' ⟨h', hacc'⟩
    exact scramRounds_spec K (challenge serverMsg) h' hacc'
  · exact ends_fail h.only

/-! ### The dial functions -/

/-- What a dial leaves behind: a connection that satisfies `Q`, or a closed one that satisfies
`F`. -/
def DialLeaves (Q F : Conn → Prop) : Dialled → Prop
  | .connected c => Q c
  | .failed _ closed => ∀ c ∈ closed, F c

/-- A dial leaves what its program leaves. -/
theorem dialWith_leaves {Q F : Conn → Prop} {fn : String} {link : Except GoError Peer}
    {prog : GoM Conn Unit} (h : ∀ peer, Ends prog (fun _ => Q) (fun _ => F) { peer }) :
    DialLeaves Q F (dialWith fn link prog) := by
  unfold dialWith
  cases link with
  | error e =>
      intro c hc
      cases hc
  | ok peer =>
      have hends : Ends (wrapErr fn prog) (fun _ => Q) (fun _ => F) { peer } :=
        ends_wrapErr (h peer)
      dsimp only
      cases hrun : wrapErr fn prog { peer } with
      | ok a c => exact hends.of_ok hrun
      | error stop c =>
          intro c' hc'
          cases hc'
          exact hends.of_error hrun

/-- A connection that satisfies `Q`, or a closed one with nothing but handshake messages on
it. -/
def DialEnds (Q : Conn → Prop) : Dialled → Prop
  | .connected c => Q c
  | .failed _ closed => ∀ c ∈ closed, HandshakeOnly c.log

/-- When it fails only handshakes were sent. -/
theorem dialWith_spec {Q : Conn → Prop} {fn : String} {link : Except GoError Peer}
    {prog : GoM Conn Unit}
    (h : ∀ peer, Ends prog (fun _ => Q) (fun _ c => HandshakeOnly c.log) { peer }) :
    DialEnds Q (dialWith fn link prog) := dialWith_leaves h

/-- An unsupported mechanism is not dialled. -/
theorem unsupportedMechanism_spec {Q : Conn → Prop} (fn : String) (mechanism : GoString) :
    DialEnds Q (unsupportedMechanism fn mechanism) := by
  intro c hc
  cases hc

/-- A handshake whose last part authenticates, with the deadline cleared after it. -/
theorem authenticated_spec (K : Codec) (mechanism : GoString) {auth : GoM Conn Unit}
    (hauth : ∀ {c : Conn}, Handshaking c →
      Ends auth (fun _ c' => Handshaking c' ∧ Accepted K c'.log)
        (fun _ c' => HandshakeOnly c'.log) c) (peer : Peer) :
    Ends (do
        negotiate K mechanism
        auth
        setDeadline)
      (fun _ c => Handshaking c ∧ Accepted K c.log) (fun _ c => HandshakeOnly c.log)
      { peer } := by
  refine Ends.bind ((negotiate_spec K _ (Handshaking.start peer)).imp ?_ (fun _ _ h => h))
  rintro _ c₁ ⟨h₁, -⟩
  refine Ends.bind ((hauth h₁).imp ?_ (fun _ _ h => h))
  rintro _ c₂ ⟨h₂, hacc₂⟩
  -- The last call moves no bytes, so the history is the one `auth` left.
  refine (netCall_spec c₂).imp ?_ (fun _ _ h => (h₂.quiet h.1).only)
  rintro _ c₃ ⟨hquiet, -⟩
  refine ⟨h₂.quiet hquiet, ?_⟩
  rw [hquiet.log]
  exact hacc₂

/-- `dial` returns an authenticated connection. -/
theorem dial_spec (K : Codec) (link : Except GoError Peer) (username password : GoString) :
    DialEnds (fun c => Handshaking c ∧ Accepted K c.log) (dial K link username password) :=
  dialWith_spec (authenticated_spec K _ (plainAuthenticate_spec K username password))

/-- `dialSCRAM` returns an authenticated connection. -/
theorem dialSCRAM_spec (K : Codec) (S : ScramClient) (link : Except GoError Peer)
    (mechanism username password : GoString) :
    DialEnds (fun c => Handshaking c ∧ Accepted K c.log)
      (dialSCRAM K S link mechanism username password) := by
  unfold dialSCRAM
  split
  · exact dialWith_spec
      (authenticated_spec K _ (scramAuthenticate_spec K S mechanism username password))
  · exact unsupportedMechanism_spec _ _

/-- `dialForSCRAM` returns a connection on which nobody has authenticated yet. -/
theorem dialForSCRAM_spec (K : Codec) (link : Except GoError Peer) (mechanism : GoString) :
    DialEnds (fun c => Handshaking c ∧ saslRounds K c.log = [])
      (dialForSCRAM K link mechanism) := by
  unfold dialForSCRAM
  split
  · refine dialWith_spec fun peer => ?_
    refine Ends.bind ((negotiate_spec K _ (Handshaking.start peer)).imp ?_ (fun _ _ h => h))
    rintro _ c₁ ⟨h₁, hrounds⟩
    refine (netCall_spec c₁).imp ?_ (fun _ _ h => (h₁.quiet h.1).only)
    rintro _ c₂ ⟨hquiet, -⟩
    refine ⟨h₁.quiet hquiet, ?_⟩
    rw [hquiet.log, hrounds]
    rfl
  · exact unsupportedMechanism_spec _ _

end Kroxy.Proofs
