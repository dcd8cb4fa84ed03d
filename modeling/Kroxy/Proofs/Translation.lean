import Kroxy.Proofs.Forwarding
import Kroxy.Proofs.PlainLogin
import Kroxy.Proofs.RelayVerbatim

/-!
# `Kroxy.Proofs.Translation`: a PLAIN client behind a SCRAM broker

When the upstream mechanism is SCRAM and a client logs in with PLAIN, the proxy runs the SCRAM
exchange itself (`DialSCRAM`). The session is the library's: it gives the first message, and
takes each message of the server to the next one, to the end, or to an error.

`SessionCompleted` says that a session went to its end, with the messages it sent and those it
got, and `SessionBegun` that it was broken off on the way.

`translated_login` is the result, for every client in every run of the server. The upstream
connection has carried one completed session for the credentials that the client presented in a
frame of its own, every round of it was accepted, and nothing else was ever sent to
authenticate. A connection that a failed dial closed again carried a session that was broken
off, or none.
-/

set_option autoImplicit false

namespace Kroxy.Proofs

open Kroxy.Go
open Kroxy.Lib
open Kroxy.Kmsg
open Kroxy.Protocol
open Kroxy.Auth
open Kroxy.Resolver
open Kroxy.Proxy
open Kroxy.Observability
open Kroxy.Upstream hiding Conn

/-! ### Sessions -/

/-- The session sent `sent`, got the messages `got` of the server in return, and was done. -/
inductive SessionCompleted : ScramTurn → (sent got : List Bytes) → Prop where
  | done : SessionCompleted (.done []) [] []
  /-- A session that is done may have a last message, and does not look at the answer. -/
  | last (next serverMsg : Bytes) (some : next ≠ []) :
      SessionCompleted (.done next) [next] [serverMsg]
  | round (clientMsg serverMsg : Bytes) (challenge : Bytes → ScramTurn) (sent got : List Bytes)
      (rest : SessionCompleted (challenge serverMsg) sent got) :
      SessionCompleted (.send clientMsg challenge) (clientMsg :: sent) (serverMsg :: got)

/-- The session was broken off after it had sent `sent`. The messages `got` of the server were
accepted, and there is at most one of `sent` without an accepted answer. -/
inductive SessionBegun : ScramTurn → (sent got : List Bytes) → Prop where
  | nothing (turn : ScramTurn) : SessionBegun turn [] []
  | asked (clientMsg : Bytes) (challenge : Bytes → ScramTurn) :
      SessionBegun (.send clientMsg challenge) [clientMsg] []
  | last (next : Bytes) : SessionBegun (.done next) [next] []
  | lastAnswered (next serverMsg : Bytes) : SessionBegun (.done next) [next] [serverMsg]
  | round (clientMsg serverMsg : Bytes) (challenge : Bytes → ScramTurn) (sent got : List Bytes)
      (rest : SessionBegun (challenge serverMsg) sent got) :
      SessionBegun (.send clientMsg challenge) (clientMsg :: sent) (serverMsg :: got)

/-- A complete session was begun. -/
theorem SessionCompleted.begun {turn : ScramTurn} {sent got : List Bytes}
    (h : SessionCompleted turn sent got) : SessionBegun turn sent got := by
  induction h with
  | done => exact .nothing _
  | last next serverMsg some => exact .lastAnswered next serverMsg
  | round clientMsg serverMsg challenge sent got rest ih => exact .round _ _ _ _ _ ih

/-! ### What the dial says -/

/-- What the replies of accepted rounds carry. -/
def serverMessages (replies : List SASLAuthenticateResponse) : List Bytes :=
  replies.map (·.saslAuthBytes)

/-- From `c` to `c'` the session went to its end, and every round was accepted. -/
def Drove (K : Codec) (turn : ScramTurn) (c c' : Upstream.Conn) : Prop :=
  c'.peer = c.peer ∧ ∃ sent replies, saslPayloads c'.log = saslPayloads c.log ++ sent ∧
    saslReplies K c'.log = saslReplies K c.log ++ replies ∧
    (∀ r ∈ replies, r.errorCode = 0) ∧ SessionCompleted turn sent (serverMessages replies)

/-- From `c` to `c'` the session was begun. -/
def Attempted (K : Codec) (turn : ScramTurn) (c c' : Upstream.Conn) : Prop :=
  c'.peer = c.peer ∧ ∃ sent replies, saslPayloads c'.log = saslPayloads c.log ++ sent ∧
    saslReplies K c.log ++ replies <+: saslReplies K c'.log ∧
    (∀ r ∈ replies, r.errorCode = 0) ∧ SessionBegun turn sent (serverMessages replies)

section
variable {K : Codec} {c c' c'' : Upstream.Conn}

/-- One accepted round. -/
structure AcceptedRound (K : Codec) (clientMsg serverMsg : Bytes) (c c' : Upstream.Conn) :
    Prop where
  peer : c'.peer = c.peer
  payloads : saslPayloads c'.log = saslPayloads c.log ++ [clientMsg]
  replies : ∃ reply, saslReplies K c'.log = saslReplies K c.log ++ [reply] ∧
    reply.errorCode = 0 ∧ reply.saslAuthBytes = serverMsg

/-- A round that was not accepted, or was not sent. -/
structure BrokenRound (K : Codec) (clientMsg : Bytes) (c c' : Upstream.Conn) : Prop where
  peer : c'.peer = c.peer
  payloads : saslPayloads c'.log = saslPayloads c.log ∨
    saslPayloads c'.log = saslPayloads c.log ++ [clientMsg]
  replies : saslReplies K c.log <+: saslReplies K c'.log

/-- A SCRAM round is accepted or broken. -/
theorem scramRound_talk (K : Codec) (clientMsg : Bytes) (c : Upstream.Conn) :
    Ends (scramRound K clientMsg) (fun serverMsg c' => AcceptedRound K clientMsg serverMsg c c')
      (fun _ c' => BrokenRound K clientMsg c c') c := by
  have hsent : ∀ {c' : Upstream.Conn}, Sends (saslPacket c clientMsg) c c' →
      saslPayloads c'.log = saslPayloads c.log ++ [clientMsg] := fun h => h.saslPayloads
  refine Ends.bind (ends_wrapErr ((relaySASLAuthenticate_spec K clientMsg c).imp ?_ ?_))
  · rintro r c' ⟨reply, resp, hround, hresp, rfl⟩
    have hreplies := hround.saslReplies hresp
    split
    · refine ends_fail ⟨hround.peer, Or.inr (hsent hround.sends), ?_⟩
      rw [hreplies]
      exact List.prefix_append _ _
    · rename_i hcode
      exact Ends.pure ⟨hround.peer, hsent hround.sends, resp, hreplies, not_not.mp hcode, rfl⟩
  · rintro _ c' (hquiet | hsends)
    · refine ⟨hquiet.peer, Or.inl (by rw [hquiet.log]), ?_⟩
      rw [hquiet.log]
    · exact ⟨hsends.peer, Or.inr (hsent hsends), hsends.saslReplies_prefix K⟩

/-- A round in front of what the rest of the session does. -/
theorem AcceptedRound.drove {clientMsg serverMsg : Bytes} {challenge : Bytes → ScramTurn}
    (h : AcceptedRound K clientMsg serverMsg c c')
    (hrest : Drove K (challenge serverMsg) c' c'') :
    Drove K (.send clientMsg challenge) c c'' := by
  obtain ⟨reply, hreply, hcode, rfl⟩ := h.replies
  obtain ⟨hpeer, sent, replies, hsent, hreplies, hcodes, hdone⟩ := hrest
  refine ⟨hpeer.trans h.peer, clientMsg :: sent, reply :: replies, ?_, ?_, ?_,
    .round _ _ _ _ _ hdone⟩
  · rw [hsent, h.payloads, List.append_assoc, List.singleton_append]
  · rw [hreplies, hreply, List.append_assoc, List.singleton_append]
  · exact List.forall_mem_cons.mpr ⟨hcode, hcodes⟩

/-- A session goes on after an accepted round. -/
theorem AcceptedRound.attempted {clientMsg serverMsg : Bytes} {challenge : Bytes → ScramTurn}
    (h : AcceptedRound K clientMsg serverMsg c c')
    (hrest : Attempted K (challenge serverMsg) c' c'') :
    Attempted K (.send clientMsg challenge) c c'' := by
  obtain ⟨reply, hreply, hcode, rfl⟩ := h.replies
  obtain ⟨hpeer, sent, replies, hsent, hreplies, hcodes, hbegun⟩ := hrest
  refine ⟨hpeer.trans h.peer, clientMsg :: sent, reply :: replies, ?_, ?_, ?_,
    .round _ _ _ _ _ hbegun⟩
  · rw [hsent, h.payloads, List.append_assoc, List.singleton_append]
  · rw [hreply, List.append_assoc, List.singleton_append] at hreplies
    exact hreplies
  · exact List.forall_mem_cons.mpr ⟨hcode, hcodes⟩

/-- A broken round leaves the session where it asked, or where it was about to. -/
theorem BrokenRound.attempted {clientMsg : Bytes} {turn : ScramTurn}
    (h : BrokenRound K clientMsg c c') (hask : SessionBegun turn [clientMsg] []) :
    Attempted K turn c c' := by
  rcases h.payloads with hnone | hone
  · exact ⟨h.peer, [], [], by simp [hnone], by simpa using h.replies, by simp, .nothing turn⟩
  · exact ⟨h.peer, [clientMsg], [], hone, by simpa using h.replies, by simp, hask⟩

/-- The loop drives the session. The induction is on the session. -/
theorem scramRounds_talk (K : Codec) (turn : ScramTurn) :
    ∀ c, Ends (scramRounds K turn) (fun _ c' => Drove K turn c c')
      (fun _ c' => Attempted K turn c c') c := by
  induction turn with
  | failed e =>
      intro c
      exact Ends.throw ⟨rfl, [], [], by simp, by simp, by simp, .nothing _⟩
  | done next =>
      intro c
      unfold scramRounds
      split
      · rename_i hlen
        refine Ends.bind ((scramRound_talk K next c).imp ?_ ?_)
        · intro serverMsg c' hround
          obtain ⟨reply, hreply, hcode, rfl⟩ := hround.replies
          exact Ends.pure ⟨hround.peer, [next], [reply], hround.payloads, hreply,
            by simpa using hcode, .last next _ (List.length_pos_iff.mp hlen)⟩
        · exact fun _ c' hbroken => hbroken.attempted (.last next)
      · rename_i hlen
        have hnil : next = [] := by simpa using hlen
        subst hnil
        exact Ends.pure ⟨rfl, [], [], by simp, by simp, by simp, .done⟩
  | send clientMsg challenge ih =>
      intro c
      refine Ends.bind ((scramRound_talk K clientMsg c).imp ?_ ?_)
      · intro serverMsg c' hround
        exact (ih serverMsg c').imp (fun _ _ h => hround.drove h)
          (fun _ _ h => hround.attempted h)
      · exact fun _ c' hbroken => hbroken.attempted (.asked clientMsg challenge)

end

/-- The broker of `up` carried one completed session for these credentials, every round of it
was accepted, and no other SaslAuthenticate request came. -/
def SignedOn (X : Server) (username password : GoString) (up : Upstream.Conn) : Prop :=
  ∃ clientMsg challenge, X.scram.authenticate X.cfg.upstreamSASLMechanism username password
      up.peer.remoteAddr = .ok (clientMsg, challenge) ∧
    SessionCompleted (.send clientMsg challenge) (saslPayloads up.log)
      (serverMessages (saslReplies X.codec up.log)) ∧
    ∀ r ∈ saslReplies X.codec up.log, r.errorCode = 0

/-- The broker of `up` was sent nothing to authenticate, or a part of a session for these
credentials. -/
def BrokenOff (X : Server) (username password : GoString) (up : Upstream.Conn) : Prop :=
  saslPayloads up.log = [] ∨
    ∃ clientMsg challenge accepted, X.scram.authenticate X.cfg.upstreamSASLMechanism username
        password up.peer.remoteAddr = .ok (clientMsg, challenge) ∧
      accepted <+: saslReplies X.codec up.log ∧ (∀ r ∈ accepted, r.errorCode = 0) ∧
      SessionBegun (.send clientMsg challenge) (saslPayloads up.log) (serverMessages accepted)

section
variable {X : Server} {username password : GoString} {c c' up up' : Upstream.Conn}

/-- Both look at the broker and at what was said to authenticate. -/
theorem SignedOn.of_eq (h : SignedOn X username password up) (hpeer : up'.peer = up.peer)
    (hsent : saslPayloads up'.log = saslPayloads up.log)
    (hreplies : saslReplies X.codec up'.log = saslReplies X.codec up.log) :
    SignedOn X username password up' := by
  unfold SignedOn
  rw [hpeer, hsent, hreplies]
  exact h

/-- A connection that signed on may still break off. -/
theorem SignedOn.brokenOff (h : SignedOn X username password up) :
    BrokenOff X username password up := by
  obtain ⟨clientMsg, challenge, hsession, hdone, hcodes⟩ := h
  exact Or.inr ⟨clientMsg, challenge, _, hsession, List.prefix_refl _, hcodes, hdone.begun⟩

/-- Without payloads there are no replies to them. -/
theorem saslReplies_of_no_payloads (K : Codec) {log : List Event} (h : saslPayloads log = []) :
    saslReplies K log = [] := by
  rw [saslReplies, saslFrames_of_no_payloads h, List.filterMap_nil]

/-- A session that started on a connection without any is all there was. -/
theorem Drove.signedOn {clientMsg : Bytes} {challenge : Bytes → ScramTurn}
    (h : Drove X.codec (.send clientMsg challenge) c c') (hfresh : saslPayloads c.log = [])
    (hsession : X.scram.authenticate X.cfg.upstreamSASLMechanism username password
      c.peer.remoteAddr = .ok (clientMsg, challenge)) : SignedOn X username password c' := by
  obtain ⟨hpeer, sent, replies, hsent, hreplies, hcodes, hdone⟩ := h
  rw [hfresh, List.nil_append] at hsent
  rw [saslReplies_of_no_payloads _ hfresh, List.nil_append] at hreplies
  refine ⟨clientMsg, challenge, by rw [hpeer, hsession], ?_, ?_⟩
  · rw [hsent, hreplies]
    exact hdone
  · rw [hreplies]
    exact hcodes

/-- An attempt on a fresh connection is a session that broke off. -/
theorem Attempted.brokenOff {clientMsg : Bytes} {challenge : Bytes → ScramTurn}
    (h : Attempted X.codec (.send clientMsg challenge) c c') (hfresh : saslPayloads c.log = [])
    (hsession : X.scram.authenticate X.cfg.upstreamSASLMechanism username password
      c.peer.remoteAddr = .ok (clientMsg, challenge)) : BrokenOff X username password c' := by
  obtain ⟨hpeer, sent, replies, hsent, hreplies, hcodes, hbegun⟩ := h
  rw [hfresh, List.nil_append] at hsent
  rw [saslReplies_of_no_payloads _ hfresh, List.nil_append] at hreplies
  refine Or.inr ⟨clientMsg, challenge, replies, by rw [hpeer, hsession], hreplies, hcodes, ?_⟩
  rw [hsent]
  exact hbegun

/-- `scramAuthenticate` signs on or breaks off. -/
theorem scramAuthenticate_signedOn (X : Server) (username password : GoString)
    {c : Upstream.Conn} (hfresh : saslPayloads c.log = []) :
    Ends (scramAuthenticate X.codec X.scram X.cfg.upstreamSASLMechanism username password)
      (fun _ c' => SignedOn X username password c') (fun _ c' => BrokenOff X username password c')
      c := by
  unfold scramAuthenticate
  split
  · refine Ends.bind (Ends.get (Ends.bind (ends_liftErr ?_ (Or.inl hfresh))))
    rintro ⟨clientMsg, challenge⟩ hsession
    exact (scramRounds_talk X.codec (.send clientMsg challenge) c).imp
      (fun _ _ h => h.signedOn hfresh hsession) (fun _ _ h => h.brokenOff hfresh hsession)
  · exact ends_fail (Or.inl hfresh)

/-- The deadline behind it may fail too. -/
theorem setDeadline_signedOn (h : SignedOn X username password c) :
    Ends setDeadline (fun _ c' => SignedOn X username password c')
      (fun _ c' => BrokenOff X username password c') c := by
  have hquiet : ∀ c', Quiet c c' → SignedOn X username password c' := fun c' hq =>
    h.of_eq hq.peer (by rw [hq.log]) (by rw [hq.log])
  exact (netCall_spec c).imp (fun _ c' hc => hquiet c' hc.1)
    (fun _ c' hc => (hquiet c' hc.1).brokenOff)

/-- What `DialSCRAM` leaves. -/
theorem dialSCRAM_signedOn (X : Server) (link : Except GoError Peer)
    (username password : GoString) :
    DialLeaves (SignedOn X username password) (BrokenOff X username password)
      (dialSCRAM X.codec X.scram link X.cfg.upstreamSASLMechanism username password) := by
  unfold dialSCRAM
  split
  · refine dialWith_leaves fun peer => ?_
    refine Ends.bind ((negotiate_payloads X.codec _ _).imp ?_ (fun _ _ h => Or.inl h))
    intro _ c₁ hfresh
    refine Ends.bind ((scramAuthenticate_signedOn X username password hfresh).imp ?_
      (fun _ _ h => h))
    intro _ c₂ hsigned
    exact setDeadline_signedOn hsigned
  · intro c hc
    cases hc

end

/-! ### A translated client -/

/-- The frame is a login with these PLAIN credentials. -/
def PlainLoginIn (X : Server) (frame : Bytes) (creds : PlainCredentials) : Prop :=
  ∃ hdr body payload, Parsed frame hdr body ∧ hdr.apiKey = saslAuthenticateKey ∧
    X.codec.readSASLAuthenticateRequest hdr.apiVersion body = .ok payload ∧
    parsePlain payload = .ok creds

/-- A connection after a PLAIN login with `creds`, and its upstream connections. -/
structure TranslatedAs (X : Server) (creds : PlainCredentials) (c : Conn) : Prop where
  state : c.state = .authenticated
  mech : c.clientMechanism = mechanismPlain
  id : c.tenant.id = creds.username
  password : c.password = creds.password
  closed : ∀ up ∈ c.closed, BrokenOff X creds.username creds.password up
  upstream : ∀ up, c.upstream = some up → SignedOn X creds.username creds.password up

section
variable {X : Server} {E : Env} {creds : PlainCredentials} {c c' : Conn}
variable {hdr : RequestHeader} {frame body : Bytes} {out : Option Bytes}

/-- What is written to the client does not matter. -/
theorem TranslatedAs.written (h : TranslatedAs X creds c) (frames : List Bytes) :
    TranslatedAs X creds { c with written := frames } :=
  ⟨h.state, h.mech, h.id, h.password, h.closed, h.upstream⟩

/-- The dial of a translated client runs the session of its credentials. -/
theorem TranslatedAs.dialled (h : TranslatedAs X creds c)
    (hscram : isSCRAMMechanism X.cfg.upstreamSASLMechanism = true) :
    DialLeaves (SignedOn X creds.username creds.password)
      (BrokenOff X creds.username creds.password) (dialUpstream X E c) := by
  have htranslate : shouldTranslatePlainToSCRAM X c = true := by
    rw [shouldTranslatePlainToSCRAM, hscram, h.mech, beq_self_eq_true, Bool.and_true]
  unfold dialUpstream
  rw [if_pos htranslate, h.id, h.password]
  exact dialSCRAM_signedOn X _ _ _

/-- The upstream connection of a turn is signed on. -/
theorem TranslatedAs.hasUpstream {up : Upstream.Conn} (h : TranslatedAs X creds c)
    (hscram : isSCRAMMechanism X.cfg.upstreamSASLMechanism = true)
    (hup : HasUpstream X E c up) : SignedOn X creds.username creds.password up := by
  rcases hup with hsome | ⟨-, hdialled⟩
  · exact h.upstream up hsome
  · have hdial := h.dialled (E := E) hscram
    rw [hdialled] at hdial
    exact hdial

/-- And so is the one it leaves. -/
theorem TranslatedAs.forward {up : Upstream.Conn} (h : TranslatedAs X creds c)
    (hup : SignedOn X creds.username creds.password up) :
    TranslatedAs X creds { c with upstream := some up } := by
  refine ⟨h.state, h.mech, h.id, h.password, h.closed, ?_⟩
  intro up' hup'
  cases hup'
  exact hup

/-- A client request says nothing to authenticate. -/
theorem SignedOn.sends {username password : GoString} {up up' : Upstream.Conn} {packet : Packet}
    (h : SignedOn X username password up) (hsends : Sends packet up up')
    (hneeds : needsAuth packet.key = true) : SignedOn X username password up' :=
  h.of_eq hsends.peer (hsends.saslPayloads_client hneeds)
    (hsends.saslReplies_client X.codec hneeds)

/-- Every turn keeps that. -/
theorem TranslatedAs.turn (h : TranslatedAs X creds c)
    (hscram : isSCRAMMechanism X.cfg.upstreamSASLMechanism = true)
    (hturn : Turn X E hdr frame body c out c') : TranslatedAs X creds c' := by
  have hlogged := h.state
  cases hturn with
  | idle _ own key => exact h
  | early key state => exact h
  | chose mech _ own key state => cases hlogged.symm.trans state
  | plain payload creds tenant _ own key state mech request parsed known =>
      cases hlogged.symm.trans state
  | undialled payload username tenant closed _ own key state mech request parsed known only =>
      cases hlogged.symm.trans state
  | opened payload username tenant up _ _ key state mech request parsed known handshaking rounds
      relayed => cases hlogged.symm.trans state
  | relayed payload up _ _ key state mech request upstream relayed =>
      cases hlogged.symm.trans state
  | unreachable closed key state upstream dialled only =>
      obtain ⟨stop, hfailed⟩ := dialled
      have hdial := h.dialled (E := E) hscram
      rw [hfailed] at hdial
      refine ⟨h.state, h.mech, h.id, h.password, ?_, h.upstream⟩
      intro up hup
      rcases List.mem_append.mp hup with hold | hnew
      · exact h.closed up hold
      · exact hdial up (Option.mem_toList.mp hnew)
  | unsent up up' key state upstream quiet why =>
      have hup := h.hasUpstream hscram upstream
      exact h.forward (hup.of_eq quiet.peer (by rw [quiet.log]) (by rw [quiet.log]))
  | failed up up' packet key state upstream ready forwarded packetKey sends =>
      exact h.forward ((h.hasUpstream hscram upstream).sends sends (packetKey ▸ key))
  | answered up up' packet reply resp key state upstream ready forwarded packetKey round
      answer =>
      exact h.forward ((h.hasUpstream hscram upstream).sends round.sends (packetKey ▸ key))

/-- A round of the relay keeps the mechanism. -/
theorem RelayTurn.clientMechanism {payload : Bytes} {up : Upstream.Conn}
    (h : RelayTurn X hdr payload c up out c') : c'.clientMechanism = c.clientMechanism := by
  cases h with
  | broken up' traffic => rfl
  | answered up' reply resp out round decoded answer =>
      unfold afterRound
      split <;> rfl

/-- A PLAIN client becomes authenticated by a login, before which nothing was dialled. -/
theorem Turn.translated (h : Turn X E hdr frame body c out c') (hparsed : Parsed frame hdr body)
    (hsound : Sound X.codec c) (hundialled : Undialled c)
    (hnot : c.state ≠ .authenticated) (hstate : c'.state = .authenticated)
    (hmech : c'.clientMechanism = mechanismPlain) :
    ∃ creds, PlainLoginIn X frame creds ∧ TranslatedAs X creds c' := by
  have hplain : isSCRAMMechanism c'.clientMechanism = false := by
    rw [hmech]
    rfl
  cases h with
  | idle _ own key => exact absurd hstate hnot
  | early key state => exact absurd hstate hnot
  | chose mech _ own key state => cases hstate
  | plain payload creds tenant _ own key state mech request parsed known =>
      refine ⟨creds, ⟨hdr, body, payload, hparsed, key, request, parsed⟩, rfl, hmech,
        MemoryResolver.id_of_get_eq_ok known, rfl, ?_, ?_⟩
      · intro up hup
        rw [show c.closed = [] from hundialled.plain state mech] at hup
        cases hup
      · intro up hup
        cases (hsound.fresh (Or.inr state)).symm.trans hup
  | undialled payload username tenant closed _ own key state mech request parsed known only =>
      exact absurd hstate hnot
  | opened payload username tenant up _ _ key state mech request parsed known handshaking rounds
      relayed =>
      rw [relayed.clientMechanism] at hplain
      cases mech.symm.trans hplain
  | relayed payload up _ _ key state mech request upstream relayed =>
      rw [relayed.clientMechanism] at hplain
      cases mech.symm.trans hplain
  | unreachable closed key state upstream dialled only => exact absurd state hnot
  | unsent up up' key state upstream quiet why => exact absurd state hnot
  | failed up up' packet key state upstream ready forwarded packetKey sends =>
      exact absurd state hnot
  | answered up up' packet reply resp key state upstream ready forwarded packetKey round
      answer => exact absurd state hnot

/-- A PLAIN client that is authenticated has logged in with one of `frames`. -/
def LoggedInBy (X : Server) (frames : List Bytes) (c : Conn) : Prop :=
  c.state = .authenticated → c.clientMechanism = mechanismPlain →
    ∃ frame ∈ frames, ∃ creds, PlainLoginIn X frame creds ∧ TranslatedAs X creds c

/-- What is written to the client does not matter. -/
theorem LoggedInBy.written {frames : List Bytes} (h : LoggedInBy X frames c)
    (written : List Bytes) : LoggedInBy X frames { c with written } := by
  intro hstate hmech
  obtain ⟨frame, hframe, creds, hlogin, has⟩ := h hstate hmech
  exact ⟨frame, hframe, creds, hlogin, has.written written⟩

/-- Later frames do not matter either. -/
theorem LoggedInBy.more {frames : List Bytes} (h : LoggedInBy X frames c) (later : List Bytes) :
    LoggedInBy X (frames ++ later) c := by
  intro hstate hmech
  obtain ⟨frame, hframe, hrest⟩ := h hstate hmech
  exact ⟨frame, List.mem_append_left later hframe, hrest⟩

/-- A turn keeps an earlier login, or its frame is the login. -/
theorem LoggedInBy.turn {frames : List Bytes} (h : LoggedInBy X frames c)
    (hscram : isSCRAMMechanism X.cfg.upstreamSASLMechanism = true) (hsound : Sound X.codec c)
    (hundialled : Undialled c) (hparsed : Parsed frame hdr body)
    (hturn : Turn X E hdr frame body c out c') : LoggedInBy X (frames ++ [frame]) c' := by
  intro hstate hmech
  by_cases hold : c.state = .authenticated
  · have hsame : c'.clientMechanism = c.clientMechanism := (hturn.frozen hold).2.2.2
    obtain ⟨first, hfirst, creds, hlogin, has⟩ := h hold (hsame ▸ hmech)
    exact ⟨first, List.mem_append_left _ hfirst, creds, hlogin, has.turn hscram hturn⟩
  · obtain ⟨creds, hlogin, has⟩ :=
      hturn.translated hparsed hsound hundialled hold hstate hmech
    exact ⟨frame, List.mem_append_right _ (List.mem_singleton.mpr rfl), creds, hlogin, has⟩

/-- In every run a PLAIN login is by one of the client's frames. -/
theorem loggedInBy_run (X : Server) (table : MemoryResolver)
    (hscram : isSCRAMMechanism X.cfg.upstreamSASLMechanism = true) (inputs : List Input) :
    LoggedInBy X (clientFrames inputs) (World.run X (World.start table) inputs).conn := by
  refine run_induction (P := fun inputs w => LoggedInBy X (clientFrames inputs) w.conn)
    ?_ ?_ ?_ ?_ inputs
  · intro hstate
    cases hstate
  · intro inputs op ih
    rw [clientFrames_concat]
    exact ih.more _
  · intro inputs bytes net stop hstop ih
    rw [clientFrames_concat]
    exact ih.more _
  · intro inputs bytes net w' hopen ih hstep
    have hsound := sound_run X table inputs
    have hundialled := undialled_run X table inputs
    rw [clientFrames_concat]
    cases hstep with
    | answered hdr body resp c parsed sliced turn =>
        exact (ih.turn hscram hsound hundialled ⟨parsed, sliced⟩ turn).written _
    | ended stop hdr body c parsed sliced turn =>
        exact ih.turn hscram hsound hundialled ⟨parsed, sliced⟩ turn
    | malformed stop => exact ih.more _

/-- Only a SCRAM client is relayed. -/
theorem Turn.relays (h : Turn X E hdr frame body c out c')
    (hscram : c.state = .relaySaslInFlight → isSCRAMMechanism c.clientMechanism = true) :
    c'.state = .relaySaslInFlight → isSCRAMMechanism c'.clientMechanism = true := by
  intro hstate
  cases h with
  | chose mech _ own key state => cases hstate
  | plain payload creds tenant _ own key state mech request parsed known => cases hstate
  | opened payload username tenant up _ _ key state mech request parsed known handshaking rounds
      relayed => exact relayed.clientMechanism ▸ mech
  | relayed payload up _ _ key state mech request upstream relayed =>
      exact relayed.clientMechanism ▸ mech
  | _ => exact hscram hstate

/-- Nothing was dialled for a PLAIN client that has not logged in. -/
theorem upstreams_of_plain (X : Server) (table : MemoryResolver) (inputs : List Input)
    (hmech : (World.run X (World.start table) inputs).conn.clientMechanism = mechanismPlain)
    (hnot : (World.run X (World.start table) inputs).conn.state ≠ .authenticated) :
    upstreams (World.run X (World.start table) inputs).conn = [] := by
  have hsound := sound_run X table inputs
  have hundialled := undialled_run X table inputs
  have hrelays := run_invariant (X := X) (w := World.start table)
    (P := fun c => c.state = .relaySaslInFlight → isSCRAMMechanism c.clientMechanism = true)
    (fun hstate => by cases hstate) (fun _ _ _ _ _ _ _ h turn => turn.relays h)
    (fun _ _ h => h) inputs
  generalize (World.run X (World.start table) inputs).conn = c at *
  have hplain : isSCRAMMechanism c.clientMechanism = false := by
    rw [hmech]
    rfl
  unfold upstreams
  cases hstate : c.state with
  | awaitHandshake =>
      rw [hundialled.handshake hstate, hsound.fresh (Or.inl hstate)]
      rfl
  | awaitAuth =>
      rw [hundialled.plain hstate hplain, hsound.fresh (Or.inr hstate)]
      rfl
  | relaySaslInFlight => cases (hrelays hstate).symm.trans hplain
  | authenticated => exact absurd hstate hnot

end

/-- PLAIN is translated to SCRAM. Take any run of a server whose upstream mechanism is SCRAM, and
a PLAIN client in it. Before its login nothing is dialled for it. After its login, with the
credentials of one of its own frames, its upstream has carried one session for these
credentials from the first message to the end, with every round accepted, and no other
SaslAuthenticate request. Every connection that a failed dial closed has carried a part of such
a session, or nothing. -/
theorem translated_login {X : Server} {table : MemoryResolver} {metrics : Option Metrics}
    {es : List (Move ClientEvent ServerEvent)} {s : Joint ServerState Client}
    (hscram : isSCRAMMechanism X.cfg.upstreamSASLMechanism = true)
    (h : (process X).run (listening table metrics) es = some s) {c : Client} (hc : c ∈ s.parts)
    (hmech : c.conn.clientMechanism = mechanismPlain) :
    (c.conn.state ≠ .authenticated → upstreams c.conn = []) ∧
    (c.conn.state = .authenticated → ∃ frame ∈ c.frames, ∃ creds, PlainLoginIn X frame creds ∧
      (∀ up, c.conn.upstream = some up → SignedOn X creds.username creds.password up) ∧
      ∀ up ∈ c.conn.closed, BrokenOff X creds.username creds.password up) := by
  obtain ⟨inputs, hlived, -⟩ := client_lives h c hc
  have hplain := upstreams_of_plain X table inputs
  have hlogged := loggedInBy_run X table hscram inputs
  rw [hlived.conn] at hplain hlogged
  rw [hlived.frames] at hlogged
  refine ⟨hplain hmech, fun hstate => ?_⟩
  obtain ⟨frame, hframe, creds, hlogin, has⟩ := hlogged hstate hmech
  exact ⟨frame, hframe, creds, hlogin, has.upstream, has.closed⟩

/-- A server that translates, with a session that sends the user name and then the password. -/
def translatingServer : Server where
  codec := .sasl
  scram := ⟨fun _ user pass _ => .ok (user, fun _ => .send pass fun _ => .done [])⟩
  labels := .utf8
  cfg := { advertised := goString "proxy:9092", upstreamSASLMechanism := mechanismSCRAMSHA256 }

/-- A PLAIN client logs in and sends a request, and the broker accepts both rounds. -/
def translatedClient : List (Move ClientEvent ServerEvent) :=
  [.common .accepted, .own 0 (.turn quietNet)] ++
    sends (saslBroker [0, 0]) 0 (clientSession "acme" (requestFrame listGroupsKey 0 3 []))

/-- The client's password goes through the session. -/
theorem translated_login_acme :
    ∃ s c up username password,
      (process translatingServer).run (listening acmeTable none) translatedClient = some s ∧
      s.parts = [c] ∧ c.conn.upstream = some up ∧
      saslPayloads up.log = [goString "acme", goString "secret"] ∧
      SignedOn translatingServer username password up := by
  obtain ⟨s, hrun, hparts⟩ : ∃ s, (process translatingServer).run (listening acmeTable none)
      translatedClient = some s ∧ s.parts.map (fun c => (c.conn.state, c.conn.clientMechanism,
        c.conn.upstream.map fun up => saslPayloads up.log)) =
      [(.authenticated, mechanismPlain, some [goString "acme", goString "secret"])] :=
    Option.map_eq_some_iff.mp (by decide +kernel)
  obtain ⟨c, hc⟩ := List.length_eq_one_iff.mp (by simpa using congrArg List.length hparts)
  simp only [hc, List.map_cons, List.map_nil, List.cons.injEq, Prod.mk.injEq, and_true] at hparts
  obtain ⟨hstate, hmech, hup⟩ := hparts
  obtain ⟨up, hsome, hpayloads⟩ := Option.map_eq_some_iff.mp hup
  obtain ⟨frame, -, creds, -, hsigned, -⟩ :=
    (translated_login rfl hrun (c := c) (by simp [hc]) hmech).2 hstate
  exact ⟨s, c, up, _, _, hrun, hc, hsome, hpayloads, hsigned up hsome⟩

end Kroxy.Proofs
