import Kroxy.Proofs.ScramRelay

/-!
# `Kroxy.Proofs.PlainLogin`: PLAIN credentials on their way to the broker

`ParsePlain` cuts a payload at its first two NUL bytes. `parsePlain_eq_ok_iff` says which
payloads it accepts and that the three parts determine the payload.

The proxy does not forward the payload of a PLAIN login. It keeps the password and the
tenant record, and the first dial builds a payload from the record's id. The id is the user
name, because a record is stored under its own id. `ToldBroker` is what then holds of every
upstream connection of the client: it carried at most this one SaslAuthenticate payload, and
exactly this one once the dial has succeeded. `ToldBroker.turn` keeps it through a turn.
`plainCredentials_reach_broker` is the statement about runs.
-/

set_option autoImplicit false

namespace Kroxy.Proofs

open Kroxy.Go
open Kroxy.Lib
open Kroxy.Kmsg
open Kroxy.Protocol
open Kroxy.Auth
open Kroxy.Resolver
open Kroxy.Proxy
open Kroxy.Upstream (Packet Event Peer Message Dialled directRoundTrip apiVersions
  saslHandshake negotiate plainAuthenticate setDeadline dial)

/-! ### The payload -/

/-- The PLAIN payload of three parts. -/
def plainPayload (creds : PlainCredentials) : Bytes :=
  creds.authzid ++ [0] ++ creds.username ++ [0] ++ creds.password

/-- The scan steps over a byte that is not NUL. -/
theorem scanNul_cons {b : UInt8} (hb : b ≠ 0) (rest : Bytes) (i : Nat) (first : Option Nat) :
    scanNul (b :: rest) i first = scanNul rest (i + 1) first := by
  conv => lhs; unfold scanNul
  exact if_pos hb

/-- The scan finds nothing in bytes without a NUL. -/
theorem scanNul_eq_none {bs : Bytes} (h : (0 : UInt8) ∉ bs) :
    ∀ (i : Nat) (first : Option Nat), scanNul bs i first = none := by
  induction bs with
  | nil => exact fun _ _ => rfl
  | cons b rest ih =>
      intro i first
      have hb : b ≠ 0 := fun heq => h (by simp [heq])
      have hrest : (0 : UInt8) ∉ rest := fun hmem => h (List.mem_cons_of_mem b hmem)
      rw [scanNul_cons hb]
      exact ih hrest (i + 1) first

/-- The scan passes over bytes without a NUL. -/
theorem scanNul_append {bs : Bytes} (h : (0 : UInt8) ∉ bs) (rest : Bytes) :
    ∀ (i : Nat) (first : Option Nat),
      scanNul (bs ++ rest) i first = scanNul rest (i + bs.length) first := by
  induction bs with
  | nil => exact fun _ _ => rfl
  | cons b bs ih =>
      intro i first
      have hb : b ≠ 0 := fun heq => h (by simp [heq])
      have hbs : (0 : UInt8) ∉ bs := fun hmem => h (List.mem_cons_of_mem b hmem)
      have hlen : i + (b :: bs).length = i + 1 + bs.length := by
        simp only [List.length_cons]
        omega
      rw [List.cons_append, scanNul_cons hb, ih hbs (i + 1) first, hlen]

/-- The first NUL is behind the first part. -/
theorem scanNul_first {a : Bytes} (ha : (0 : UInt8) ∉ a) (rest : Bytes) :
    scanNul (a ++ 0 :: rest) 0 none = scanNul rest (a.length + 1) (some a.length) := by
  rw [scanNul_append ha, scanNul, if_neg (by simp)]
  simp

/-- The second NUL is behind the second part, and what follows it is not looked at. -/
theorem scanNul_second {u : Bytes} (hu : (0 : UInt8) ∉ u) (w : Bytes) (i first : Nat) :
    scanNul (u ++ 0 :: w) i (some first) = some (first, i + u.length) := by
  rw [scanNul_append hu, scanNul, if_neg (by simp)]

/-- `ParsePlain` finds the parts a payload was put together from. -/
theorem parsePlain_plainPayload {creds : PlainCredentials}
    (hauthzid : (0 : UInt8) ∉ creds.authzid) (husername : (0 : UInt8) ∉ creds.username) :
    parsePlain (plainPayload creds) = .ok creds := by
  obtain ⟨a, u, w⟩ := creds
  have hpayload : plainPayload ⟨a, u, w⟩ = a ++ 0 :: (u ++ 0 :: w) := by simp [plainPayload]
  have hscan : scanNul (a ++ 0 :: (u ++ 0 :: w)) 0 none =
      some (a.length, a.length + 1 + u.length) := by
    rw [scanNul_first hauthzid, scanNul_second husername]
  have htake : (a ++ 0 :: (u ++ 0 :: w)).take a.length = a := List.take_left
  have hmiddle : ((a ++ 0 :: (u ++ 0 :: w)).take (a.length + 1 + u.length)).drop
      (a.length + 1) = u := by
    rw [Nat.add_assoc, List.take_length_add_append, List.drop_length_add_append,
      Nat.add_comm 1 u.length, List.take_succ_cons, List.take_left]
    rfl
  have hdrop : (a ++ 0 :: (u ++ 0 :: w)).drop (a.length + 1 + u.length + 1) = w := by
    rw [Nat.add_assoc, Nat.add_assoc, List.drop_length_add_append, Nat.add_comm 1,
      List.drop_succ_cons, List.drop_length_add_append]
    rfl
  rw [hpayload, parsePlain, hscan]
  simp only [htake, hmiddle, hdrop]

/-- A payload that `ParsePlain` accepts has two NUL bytes, and is cut at the first two. -/
theorem exists_parts {payload : Bytes} {creds : PlainCredentials}
    (h : parsePlain payload = .ok creds) :
    ∃ parts : PlainCredentials, payload = plainPayload parts ∧
      (0 : UInt8) ∉ parts.authzid ∧ (0 : UInt8) ∉ parts.username := by
  have hscan : scanNul payload 0 none ≠ none := by
    intro hnone
    rw [parsePlain, hnone] at h
    cases h
  have hfirst : (0 : UInt8) ∈ payload := by
    by_contra hnone
    exact hscan (scanNul_eq_none hnone 0 none)
  obtain ⟨a, rest, rfl, ha⟩ := List.eq_append_cons_of_mem hfirst
  rw [scanNul_first ha] at hscan
  have hsecond : (0 : UInt8) ∈ rest := by
    by_contra hnone
    exact hscan (scanNul_eq_none hnone _ _)
  obtain ⟨u, w, rfl, hu⟩ := List.eq_append_cons_of_mem hsecond
  exact ⟨⟨a, u, w⟩, by simp [plainPayload], ha, hu⟩

/-- Which payloads `ParsePlain` accepts, and what it makes of them. -/
theorem parsePlain_eq_ok_iff {payload : Bytes} {creds : PlainCredentials} :
    parsePlain payload = .ok creds ↔ payload = plainPayload creds ∧
      (0 : UInt8) ∉ creds.authzid ∧ (0 : UInt8) ∉ creds.username := by
  constructor
  · intro h
    obtain ⟨parts, rfl, ha, hu⟩ := exists_parts h
    have hparts : parsePlain (plainPayload parts) = .ok parts := parsePlain_plainPayload ha hu
    cases hparts.symm.trans h
    exact ⟨rfl, ha, hu⟩
  · intro h
    obtain ⟨rfl, ha, hu⟩ := h
    exact parsePlain_plainPayload ha hu

/-! ### What a dial sends -/

/-- The SaslAuthenticate payloads sent over a connection, oldest first. -/
def saslPayloads (log : List Event) : List Bytes :=
  log.filterMap fun
    | .sent packet => saslPayload packet
    | .received _ _ => none

/-- Frames that are read send nothing. -/
theorem saslPayloads_read {tail : List Event} (h : ∀ e ∈ tail, e.isSent = false) :
    saslPayloads tail = [] := by
  rw [saslPayloads, List.filterMap_eq_nil_iff]
  intro e he
  cases e with
  | sent packet => exact absurd (h _ he) (by simp [Event.isSent])
  | received i frame => rfl

/-- A packet adds its payload, if it has one. -/
theorem Sends.saslPayloads {packet : Packet} {c c' : Upstream.Conn} (h : Sends packet c c') :
    saslPayloads c'.log = saslPayloads c.log ++ (saslPayload packet).toList := by
  obtain ⟨tail, hlog, htail⟩ := h.log
  have hread := saslPayloads_read htail
  rw [hlog]
  unfold Proofs.saslPayloads at hread ⊢
  rw [List.filterMap_append, List.filterMap_cons]
  cases hsent : saslPayload packet <;> simp [hread, hsent]

/-- A client request leaves the payloads as they are. -/
theorem Sends.saslPayloads_client {packet : Packet} {c c' : Upstream.Conn}
    (h : Sends packet c c') (hneeds : needsAuth packet.key = true) :
    Proofs.saslPayloads c'.log = Proofs.saslPayloads c.log := by
  rw [h.saslPayloads, saslPayload_of_needsAuth hneeds]
  exact List.append_nil _

/-- A direct round trip sends its own payload, whether it succeeds or not. -/
theorem directRoundTrip_payloads (msg : Message) (apiKey apiVersion : Int16)
    (c : Upstream.Conn) {sent : List Bytes}
    (hsent : ∀ cid, (saslPayload (.formatted msg cid (goString "kroxy"))).toList = sent) :
    Ends (directRoundTrip msg apiKey apiVersion)
      (fun _ c' => saslPayloads c'.log = saslPayloads c.log ++ sent)
      (fun _ c' => saslPayloads c'.log = saslPayloads c.log ++ sent) c := by
  refine (directRoundTrip_spec msg apiKey apiVersion c).imp ?_ ?_
  · rintro body c' ⟨reply, hround, -⟩
    rw [hround.sends.saslPayloads, hsent]
  · intro _ c' hsends
    rw [hsends.saslPayloads, hsent]

/-- A program that sends no SaslAuthenticate payload from `c` on. -/
def SendsNoPayload {α : Type} (prog : GoM Upstream.Conn α) (c : Upstream.Conn) : Prop :=
  Ends prog (fun _ c' => saslPayloads c'.log = saslPayloads c.log)
    (fun _ c' => saslPayloads c'.log = saslPayloads c.log) c

/-- `apiVersions` sends no payload. -/
theorem apiVersions_payloads (c : Upstream.Conn) : SendsNoPayload apiVersions c := by
  have htrip := directRoundTrip_payloads .apiVersions apiVersionsKey 0 c (fun _ => rfl)
  simp only [List.append_nil] at htrip
  refine Ends.bind (ends_wrapErr (htrip.imp ?_ (fun _ _ h => h)))
  intro _ c' h
  exact Ends.pure h

/-- Nor does `saslHandshake`. -/
theorem saslHandshake_payloads (K : Codec) (mechanism : GoString) (c : Upstream.Conn) :
    SendsNoPayload (saslHandshake K mechanism) c := by
  have htrip := directRoundTrip_payloads (.saslHandshake mechanism) saslHandshakeKey 1 c
    (fun _ => rfl)
  simp only [List.append_nil] at htrip
  refine Ends.bind (ends_wrapErr (htrip.imp ?_ (fun _ _ h => h)))
  intro body c' h
  refine Ends.bind (ends_liftErr ?_ h)
  intro resp _
  split
  · exact ends_fail h
  · exact Ends.pure h

/-- Nor does setting the deadline. -/
theorem setDeadline_payloads (c : Upstream.Conn) : SendsNoPayload setDeadline c :=
  (netCall_spec c).imp (fun _ _ h => by rw [h.1.log]) (fun _ _ h => by rw [h.1.log])

/-- The handshake in front of the authentication sends no payload. -/
theorem negotiate_payloads (K : Codec) (mechanism : GoString) (c : Upstream.Conn) :
    SendsNoPayload (negotiate K mechanism) c := by
  refine Ends.bind (ends_wrapErr ((setDeadline_payloads c).imp ?_ (fun _ _ h => h)))
  intro _ c₁ h₁
  refine Ends.bind (ends_wrapErr ((apiVersions_payloads c₁).imp ?_ (fun _ _ h => h.trans h₁)))
  intro _ c₂ h₂
  refine ends_wrapErr ((saslHandshake_payloads K mechanism c₂).imp ?_ ?_)
  · intro _ c₃ h₃
    exact h₃.trans (h₂.trans h₁)
  · intro _ c₃ h₃
    exact h₃.trans (h₂.trans h₁)

/-- `plainAuthenticate` sends the payload of its two arguments, with no authzid. -/
theorem plainAuthenticate_payloads (K : Codec) (username password : GoString)
    (c : Upstream.Conn) :
    Ends (plainAuthenticate K username password)
      (fun _ c' => saslPayloads c'.log =
        saslPayloads c.log ++ [plainPayload ⟨[], username, password⟩])
      (fun _ c' => saslPayloads c'.log =
        saslPayloads c.log ++ [plainPayload ⟨[], username, password⟩]) c := by
  have htrip := directRoundTrip_payloads
    (.saslAuthenticate ([0] ++ username ++ [0] ++ password)) saslAuthenticateKey 1 c
    (fun _ => rfl)
  refine Ends.bind (ends_wrapErr (htrip.imp ?_ (fun _ _ h => h)))
  intro body c' h
  refine Ends.bind (ends_liftErr ?_ h)
  intro resp _
  split
  · exact ends_fail h
  · exact Ends.pure h

/-- What `dial` leaves: a connection that carried the payload of its two arguments, or a
closed one that carried nothing else. -/
def DialTold (username password : GoString) : Dialled → Prop :=
  DialLeaves (fun up => saslPayloads up.log = [plainPayload ⟨[], username, password⟩])
    (fun up => ∀ sent ∈ saslPayloads up.log, sent = plainPayload ⟨[], username, password⟩)

/-- `Dial` tells the broker the credentials it was given, and nothing else. -/
theorem dial_told (K : Codec) (link : Except GoError Peer) (username password : GoString) :
    DialTold username password (dial K link username password) := by
  refine dialWith_leaves fun peer => ?_
  refine Ends.bind ((negotiate_payloads K _ _).imp ?_ ?_)
  · intro _ c₁ h₁
    refine Ends.bind ((plainAuthenticate_payloads K username password c₁).imp ?_ ?_)
    · intro _ c₂ h₂
      -- From here on the history has the payload, and clearing the deadline adds none.
      have htold : saslPayloads c₂.log = [plainPayload ⟨[], username, password⟩] := by
        rw [h₂, h₁]
        rfl
      refine (setDeadline_payloads c₂).imp (fun _ _ h => h.trans htold) ?_
      intro _ c₃ h₃ sent hsent
      rw [h₃, htold] at hsent
      exact List.mem_singleton.mp hsent
    · intro _ c₂ h₂ sent hsent
      rw [h₂, h₁] at hsent
      exact List.mem_singleton.mp hsent
  · intro _ c₁ h₁ sent hsent
    rw [h₁] at hsent
    cases hsent

/-! ### From the login to the broker -/

/-- Nothing was dialled for a client that has not logged in, unless it is a SCRAM client. -/
structure Undialled (c : Conn) : Prop where
  handshake : c.state = .awaitHandshake → c.closed = []
  plain : c.state = .awaitAuth → isSCRAMMechanism c.clientMechanism = false → c.closed = []

/-- A round of the relay keeps the state or completes the login. -/
theorem RelayTurn.state {X : Server} {hdr : RequestHeader} {payload : Bytes} {c c' : Conn}
    {up : Upstream.Conn} {out : Option Bytes} (h : RelayTurn X hdr payload c up out c') :
    c'.state = c.state ∨ c'.state = .authenticated := by
  cases h with
  | broken up' traffic => exact Or.inl rfl
  | answered up' reply resp out round decoded answer =>
      unfold afterRound
      by_cases hcode : resp.errorCode ≠ 0
      · rw [if_pos hcode]
        exact Or.inl rfl
      · rw [if_neg hcode]
        by_cases hrounds : c.scramRoundsCompleted + 1 ≥ 2
        · exact Or.inr (if_pos hrounds)
        · exact Or.inl (if_neg hrounds)

/-- In the later states `Undialled` says nothing. -/
theorem Undialled.of_later {c : Conn}
    (h : c.state = .relaySaslInFlight ∨ c.state = .authenticated) : Undialled c where
  handshake := fun hs => by rcases h with h | h <;> cases hs.symm.trans h
  plain := fun hs => by rcases h with h | h <;> cases hs.symm.trans h

/-- Every turn keeps that. -/
theorem Undialled.turn {X : Server} {E : Env} {hdr : RequestHeader} {frame body : Bytes}
    {c c' : Conn} {out : Option Bytes} (h : Undialled c)
    (hturn : Turn X E hdr frame body c out c') : Undialled c' := by
  cases hturn with
  | idle _ own key => exact h
  | early key state => exact h
  | chose mech _ own key state =>
      exact ⟨fun hs => (by cases hs), fun _ _ => h.handshake state⟩
  | plain payload creds tenant _ own key state mech request parsed known =>
      exact .of_later (Or.inr rfl)
  | undialled payload username tenant closed _ own key state mech request parsed known only =>
      -- Only a SCRAM client dials before it is authenticated.
      refine ⟨fun hs => ?_, fun _ hplain => ?_⟩
      · cases state.symm.trans hs
      · cases mech.symm.trans hplain
  | opened payload username tenant up _ _ key state mech request parsed known handshaking rounds
      relayed => exact .of_later relayed.state
  | relayed payload up _ _ key state mech request upstream relayed =>
      have hstate := relayed.state
      rw [state] at hstate
      exact .of_later hstate
  | unreachable closed key state upstream dialled only => exact .of_later (Or.inr state)
  | unsent up up' key state upstream quiet why => exact .of_later (Or.inr state)
  | failed up up' packet key state upstream ready forwarded packetKey sends =>
      exact .of_later (Or.inr state)
  | answered up up' packet reply resp key state upstream ready forwarded packetKey round
      answer => exact .of_later (Or.inr state)

/-- So it holds at every point of a run. -/
theorem undialled_run (X : Server) (r : MemoryResolver) (inputs : List Input) :
    Undialled (World.run X (World.start r) inputs).conn :=
  run_invariant (P := Undialled) ⟨fun _ => rfl, fun _ _ => rfl⟩
    (fun _ _ _ _ _ _ _ h turn => h.turn turn) (fun _ _ h => ⟨h.handshake, h.plain⟩) inputs

/-- A connection after the login with `creds`: what the first dial will use, and what the
upstream connections have carried. -/
structure ToldBroker (creds : PlainCredentials) (c : Conn) : Prop where
  state : c.state = .authenticated
  id : c.tenant.id = creds.username
  password : c.password = creds.password
  /-- A failed dial told its broker these credentials or none. -/
  closed : ∀ up ∈ c.closed, ∀ sent ∈ saslPayloads up.log,
    sent = plainPayload ⟨[], creds.username, creds.password⟩
  /-- The upstream was told these credentials, once. -/
  upstream : ∀ up, c.upstream = some up →
    saslPayloads up.log = [plainPayload ⟨[], creds.username, creds.password⟩]

/-- What is written to the client does not matter. -/
theorem ToldBroker.written {creds : PlainCredentials} {c : Conn} (h : ToldBroker creds c)
    (frames : List Bytes) : ToldBroker creds { c with written := frames } :=
  ⟨h.state, h.id, h.password, h.closed, h.upstream⟩

section
variable {X : Server} {E : Env} {creds : PlainCredentials} {c : Conn}

/-- The dial of a logged-in client uses the client's credentials. -/
theorem ToldBroker.dialled (h : ToldBroker creds c)
    (hplain : isSCRAMMechanism X.cfg.upstreamSASLMechanism = false) :
    DialTold creds.username creds.password (dialUpstream X E c) := by
  have htranslate : shouldTranslatePlainToSCRAM X c = false := by
    rw [shouldTranslatePlainToSCRAM, hplain, Bool.and_false]
  unfold dialUpstream
  rw [htranslate, h.id, h.password]
  exact dial_told _ _ _ _

/-- The upstream connection of a turn was told the credentials. -/
theorem ToldBroker.hasUpstream {up : Upstream.Conn} (h : ToldBroker creds c)
    (hplain : isSCRAMMechanism X.cfg.upstreamSASLMechanism = false)
    (hup : HasUpstream X E c up) :
    saslPayloads up.log = [plainPayload ⟨[], creds.username, creds.password⟩] := by
  rcases hup with hsome | ⟨-, hdialled⟩
  · exact h.upstream up hsome
  · have hdial : DialTold creds.username creds.password (dialUpstream X E c) :=
      h.dialled hplain
    rw [hdialled] at hdial
    exact hdial

/-- And so was the one it leaves. -/
theorem ToldBroker.forward {up : Upstream.Conn} (h : ToldBroker creds c)
    (hup : saslPayloads up.log = [plainPayload ⟨[], creds.username, creds.password⟩]) :
    ToldBroker creds { c with upstream := some up } := by
  refine ⟨h.state, h.id, h.password, h.closed, ?_⟩
  intro up' hup'
  cases hup'
  exact hup

/-- Every turn keeps that. -/
theorem ToldBroker.turn {hdr : RequestHeader} {frame body : Bytes} {c' : Conn}
    {out : Option Bytes} (h : ToldBroker creds c)
    (hplain : isSCRAMMechanism X.cfg.upstreamSASLMechanism = false)
    (hturn : Turn X E hdr frame body c out c') : ToldBroker creds c' := by
  have hlogged := h.state
  cases hturn with
  | idle _ own key => exact h
  | early key state => exact h
  | chose mech _ own key state => cases hlogged.symm.trans state
  | plain payload creds tenant _ own key state mech request parsed known =>
      cases hlogged.symm.trans state
  | undialled payload username tenant closed _ own key state mech request parsed known only =>
      cases hlogged.symm.trans state
  | opened payload username tenant up _ _ key state mech request parsed known handshaking rounds
      relayed => cases hlogged.symm.trans state
  | relayed payload up _ _ key state mech request upstream relayed =>
      cases hlogged.symm.trans state
  | unreachable closed key state upstream dialled only =>
      -- The failed dial is the one that was going to use the credentials.
      obtain ⟨stop, hfailed⟩ := dialled
      have hdial : DialTold creds.username creds.password (dialUpstream X E c) :=
        h.dialled hplain
      rw [hfailed] at hdial
      refine ⟨h.state, h.id, h.password, ?_, h.upstream⟩
      intro up hup
      rcases List.mem_append.mp hup with hold | hnew
      · exact h.closed up hold
      · exact hdial up (Option.mem_toList.mp hnew)
  | unsent up up' key state upstream quiet why =>
      have hup := h.hasUpstream hplain upstream
      rw [← quiet.log] at hup
      exact h.forward hup
  | failed up up' packet key state upstream ready forwarded packetKey sends =>
      rw [← packetKey] at key
      exact h.forward ((sends.saslPayloads_client key).trans (h.hasUpstream hplain upstream))
  | answered up up' packet reply resp key state upstream ready forwarded packetKey round
      answer =>
      rw [← packetKey] at key
      exact h.forward
        ((round.sends.saslPayloads_client key).trans (h.hasUpstream hplain upstream))

end

/-- A frame that `handleSaslAuthenticatePlain` accepts in the world `w`. -/
structure PlainAccepted (X : Server) (w : World) (frame : Bytes) (creds : PlainCredentials) :
    Prop where
  serving : w.stopped = none
  state : w.conn.state = .awaitAuth
  mech : isSCRAMMechanism w.conn.clientMechanism = false
  request : ∃ hdr body payload, parseRequestHeader frame = .ok hdr ∧
    sliceFrom frame hdr.headerSize = .ok body ∧ hdr.apiKey = saslAuthenticateKey ∧
    X.codec.readSASLAuthenticateRequest hdr.apiVersion body = .ok payload ∧
    parsePlain payload = .ok creds
  known : ∃ tenant, w.resolver.get creds.username = .ok tenant

/-- The connection after an accepted login, up to the frames written. -/
def LoggedIn (creds : PlainCredentials) (tenant : Tenant) (c c' : Conn) : Prop :=
  ∃ frames, c' = { c with
    resolved := c.resolved ++ [(creds.username, tenant)]
    tenant, password := creds.password, state := .authenticated, written := frames }

/-- Writing an answer changes nothing but the frames written. -/
theorem writeResponse_loggedIn {E : Env} {hdr : RequestHeader} {b : Bytes}
    {creds : PlainCredentials} {tenant : Tenant} {c c₁ : Conn}
    (h : LoggedIn creds tenant c c₁) :
    Ends (writeResponse E hdr b) (fun _ => LoggedIn creds tenant c)
      (fun _ => LoggedIn creds tenant c) c₁ := by
  obtain ⟨frames, rfl⟩ := h
  refine ends_wrapErr ?_
  unfold writeFrame
  cases E.clientWrite with
  | some e => exact Ends.throw ⟨frames, rfl⟩
  | none => exact Ends.modify ⟨_, rfl⟩

/-- `handleSaslAuthenticatePlain` on credentials of a known user. -/
theorem handleSaslAuthenticatePlain_accepts {X : Server} {E : Env} {hdr : RequestHeader}
    {body payload : Bytes} {creds : PlainCredentials} {tenant : Tenant} {c : Conn}
    (hstate : c.state = .awaitAuth)
    (hrequest : X.codec.readSASLAuthenticateRequest hdr.apiVersion body = .ok payload)
    (hparsed : parsePlain payload = .ok creds)
    (hknown : E.resolver.get creds.username = .ok tenant) :
    Ends (handleSaslAuthenticatePlain X E hdr body) (fun _ => LoggedIn creds tenant c)
      (fun _ => LoggedIn creds tenant c) c := by
  unfold handleSaslAuthenticatePlain resolve
  rw [hrequest]
  refine Ends.bind (Ends.pure (Ends.bind (Ends.get ?_)))
  rw [if_neg (not_not.mpr hstate), hparsed]
  dsimp only
  rw [hknown]
  exact Ends.bind (Ends.bind (Ends.modify (Ends.pure (Ends.bind (Ends.modify
    (writeResponse_loggedIn ⟨c.written, rfl⟩))))))

/-- An accepted login leaves a connection that will tell the broker the credentials. -/
theorem toldBroker_of_accepted {X : Server} {r : MemoryResolver} {inputs : List Input}
    {frame : Bytes} {creds : PlainCredentials}
    (h : PlainAccepted X (World.run X (World.start r) inputs) frame creds) (net : Net) :
    ToldBroker creds (World.run X (World.start r) (inputs ++ [.frame frame net])).conn := by
  have hsound : Sound X.codec (World.run X (World.start r) inputs).conn := sound_run X r inputs
  have hundialled : Undialled (World.run X (World.start r) inputs).conn :=
    undialled_run X r inputs
  rw [run_concat]
  generalize World.run X (World.start r) inputs = w at h hsound hundialled
  obtain ⟨resolver, c, stopped⟩ := w
  obtain ⟨hserving, hstate, hmech, hrequest, tenant, hknown⟩ := h
  obtain ⟨hdr, body, payload, hparse, hslice, hkey, hread, hplain⟩ := hrequest
  -- The client write may fail, so the login is followed through both ends of the handler.
  have hends : Ends (serveFrame X { net with resolver } frame)
      (fun _ => LoggedIn creds tenant c) (fun _ => LoggedIn creds tenant c) c := by
    refine serveFrame_ends hparse hslice ?_
    rw [dispatch_authenticate hkey]
    refine Ends.bind (Ends.get ?_)
    rw [if_neg (by rw [hmech]; simp)]
    exact handleSaslAuthenticatePlain_accepts hstate hread hplain hknown
  have hid : tenant.id = creds.username := MemoryResolver.id_of_get_eq_ok hknown
  have htold : ∀ c', LoggedIn creds tenant c c' → ToldBroker creds c' := by
    intro c' hlogged
    obtain ⟨frames, rfl⟩ := hlogged
    refine ⟨rfl, hid, rfl, ?_, ?_⟩
    · intro up hup
      rw [show c.closed = [] from hundialled.plain hstate hmech] at hup
      cases hup
    · intro up hup
      cases (hsound.fresh (Or.inr hstate)).symm.trans hup
  unfold World.step
  cases hserving
  dsimp only
  cases hrun : serveFrame X { net with resolver } frame c with
  | ok u c' => exact htold c' (hends.of_ok hrun)
  | error stop c' => exact htold c' (hends.of_error hrun)

/-- PLAIN credentials reach the broker as the client sent them. `ParsePlain` accepts the
payloads of three parts with no NUL in the first two, and returns the parts. After a login
that `handleSaslAuthenticatePlain` accepted, whatever follows, every SaslAuthenticate payload
on every upstream connection of the client parses to an empty authzid and the user name and
password of the login. On a connection that was dialled successfully there is exactly one.
With a SCRAM mechanism configured for the upstream, `plainAuthenticate` is not called. -/
theorem plainCredentials_reach_broker (X : Server) (r : MemoryResolver) :
    (∀ payload creds, parsePlain payload = .ok creds ↔
      payload = creds.authzid ++ [0] ++ creds.username ++ [0] ++ creds.password ∧
        (0 : UInt8) ∉ creds.authzid ∧ (0 : UInt8) ∉ creds.username) ∧
    ∀ (inputs later : List Input) (frame : Bytes) (net : Net) (creds : PlainCredentials),
      isSCRAMMechanism X.cfg.upstreamSASLMechanism = false →
      PlainAccepted X (World.run X (World.start r) inputs) frame creds →
      let c := (World.run X (World.start r) (inputs ++ .frame frame net :: later)).conn
      (∀ up ∈ upstreams c, ∀ sent ∈ saslPayloads up.log,
        parsePlain sent = .ok ⟨[], creds.username, creds.password⟩) ∧
      ∀ up, c.upstream = some up → (saslPayloads up.log).length = 1 := by
  refine ⟨fun payload creds => parsePlain_eq_ok_iff, ?_⟩
  intro inputs later frame net creds hplain haccepted
  have hsplit : World.run X (World.start r) (inputs ++ .frame frame net :: later) =
      World.run X (World.run X (World.start r) (inputs ++ [.frame frame net])) later := by
    simp only [World.run, List.foldl_append, List.foldl_cons, List.foldl_nil]
  have htold : ToldBroker creds
      (World.run X (World.start r) (inputs ++ .frame frame net :: later)).conn := by
    rw [hsplit]
    exact run_invariant (toldBroker_of_accepted haccepted net)
      (fun _ _ _ _ _ _ _ h turn => h.turn hplain turn) (fun _ frames h => h.written frames)
      later
  -- The user name came out of `ParsePlain`, so it has no NUL and the new payload parses.
  obtain ⟨hdr, body, payload, -, -, -, -, hparsed⟩ := haccepted.request
  have husername : (0 : UInt8) ∉ creds.username := (parsePlain_eq_ok_iff.mp hparsed).2.2
  have hparses : parsePlain (plainPayload ⟨[], creds.username, creds.password⟩) =
      .ok ⟨[], creds.username, creds.password⟩ :=
    parsePlain_plainPayload (by simp) husername
  refine ⟨?_, ?_⟩
  · intro up hup sent hsent
    rcases List.mem_append.mp hup with hclosed | hopen
    · rw [htold.closed up hclosed sent hsent]
      exact hparses
    · rw [htold.upstream up (Option.mem_toList.mp hopen)] at hsent
      rw [List.mem_singleton.mp hsent]
      exact hparses
  · intro up hup
    rw [htold.upstream up hup]
    rfl

/-- A client that logs in with `payload` and then sends one request. -/
def plainClient (payload : Bytes) : List Input :=
  let net : Net := { dial := fun _ => .ok (saslBroker [0]) }
  [.frame (requestFrame saslHandshakeKey 1 1 (appendString mechanismPlain)) net,
    .frame (requestFrame saslAuthenticateKey 1 2 (appendBytes payload)) net,
    .frame (requestFrame listGroupsKey 0 3 []) net]

/-- A login with an authzid, and with a NUL in the password. -/
theorem plainCredentials_reach_broker_acme :
    let payload := goString "boss" ++ [0] ++ goString "acme" ++ [0] ++ goString "p" ++ [0, 1]
    let c := (World.run relayServer (World.start acmeTable) (plainClient payload)).conn
    (c.upstream.map fun up => saslPayloads up.log) =
        some [[0] ++ goString "acme" ++ [0] ++ goString "p" ++ [0, 1]] ∧
      ∀ up ∈ upstreams c, ∀ sent ∈ saslPayloads up.log,
        parsePlain sent = .ok ⟨[], goString "acme", goString "p" ++ [0, 1]⟩ := by
  intro payload c
  let creds : PlainCredentials := ⟨goString "boss", goString "acme", goString "p" ++ [0, 1]⟩
  let net : Net := { dial := fun _ => .ok (saslBroker [0]) }
  let hello : Input :=
    .frame (requestFrame saslHandshakeKey 1 1 (appendString mechanismPlain)) net
  have haccepted : PlainAccepted relayServer
      (World.run relayServer (World.start acmeTable) [hello])
      (requestFrame saslAuthenticateKey 1 2 (appendBytes payload)) creds :=
    { serving := by decide +kernel
      state := by decide +kernel
      mech := by decide +kernel
      request := ⟨_, _, payload, rfl, rfl, rfl, by decide +kernel, by decide +kernel⟩
      known := ⟨⟨goString "acme", goString "acme.", goString "kafka:9092"⟩, by decide +kernel⟩ }
  refine ⟨by decide +kernel, ?_⟩
  exact ((plainCredentials_reach_broker relayServer acmeTable).2 [hello]
    [.frame (requestFrame listGroupsKey 0 3 []) net] _ net creds (by decide) haccepted).1

end Kroxy.Proofs
