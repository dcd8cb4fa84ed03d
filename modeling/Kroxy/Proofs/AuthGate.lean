import Kroxy.Proofs.Turn

/-!
# `Kroxy.Proofs.AuthGate`: no request goes upstream before authentication

`Sound` ties the fields of a connection together: what its upstream connection has carried
in each state, which record `tenant` holds, and when there is an upstream connection at all.
Every turn keeps it (`Sound.turn`), so it holds in every state of every run.

`authGate` reads the gate off it. Requests of clients go upstream only on a connection in
state `authenticated`, and only on an upstream connection whose latest SaslAuthenticate reply
had code 0. The tenant is a record the resolver returned for a user name of this connection,
and it is fixed once the client is authenticated.
-/

set_option autoImplicit false

namespace Kroxy.Proofs

open Kroxy.Go
open Kroxy.Kmsg
open Kroxy.Protocol
open Kroxy.Auth
open Kroxy.Resolver
open Kroxy.Proxy
open Kroxy.Upstream (Packet Event)

/-! ### The invariant -/

/-- What holds of a connection in every state. -/
structure Sound (K : Codec) (c : Conn) : Prop where
  /-- A failed dial left nothing but handshake messages. -/
  closed : ∀ up ∈ c.closed, HandshakeOnly up.log
  /-- There is no upstream connection before the client authenticates. -/
  fresh : c.state = .awaitHandshake ∨ c.state = .awaitAuth → c.upstream = none
  /-- A relayed exchange has an upstream connection, with handshake messages only. -/
  relaying : c.state = .relaySaslInFlight → ∃ up, c.upstream = some up ∧ HandshakeOnly up.log
  /-- The upstream connection of an authenticated client is authenticated. -/
  accepted : c.state = .authenticated → ∀ up, c.upstream = some up →
    Gated K up.log ∧ Accepted K up.log
  /-- A SCRAM client is authenticated on an upstream connection. -/
  scram : c.state = .authenticated → isSCRAMMechanism c.clientMechanism = true →
    c.upstream.isSome
  /-- The tenant is unset or was looked up. -/
  tenant : c.tenant = {} ∨ ∃ username, (username, c.tenant) ∈ c.resolved
  /-- From the relay on the tenant was looked up. -/
  known : c.state = .relaySaslInFlight ∨ c.state = .authenticated →
    ∃ username, (username, c.tenant) ∈ c.resolved
  /-- Looked-up records are valid. -/
  valid : ∀ e ∈ c.resolved, validateTenant e.2 = .ok ()

/-- A fresh connection is sound. -/
theorem Sound.start (K : Codec) : Sound K {} where
  closed := by simp
  fresh := fun _ => rfl
  relaying := fun h => by cases h
  accepted := fun h => by cases h
  scram := fun h => by cases h
  tenant := Or.inl rfl
  known := fun h => by rcases h with h | h <;> cases h
  valid := by simp

/-- The written frames play no part. -/
theorem Sound.written {K : Codec} {c : Conn} (h : Sound K c) (frames : List Bytes) :
    Sound K { c with written := frames } :=
  ⟨h.closed, h.fresh, h.relaying, h.accepted, h.scram, h.tenant, h.known, h.valid⟩

/-- A valid record is not the zero value. -/
theorem ne_zero_of_valid {t : Tenant} (h : validateTenant t = .ok ()) : t ≠ {} := by
  rintro rfl
  exact (validateTenant_eq_ok.mp h).1 rfl

/-- One more lookup keeps the lookups valid. -/
theorem valid_concat {resolver : MemoryResolver} {resolved : List (GoString × Tenant)}
    {username : GoString} {tenant : Tenant}
    (h : ∀ e ∈ resolved, validateTenant e.2 = .ok ())
    (hget : resolver.get username = .ok tenant) :
    ∀ e ∈ resolved ++ [(username, tenant)], validateTenant e.2 = .ok () := by
  intro e he
  rcases List.mem_append.mp he with hold | hnew
  · exact h e hold
  · rw [List.mem_singleton.mp hnew]
    exact MemoryResolver.valid_of_get_eq_ok hget

/-! ### Relayed rounds -/

/-- A relayed payload leaves the handshake a handshake. -/
theorem HandshakeOnly.relay {up up' : Upstream.Conn} {payload : Bytes}
    (h : HandshakeOnly up.log) (hs : Sends (saslPacket up payload) up up') :
    HandshakeOnly up'.log := h.sends hs (not_needsAuth_authenticate rfl)

/-- The fields a relayed round does not touch, and the two it does. -/
structure RelayEffect (X : Server) (c c' : Conn) : Prop where
  closed : c'.closed = c.closed
  resolved : c'.resolved = c.resolved
  tenant : c'.tenant = c.tenant
  /-- The upstream connection stays and carries handshake messages only. -/
  upstream : ∃ up, c'.upstream = some up ∧ HandshakeOnly up.log
  /-- The state stays, or the last code was 0 and the client is authenticated. -/
  state : c'.state = c.state ∨
    (c'.state = .authenticated ∧ ∃ up, c'.upstream = some up ∧ Accepted X.codec up.log)

/-- What a round of the relay does to the login, when the upstream has only seen handshakes. -/
theorem RelayTurn.effect {X : Server} {hdr : RequestHeader} {payload : Bytes} {c c' : Conn}
    {up : Upstream.Conn} {out : Option Bytes} (h : RelayTurn X hdr payload c up out c')
    (honly : HandshakeOnly up.log) : RelayEffect X c c' := by
  cases h with
  | broken up' traffic =>
      refine ⟨rfl, rfl, rfl, ⟨up', rfl, ?_⟩, Or.inl rfl⟩
      rcases traffic with hquiet | hsends
      · rw [hquiet.log]
        exact honly
      · exact honly.relay hsends
  | answered up' reply resp out round decoded answer =>
      have honly' := honly.relay round.sends
      unfold afterRound
      by_cases hcode : resp.errorCode ≠ 0
      · rw [if_pos hcode]
        exact ⟨rfl, rfl, rfl, ⟨up', rfl, honly'⟩, Or.inl rfl⟩
      -- An accepted round. It authenticates when it is the second one.
      · rw [if_neg hcode]
        refine ⟨rfl, rfl, rfl, ⟨up', rfl, honly'⟩, ?_⟩
        by_cases hrounds : c.scramRoundsCompleted + 1 ≥ 2
        · exact Or.inr ⟨if_pos hrounds, up', rfl,
            accepted_round round decoded (not_not.mp hcode)⟩
        · exact Or.inl (if_neg hrounds)

/-- A relay effect on a connection in relay keeps everything sound. -/
theorem RelayEffect.sound {X : Server} {c c' : Conn} (h : RelayEffect X c c')
    (hstate : c.state = .relaySaslInFlight) (hclosed : ∀ up ∈ c.closed, HandshakeOnly up.log)
    (hknown : ∃ username, (username, c.tenant) ∈ c.resolved)
    (hvalid : ∀ e ∈ c.resolved, validateTenant e.2 = .ok ()) : Sound X.codec c' := by
  obtain ⟨up, hup, honly⟩ := h.upstream
  -- A relay never goes back, so the early states are out.
  have hstates : c'.state = .relaySaslInFlight ∨ c'.state = .authenticated := by
    rcases h.state with hs | ⟨hs, _⟩
    · exact Or.inl (hs.trans hstate)
    · exact Or.inr hs
  have hknown' : ∃ username, (username, c'.tenant) ∈ c'.resolved := by
    rw [h.tenant, h.resolved]
    exact hknown
  refine ⟨?_, ?_, fun _ => ⟨up, hup, honly⟩, ?_, ?_, Or.inr hknown', fun _ => hknown', ?_⟩
  · rw [h.closed]
    exact hclosed
  · intro hearly
    rcases hstates with hs | hs <;> rw [hs] at hearly <;> simp at hearly
  · intro hauth up₁ hup₁
    rcases h.state with hs | ⟨-, up₂, hup₂, hacc⟩
    · rw [hs, hstate] at hauth
      cases hauth
    · cases hup.symm.trans hup₁
      cases hup.symm.trans hup₂
      exact ⟨honly.gated, hacc⟩
  · intro _ _
    rw [hup]
    rfl
  · rw [h.resolved]
    exact hvalid

/-! ### Every turn is sound -/

/-- The connection a client request goes to is authenticated. -/
theorem Sound.hasUpstream {X : Server} {E : Env} {c : Conn} {up : Upstream.Conn}
    (h : Sound X.codec c) (hstate : c.state = .authenticated) (hup : HasUpstream X E c up) :
    Gated X.codec up.log ∧ Accepted X.codec up.log := by
  rcases hup with hsome | ⟨-, hdialled⟩
  · exact h.accepted hstate up hsome
  · have hdial := dialUpstream_spec X E c
    rw [hdialled] at hdial
    exact ⟨hdial.1.only.gated, hdial.2⟩

/-- An upstream connection that replaces the old one in an authenticated connection. -/
theorem Sound.forward {K : Codec} {c : Conn} {up : Upstream.Conn} (h : Sound K c)
    (hstate : c.state = .authenticated) (hup : Gated K up.log ∧ Accepted K up.log) :
    Sound K { c with upstream := some up } where
  closed := h.closed
  fresh := fun hearly => by
    have hearly' : c.state = .awaitHandshake ∨ c.state = .awaitAuth := hearly
    rw [hstate] at hearly'
    simp at hearly'
  relaying := fun hrelay => by
    have hrelay' : c.state = .relaySaslInFlight := hrelay
    rw [hstate] at hrelay'
    cases hrelay'
  accepted := fun _ up' hup' => by
    cases hup'
    exact hup
  scram := fun _ _ => rfl
  tenant := h.tenant
  known := h.known
  valid := h.valid

/-- Every turn keeps a connection sound. -/
theorem Sound.turn {X : Server} {E : Env} {hdr : RequestHeader} {frame body : Bytes}
    {c c' : Conn} {out : Option Bytes} (h : Sound X.codec c)
    (hturn : Turn X E hdr frame body c out c') : Sound X.codec c' := by
  cases hturn with
  | idle _ own key => exact h
  | early key state => exact h
  | chose mech _ own key state =>
      -- The new state is `awaitAuth`, of which only `fresh` says anything.
      have hup : c.upstream = none := h.fresh (Or.inl state)
      refine ⟨h.closed, fun _ => hup, ?_, ?_, ?_, h.tenant, ?_, h.valid⟩
      · intro hs
        cases hs
      · intro hs
        cases hs
      · intro hs
        cases hs
      · intro hs
        rcases hs with hs | hs <;> cases hs
  | plain payload creds tenant _ own key state mech request parsed known =>
      -- PLAIN authenticates without an upstream connection, which the first request will dial.
      have hup : c.upstream = none := h.fresh (Or.inr state)
      have hmem : ∃ username, (username, tenant) ∈ c.resolved ++ [(creds.username, tenant)] :=
        ⟨creds.username, by simp⟩
      refine ⟨h.closed, fun _ => hup, ?_, ?_, ?_, Or.inr hmem, fun _ => hmem,
        valid_concat h.valid known⟩
      · intro hs
        cases hs
      · intro _ up hsome
        have hsome' : c.upstream = some up := hsome
        rw [hup] at hsome'
        cases hsome'
      · intro _ hscram
        have hscram' : isSCRAMMechanism c.clientMechanism = true := hscram
        rw [mech] at hscram'
        cases hscram'
  | undialled payload username tenant closed _ own key state mech request parsed known only =>
      have hmem : ∃ username', (username', tenant) ∈ c.resolved ++ [(username, tenant)] :=
        ⟨username, by simp⟩
      -- The state stays `awaitAuth`, though the tenant is already set.
      have hstate : ∀ s : ConnState, c.state = s → s ≠ .awaitAuth → False := by
        intro s hs hne
        exact hne (hs.symm.trans state)
      refine ⟨?_, fun _ => h.fresh (Or.inr state), ?_, ?_, ?_, Or.inr hmem, fun _ => hmem,
        valid_concat h.valid known⟩
      · intro up hup
        rcases List.mem_append.mp hup with hold | hnew
        · exact h.closed up hold
        · exact only up (Option.mem_toList.mp hnew)
      · intro hs
        exact (hstate _ hs (by simp)).elim
      · intro hs
        exact (hstate _ hs (by simp)).elim
      · intro hs
        exact (hstate _ hs (by simp)).elim
  | opened payload username tenant up _ _ key state mech request parsed known handshaking rounds
      relayed =>
      -- The dialled connection has seen its handshake only, so the relay starts clean.
      have heffect := relayed.effect handshaking.only
      exact heffect.sound rfl h.closed ⟨username, by simp⟩ (valid_concat h.valid known)
  | relayed payload up _ _ key state mech request upstream relayed =>
      obtain ⟨up₁, hup₁, honly⟩ := h.relaying state
      cases upstream.symm.trans hup₁
      exact (relayed.effect honly).sound state h.closed (h.known (Or.inl state)) h.valid
  | unreachable closed key state upstream dialled only =>
      refine ⟨?_, h.fresh, h.relaying, h.accepted, h.scram, h.tenant, h.known, h.valid⟩
      intro up hup
      rcases List.mem_append.mp hup with hold | hnew
      · exact h.closed up hold
      · exact only up (Option.mem_toList.mp hnew)
  | unsent up up' key state upstream quiet why =>
      have hup := h.hasUpstream state upstream
      rw [← quiet.log] at hup
      exact h.forward state hup
  | failed up up' packet key state upstream ready forwarded packetKey sends =>
      -- The request is sent while the latest code is 0, and does not change that code.
      obtain ⟨hgated, hacc⟩ := h.hasUpstream state upstream
      rw [← packetKey] at key
      exact h.forward state ⟨hgated.sends sends fun _ => hacc, hacc.sends sends key⟩
  | answered up up' packet reply resp key state upstream ready forwarded packetKey round
      answer =>
      obtain ⟨hgated, hacc⟩ := h.hasUpstream state upstream
      rw [← packetKey] at key
      exact h.forward state
        ⟨hgated.sends round.sends fun _ => hacc, hacc.sends round.sends key⟩

/-! ### What was sent, who was looked up, what stays fixed -/

/-- Every upstream connection this client connection has opened. -/
def upstreams (c : Conn) : List Upstream.Conn := c.closed ++ c.upstream.toList

/-- The client requests sent over a connection, oldest first. -/
def requestsOn (log : List Event) : List Packet :=
  log.filterMap fun
    | .sent packet => if needsAuth packet.key then some packet else none
    | .received _ _ => none

/-- The client requests sent over any of the upstream connections. -/
def clientRequests (c : Conn) : List Packet := (upstreams c).flatMap fun up => requestsOn up.log

/-- The handshakes are not client requests. -/
theorem HandshakeOnly.requestsOn {log : List Event} (h : HandshakeOnly log) :
    requestsOn log = [] := by
  rw [Proofs.requestsOn, List.filterMap_eq_nil_iff]
  intro e he
  cases e with
  | sent packet => simp [h packet he]
  | received i frame => rfl

/-- No client request was sent over connections that carry handshake messages only. -/
theorem clientRequests_eq_nil {c : Conn} (h : ∀ up ∈ upstreams c, HandshakeOnly up.log) :
    clientRequests c = [] := by
  rw [clientRequests, List.flatMap_eq_nil_iff]
  intro up hup
  exact (h up hup).requestsOn

/-- Before authentication the upstream connections carry handshake messages only. -/
theorem Sound.handshakeOnly {K : Codec} {c : Conn} (h : Sound K c)
    (hstate : c.state ≠ .authenticated) : ∀ up ∈ upstreams c, HandshakeOnly up.log := by
  intro up hup
  rcases List.mem_append.mp hup with hclosed | hopen
  · exact h.closed up hclosed
  · have hsome : c.upstream = some up := Option.mem_toList.mp hopen
    cases hs : c.state with
    | awaitHandshake =>
        rw [h.fresh (Or.inl hs)] at hsome
        cases hsome
    | awaitAuth =>
        rw [h.fresh (Or.inr hs)] at hsome
        cases hsome
    | relaySaslInFlight =>
        obtain ⟨up₁, hup₁, honly⟩ := h.relaying hs
        cases hsome.symm.trans hup₁
        exact honly
    | authenticated => exact absurd hs hstate

/-- A turn of a connection that is not authenticated sends no client request, even when it
ends authenticated. -/
theorem Sound.turn_handshakeOnly {X : Server} {E : Env} {hdr : RequestHeader}
    {frame body : Bytes} {c c' : Conn} {out : Option Bytes} (h : Sound X.codec c)
    (hstate : c.state ≠ .authenticated) (hturn : Turn X E hdr frame body c out c') :
    ∀ up ∈ upstreams c', HandshakeOnly up.log := by
  have hsound := h.turn hturn
  by_cases hafter : c'.state = .authenticated
  swap
  · exact hsound.handshakeOnly hafter
  intro up hup
  rcases List.mem_append.mp hup with hclosed | hopen
  · exact hsound.closed up hclosed
  · have hsome : c'.upstream = some up := Option.mem_toList.mp hopen
    -- Only a PLAIN login and a relayed round lead to `authenticated` from elsewhere.
    cases hturn with
    | idle _ own key => exact absurd hafter hstate
    | early key state => exact absurd hafter hstate
    | chose mech _ own key state => cases hafter
    | plain payload creds tenant _ own key state mech request parsed known =>
        have hnone : c.upstream = none := h.fresh (Or.inr state)
        cases hnone.symm.trans hsome
    | undialled payload username tenant closed _ own key state mech request parsed known only =>
        exact absurd hafter hstate
    | opened payload username tenant up₁ _ _ key state mech request parsed known handshaking
        rounds relayed =>
        obtain ⟨up₂, hup₂, honly⟩ := (relayed.effect handshaking.only).upstream
        cases hsome.symm.trans hup₂
        exact honly
    | relayed payload up₁ _ _ key state mech request upstream relayed =>
        obtain ⟨up₂, hup₂, honly₂⟩ := h.relaying state
        cases upstream.symm.trans hup₂
        obtain ⟨up₃, hup₃, honly₃⟩ := (relayed.effect honly₂).upstream
        cases hsome.symm.trans hup₃
        exact honly₃
    | unreachable closed key state upstream dialled only => exact absurd state hstate
    | unsent up₁ up₂ key state upstream quiet why => exact absurd state hstate
    | failed up₁ up₂ packet key state upstream ready forwarded packetKey sends =>
        exact absurd state hstate
    | answered up₁ up₂ packet reply resp key state upstream ready forwarded packetKey round
        answer => exact absurd state hstate

/-- The request is a SaslAuthenticate, and `username` is the user name in its SASL payload. -/
def Presented (X : Server) (hdr : RequestHeader) (body : Bytes) (username : GoString) : Prop :=
  hdr.apiKey = saslAuthenticateKey ∧
  ∃ payload, X.codec.readSASLAuthenticateRequest hdr.apiVersion body = .ok payload ∧
    ((∃ creds, parsePlain payload = .ok creds ∧ creds.username = username) ∨
      parseSCRAMClientFirstUsername payload = .ok username)

/-- A round of the relay looks nobody up. -/
theorem RelayTurn.resolved {X : Server} {hdr : RequestHeader} {payload : Bytes} {c c' : Conn}
    {up : Upstream.Conn} {out : Option Bytes} (h : RelayTurn X hdr payload c up out c') :
    c'.resolved = c.resolved := by
  cases h with
  | broken up' traffic => rfl
  | answered up' reply resp out round decoded answer =>
      unfold afterRound
      split <;> rfl

/-- A turn looks up at most one user name, and it is one the frame presents. -/
theorem Turn.resolved {X : Server} {E : Env} {hdr : RequestHeader} {frame body : Bytes}
    {c c' : Conn} {out : Option Bytes} (hturn : Turn X E hdr frame body c out c') :
    c'.resolved = c.resolved ∨ ∃ username tenant,
      c'.resolved = c.resolved ++ [(username, tenant)] ∧ Presented X hdr body username ∧
        E.resolver.get username = .ok tenant := by
  cases hturn with
  | plain payload creds tenant _ own key state mech request parsed known =>
      exact Or.inr ⟨creds.username, tenant, rfl,
        ⟨key, payload, request, Or.inl ⟨creds, parsed, rfl⟩⟩, known⟩
  | undialled payload username tenant closed _ own key state mech request parsed known only =>
      exact Or.inr ⟨username, tenant, rfl, ⟨key, payload, request, Or.inr parsed⟩, known⟩
  | opened payload username tenant up _ _ key state mech request parsed known handshaking rounds
      relayed =>
      exact Or.inr ⟨username, tenant, relayed.resolved,
        ⟨key, payload, request, Or.inr parsed⟩, known⟩
  | relayed payload up _ _ key state mech request upstream relayed =>
      exact Or.inl relayed.resolved
  | _ => exact Or.inl rfl

/-- In an authenticated connection the identity is fixed. -/
theorem Turn.frozen {X : Server} {E : Env} {hdr : RequestHeader} {frame body : Bytes}
    {c c' : Conn} {out : Option Bytes} (hturn : Turn X E hdr frame body c out c')
    (hstate : c.state = .authenticated) :
    c'.state = .authenticated ∧ c'.tenant = c.tenant ∧ c'.password = c.password ∧
      c'.clientMechanism = c.clientMechanism := by
  cases hturn with
  | chose mech _ own key state => cases hstate.symm.trans state
  | plain payload creds tenant _ own key state mech request parsed known =>
      cases hstate.symm.trans state
  | undialled payload username tenant closed _ own key state mech request parsed known only =>
      cases hstate.symm.trans state
  | opened payload username tenant up _ _ key state mech request parsed known handshaking rounds
      relayed => cases hstate.symm.trans state
  | relayed payload up _ _ key state mech request upstream relayed =>
      cases hstate.symm.trans state
  | _ => exact ⟨hstate, rfl, rfl, rfl⟩

/-! ### The gate -/

/-- A connection is sound at every point of a run. -/
theorem sound_run (X : Server) (r : MemoryResolver) (inputs : List Input) :
    Sound X.codec (World.run X (World.start r) inputs).conn :=
  run_invariant (Sound.start X.codec) (fun _ _ _ _ _ _ _ h turn => h.turn turn)
    (fun _ frames h => h.written frames) inputs

/-- Somewhere in the run, a frame presented `username` and the resolver returned `tenant`
for it. -/
def LookedUp (X : Server) (r : MemoryResolver) (inputs : List Input) (username : GoString)
    (tenant : Tenant) : Prop :=
  ∃ pre bytes net hdr body, pre ++ [Input.frame bytes net] <+: inputs ∧
    parseRequestHeader bytes = .ok hdr ∧ sliceFrom bytes hdr.headerSize = .ok body ∧
    Presented X hdr body username ∧
    (World.run X (World.start r) pre).resolver.get username = .ok tenant

/-- A lookup stays one when more input comes. -/
theorem LookedUp.concat {X : Server} {r : MemoryResolver} {inputs : List Input}
    {username : GoString} {tenant : Tenant} (h : LookedUp X r inputs username tenant)
    (next : Input) : LookedUp X r (inputs ++ [next]) username tenant := by
  obtain ⟨pre, bytes, net, hdr, body, hpre, hrest⟩ := h
  exact ⟨pre, bytes, net, hdr, body, hpre.trans (List.prefix_append _ _), hrest⟩

/-- A turn adds at most one lookup, and its own frame made it. -/
theorem Turn.lookedUp {X : Server} {r : MemoryResolver} {inputs : List Input}
    {bytes body : Bytes} {net : Net} {hdr : RequestHeader} {out : Option Bytes} {c : Conn}
    (hparse : parseRequestHeader bytes = .ok hdr)
    (hslice : sliceFrom bytes hdr.headerSize = .ok body)
    (turn : Turn X { net with resolver := (World.run X (World.start r) inputs).resolver } hdr
      bytes body (World.run X (World.start r) inputs).conn out c)
    (hbefore : ∀ e ∈ (World.run X (World.start r) inputs).conn.resolved,
      LookedUp X r inputs e.1 e.2) :
    ∀ e ∈ c.resolved, LookedUp X r (inputs ++ [.frame bytes net]) e.1 e.2 := by
  intro e hmem
  rcases turn.resolved with hsame | ⟨username, tenant, hnew, hpres, hget⟩
  · rw [hsame] at hmem
    exact (hbefore e hmem).concat _
  · rw [hnew, List.mem_append] at hmem
    rcases hmem with hold | hlast
    · exact (hbefore e hold).concat _
    · cases List.mem_singleton.mp hlast
      exact ⟨inputs, bytes, net, hdr, body, List.prefix_refl _, hparse, hslice, hpres, hget⟩

/-- Every lookup on record was made for a request of the run. -/
theorem lookedUp_run (X : Server) (r : MemoryResolver) (inputs : List Input) :
    ∀ e ∈ (World.run X (World.start r) inputs).conn.resolved,
      LookedUp X r inputs e.1 e.2 := by
  refine run_induction (P := fun inputs w => ∀ e ∈ w.conn.resolved,
    LookedUp X r inputs e.1 e.2) ?_ ?_ ?_ ?_ inputs
  · intro e he
    cases he
  · intro inputs op ih e he
    exact (ih e he).concat _
  · intro inputs bytes net stop _ ih e he
    exact (ih e he).concat _
  · intro inputs bytes net w' _ ih hstep
    cases hstep with
    | answered hdr body resp c parsed sliced turn =>
        have hlooked := turn.lookedUp parsed sliced ih
        exact hlooked
    | ended stop hdr body c parsed sliced turn => exact turn.lookedUp parsed sliced ih
    | malformed stop =>
        intro e he
        exact (ih e he).concat _

/-- The gate and the identity of a connection, in a world `w` that a run has reached and
over the next step to `w'`. -/
structure AuthGate (X : Server) (r : MemoryResolver) (inputs : List Input) (next : Input)
    (w w' : World) : Prop where
  /-- On every upstream connection, client requests were sent only when the latest
  SaslAuthenticate reply had error code 0. -/
  gated : ∀ up ∈ upstreams w.conn, Gated X.codec up.log
  /-- The step sends a client request only from state `authenticated`. -/
  sends : w.conn.state ≠ .authenticated → clientRequests w'.conn = clientRequests w.conn
  /-- In any other state a client request ends the connection, which stays as it was. -/
  ends : ∀ bytes net hdr, next = .frame bytes net → w.stopped = none →
    parseRequestHeader bytes = .ok hdr → needsAuth hdr.apiKey = true →
    w.conn.state ≠ .authenticated → w'.stopped.isSome ∧ w'.conn = w.conn
  /-- The tenant is the zero value or a record the resolver returned. -/
  tenant : w.conn.tenant = {} ∨ ∃ username, LookedUp X r inputs username w.conn.tenant
  /-- It is not the zero value during a relay and after authentication. -/
  known : w.conn.state = .relaySaslInFlight ∨ w.conn.state = .authenticated →
    w.conn.tenant ≠ {}
  /-- After authentication the identity is fixed. -/
  frozen : w.conn.state = .authenticated →
    w'.conn.state = .authenticated ∧ w'.conn.tenant = w.conn.tenant ∧
      w'.conn.password = w.conn.password ∧
      w'.conn.clientMechanism = w.conn.clientMechanism
  /-- There is an upstream connection to relay on. -/
  upstream : w.conn.state = .relaySaslInFlight ∨
    (w.conn.state = .authenticated ∧ isSCRAMMechanism w.conn.clientMechanism = true) →
    w.conn.upstream.isSome
  /-- An authenticated SCRAM client's connection never dials. -/
  noDial : w.conn.state = .authenticated →
    isSCRAMMechanism w.conn.clientMechanism = true →
    ∀ E, ensureUpstream X E w.conn = .ok () w.conn

/-- With an upstream connection `ensureUpstream` does nothing. -/
theorem ensureUpstream_of_isSome {X : Server} {E : Env} {c : Conn} (h : c.upstream.isSome) :
    ensureUpstream X E c = .ok () c := by
  show (if c.upstream.isSome then _ else _ : GoM Conn Unit) c = _
  rw [if_pos h]
  rfl

/-- A client request before authentication takes the early turn. -/
theorem Turn.early_of_unauthenticated {X : Server} {E : Env} {hdr : RequestHeader}
    {frame body : Bytes} {c c' : Conn} {out : Option Bytes}
    (hturn : Turn X E hdr frame body c out c') (hkey : needsAuth hdr.apiKey = true)
    (hstate : c.state ≠ .authenticated) : out = none ∧ c' = c := by
  -- The other turns belong to a handshake key, or to an authenticated client.
  have hhandshake : needsAuth hdr.apiKey = false → out = none ∧ c' = c := by
    intro hnot
    cases hnot.symm.trans hkey
  cases hturn with
  | idle _ own key => exact hhandshake key
  | early key state => exact ⟨rfl, rfl⟩
  | chose mech _ own key state => exact hhandshake (not_needsAuth_handshake key)
  | plain payload creds tenant _ own key => exact hhandshake (not_needsAuth_authenticate key)
  | undialled payload username tenant closed _ own key =>
      exact hhandshake (not_needsAuth_authenticate key)
  | opened payload username tenant up _ _ key =>
      exact hhandshake (not_needsAuth_authenticate key)
  | relayed payload up _ _ key => exact hhandshake (not_needsAuth_authenticate key)
  | unreachable closed key state => exact absurd state hstate
  | unsent up up' key state => exact absurd state hstate
  | failed up up' packet key state => exact absurd state hstate
  | answered up up' packet reply resp key state => exact absurd state hstate

/-- A client request before authentication ends the connection. -/
theorem step_early {X : Server} {w : World} {bytes : Bytes} {net : Net} {hdr : RequestHeader}
    (hopen : w.stopped = none) (hparse : parseRequestHeader bytes = .ok hdr)
    (hkey : needsAuth hdr.apiKey = true) (hstate : w.conn.state ≠ .authenticated) :
    (w.step X (.frame bytes net)).stopped.isSome ∧
      (w.step X (.frame bytes net)).conn = w.conn := by
  have hstep := step_frame (X := X) bytes net hopen
  generalize World.step X w (.frame bytes net) = w' at hstep ⊢
  cases hstep with
  | answered hdr' body resp c parsed sliced turn =>
      cases hparse.symm.trans parsed
      cases (turn.early_of_unauthenticated hkey hstate).1
  | ended stop hdr' body c parsed sliced turn =>
      cases hparse.symm.trans parsed
      exact ⟨rfl, (turn.early_of_unauthenticated hkey hstate).2⟩
  | malformed stop => exact ⟨rfl, rfl⟩

/-- The authentication gate and the identity invariant, for every run and every next step:
any client frames, any changes of the tenant table between them, any replies and failures
of the network. -/
theorem authGate (X : Server) (r : MemoryResolver) (inputs : List Input) (next : Input) :
    AuthGate X r inputs next (World.run X (World.start r) inputs)
      (World.run X (World.start r) (inputs ++ [next])) := by
  have hsound := sound_run X r inputs
  have hlooked := lookedUp_run X r inputs
  rw [run_concat]
  generalize World.run X (World.start r) inputs = w at hsound hlooked ⊢
  have hconn := step_conn X w next
  refine ⟨?_, ?_, ?_, ?_, ?_, ?_, ?_, ?_⟩
  -- `gated`: a closed connection carried its handshake only, the open one is accepted.
  · intro up hup
    by_cases hstate : w.conn.state = .authenticated
    · rcases List.mem_append.mp hup with hclosed | hopen
      · exact (hsound.closed up hclosed).gated
      · exact (hsound.accepted hstate up (Option.mem_toList.mp hopen)).1
    · exact (hsound.handshakeOnly hstate up hup).gated
  -- `sends`: before and after the step there was no client request at all.
  · intro hstate
    rcases hconn with hsame | ⟨E, hdr, frame, body, out, c, frames, turn, hafter⟩
    · rw [hsame]
    · have honly := hsound.turn_handshakeOnly hstate turn
      rw [hafter, clientRequests_eq_nil (hsound.handshakeOnly hstate)]
      exact clientRequests_eq_nil (c := { c with written := frames }) honly
  -- `ends`: the early turn.
  · rintro bytes net hdr rfl hopen hparse hkey hstate
    exact step_early hopen hparse hkey hstate
  -- `tenant` and `known`: the record is among the lookups, which are valid records.
  · rcases hsound.tenant with hzero | ⟨username, hmem⟩
    · exact Or.inl hzero
    · exact Or.inr ⟨username, hlooked _ hmem⟩
  · intro hstate
    obtain ⟨username, hmem⟩ := hsound.known hstate
    exact ne_zero_of_valid (hsound.valid _ hmem)
  · intro hstate
    rcases hconn with hsame | ⟨E, hdr, frame, body, out, c, frames, turn, hafter⟩
    · rw [hsame]
      exact ⟨hstate, rfl, rfl, rfl⟩
    · rw [hafter]
      exact turn.frozen hstate
  -- `upstream` and `noDial`: a SCRAM client never loses the connection of its relay.
  · rintro (hrelay | ⟨hauth, hscram⟩)
    · obtain ⟨up, hup, -⟩ := hsound.relaying hrelay
      rw [hup]
      rfl
    · exact hsound.scram hauth hscram
  · intro hauth hscram E
    exact ensureUpstream_of_isSome (hsound.scram hauth hscram)

end Kroxy.Proofs
