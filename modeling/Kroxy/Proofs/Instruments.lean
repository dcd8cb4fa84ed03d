import Kroxy.Lib.Leaves
import Kroxy.Proofs.Goroutines

/-!
# `Kroxy.Proofs.Instruments`: what the instruments count

The instruments are shared by all connections, and every goroutine adds to them while it runs.
`reading` is what they say, and `evidence` what one connection has to show for it. `ledger` is
the difference of the two, and every handler leaves it as it was: it counts a login exactly when
the connection becomes authenticated, and a lookup exactly when the resolver found a tenant.
`System.balance` adds this up over the connections.

Two results about every state of a running server, whatever the order of events:

* `instruments_tally`: the gauge of active connections is the number of goroutines that serve
  one, and each series of logins, lookups and requests has its sum over all connections.
* `series_run`: which series there are. Logins, lookups and upstream errors have those of fixed
  lists. Requests have one for each api key and tenant that a frame was counted under.

The tenant of a request is the one the connection holds when the turn ends. A SCRAM client has
it from its first message on, whether or not its login succeeds. The client chooses the api key,
and needs no login for it. The series of refused logins, unknown users and upstream errors are
not tied to anything here: a connection keeps no record of them.
-/

set_option autoImplicit false

namespace Kroxy.Proofs

open Kroxy.Go
open Kroxy.Lib
open Kroxy.Kmsg
open Kroxy.Protocol
open Kroxy.Auth
open Kroxy.Rewrite
open Kroxy.Resolver
open Kroxy.Proxy
open Kroxy.Observability

/-! ### Counters and what they count -/

/-- What the proxy reports of a login attempt that it refuses. -/
def refusals : List GoString :=
  [goString "illegal_state", goString "unsupported", goString "malformed",
    goString "unauthorized", goString "upstream_error"]

/-- The mechanism labels. -/
def mechanismLabels : List GoString :=
  [mechanismPlain, mechanismSCRAMSHA256, mechanismSCRAMSHA512, goString "unknown"]

/-- The labels of `SaslHandshakeTotal`. -/
def handshakeLabels : List (GoString × GoString) :=
  mechanismLabels ×ˢ (goString "ok" :: refusals)

/-- The labels of `UpstreamErrorTotal`. -/
def upstreamErrorLabels : List GoString :=
  [goString "dial", goString "scram_dial", goString "scram_relay"]

/-- The labels of `ResolverCallsTotal`. -/
def resolverCallLabels : List GoString := [goString "ok", goString "unauthorized"]

/-- What can be read off the instruments. -/
inductive Counter where
  | active
  | total
  /-- The logins reported as `ok` under this mechanism. -/
  | logins (mech : GoString)
  /-- The lookups reported as `ok`. -/
  | lookups
  /-- The requests under these labels. -/
  | requests (labels : GoString × GoString)
  /-- The durations under these labels. -/
  | durations (labels : GoString × GoString)
  /-- The reports under a label that is in none of the lists. -/
  | strange

/-- What the instruments say. -/
def reading (M : Metrics) : Counter → Int
  | .active => M.connectionsActive
  | .total => M.connectionsTotal
  | .logins mech => M.saslHandshakeTotal.value (mech, goString "ok")
  | .lookups => M.resolverCallsTotal.value (goString "ok")
  | .requests labels => M.requestsTotal.value labels
  | .durations labels => M.requestDuration.value labels
  | .strange =>
      (M.saslHandshakeTotal.increments.countP (!handshakeLabels.contains ·) +
        M.upstreamErrorTotal.increments.countP (!upstreamErrorLabels.contains ·) +
        M.resolverCallsTotal.increments.countP (!resolverCallLabels.contains ·) : Nat)

/-- The mechanism of a login. -/
def loginLabel (c : Conn) : GoString :=
  if isSCRAMMechanism c.clientMechanism then c.clientMechanism else mechanismPlain

/-- What a connection has to show for it, as far as its handlers report it. -/
def evidence (c : Conn) : Counter → Int
  | .logins mech => if c.state = .authenticated ∧ loginLabel c = mech then 1 else 0
  | .lookups => c.resolved.length
  | _ => 0

/-- The instruments less the evidence of one connection. -/
def ledger (m : Metered) : Option (Counter → Int) :=
  m.metrics.map fun M q => reading M q - evidence m.conn q

/-- What the ledger reads of a connection. -/
def account (c : Conn) : ConnState × GoString × Nat :=
  (c.state, c.clientMechanism, c.resolved.length)

/-- The evidence depends on the account only. -/
theorem evidence_congr {c c' : Conn} (h : account c' = account c) : evidence c' = evidence c := by
  simp only [account, Prod.mk.injEq] at h
  obtain ⟨hstate, hmech, hlookups⟩ := h
  have hlabel : loginLabel c' = loginLabel c := by rw [loginLabel, hmech, loginLabel]
  funext q
  cases q <;> simp [evidence, hstate, hlabel, hlookups]

/-- Before the login there is only the lookups to show. -/
theorem evidence_pending {c c' : Conn} (h : c.state ≠ .authenticated)
    (h' : c'.state ≠ .authenticated) (hlookups : c'.resolved.length = c.resolved.length) :
    evidence c' = evidence c := by
  funext q
  cases q <;> simp [evidence, h, h', hlookups]

/-- The same instruments and the same evidence. -/
theorem ledger_congr {m m' : Metered} (hmetrics : m'.metrics = m.metrics)
    (hevidence : evidence m'.conn = evidence m.conn) : ledger m' = ledger m := by
  simp only [ledger, hmetrics, hevidence]

/-! ### What a report does to the ledger -/

/-- A report that the ledger does not see. -/
def Unseen (f : Metrics → Metrics) : Prop :=
  ∀ m : Metered, ledger { m with metrics := m.metrics.map f } = ledger m

/-- A report that changes no reading is not seen. -/
theorem Unseen.of_reading {f : Metrics → Metrics} (h : ∀ M, reading (f M) = reading M) :
    Unseen f := by
  intro m
  cases hm : m.metrics <;> simp [ledger, hm, h]

/-- Nor are two such reports. -/
theorem Unseen.comp {f g : Metrics → Metrics} (hg : Unseen g) (hf : Unseen f) :
    Unseen (g ∘ f) := by
  intro m
  rw [← Option.map_map]
  exact (hg { m with metrics := m.metrics.map f }).trans (hf m)

/-- A SCRAM mechanism is its own label. -/
theorem mechanismLabel_scram {mech : GoString} (h : isSCRAMMechanism mech = true) :
    Metered.mechanismLabel mech = mech := by
  unfold Metered.mechanismLabel
  rw [if_pos]
  simp only [isSCRAMMechanism, Bool.or_eq_true, beq_iff_eq] at h
  rcases h with rfl | rfl <;> decide

/-- The label is one of four. -/
theorem mechanismLabel_mem (mech : GoString) :
    Metered.mechanismLabel mech ∈ mechanismLabels := by
  unfold Metered.mechanismLabel
  split
  · rename_i hknown
    exact List.mem_append_left [goString "unknown"] hknown
  · simp [mechanismLabels]

/-- A login attempt that was refused. -/
theorem unseen_refused (mech : GoString) {result : String} (h : goString result ∈ refusals) :
    Unseen (Metrics.saslHandshake (Metered.mechanismLabel mech) result) := by
  have hlabel : (Metered.mechanismLabel mech, goString result) ∈ handshakeLabels :=
    List.pair_mem_product.mpr ⟨mechanismLabel_mem mech, List.mem_cons_of_mem _ h⟩
  have hok : goString result ≠ goString "ok" := by
    intro heq
    rw [heq] at h
    exact absurd h (by decide)
  apply Unseen.of_reading
  intro M
  funext q
  cases q <;> simp [reading, Metrics.saslHandshake, CounterVec.inc, CounterVec.value, hok, hlabel]

/-- An upstream error of a known kind is not among the readings. -/
theorem unseen_upstreamError {kind : String} (hknown : goString kind ∈ upstreamErrorLabels) :
    Unseen (Metrics.upstreamError kind) := by
  apply Unseen.of_reading
  intro M
  funext q
  cases q <;> simp [reading, Metrics.upstreamError, CounterVec.inc, hknown]

/-- A lookup that found nothing. -/
theorem unseen_resolverCall : Unseen (Metrics.resolverCall "unauthorized") := by
  have hok : goString "unauthorized" ≠ goString "ok" := by decide
  have hlabel : goString "unauthorized" ∈ resolverCallLabels := by decide
  apply Unseen.of_reading
  intro M
  funext q
  cases q <;> simp [reading, Metrics.resolverCall, CounterVec.inc, CounterVec.value, hok, hlabel]

/-- A lookup that found a tenant, with its report. -/
theorem ledger_lookup {m : Metered} (entry : GoString × Tenant) :
    ledger
      { conn := { m.conn with resolved := m.conn.resolved ++ [entry] }
        metrics := m.metrics.map (Metrics.resolverCall "ok") } = ledger m := by
  have hlabel : goString "ok" ∈ resolverCallLabels := by decide
  cases hm : m.metrics with
  | none => simp [ledger, hm]
  | some M =>
      simp only [ledger, hm, Option.map_some, Option.some.injEq]
      funext q
      cases q with
      | logins mech => rfl
      | _ =>
          simp [reading, evidence, Metrics.resolverCall, CounterVec.inc, CounterVec.value, hlabel]

/-- A connection that becomes authenticated, with its report. -/
theorem ledger_login {M : Option Metrics} {c c' : Conn} {mech : GoString}
    (hmech : Metered.mechanismLabel mech = loginLabel c')
    (hbefore : c.state ≠ .authenticated) (hafter : c'.state = .authenticated)
    (hresolved : c'.resolved = c.resolved) :
    ledger ⟨c', M.map (Metrics.saslHandshake (Metered.mechanismLabel mech) "ok")⟩ =
      ledger ⟨c, M⟩ := by
  have hlabel : (Metered.mechanismLabel mech, goString "ok") ∈ handshakeLabels :=
    List.pair_mem_product.mpr ⟨mechanismLabel_mem mech, List.mem_cons_self⟩
  cases M with
  | none => rfl
  | some M =>
      simp only [ledger, Option.map_some, Option.some.injEq]
      funext q
      cases q with
      | logins label =>
          -- The series that the report adds to is the one the login is evidence for.
          simp only [reading, evidence, Metrics.saslHandshake, CounterVec.inc, CounterVec.value,
            hbefore, hafter, hmech, List.count_append, List.count_singleton, beq_iff_eq,
            Prod.mk.injEq, and_true, true_and, false_and, if_false]
          split <;> simp
      | _ =>
          simp [reading, evidence, Metrics.saslHandshake, CounterVec.inc, hresolved, hlabel]

/-! ### Programs that leave the account alone -/

section
variable {σ τ α : Type} {f : σ → τ}

/-- Wrapping an error leaves it alone. -/
theorem leaves_wrapErr {fn : String} {x : GoM σ α} (h : Leaves f x) : Leaves f (wrapErr fn x) :=
  fun s => ends_wrapErr (h s)

/-- Wrapping keeps what holds when a program ends without a panic. -/
theorem ends_wrapErr_live {fn : String} {x : GoM σ α} {s : σ} {Q : α → σ → Prop} {P : σ → Prop}
    (h : Ends x Q (fun stop s' => stop ≠ .panic → P s') s) :
    Ends (wrapErr fn x) Q (fun stop s' => stop ≠ .panic → P s') s := by
  unfold Ends wrapErr at *
  cases hx : x s with
  | ok a s' =>
      rw [hx] at h
      exact h
  | error stop s' =>
      rw [hx] at h
      cases stop with
      | err e => exact fun _ => h nofun
      | panic => exact h

/-- So does an error of a pure function. -/
theorem leaves_liftErr (fn : String) (r : Except GoError α) :
    Leaves f (liftErr fn r : GoM σ α) := by
  cases r with
  | ok a => exact .pure a
  | error e => exact .throw _

end

section
variable {X : Server} {E : Env} {hdr : RequestHeader} {body : Bytes}

/-- Writing to the client changes no account. -/
theorem leaves_writeFrame (resp : Bytes) : Leaves account (writeFrame E resp) := by
  unfold writeFrame
  cases E.clientWrite with
  | some e => exact .throw _
  | none => exact .modify fun _ => rfl

/-- Nor does writing with a response header. -/
theorem leaves_writeResponse (b : Bytes) : Leaves account (writeResponse E hdr b) :=
  leaves_wrapErr (leaves_writeFrame _)

/-- Nor does anything on the upstream connection. -/
theorem leaves_onUpstream {α : Type} (prog : GoM Upstream.Conn α) :
    Leaves account (onUpstream prog) := by
  intro c
  cases hup : c.upstream with
  | none => exact onUpstream_none hup rfl
  | some up =>
      refine onUpstream_spec hup ?_
      unfold Ends
      cases prog up <;> rfl

/-- Nor does a connection that a dial closed. -/
theorem leaves_noteClosed (closed : Option Upstream.Conn) : Leaves account (noteClosed closed) :=
  .modify fun _ => rfl

/-- Nor does the dial itself. -/
theorem leaves_ensureUpstream : Leaves account (ensureUpstream X E) := by
  intro c
  unfold ensureUpstream
  refine Ends.bind (Ends.get ?_)
  split
  · exact Ends.pure rfl
  · split
    · exact Ends.modify rfl
    · exact ((leaves_noteClosed _).bind fun _ => .throw _) c

/-- Nor does a round trip. -/
theorem leaves_roundTripTyped {a : Api} (version : Int16) (req : a.Request)
    (clientID : GoString) : Leaves account (roundTripTyped X a version req clientID) :=
  (leaves_wrapErr (leaves_onUpstream _)).bind fun _ => leaves_liftErr _ _

/-- Nor does reading a request. -/
theorem leaves_readRewritten (fn : String) (a : Api) :
    Leaves account (readRewritten X fn a hdr body) :=
  (leaves_liftErr _ _).bind fun _ => .get fun _ => .pure _

/-- Nor does writing its response. -/
theorem leaves_writeRewritten {a : Api} (host : GoString) (port : Int32) (resp : a.Response) :
    Leaves account (writeRewritten X E a hdr host port resp) :=
  .get fun _ => leaves_writeFrame _

/-- So a plain handler changes no account, -/
theorem leaves_relay (fn : String) (a : Api) : Leaves account (relay X E fn a hdr body) :=
  (leaves_readRewritten fn a).bind fun _ =>
    (leaves_wrapErr (leaves_roundTripTyped _ _ _)).bind fun _ => leaves_writeRewritten _ _ _

/-- nor does `handleProduce`, -/
theorem leaves_handleProduce : Leaves account (handleProduce X E hdr body) := by
  refine (leaves_readRewritten _ _).bind fun req => ?_
  split
  · exact .throw _
  · exact (leaves_wrapErr (leaves_roundTripTyped _ _ _)).bind fun _ => leaves_writeRewritten _ _ _

/-- Metadata and FindCoordinator: a relay that needs the advertised address. -/
theorem leaves_addressed (fn : String) (a : Api) : Leaves account (do
    let req ← readRewritten X fn a hdr body
    let resp ← wrapErr fn (roundTripTyped X a hdr.apiVersion req hdr.clientID)
    let (host, port) ← liftErr fn (advertised X)
    writeRewritten X E a hdr host port resp) :=
  (leaves_readRewritten _ _).bind fun _ =>
    (leaves_wrapErr (leaves_roundTripTyped _ _ _)).bind fun _ =>
      (leaves_liftErr _ _).bind fun _ => leaves_writeRewritten _ _ _

/-- nor does any other. -/
theorem leaves_handlerOf (a : Api) : Leaves account (handlerOf X E a hdr body) := by
  cases a with
  | metadata => exact leaves_addressed _ .metadata
  | findCoordinator => exact leaves_addressed _ .findCoordinator
  | produce => exact leaves_handleProduce
  | _ => exact leaves_relay _ _

/-! ### The handlers leave the ledger alone -/

/-- The ledger, with the state and the mechanism of the connection. -/
def standing (m : Metered) : Option (Counter → Int) × ConnState × GoString :=
  (ledger m, m.conn.state, m.conn.clientMechanism)

/-- A program that changes no account leaves the ledger, the state and the mechanism. -/
theorem standing_onConn {α : Type} {x : GoM Conn α} (h : Leaves account x) :
    Leaves standing (Metered.onConn x) := by
  have hkept (m : Metered) (c : Conn) (hc : account c = account m.conn) :
      standing { m with conn := c } = standing m := by
    have hledger : ledger { m with conn := c } = ledger m := ledger_congr rfl (evidence_congr hc)
    simp only [account, Prod.mk.injEq] at hc
    simp [standing, hledger, hc.1, hc.2.1]
  intro m
  have hends := h m.conn
  unfold Ends Metered.onConn at *
  cases hx : x m.conn with
  | ok a c =>
      rw [hx] at hends
      exact hkept m c hends
  | error stop c =>
      rw [hx] at hends
      exact hkept m c hends

/-- So it leaves the ledger. -/
theorem leaves_onConn {α : Type} {x : GoM Conn α} (h : Leaves account x) :
    Leaves ledger (Metered.onConn x) :=
  (standing_onConn h).of_imp fun _ _ hs => (Prod.mk.inj hs).1

/-- A report that is not seen leaves it too. -/
theorem leaves_report {f : Metrics → Metrics} (h : Unseen f) :
    Leaves ledger (Metered.report f) := .modify h

/-- So does one that is made on an error only. -/
theorem standing_reportErr {α : Type} {f : Metrics → Metrics} {x : GoM Metered α}
    (hf : Unseen f) (hx : Leaves standing x) : Leaves standing (Metered.reportErr f x) := by
  intro m
  have hends := hx m
  unfold Ends Metered.reportErr at *
  cases hrun : x m with
  | ok a m' =>
      rw [hrun] at hends
      exact hends
  | error stop m' =>
      rw [hrun] at hends
      cases stop with
      | err e =>
          exact (congrArg (·, m'.conn.state, m'.conn.clientMechanism) (hf m')).trans hends
      | panic => exact hends

/-- A refusal: a report that is not `ok`, and an answer. -/
theorem leaves_refusal {mech : GoString} {result : String} {x : GoM Conn Unit}
    (h : goString result ∈ refusals) (hx : Leaves account x) :
    Leaves ledger (do Metered.observeHandshake mech result; Metered.onConn x) :=
  (leaves_report (unseen_refused _ h)).bind fun _ => leaves_onConn hx

/-- `handleSaslHandshake` leaves the ledger. -/
theorem ledger_handleSaslHandshake :
    Leaves ledger (Metered.handleSaslHandshake X E hdr body) := by
  refine (leaves_onConn (leaves_liftErr _ _)).bind fun mech => ?_
  intro m
  refine Ends.bind (Ends.get ?_)
  split
  · exact leaves_refusal (by decide) (leaves_writeResponse _) m
  · rename_i hstate
    split
    · exact leaves_refusal (by decide) (leaves_writeResponse _) m
    · -- From one unauthenticated state to the next.
      have hpending : m.conn.state ≠ .authenticated := by simp [not_not.mp hstate]
      exact Ends.bind ((leaves_onConn (leaves_writeResponse _)).ends
        (ledger_congr rfl (evidence_pending hpending (by simp) rfl)))

/-- A request that is read, and what follows from the same state. -/
theorem ends_read {α β : Type} {fn : String} {r : Except GoError α} {k : α → GoM Metered β}
    {Q : β → Metered → Prop} {F : Stop → Metered → Prop} {m : Metered} (hbad : ∀ stop, F stop m)
    (h : ∀ a, Ends (k a) Q F m) : Ends (Metered.onConn (liftErr fn r) >>= k) Q F m := by
  apply Ends.bind
  cases r with
  | ok a => exact h a
  | error e => exact hbad _

/-- A lookup and what follows it. When the tenant is known, what follows starts from a state
whose ledger is right again once the lookup is counted. -/
theorem ledger_resolve_bind {username : GoString} {k : Except GoError Tenant → GoM Metered Unit}
    {v : Option (Counter → Int)} {m : Metered} (hm : ledger m = v)
    (hknown : ∀ tenant m', m'.conn.state = m.conn.state →
      m'.conn.clientMechanism = m.conn.clientMechanism →
      ledger { m' with metrics := m'.metrics.map (Metrics.resolverCall "ok") } = v →
      Ends (k (.ok tenant)) (fun _ m' => ledger m' = v) (fun _ m' => ledger m' = v) m')
    (hunknown : ∀ e, Leaves ledger (k (.error e))) :
    Ends (Metered.onConn (resolve E username) >>= k) (fun _ m' => ledger m' = v)
      (fun _ m' => ledger m' = v) m := by
  apply Ends.bind
  unfold Metered.onConn resolve
  cases E.resolver.get username with
  | error e => exact (hunknown e).ends hm
  | ok tenant => exact hknown tenant _ rfl rfl ((ledger_lookup (username, tenant)).trans hm)

/-- An unknown user: two reports and a refusal. -/
theorem leaves_unknown {mech : GoString} {x : GoM Conn Unit} (hx : Leaves account x) :
    Leaves ledger (do
      Metered.report (Metrics.resolverCall "unauthorized")
      Metered.observeHandshake mech "unauthorized"
      Metered.onConn x) :=
  (leaves_report unseen_resolverCall).bind fun _ =>
    leaves_refusal (by decide) hx

/-- The PLAIN login of a client that did not ask for SCRAM. -/
theorem ledger_handleSaslAuthenticatePlain {m : Metered}
    (hmech : isSCRAMMechanism m.conn.clientMechanism = false) :
    Ends (Metered.handleSaslAuthenticatePlain X E hdr body) (fun _ m' => ledger m' = ledger m)
      (fun _ m' => ledger m' = ledger m) m := by
  refine ends_read (fun _ => rfl) fun payload => Ends.bind (Ends.get ?_)
  split
  · exact leaves_refusal (by decide) (leaves_writeResponse _) m
  · rename_i hstate
    cases parsePlain payload with
    | error e => exact leaves_refusal (by decide) (leaves_writeResponse _) m
    | ok creds =>
        refine ledger_resolve_bind rfl ?_ fun e => leaves_unknown (leaves_writeResponse _)
        intro tenant m' hsame hasked hcounted
        have hlogin : m'.conn.state ≠ .authenticated := by simp [hsame, not_not.mp hstate]
        have hlabel : Metered.mechanismLabel mechanismPlain = loginLabel m'.conn := by
          rw [loginLabel, hasked, hmech]
          rfl
        refine Ends.bind (Ends.modify (Ends.bind (Ends.modify (Ends.bind (Ends.modify ?_)))))
        refine (leaves_onConn (leaves_writeResponse _)).ends (Eq.trans ?_ hcounted)
        exact ledger_login hlabel hlogin rfl rfl

/-- The call upstream of a round of the relay. -/
theorem standing_relay (mech : GoString) (payload : Bytes) :
    Leaves standing (Metered.reportErr (Metered.relayBroken mech)
      (Metered.onConn (wrapErr "handleSaslAuthenticateSCRAM"
        (onUpstream (Upstream.relaySASLAuthenticate X.codec payload))))) :=
  have hbroken : Unseen (Metered.relayBroken mech) :=
    (unseen_refused _ (by decide)).comp (unseen_upstreamError (by decide))
  standing_reportErr hbroken (standing_onConn (leaves_wrapErr (leaves_onUpstream _)))

/-- A round of the relay on a connection that is not authenticated yet. -/
theorem ledger_relayRound {payload : Bytes} {m : Metered} {v : Option (Counter → Int)}
    (hmech : isSCRAMMechanism m.conn.clientMechanism = true)
    (hstate : m.conn.state ≠ .authenticated) (hm : ledger m = v) :
    Ends (Metered.relayRound X E hdr payload) (fun _ m' => ledger m' = v)
      (fun _ m' => ledger m' = v) m := by
  subst hm
  refine Ends.bind (Ends.get (Ends.bind
    ((standing_relay _ payload m).imp ?_ fun _ m' hs => (Prod.mk.inj hs).1)))
  intro r m' hs
  simp only [standing, Prod.mk.injEq] at hs
  obtain ⟨hledger, hsame, hasked⟩ := hs
  dsimp only
  split
  · exact (leaves_refusal (by decide) (leaves_writeResponse _)).ends hledger
  · refine Ends.bind (Ends.modify (Ends.bind (Ends.get ?_)))
    dsimp only
    split
    · -- The second round: the connection is authenticated from here on.
      have hscram : isSCRAMMechanism m'.conn.clientMechanism = true := hasked ▸ hmech
      have hlabel : Metered.mechanismLabel m'.conn.clientMechanism = loginLabel m'.conn := by
        rw [mechanismLabel_scram hscram, loginLabel, if_pos hscram]
      refine Ends.bind (Ends.modify ((leaves_onConn (leaves_writeResponse _)).ends ?_))
      refine Eq.trans ?_ hledger
      exact ledger_login hlabel (hsame ▸ hstate) rfl rfl
    · exact (leaves_onConn (leaves_writeResponse _)).ends
        ((ledger_congr (m := m') rfl (evidence_congr rfl)).trans hledger)

/-- The first message of a SCRAM login. -/
theorem ledger_openRelay {payload : Bytes} {m : Metered}
    (hmech : isSCRAMMechanism m.conn.clientMechanism = true)
    (hstate : m.conn.state ≠ .authenticated) :
    Ends (Metered.openRelay X E hdr payload) (fun _ m' => ledger m' = ledger m)
      (fun _ m' => ledger m' = ledger m) m := by
  refine Ends.bind (Ends.get ?_)
  cases parseSCRAMClientFirstUsername payload with
  | error e => exact leaves_refusal (by decide) (leaves_writeResponse _) m
  | ok username =>
      refine ledger_resolve_bind rfl ?_ fun e => leaves_unknown (leaves_writeResponse _)
      intro tenant m' hsame hasked hcounted
      have hpending : m'.conn.state ≠ .authenticated := hsame ▸ hstate
      refine Ends.bind (Ends.modify (Ends.bind (Ends.modify (Ends.bind (Ends.get ?_)))))
      dsimp only
      cases Upstream.dialForSCRAM X.codec (E.dial tenant.upstream) m'.conn.clientMechanism with
      | connected up =>
          refine Ends.bind (Ends.modify
            (ledger_relayRound (hasked ▸ hmech) (by simp) (Eq.trans ?_ hcounted)))
          exact ledger_congr rfl (evidence_pending hpending (by simp) rfl)
      | failed stop closed =>
          cases stop with
          | panic =>
              exact ((leaves_onConn (leaves_noteClosed closed)).bind fun _ => .throw _).ends
                hcounted
          | err e =>
              exact ((leaves_onConn (leaves_noteClosed closed)).bind fun _ =>
                (leaves_report (unseen_upstreamError (by decide))).bind fun _ =>
                  leaves_refusal (by decide) (leaves_writeResponse _)).ends hcounted

/-- So does a login: it is reported, and the connection is evidence of it. -/
theorem ledger_handleSaslAuthenticate :
    Leaves ledger (Metered.handleSaslAuthenticate X E hdr body) := by
  intro m
  refine Ends.bind (Ends.get ?_)
  split
  · rename_i hmech
    refine ends_read (fun _ => rfl) fun payload => Ends.bind (Ends.get ?_)
    split
    · rename_i hstate
      exact ledger_openRelay hmech (by simp [hstate])
    · split
      · rename_i hstate
        exact ledger_relayRound hmech (by simp [hstate]) rfl
      · exact leaves_refusal (by decide) (leaves_writeResponse _) m
  · rename_i hmech
    exact ledger_handleSaslAuthenticatePlain (by simpa using hmech)

/-- So does a dial. -/
theorem ledger_ensureUpstream : Leaves ledger (Metered.ensureUpstream X E) :=
  have hdial : Unseen (Metrics.upstreamError "dial") := unseen_upstreamError (by decide)
  (standing_reportErr hdial (standing_onConn leaves_ensureUpstream)).of_imp
    fun _ _ hs => (Prod.mk.inj hs).1

/-- So does every dispatch. -/
theorem ledger_dispatch {frame : Bytes} : Leaves ledger (Metered.dispatch X E hdr frame body) := by
  unfold Metered.dispatch
  split
  · exact leaves_onConn (leaves_writeResponse _)
  · split
    · exact ledger_handleSaslHandshake
    · split
      · exact ledger_handleSaslAuthenticate
      · refine .get fun m => ?_
        split
        · exact leaves_onConn (.throw _)
        · unfold rewriteHandler
          cases apiOf hdr.apiKey with
          | some a =>
              exact (leaves_wrapErr ledger_ensureUpstream).bind fun _ =>
                leaves_onConn (leaves_handlerOf a)
          | none =>
              exact (leaves_wrapErr ledger_ensureUpstream).bind fun _ =>
                (leaves_onConn (leaves_wrapErr (leaves_onUpstream _))).bind fun _ =>
                  leaves_onConn (leaves_writeFrame _)

/-- The labels that a frame is counted under, if it has a header, when its turn ends with this
tenant id. -/
def requestLabels (h : Bytes × GoString) : Option (GoString × GoString) :=
  (parseRequestHeader h.1).toOption.map fun hdr =>
    (decimal hdr.apiKey.toInt, if h.2 = [] then goString "_unauth" else h.2)

/-- What serving a frame counts. -/
def counted (h : Bytes × GoString) : Counter → Int
  | .requests labels => if requestLabels h = some labels then 1 else 0
  | .durations labels => if requestLabels h = some labels then 1 else 0
  | _ => 0

/-- The instruments after a frame: the evidence is accounted for, and the request is counted. -/
def Accounted (frame : Bytes) (m m' : Metered) : Prop :=
  ∀ M, m.metrics = some M → ∃ M', m'.metrics = some M' ∧
    ∀ q, reading M' q - evidence m'.conn q =
      reading M q - evidence m.conn q + counted (frame, m'.conn.tenant.id) q

/-- `ObserveRequest` counts the frame it is called for. -/
theorem reading_observeRequest {frame : Bytes} (hheader : parseRequestHeader frame = .ok hdr)
    (c : Conn) (M : Metrics) (q : Counter) :
    reading (M.observeRequest hdr.apiKey (tenantLabel c)) q =
      reading M q + counted (frame, c.tenant.id) q := by
  have hlabels : requestLabels (frame, c.tenant.id) =
      some (decimal hdr.apiKey.toInt, tenantLabel c) := by
    simp only [requestLabels, hheader, Except.toOption, Option.map_some, tenantLabel]
  cases q with
  | requests labels | durations labels =>
      simp [reading, counted, Metrics.observeRequest, CounterVec.inc, CounterVec.value, hlabels,
        List.count_singleton]
  | _ => simp [reading, counted, Metrics.observeRequest]

/-- A request whose handling left the ledger alone, once it is counted. -/
theorem accounted_observeRequest {frame : Bytes} {m m' m'' : Metered}
    (hheader : parseRequestHeader frame = .ok hdr) (h : ledger m' = ledger m)
    (hrun : Metered.observeRequest X hdr m' = .ok () m'') : Accounted frame m m'' := by
  unfold Metered.observeRequest at hrun
  split at hrun
  · cases hrun
  · cases hrun
    intro M hM
    simp only [ledger, hM, Option.map_some, Option.map_eq_some_iff] at h
    obtain ⟨M', hM', heq⟩ := h
    refine ⟨M'.observeRequest hdr.apiKey (tenantLabel m'.conn), by simp [hM'], fun q => ?_⟩
    have hq : reading M' q - evidence m'.conn q = reading M q - evidence m.conn q := congrFun heq q
    rw [reading_observeRequest hheader]
    dsimp only
    omega

/-- Counting a request fails only with a panic. -/
theorem observeRequest_stops {m m' : Metered} {stop : Stop}
    (h : Metered.observeRequest X hdr m = .error stop m') : stop = .panic := by
  unfold Metered.observeRequest at h
  split at h <;> cases h
  rfl

/-- A frame without a header changes and counts nothing. -/
theorem accounted_refl {frame : Bytes} {stop : Stop} (m : Metered)
    (hheader : parseRequestHeader frame = .error stop) : Accounted frame m m := by
  intro M hM
  refine ⟨M, hM, fun q => ?_⟩
  have hnone : counted (frame, m.conn.tenant.id) q = 0 := by
    cases q <;> simp [counted, requestLabels, hheader, Except.toOption]
  omega

/-- A request that is handled and counted. -/
theorem accounted_dispatchObserved {frame : Bytes} (m : Metered)
    (hheader : parseRequestHeader frame = .ok hdr) :
    Ends (Metered.dispatchObserved X E hdr frame body) (fun _ m' => Accounted frame m m')
      (fun stop m' => stop ≠ .panic → Accounted frame m m') m := by
  have hends : Ends (Metered.dispatch X E hdr frame body) _ _ m := ledger_dispatch m
  unfold Ends Metered.dispatchObserved at *
  cases hrun : Metered.dispatch X E hdr frame body m with
  | ok u m' =>
      rw [hrun] at hends
      dsimp only
      cases hobserve : Metered.observeRequest X hdr m' with
      | ok u m'' => exact accounted_observeRequest hheader hends hobserve
      | error stop m'' => exact fun hlive => absurd (observeRequest_stops hobserve) hlive
  | error stop m' =>
      rw [hrun] at hends
      cases stop with
      | panic => exact fun hlive => absurd rfl hlive
      | err e =>
          dsimp only
          cases hobserve : Metered.observeRequest X hdr m' with
          | ok u m'' => exact fun _ => accounted_observeRequest hheader hends hobserve
          | error stop m'' => exact fun hlive => absurd (observeRequest_stops hobserve) hlive

/-- A turn of the loop that does not panic. -/
theorem accounted_serveFrame {frame : Bytes} (m : Metered) :
    Ends (Metered.serveFrame X E frame) (fun _ m' => Accounted frame m m')
      (fun stop m' => stop ≠ .panic → Accounted frame m m') m := by
  apply ends_wrapErr_live
  apply Ends.bind
  cases hheader : parseRequestHeader frame with
  | error stop => exact fun _ => accounted_refl m hheader
  | ok hdr =>
      show Ends (Metered.onConn (liftStop (sliceFrom frame hdr.headerSize)) >>= _) _ _ m
      apply Ends.bind
      cases hslice : sliceFrom frame hdr.headerSize with
      | ok body => exact accounted_dispatchObserved m hheader
      | error stop =>
          -- A slice that fails is a panic.
          unfold sliceFrom at hslice
          split at hslice
          · cases hslice
          · cases hslice
            exact fun hpanic => absurd rfl hpanic

end

/-! ### The instruments of a running server -/

/-- What a client's goroutine has to show for the instruments. -/
def share (c : Client) : Counter → Int
  | .active => if c.phase = .looking ∨ c.phase = .reading then 1 else 0
  | .total => if c.phase ≠ .started then 1 else 0
  | .requests labels => c.handled.countP (requestLabels · = some labels)
  | .durations labels => c.handled.countP (requestLabels · = some labels)
  | q => evidence c.conn q

/-- A frame adds what it counts and the evidence it left. -/
theorem share_frame {c : Client} {conn : Conn} {inbox : Bytes} {frames : List Bytes}
    {h : Bytes × GoString} (hphase : c.phase = .reading) (q : Counter) :
    share { c with conn, phase := .looking, inbox, frames, handled := c.handled ++ [h] } q =
      share c q - evidence c.conn q + evidence conn q + counted h q := by
  cases q <;> simp [share, evidence, counted, hphase, List.countP_cons]

/-- A goroutine that returns is no longer active. -/
theorem share_returned {c : Client} (hphase : c.phase = .looking ∨ c.phase = .reading)
    (err : GoError) (M : Metrics) (q : Counter) :
    reading M.connectionEnded q - share { c with phase := .returned err } q =
      reading M q - share c q := by
  cases q <;> rcases hphase with hphase | hphase <;>
    simp [reading, share, Metrics.connectionEnded, hphase]

section
variable {X : Server} {r r' : ServerState} {c c' : Client} {M : Metrics}

/-- One event of a client changes the instruments and its share of them alike. -/
theorem ClientStep.accounted (h : ClientStep X r c r' c') (hM : r.metrics = some M) :
    ∃ M', r'.metrics = some M' ∧ ∀ q, reading M' q - share c' q = reading M q - share c q := by
  cases h with
  | idle => exact ⟨M, hM, fun _ => rfl⟩
  | arrived bytes => exact ⟨M, hM, fun q => by cases q <;> rfl⟩
  | hungUp => exact ⟨M, hM, fun q => by cases q <;> rfl⟩
  | started hphase =>
      refine ⟨M.connectionStarted, by simp [hM], fun q => ?_⟩
      cases q <;> simp [reading, share, Metrics.connectionStarted, hphase]
  | reads hphase hlive =>
      refine ⟨M, hM, fun q => ?_⟩
      cases q <;> simp [reading, share, hphase]
  | ended err hphase =>
      exact ⟨M.connectionEnded, by simp [hM], share_returned hphase err M⟩
  | served net frame rest m hphase hpoll hrun =>
      obtain ⟨M', hM', hq⟩ := (accounted_serveFrame ⟨c.conn, r.metrics⟩).of_ok hrun M hM
      refine ⟨M', hM', fun q => ?_⟩
      have hframe : reading M' q - evidence m.conn q =
          reading M q - evidence c.conn q + counted (frame, m.conn.tenant.id) q := hq q
      rw [share_frame hphase]
      omega
  | failed net frame rest e m hphase hpoll hrun =>
      obtain ⟨M', hM', hq⟩ :=
        (accounted_serveFrame ⟨c.conn, r.metrics⟩).of_error hrun nofun M hM
      refine ⟨M'.connectionEnded, by simp [hM'], fun q => ?_⟩
      have hframe : reading M' q - evidence m.conn q =
          reading M q - evidence c.conn q + counted (frame, m.conn.tenant.id) q := hq q
      -- First the frame, as if the goroutine went on, then its return.
      refine (share_returned (c := { c with
        conn := m.conn, phase := .looking, inbox := rest, frames := c.frames ++ [frame]
        handled := c.handled ++ [(frame, m.conn.tenant.id)] })
        (Or.inl rfl) e M' q).trans ?_
      rw [share_frame hphase]
      omega

end

/-- The instruments stay on. -/
theorem keeps_metrics (X : Server) :
    System.Keeps (process X) fun r => r.metrics.isSome = true where
  act r c x r' c' hr hact := by
    obtain ⟨M, hM⟩ := Option.isSome_iff_exists.mp hr
    obtain ⟨M', hM', -⟩ := (act_step hact).accounted hM
    simp [hM']
  change r cs g hr := by
    show (r.change cs g).metrics.isSome = true
    rw [change_metrics]
    exact hr

/-- Every reading is the sum of the shares of the clients. -/
theorem reading_run {X : Server} {table : MemoryResolver}
    {es : List (Move ClientEvent ServerEvent)} {s : Joint ServerState Client}
    (h : (process X).run (listening table (some {})) es = some s) :
    ∃ M, s.shared.metrics = some M ∧ ∀ q, reading M q = (s.parts.map (share · q)).sum := by
  obtain ⟨M, hM⟩ := Option.isSome_iff_exists.mp ((keeps_metrics X).run rfl h)
  refine ⟨M, hM, fun q => ?_⟩
  have hbalance := System.balance (g := fun r => (r.metrics.map (reading · q)).getD 0)
    (f := (share · q)) (keeps_metrics X)
    (fun r c x r' c' hr hact => by
      obtain ⟨M₁, hM₁⟩ := Option.isSome_iff_exists.mp hr
      obtain ⟨M₂, hM₂, hq⟩ := (act_step hact).accounted hM₁
      simpa [hM₁, hM₂] using hq q)
    (fun r cs y => by
      show ((r.change cs y).metrics.map (reading · q)).getD 0 = _
      rw [change_metrics])
    (fun r y c hc => by
      rw [(mem_spawn hc).1]
      cases q <;> rfl) h rfl
  have hzero : reading {} q = 0 := by cases q <;> rfl
  simpa [hM, listening, hzero, sub_eq_zero] using hbalance

/-- A sum of ones is a count. -/
theorem sum_map_boole {α : Type} (p : α → Prop) [DecidablePred p] (l : List α) :
    (l.map fun a => if p a then (1 : Int) else 0).sum = l.countP p := by
  induction l with
  | nil => rfl
  | cons a l ih =>
      simp only [List.map_cons, List.sum_cons, List.countP_cons, ih]
      split <;> simp_all [Int.add_comm]

/-- A sum of naturals may be taken before the cast. -/
theorem sum_map_natCast {α : Type} (f : α → Nat) (l : List α) :
    (l.map fun a => (f a : Int)).sum = (l.map f).sum := by
  induction l with
  | nil => rfl
  | cons a l ih => simp [ih]

/-- What the instruments count. -/
structure Tally (M : Metrics) (clients : List Client) : Prop where
  /-- The gauge is the number of goroutines between their first statement and their return. -/
  active : M.connectionsActive =
    clients.countP fun c => c.phase = .looking ∨ c.phase = .reading
  total : M.connectionsTotal = clients.countP fun c => c.phase ≠ .started
  /-- A login is reported as `ok` once for every connection that got authenticated, under its
  mechanism. -/
  logins : ∀ mech, M.saslHandshakeTotal.value (mech, goString "ok") =
    clients.countP fun c => c.conn.state = .authenticated ∧ loginLabel c.conn = mech
  lookups : M.resolverCallsTotal.value (goString "ok") =
    (clients.map (·.conn.resolved.length)).sum
  /-- A request is counted once for every frame that had a header, under its api key and the
  tenant that the connection held at the end of its turn. -/
  requests : ∀ labels, M.requestsTotal.value labels =
    (clients.map fun c => c.handled.countP (requestLabels · = some labels)).sum
  /-- A duration is observed with every request, under the same labels. -/
  durations : ∀ labels, M.requestDuration.value labels = M.requestsTotal.value labels

/-- A run tallies. -/
theorem tally_run {X : Server} {table : MemoryResolver}
    {es : List (Move ClientEvent ServerEvent)} {s : Joint ServerState Client}
    (h : (process X).run (listening table (some {})) es = some s) :
    ∃ M, s.shared.metrics = some M ∧ reading M .strange = 0 ∧ Tally M s.parts := by
  obtain ⟨M, hM, hq⟩ := reading_run h
  have hstrange : reading M .strange = 0 := by
    rw [hq]
    simp [share, evidence]
  refine ⟨M, hM, hstrange, ?_, ?_, fun mech => ?_, ?_, fun labels => ?_, fun labels => ?_⟩
  · exact (hq .active).trans (sum_map_boole _ _)
  · exact Int.ofNat.inj ((hq .total).trans (sum_map_boole _ _))
  · exact Int.ofNat.inj ((hq (.logins mech)).trans (sum_map_boole _ _))
  · exact Int.ofNat.inj ((hq .lookups).trans (sum_map_natCast _ _))
  · exact Int.ofNat.inj ((hq (.requests labels)).trans (sum_map_natCast _ _))
  · exact Int.ofNat.inj ((hq (.durations labels)).trans (hq (.requests labels)).symm)

/-- Whatever the order of events, the instruments of a running server are a tally of its
connections. -/
theorem instruments_tally {X : Server} {table : MemoryResolver}
    {es : List (Move ClientEvent ServerEvent)} {s : Joint ServerState Client}
    (h : (process X).run (listening table (some {})) es = some s) :
    ∃ M, s.shared.metrics = some M ∧ Tally M s.parts := by
  obtain ⟨M, hM, -, htally⟩ := tally_run h
  exact ⟨M, hM, htally⟩

/-- Two clients at work. -/
theorem instruments_tally_two :
    ∃ s M, (process relayServer).run (listening acmeTable (some {})) twoClients = some s ∧
      s.shared.metrics = some M ∧ Tally M s.parts := by
  obtain ⟨s, hs, -⟩ := twoClients_run
  obtain ⟨M, hM, htally⟩ := instruments_tally hs
  exact ⟨s, M, hs, hM, htally⟩

/-! ### The series there are -/

/-- A vector of counters without reports under strange labels. -/
theorem series_subset {κ : Type} [DecidableEq κ] [BEq κ] [LawfulBEq κ] {v : CounterVec κ}
    {labels : List κ} (h : v.increments.countP (!labels.contains ·) = 0) :
    v.series ⊆ labels ∧ v.series.length ≤ labels.length := by
  have hsub : v.series ⊆ labels := by
    intro label hlabel
    simpa using List.countP_eq_zero.mp h label (List.mem_dedup.mp hlabel)
  exact ⟨hsub, (List.subperm_of_subset (List.nodup_dedup _) hsub).length_le⟩

/-- A series is there when its labels were reported. -/
theorem mem_series {κ : Type} [DecidableEq κ] {v : CounterVec κ} {labels : κ} :
    labels ∈ v.series ↔ 0 < v.value labels := by
  rw [CounterVec.series, CounterVec.value, List.mem_dedup, List.count_pos_iff]

section
variable {X : Server} {r r' : ServerState} {c c' : Client}

/-- A frame is noted with the tenant the connection has then. -/
theorem ClientStep.handled (h : ClientStep X r c r' c') :
    c'.handled = c.handled ∨ ∃ frame, c'.handled = c.handled ++ [(frame, c'.conn.tenant.id)] := by
  cases h with
  | served net frame rest m phase polled run => exact Or.inr ⟨frame, rfl⟩
  | failed net frame rest e m phase polled run => exact Or.inr ⟨frame, rfl⟩
  | _ => exact Or.inl rfl

/-- The tenant of a frame is none, or one that the connection has looked up. -/
structure Attributed (K : Codec) (c : Client) : Prop where
  sound : Sound K c.conn
  handled : ∀ h ∈ c.handled, h.2 = [] ∨ ∃ e ∈ c.conn.resolved, h.2 = e.2.id

/-- An event keeps the connection sound, and its lookups. -/
theorem ClientStep.sound (h : ClientStep X r c r' c') (hsound : Sound X.codec c.conn) :
    Sound X.codec c'.conn ∧ c.conn.resolved ⊆ c'.conn.resolved := by
  rcases h.conn_turn with hsame | ⟨E, hdr, frame, body, out, conn, frames, -, turn, hconn⟩
  · rw [hsame]
    exact ⟨hsound, List.Subset.refl _⟩
  · rw [hconn]
    refine ⟨(hsound.turn turn).written frames, ?_⟩
    show c.conn.resolved ⊆ conn.resolved
    rcases turn.resolved with hsame | ⟨username, tenant, hnew, -, -⟩
    · rw [hsame]
      exact List.Subset.refl _
    · rw [hnew]
      exact List.subset_append_left _ _

/-- An event keeps the frames attributed. -/
theorem ClientStep.attributed (h : ClientStep X r c r' c') (hc : Attributed X.codec c) :
    Attributed X.codec c' := by
  obtain ⟨hsound, hgrows⟩ := h.sound hc.sound
  have hold : ∀ a ∈ c.handled, a.2 = [] ∨ ∃ e ∈ c'.conn.resolved, a.2 = e.2.id := fun a ha =>
    (hc.handled a ha).imp_right fun ⟨e, he, hid⟩ => ⟨e, hgrows he, hid⟩
  refine ⟨hsound, fun a ha => ?_⟩
  rcases h.handled with hsame | ⟨frame, hnew⟩
  · exact hold a (hsame ▸ ha)
  · rw [hnew, List.mem_append, List.mem_singleton] at ha
    rcases ha with ha | rfl
    · exact hold a ha
    · rcases hsound.tenant with hnone | ⟨username, hknown⟩
      · exact Or.inl (by rw [hnone])
      · exact Or.inr ⟨_, hknown, rfl⟩

end

/-- The frames of a running server are attributed. -/
theorem attributed_run {X : Server} {table : MemoryResolver} {metrics : Option Metrics}
    {es : List (Move ClientEvent ServerEvent)} {s : Joint ServerState Client}
    (h : (process X).run (listening table metrics) es = some s) :
    ∀ c ∈ s.parts, Attributed X.codec c := by
  refine System.parts_invariant (Q := fun _ c => Attributed X.codec c) System.Keeps.true
    ?_ ?_ ?_ ?_ h trivial nofun
  · intro r c x r' c' _ hc hact
    exact (act_step hact).attributed hc
  · exact fun _ _ _ _ _ _ _ hd => hd
  · exact fun _ _ _ _ hc => hc
  · intro r cs g _ c hc
    rw [(mem_spawn hc).1]
    exact ⟨.start _, nofun⟩

/-- The series of the instruments. -/
structure SeriesOf (M : Metrics) (clients : List Client) : Prop where
  logins : M.saslHandshakeTotal.series ⊆ handshakeLabels
  upstreamErrors : M.upstreamErrorTotal.series ⊆ upstreamErrorLabels
  lookups : M.resolverCallsTotal.series ⊆ resolverCallLabels
  fixed : M.saslHandshakeTotal.series.length + M.upstreamErrorTotal.series.length +
    M.resolverCallsTotal.series.length ≤ 29
  /-- A series of requests is there when some frame of some client was counted under it. -/
  requests : ∀ labels, labels ∈ M.requestsTotal.series ↔
    ∃ c ∈ clients, ∃ h ∈ c.handled, requestLabels h = some labels
  durations : ∀ labels, labels ∈ M.requestDuration.series ↔ labels ∈ M.requestsTotal.series
  /-- The tenant is none, or one that the resolver returned to some client. -/
  tenants : ∀ labels ∈ M.requestsTotal.series, labels.2 = goString "_unauth" ∨
    ∃ c ∈ clients, ∃ e ∈ c.conn.resolved, labels.2 = e.2.id

/-- The requests have the series of the frames. -/
theorem Tally.mem_requests {M : Metrics} {clients : List Client} (h : Tally M clients)
    (labels : GoString × GoString) :
    labels ∈ M.requestsTotal.series ↔
      ∃ c ∈ clients, ∃ a ∈ c.handled, requestLabels a = some labels := by
  rw [mem_series, h.requests, List.sum_pos_iff_exists_pos_nat]
  simp only [List.mem_map, exists_exists_and_eq_and, List.countP_pos_iff, decide_eq_true_eq]

/-- The tenant label of a frame is that of no tenant, or its tenant. -/
theorem tenant_of_requestLabels {h : Bytes × GoString} {labels : GoString × GoString}
    (hlabels : requestLabels h = some labels) :
    labels.2 = goString "_unauth" ∨ h.2 ≠ [] ∧ labels.2 = h.2 := by
  obtain ⟨hdr, -, rfl⟩ := Option.map_eq_some_iff.mp hlabels
  dsimp only
  split
  · exact Or.inl rfl
  · rename_i hsome
    exact Or.inr ⟨hsome, rfl⟩

/-- Whatever the clients send, the mechanism, the result and the kind of a report are the proxy's
own texts, and the tenant of a request is one of the table. The api key of a request is the
client's to choose, logged in or not. -/
theorem series_run {X : Server} {table : MemoryResolver}
    {es : List (Move ClientEvent ServerEvent)} {s : Joint ServerState Client}
    (h : (process X).run (listening table (some {})) es = some s) :
    ∃ M, s.shared.metrics = some M ∧ SeriesOf M s.parts := by
  obtain ⟨M, hM, hstrange, htally⟩ := tally_run h
  simp only [reading, Int.natCast_eq_zero, Nat.add_eq_zero_iff] at hstrange
  obtain ⟨⟨hlogins, hupstream⟩, hlookups⟩ := hstrange
  obtain ⟨hsub₁, hlen₁⟩ := series_subset hlogins
  obtain ⟨hsub₂, hlen₂⟩ := series_subset hupstream
  obtain ⟨hsub₃, hlen₃⟩ := series_subset hlookups
  have htables : handshakeLabels.length + upstreamErrorLabels.length +
      resolverCallLabels.length = 29 := rfl
  refine ⟨M, hM, hsub₁, hsub₂, hsub₃, by omega, htally.mem_requests, fun labels => ?_,
    fun labels hlabels => ?_⟩
  · rw [mem_series, htally.durations, mem_series]
  · obtain ⟨c, hc, a, ha, hframe⟩ := (htally.mem_requests labels).mp hlabels
    refine (tenant_of_requestLabels hframe).imp_right fun ⟨hsome, htenant⟩ => ?_
    obtain ⟨e, he, hid⟩ := ((attributed_run h c hc).handled a ha).resolve_left hsome
    exact ⟨c, hc, e, he, htenant.trans hid⟩

/-- The series of a server with two clients. -/
theorem series_run_two :
    ∃ s M, (process relayServer).run (listening acmeTable (some {})) twoClients = some s ∧
      s.shared.metrics = some M ∧ SeriesOf M s.parts := by
  obtain ⟨s, hs, -⟩ := twoClients_run
  obtain ⟨M, hM, hseries⟩ := series_run hs
  exact ⟨s, M, hs, hM, hseries⟩

/-- A client that is not logged in asks for the api key 12345. It is disconnected, and the
instruments have a series for the key. -/
example :
    ((process relayServer).run (listening acmeTable (some {}))
      [.common .accepted, .own 0 (.turn quietNet), .own 0 (.turn quietNet),
        .own 0 (.arrive ([0, 0, 0, 10] ++ requestFrame 12345 0 7 [])),
        .own 0 (.turn quietNet)]).bind (·.shared.metrics.map (·.requestsTotal.series)) =
      some [(goString "12345", goString "_unauth")] := by
  decide +kernel

end Kroxy.Proofs
