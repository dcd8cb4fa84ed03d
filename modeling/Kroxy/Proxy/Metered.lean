import Kroxy.Lib.Erase
import Kroxy.Lib.Fails
import Kroxy.Observability.Metrics
import Kroxy.Proxy.Serve

/-!
# `Kroxy.Proxy.Metered`: the handlers with their instruments

`proxy/conn.go` once more, with the statements that count: `observeHandshake`, the counters of
resolver calls and upstream errors, and `ObserveRequest` in `serve`. The connection holds a
pointer to the instruments, which is nil when metrics are off.

Every program here is the program of `Kroxy.Proxy.Conn` or `Kroxy.Proxy.Serve` of the same name
with reports put between its statements. The `erases_…` lemmas say so: the two do the same to the
connection, with metrics on or off. There is one exception, at the end of a turn: with metrics
on, `ObserveRequest` panics when the tenant id is no label value (`Unlabelled`).
-/

set_option autoImplicit false

namespace Kroxy.Proxy

open Kroxy.Go
open Kroxy.Lib
open Kroxy.Kmsg
open Kroxy.Protocol
open Kroxy.Auth
open Kroxy.Observability
open Kroxy.Upstream (Dialled)

/-- A connection and the instruments it reports to. -/
structure Metered where
  conn : Conn := {}
  metrics : Option Metrics := none

namespace Metered

/-- A program that reports nothing. -/
def onConn {α : Type} (x : GoM Conn α) : GoM Metered α := fun m =>
  match x m.conn with
  | .ok a c => .ok a { m with conn := c }
  | .error stop c => .error stop { m with conn := c }

/-- `if c.metrics != nil { … }`. -/
def report (f : Metrics → Metrics) : GoM Metered Unit :=
  modify fun m => { m with metrics := m.metrics.map f }

/-- Report when a call returns an error. A panic passes the report by. -/
def reportErr {α : Type} (f : Metrics → Metrics) (x : GoM Metered α) : GoM Metered α := fun m =>
  match x m with
  | .ok a m' => .ok a m'
  | .error (.err e) m' => .error (.err e) { m' with metrics := m'.metrics.map f }
  | .error .panic m' => .error .panic m'

/-- The mechanism label: a mechanism the proxy knows, or `unknown`. -/
def mechanismLabel (mech : GoString) : GoString :=
  if mech ∈ [mechanismPlain, mechanismSCRAMSHA256, mechanismSCRAMSHA512] then mech
  else goString "unknown"

/-- `observeHandshake`. -/
def observeHandshake (mech : GoString) (result : String) : GoM Metered Unit :=
  report (Metrics.saslHandshake (mechanismLabel mech) result)

section
variable (X : Server) (E : Env)

/-! ### Requests that end at the proxy -/

/-- `handleSaslHandshake`. -/
def handleSaslHandshake (hdr : RequestHeader) (body : Bytes) : GoM Metered Unit := do
  let mechanism ← onConn (liftErr "handleSaslHandshake"
    (X.codec.readSASLHandshakeRequest hdr.apiVersion body))
  let m ← get
  if m.conn.state ≠ .awaitHandshake then do
    -- The label is whatever the client asked for, cut down to the known mechanisms.
    observeHandshake mechanism "illegal_state"
    onConn (handshakeReply X E hdr errIllegalSaslState)
  else if mechanism ≠ mechanismPlain ∧ ¬ isSCRAMMechanism mechanism then do
    observeHandshake mechanism "unsupported"
    onConn (handshakeReply X E hdr errUnsupportedSaslMech)
  else do
    onConn (set { m.conn with clientMechanism := mechanism, state := ConnState.awaitAuth })
    onConn (handshakeReply X E hdr 0)

/-- `handleSaslAuthenticatePlain`. -/
def handleSaslAuthenticatePlain (hdr : RequestHeader) (body : Bytes) : GoM Metered Unit := do
  let payload ← onConn (liftErr "handleSaslAuthenticatePlain"
    (X.codec.readSASLAuthenticateRequest hdr.apiVersion body))
  let m ← get
  if m.conn.state ≠ .awaitAuth then do
    observeHandshake mechanismPlain "illegal_state"
    onConn (refuse X E hdr errIllegalSaslState "SASL handshake required")
  else
    match parsePlain payload with
    | .error _ => do
        observeHandshake mechanismPlain "malformed"
        onConn (refuse X E hdr errSaslAuthFailed "malformed PLAIN payload")
    | .ok creds => do
        match ← onConn (resolve E creds.username) with
        | .error _ => do
            report (Metrics.resolverCall "unauthorized")
            observeHandshake mechanismPlain "unauthorized"
            onConn (refuse X E hdr errSaslAuthFailed "authentication failed")
        | .ok tenant => do
            report (Metrics.resolverCall "ok")
            onConn (modify fun c =>
              { c with tenant, password := creds.password, state := .authenticated })
            observeHandshake mechanismPlain "ok"
            onConn (authReply X E hdr
              { errorCode := 0, errorMessage := none, saslAuthBytes := [] })

/-- What `relayRound` reports when the relay breaks. -/
def relayBroken (mech : GoString) (m : Metrics) : Metrics :=
  (m.upstreamError "scram_relay").saslHandshake (mechanismLabel mech) "upstream_error"

/-- The end of `handleSaslAuthenticateSCRAM`. -/
def relayRound (hdr : RequestHeader) (payload : Bytes) : GoM Metered Unit := do
  let m ← get
  let r ← reportErr (relayBroken m.conn.clientMechanism)
    (onConn (wrapErr "handleSaslAuthenticateSCRAM"
      (onUpstream (Upstream.relaySASLAuthenticate X.codec payload))))
  let resp : SASLAuthenticateResponse :=
    { errorCode := r.errCode
      errorMessage := if r.errMsg = [] then none else some r.errMsg
      saslAuthBytes := r.respPayload }
  if r.errCode ≠ 0 then do
    observeHandshake m.conn.clientMechanism "unauthorized"
    onConn (authReply X E hdr resp)
  else do
    onConn (modify fun c =>
      let rounds := c.scramRoundsCompleted + 1
      { c with
          scramRoundsCompleted := rounds
          state := if rounds ≥ 2 then .authenticated else c.state })
    -- The count is read after it went up.
    let m ← get
    if m.conn.scramRoundsCompleted ≥ 2 then do
      observeHandshake m.conn.clientMechanism "ok"
      onConn (authReply X E hdr resp)
    else onConn (authReply X E hdr resp)

/-- The part of `handleSaslAuthenticateSCRAM` for the first message. -/
def openRelay (hdr : RequestHeader) (payload : Bytes) : GoM Metered Unit := do
  let m ← get
  match parseSCRAMClientFirstUsername payload with
  | .error _ => do
      observeHandshake m.conn.clientMechanism "malformed"
      onConn (refuse X E hdr errSaslAuthFailed "malformed SCRAM client-first-message")
  | .ok username => do
      match ← onConn (resolve E username) with
      | .error _ => do
          report (Metrics.resolverCall "unauthorized")
          observeHandshake m.conn.clientMechanism "unauthorized"
          onConn (refuse X E hdr errSaslAuthFailed "authentication failed")
      | .ok tenant => do
          report (Metrics.resolverCall "ok")
          onConn (modify fun c => { c with tenant })
          let m ← get
          match Upstream.dialForSCRAM X.codec (E.dial tenant.upstream)
              m.conn.clientMechanism with
          | .failed .panic closed => do
              onConn (noteClosed closed)
              throw .panic
          | .failed (.err _) closed => do
              onConn (noteClosed closed)
              report (Metrics.upstreamError "scram_dial")
              observeHandshake m.conn.clientMechanism "upstream_error"
              onConn (refuse X E hdr errSaslAuthFailed "upstream unavailable")
          | .connected up => do
              onConn (set { m.conn with
                upstream := some up, state := ConnState.relaySaslInFlight })
              relayRound X E hdr payload

/-- `handleSaslAuthenticateSCRAM`. -/
def handleSaslAuthenticateSCRAM (hdr : RequestHeader) (body : Bytes) : GoM Metered Unit := do
  let payload ← onConn (liftErr "handleSaslAuthenticateSCRAM"
    (X.codec.readSASLAuthenticateRequest hdr.apiVersion body))
  let m ← get
  if m.conn.state = .awaitAuth then openRelay X E hdr payload
  else if m.conn.state = .relaySaslInFlight then relayRound X E hdr payload
  else do
    observeHandshake m.conn.clientMechanism "illegal_state"
    onConn (refuse X E hdr errIllegalSaslState "SASL handshake required")

/-- `handleSaslAuthenticate`. -/
def handleSaslAuthenticate (hdr : RequestHeader) (body : Bytes) : GoM Metered Unit := do
  let m ← get
  if isSCRAMMechanism m.conn.clientMechanism then handleSaslAuthenticateSCRAM X E hdr body
  else handleSaslAuthenticatePlain X E hdr body

/-! ### Requests that go upstream -/

/-- `ensureUpstream`. The only error it returns is that of its dial. -/
def ensureUpstream : GoM Metered Unit :=
  reportErr (Metrics.upstreamError "dial") (onConn (Proxy.ensureUpstream X E))

/-- `forwardRewritten`. The rewrite handlers count nothing. -/
def forwardRewritten (h : Handler) (hdr : RequestHeader) (body : Bytes) :
    GoM Metered Unit := do
  wrapErr "forwardRewritten" (ensureUpstream X E)
  onConn (h hdr body)

/-- `forwardPassthrough`. -/
def forwardPassthrough (hdr : RequestHeader) (frame : Bytes) : GoM Metered Unit := do
  wrapErr "forwardPassthrough" (ensureUpstream X E)
  let respFrame ← onConn (wrapErr "forwardPassthrough"
    (onUpstream (Upstream.roundTrip frame hdr.correlationID)))
  onConn (writeFrame E respFrame)

/-- `dispatch`. -/
def dispatch (hdr : RequestHeader) (frame body : Bytes) : GoM Metered Unit := do
  if hdr.apiKey = apiVersionsKey then onConn (handleApiVersions X E hdr)
  else if hdr.apiKey = saslHandshakeKey then handleSaslHandshake X E hdr body
  else if hdr.apiKey = saslAuthenticateKey then handleSaslAuthenticate X E hdr body
  else
    let m ← get
    if m.conn.state ≠ .authenticated then
      onConn (fail (goString "client sent api key " ++ decimal hdr.apiKey.toInt ++
        goString " before authentication"))
    else
      match rewriteHandler X E hdr.apiKey with
      | some h => forwardRewritten X E h hdr body
      | none => forwardPassthrough X E hdr frame

/-- `ObserveRequest`, under the tenant the connection has by now. A tenant id that the library
does not take for a label value panics, before anything is counted. -/
def observeRequest (hdr : RequestHeader) : GoM Metered Unit := fun m =>
  if m.metrics.isSome = true ∧ X.labels.valid (tenantLabel m.conn) = false then .error .panic m
  else
    .ok () { m with
      metrics := m.metrics.map (Metrics.observeRequest hdr.apiKey (tenantLabel m.conn)) }

/-- The end of a turn of the loop in `serve`. A request is counted whether it succeeded or
returned an error. -/
def dispatchObserved (hdr : RequestHeader) (frame body : Bytes) : GoM Metered Unit := fun m =>
  match dispatch X E hdr frame body m with
  | .ok () m' => observeRequest X hdr m'
  | .error (.err e) m' =>
      match observeRequest X hdr m' with
      | .ok () m'' => .error (.err e) m''
      | .error stop m'' => .error stop m''
  | .error .panic m' => .error .panic m'

/-- One turn of the loop in `serve`, after the frame is read. A frame without a header is not
counted. -/
def serveFrame (frame : Bytes) : GoM Metered Unit :=
  wrapErr "serve" do
    let hdr ← onConn (liftStop (parseRequestHeader frame))
    let body ← onConn (liftStop (sliceFrom frame hdr.headerSize))
    dispatchObserved X E hdr frame body

end

/-! ### The reports are not seen -/

/-- The connection without its instruments, which are on or off. -/
def Sees (on : Bool) (m : Metered) (c : Conn) : Prop := m.conn = c ∧ m.metrics.isSome = on

/-- A report leaves the instruments on or off. -/
theorem Sees.map {on : Bool} {m : Metered} {c : Conn} (h : Sees on m c) (f : Metrics → Metrics) :
    Sees on { m with metrics := m.metrics.map f } c :=
  ⟨h.1, by rw [Option.isSome_map]; exact h.2⟩

section
variable {X : Server} {E : Env} {on : Bool}

/-- A program that reports nothing is itself. -/
theorem erases_onConn {α : Type} (x : GoM Conn α) : Erases (Sees on) (onConn x) x := by
  rintro m c ⟨rfl, hon⟩
  unfold onConn
  cases x m.conn with
  | ok a c => exact .ok a ⟨rfl, hon⟩
  | error stop c => exact .error stop ⟨rfl, hon⟩

/-- Wrapping the errors of both programs. -/
theorem erases_wrapErr {α : Type} {fn : String} {x : GoM Metered α} {y : GoM Conn α}
    (h : Erases (Sees on) x y) : Erases (Sees on) (wrapErr fn x) (wrapErr fn y) := by
  intro m c hs
  unfold wrapErr
  cases hx : x m with
  | ok a m' =>
      obtain ⟨c', hy, hs'⟩ := h.of_ok hs hx
      rw [hy]
      exact .ok a hs'
  | error stop m' =>
      obtain ⟨c', hy, hs'⟩ := h.of_error hs hx
      rw [hy]
      exact .error _ hs'

/-- A report on an error is not seen. -/
theorem erases_reportErr {α : Type} {f : Metrics → Metrics} {x : GoM Metered α}
    {y : GoM Conn α} (h : Erases (Sees on) x y) : Erases (Sees on) (reportErr f x) y := by
  intro m c hs
  unfold reportErr
  cases hx : x m with
  | ok a m' =>
      obtain ⟨c', hy, hs'⟩ := h.of_ok hs hx
      rw [hy]
      exact .ok a hs'
  | error stop m' =>
      obtain ⟨c', hy, hs'⟩ := h.of_error hs hx
      rw [hy]
      cases stop with
      | err e => exact .error _ (hs'.map f)
      | panic => exact .error _ hs'

/-- A report in front of a program. -/
theorem erases_report {α : Type} {f : Metrics → Metrics} {x : Unit → GoM Metered α}
    {y : GoM Conn α} (h : Erases (Sees on) (x ()) y) : Erases (Sees on) (report f >>= x) y :=
  .silent (fun _ _ hs => hs.map f) h

/-- Both programs read the connection. -/
theorem erases_get {α : Type} {f : Metered → GoM Metered α} {g : Conn → GoM Conn α}
    (h : ∀ m, Erases (Sees on) (f m) (g m.conn)) :
    Erases (Sees on) (get >>= f) (get >>= g) := by
  refine .get fun m c hs => ?_
  rw [← hs.1]
  exact h m

/-- The reports of `handleSaslHandshake`. -/
theorem erases_handleSaslHandshake (hdr : RequestHeader) (body : Bytes) :
    Erases (Sees on) (handleSaslHandshake X E hdr body)
      (Proxy.handleSaslHandshake X E hdr body) := by
  refine .bind (erases_onConn _) fun mech => erases_get fun m => ?_
  split
  · exact erases_report (erases_onConn _)
  · split
    · exact erases_report (erases_onConn _)
    · exact .bind (erases_onConn _) fun _ => erases_onConn _

/-- The reports of a PLAIN login. -/
theorem erases_handleSaslAuthenticatePlain (hdr : RequestHeader) (body : Bytes) :
    Erases (Sees on) (handleSaslAuthenticatePlain X E hdr body)
      (Proxy.handleSaslAuthenticatePlain X E hdr body) := by
  refine .bind (erases_onConn _) fun payload => erases_get fun m => ?_
  split
  · exact erases_report (erases_onConn _)
  · cases parsePlain payload with
    | error e => exact erases_report (erases_onConn _)
    | ok creds =>
        refine .bind (erases_onConn _) fun known => ?_
        cases known with
        | error e => exact erases_report (erases_report (erases_onConn _))
        | ok tenant =>
            exact erases_report (.bind (erases_onConn _) fun _ => erases_report (erases_onConn _))

/-- The reports of a round of the relay. -/
theorem erases_relayRound (hdr : RequestHeader) (payload : Bytes) :
    Erases (Sees on) (relayRound X E hdr payload) (Proxy.relayRound X E hdr payload) := by
  -- The metered program reads the state first, for the label of its reports.
  refine .peek fun m => .bind (erases_reportErr (erases_onConn _)) fun r => ?_
  dsimp only
  split
  · exact erases_report (erases_onConn _)
  · refine .bind (erases_onConn _) fun _ => .peek fun m' => ?_
    split
    · exact erases_report (erases_onConn _)
    · exact erases_onConn _

/-- The reports of the first SCRAM message. -/
theorem erases_openRelay (hdr : RequestHeader) (payload : Bytes) :
    Erases (Sees on) (openRelay X E hdr payload) (Proxy.openRelay X E hdr payload) := by
  refine .peek fun m => ?_
  unfold Proxy.openRelay
  cases parseSCRAMClientFirstUsername payload with
  | error e => exact erases_report (erases_onConn _)
  | ok username =>
      refine .bind (erases_onConn _) fun known => ?_
      cases known with
      | error e => exact erases_report (erases_report (erases_onConn _))
      | ok tenant =>
          refine erases_report (.bind (erases_onConn _) fun _ => erases_get fun m' => ?_)
          dsimp only
          cases Upstream.dialForSCRAM X.codec (E.dial tenant.upstream)
              m'.conn.clientMechanism with
          | connected up =>
              exact .bind (erases_onConn _) fun _ => erases_relayRound hdr payload
          | failed stop closed =>
              cases stop with
              | panic => exact .bind (erases_onConn _) fun _ => .throw _
              | err e =>
                  exact .bind (erases_onConn _) fun _ =>
                    erases_report (erases_report (erases_onConn _))

/-- The reports of a login. -/
theorem erases_handleSaslAuthenticate (hdr : RequestHeader) (body : Bytes) :
    Erases (Sees on) (handleSaslAuthenticate X E hdr body)
      (Proxy.handleSaslAuthenticate X E hdr body) := by
  refine erases_get fun m => ?_
  split
  · refine .bind (erases_onConn _) fun payload => erases_get fun m' => ?_
    split
    · exact erases_openRelay hdr payload
    · split
      · exact erases_relayRound hdr payload
      · exact erases_report (erases_onConn _)
  · exact erases_handleSaslAuthenticatePlain hdr body

/-- The report of a failed dial. -/
theorem erases_ensureUpstream :
    Erases (Sees on) (ensureUpstream X E) (Proxy.ensureUpstream X E) :=
  erases_reportErr (erases_onConn _)

/-- With its reports, the handling of a request does to the connection what it does without. -/
theorem erases_dispatch (hdr : RequestHeader) (frame body : Bytes) :
    Erases (Sees on) (dispatch X E hdr frame body) (Proxy.dispatch X E hdr frame body) := by
  unfold dispatch Proxy.dispatch
  split
  · exact erases_onConn _
  · split
    · exact erases_handleSaslHandshake hdr body
    · split
      · exact erases_handleSaslAuthenticate hdr body
      · refine erases_get fun m => ?_
        split
        · exact erases_onConn _
        · cases rewriteHandler X E hdr.apiKey with
          | some h =>
              exact .bind (erases_wrapErr erases_ensureUpstream) fun _ => erases_onConn _
          | none =>
              exact .bind (erases_wrapErr erases_ensureUpstream) fun _ =>
                .bind (erases_onConn _) fun _ => erases_onConn _

/-! ### The end of a turn -/

/-- The handling of the request ends, with or without an error, in a connection whose tenant id
is no label value. -/
def Unlabelled (X : Server) (E : Env) (hdr : RequestHeader) (frame body : Bytes) (c : Conn) :
    Prop :=
  ∃ c', (Proxy.dispatch X E hdr frame body c = .ok () c' ∨
      ∃ e, Proxy.dispatch X E hdr frame body c = .error (.err e) c') ∧
    X.labels.valid c'.tenant.id = false

/-- The label of a connection without a tenant is as good as no text. -/
theorem valid_tenantLabel (X : Server) (c : Conn) :
    X.labels.valid (tenantLabel c) = X.labels.valid c.tenant.id := by
  unfold tenantLabel
  split
  · rename_i hnone
    rw [hnone, X.labels.ascii [] nofun]
    exact X.labels.ascii _ (by decide +kernel)
  · rfl

/-- A request is counted with metrics off, or under a tenant id that is a label value. -/
theorem observeRequest_of_valid (hdr : RequestHeader) {m : Metered} {c : Conn} (hs : Sees on m c)
    (h : ¬ (on = true ∧ X.labels.valid c.tenant.id = false)) :
    ∃ m', observeRequest X hdr m = .ok () m' ∧ Sees on m' c := by
  obtain ⟨rfl, rfl⟩ := hs
  rw [← valid_tenantLabel] at h
  exact ⟨_, if_neg h, rfl, by rw [Option.isSome_map]⟩

/-- Otherwise counting it panics. -/
theorem observeRequest_of_invalid {hdr : RequestHeader} {m : Metered} {c : Conn}
    (hs : Sees true m c) (h : X.labels.valid c.tenant.id = false) :
    observeRequest X hdr m = .error .panic m := by
  obtain ⟨rfl, hon⟩ := hs
  rw [← valid_tenantLabel] at h
  exact if_pos ⟨hon, h⟩

/-- With metrics off or a tenant id that is a label value, counting the request is not seen. -/
theorem matches_dispatchObserved {hdr : RequestHeader} {frame body : Bytes} {m : Metered}
    {c : Conn} (hs : Sees on m c) (h : ¬ (on = true ∧ Unlabelled X E hdr frame body c)) :
    Matches (Sees on) (dispatchObserved X E hdr frame body m)
      (Proxy.dispatch X E hdr frame body c) := by
  unfold dispatchObserved
  cases hrun : dispatch X E hdr frame body m with
  | ok u m' =>
      obtain ⟨c', hplain, hs'⟩ := (erases_dispatch hdr frame body).of_ok hs hrun
      obtain ⟨m'', hobserve, hs''⟩ := observeRequest_of_valid (X := X) hdr hs'
        fun hinvalid => h ⟨hinvalid.1, c', Or.inl hplain, hinvalid.2⟩
      dsimp only
      rw [hplain, hobserve]
      exact .ok () hs''
  | error stop m' =>
      obtain ⟨c', hplain, hs'⟩ := (erases_dispatch hdr frame body).of_error hs hrun
      cases stop with
      | panic =>
          rw [hplain]
          exact .error _ hs'
      | err e =>
          obtain ⟨m'', hobserve, hs''⟩ := observeRequest_of_valid (X := X) hdr hs'
            fun hinvalid => h ⟨hinvalid.1, c', Or.inr ⟨e, hplain⟩, hinvalid.2⟩
          dsimp only
          rw [hplain, hobserve]
          exact .error _ hs''

/-- With metrics on and another tenant id, it panics. -/
theorem dispatchObserved_of_unlabelled {hdr : RequestHeader} {frame body : Bytes} {m : Metered}
    {c : Conn} (hs : Sees true m c) (h : Unlabelled X E hdr frame body c) :
    ∃ m', dispatchObserved X E hdr frame body m = .error .panic m' := by
  obtain ⟨c', hplain, hinvalid⟩ := h
  have herases : Erases (Sees true) (dispatch X E hdr frame body)
      (Proxy.dispatch X E hdr frame body) := erases_dispatch hdr frame body
  unfold dispatchObserved
  cases hrun : dispatch X E hdr frame body m with
  | ok u m' =>
      obtain ⟨c'', hsame, hs'⟩ := herases.of_ok hs hrun
      rcases hplain with hplain | ⟨e, hplain⟩ <;> cases hsame.symm.trans hplain
      exact ⟨m', observeRequest_of_invalid hs' hinvalid⟩
  | error stop m' =>
      obtain ⟨c'', hsame, hs'⟩ := herases.of_error hs hrun
      rcases hplain with hplain | ⟨e, hplain⟩ <;> cases hsame.symm.trans hplain
      exact ⟨m', by simp only [observeRequest_of_invalid hs' hinvalid]⟩

end

/-- The frame has a header, and its request ends unlabelled. -/
def UnlabelledFrame (X : Server) (E : Env) (frame : Bytes) (c : Conn) : Prop :=
  ∃ hdr body, parseRequestHeader frame = .ok hdr ∧ sliceFrom frame hdr.headerSize = .ok body ∧
    Unlabelled X E hdr frame body c

section
variable {X : Server} {E : Env} {frame : Bytes} {m m' : Metered}

/-- With its reports, a turn of the loop does to the connection what it does without, unless the
request cannot be counted. -/
theorem matches_serveFrame
    (h : ¬ (m.metrics.isSome = true ∧ UnlabelledFrame X E frame m.conn)) :
    Matches (Sees m.metrics.isSome) (serveFrame X E frame m)
      (Proxy.serveFrame X E frame m.conn) := by
  have hs : Sees m.metrics.isSome m m.conn := ⟨rfl, rfl⟩
  -- Both are wrapped, so the parts inside are compared.
  have hinside : ∀ (x : GoM Metered Unit) (y : GoM Conn Unit),
      Matches (Sees m.metrics.isSome) (x m) (y m.conn) →
      Matches (Sees m.metrics.isSome) (wrapErr "serve" x m) (wrapErr "serve" y m.conn) := by
    intro x y hxy
    unfold wrapErr
    generalize x m = left at hxy ⊢
    generalize y m.conn = right at hxy ⊢
    cases hxy with
    | ok a hs => exact .ok a hs
    | error e hs => exact .error _ hs
  refine hinside _ _ ?_
  cases hparse : parseRequestHeader frame with
  | error stop => exact .error stop hs
  | ok hdr =>
      cases hslice : sliceFrom frame hdr.headerSize with
      | error stop =>
          show Matches _ ((onConn (liftStop (sliceFrom frame hdr.headerSize)) >>= _) m)
            ((liftStop (sliceFrom frame hdr.headerSize) >>= _) m.conn)
          rw [hslice]
          exact .error stop hs
      | ok body =>
          show Matches _ ((onConn (liftStop (sliceFrom frame hdr.headerSize)) >>= _) m)
            ((liftStop (sliceFrom frame hdr.headerSize) >>= _) m.conn)
          rw [hslice]
          exact matches_dispatchObserved hs fun hbad =>
            h ⟨hbad.1, hdr, body, hparse, hslice, hbad.2⟩

/-- A request that cannot be counted brings the process down. -/
theorem serveFrame_of_unlabelled (hon : m.metrics.isSome = true)
    (h : UnlabelledFrame X E frame m.conn) : Fails .panic (serveFrame X E frame) m := by
  obtain ⟨hdr, body, hparse, hslice, hlabel⟩ := h
  obtain ⟨m', hrun⟩ := dispatchObserved_of_unlabelled (m := m) ⟨rfl, hon⟩ hlabel
  have hhdr : onConn (liftStop (parseRequestHeader frame)) m = .ok hdr m := by
    rw [hparse]
    rfl
  have hbody : onConn (liftStop (sliceFrom frame hdr.headerSize)) m = .ok body m := by
    rw [hslice]
    rfl
  refine ⟨m', ?_⟩
  unfold serveFrame wrapErr
  rw [bind_of_ok hhdr, bind_of_ok hbody, hrun]
  rfl

/-- A turn that does not panic is a turn without the reports. -/
theorem matches_of_not_panics (h : ¬ Fails .panic (serveFrame X E frame) m) :
    Matches (Sees m.metrics.isSome) (serveFrame X E frame m)
      (Proxy.serveFrame X E frame m.conn) :=
  matches_serveFrame fun hbad => h (serveFrame_of_unlabelled hbad.1 hbad.2)

/-- A turn that returns does so without the reports, and leaves the instruments on or off. -/
theorem serveFrame_of_ok (h : serveFrame X E frame m = .ok () m') :
    Proxy.serveFrame X E frame m.conn = .ok () m'.conn ∧
      m'.metrics.isSome = m.metrics.isSome := by
  have hlive : ¬ Fails .panic (serveFrame X E frame) m := by
    rintro ⟨_, hpanic⟩
    cases h.symm.trans hpanic
  have hmatch := matches_of_not_panics hlive
  rw [h] at hmatch
  generalize Proxy.serveFrame X E frame m.conn = result at hmatch ⊢
  cases hmatch with
  | ok a hs => exact ⟨by rw [hs.1], hs.2⟩

/-- So does a turn that returns an error. -/
theorem serveFrame_of_err {e : GoError} (h : serveFrame X E frame m = .error (.err e) m') :
    Proxy.serveFrame X E frame m.conn = .error (.err e) m'.conn ∧
      m'.metrics.isSome = m.metrics.isSome := by
  have hlive : ¬ Fails .panic (serveFrame X E frame) m := by
    rintro ⟨_, hpanic⟩
    cases h.symm.trans hpanic
  have hmatch := matches_of_not_panics hlive
  rw [h] at hmatch
  generalize Proxy.serveFrame X E frame m.conn = result at hmatch ⊢
  cases hmatch with
  | error e hs => exact ⟨by rw [hs.1], hs.2⟩

/-- A turn panics where it does without the reports, and where its request cannot be counted. -/
theorem panics_serveFrame_iff :
    Fails .panic (serveFrame X E frame) m ↔ Fails .panic (Proxy.serveFrame X E frame) m.conn ∨
      (m.metrics.isSome = true ∧ UnlabelledFrame X E frame m.conn) := by
  by_cases hbad : m.metrics.isSome = true ∧ UnlabelledFrame X E frame m.conn
  · exact iff_of_true (serveFrame_of_unlabelled hbad.1 hbad.2) (Or.inr hbad)
  · have hmatch := matches_serveFrame hbad
    rw [or_iff_left hbad]
    unfold Fails
    generalize serveFrame X E frame m = left at hmatch ⊢
    generalize Proxy.serveFrame X E frame m.conn = right at hmatch ⊢
    cases hmatch <;> simp

end

end Metered

end Kroxy.Proxy
