import Kroxy.Go.Net
import Kroxy.Observability.Metrics
import Kroxy.Resolver.Memory
import Kroxy.Rewrite.Api
import Kroxy.Upstream.Conn

/-!
# `Kroxy.Proxy.Conn`: one client connection

The state of `proxy/conn.go` and the handlers that end at the proxy: ApiVersions and the
two SASL requests. A handler is a program over `Conn` that fails where the Go function
returns an error. What the code only logs or counts is left out.

`Conn` holds the fields of the Go struct and, behind them, a history the code does not
keep: the frames written to the client, the answers of the resolver, and the upstream
connections that were opened and closed again by a failed dial.

`Server` is what all connections of a deployment share. `Env` is what a connection meets
while it handles one frame: the tenant table at that moment, and the network.
-/

set_option autoImplicit false

namespace Kroxy.Proxy

open Kroxy.Go
open Kroxy.Kmsg
open Kroxy.Protocol
open Kroxy.Auth
open Kroxy.Resolver
open Kroxy.Upstream (Peer Dialled Relayed)

/-- `SASL_AUTHENTICATION_FAILED`. -/
def errSaslAuthFailed : Int16 := 58

/-- `UNSUPPORTED_SASL_MECHANISM`. -/
def errUnsupportedSaslMech : Int16 := 33

/-- `ILLEGAL_SASL_STATE`. -/
def errIllegalSaslState : Int16 := 34

/-- `connState`. -/
inductive ConnState where
  | awaitHandshake
  | awaitAuth
  | relaySaslInFlight
  | authenticated
  deriving DecidableEq

/-- The fields of `ServerConfig` a connection reads. -/
structure ServerConfig where
  advertised : GoString
  upstreamSASLMechanism : GoString := []

/-- The libraries and the configuration behind every connection. -/
structure Server where
  codec : Codec
  scram : ScramClient
  cfg : ServerConfig
  /-- The metrics library. -/
  labels : Observability.LabelCheck

/-- The network while one frame is handled. -/
structure Net where
  /-- What a TCP dial to an address gives. -/
  dial : GoString → Except GoError Peer
  /-- The error of a write to the client. -/
  clientWrite : Option GoError := none

/-- The network and the tenant table while one frame is handled. -/
structure Env extends Net where
  resolver : MemoryResolver

/-- `conn`, and its history. -/
structure Conn where
  state : ConnState := .awaitHandshake
  /-- The SASL mechanism the client chose. -/
  clientMechanism : GoString := []
  tenant : Tenant := {}
  /-- Set on the PLAIN path only. -/
  password : GoString := []
  upstream : Option Upstream.Conn := none
  scramRoundsCompleted : Nat := 0
  /-- The frames written to the client. -/
  written : List Bytes := []
  /-- The user names the resolver knew, with the records it returned. -/
  resolved : List (GoString × Tenant) := []
  /-- The connections that failed dials closed again. -/
  closed : List Upstream.Conn := []

/-! ### Calls out of a handler -/

/-- `protocol.WriteFrame(c.nc, frame)`. -/
def writeFrame (E : Env) (frame : Bytes) : GoM Conn Unit :=
  match E.clientWrite with
  | some e => throw (.err (e.wrap (goString "WriteFrame")))
  | none => modify fun c => { c with written := c.written ++ [frame] }

/-- `writeResponse`, with the response struct already encoded. -/
def writeResponse (E : Env) (hdr : RequestHeader) (body : Bytes) : GoM Conn Unit :=
  wrapErr "writeResponse"
    (writeFrame E (encodeResponse body hdr.correlationID hdr.apiKey hdr.apiVersion))

/-- `c.resolver.Get`. -/
def resolve (E : Env) (username : GoString) : GoM Conn (Except GoError Tenant) :=
  match E.resolver.get username with
  | .error e => pure (.error e)
  | .ok tenant => do
      modify fun c => { c with resolved := c.resolved ++ [(username, tenant)] }
      pure (.ok tenant)

/-- A method call on `c.upstream`. On a nil pointer it panics. -/
def onUpstream {α : Type} (prog : GoM Upstream.Conn α) : GoM Conn α := fun c =>
  match c.upstream with
  | none => .error .panic c
  | some up =>
      match prog up with
      | .ok a up' => .ok a { c with upstream := some up' }
      | .error stop up' => .error stop { c with upstream := some up' }

/-- Keep the connection a failed dial closed. -/
def noteClosed (closed : Option Upstream.Conn) : GoM Conn Unit :=
  modify fun c => { c with closed := c.closed ++ closed.toList }

/-! ### Requests that end at the proxy -/

section
variable (X : Server) (E : Env)

/-- The version ranges the proxy advertises. -/
def advertisedVersions : List ApiVersionsResponseApiKey :=
  [⟨apiVersionsKey, 0, 3⟩, ⟨saslHandshakeKey, 0, 1⟩, ⟨saslAuthenticateKey, 0, 2⟩,
    ⟨produceKey, 0, 9⟩, ⟨fetchKey, 0, 11⟩, ⟨listOffsetsKey, 0, 7⟩, ⟨metadataKey, 0, 9⟩,
    ⟨offsetCommitKey, 0, 9⟩, ⟨offsetFetchKey, 0, 9⟩, ⟨findCoordinatorKey, 0, 4⟩,
    ⟨joinGroupKey, 0, 9⟩, ⟨heartbeatKey, 0, 4⟩, ⟨leaveGroupKey, 0, 5⟩,
    ⟨syncGroupKey, 0, 5⟩, ⟨describeGroupsKey, 0, 5⟩, ⟨listGroupsKey, 0, 4⟩,
    ⟨createTopicsKey, 0, 6⟩, ⟨deleteTopicsKey, 0, 5⟩, ⟨initProducerIDKey, 0, 4⟩,
    ⟨addPartitionsToTxnKey, 0, 4⟩, ⟨addOffsetsToTxnKey, 0, 3⟩, ⟨endTxnKey, 0, 3⟩,
    ⟨txnOffsetCommitKey, 0, 3⟩, ⟨describeConfigsKey, 0, 4⟩, ⟨deleteGroupsKey, 0, 2⟩,
    ⟨offsetDeleteKey, 0, 0⟩]

/-- `handleApiVersions`. -/
def handleApiVersions (hdr : RequestHeader) : GoM Conn Unit :=
  writeResponse E hdr (X.codec.appendApiVersionsResponse hdr.apiVersion advertisedVersions)

/-- A SaslHandshake response with its error code. -/
def handshakeReply (hdr : RequestHeader) (errorCode : Int16) : GoM Conn Unit :=
  writeResponse E hdr (X.codec.appendSASLHandshakeResponse hdr.apiVersion
    { errorCode
      supportedMechanisms := [mechanismPlain, mechanismSCRAMSHA256, mechanismSCRAMSHA512] })

/-- `handleSaslHandshake`. -/
def handleSaslHandshake (hdr : RequestHeader) (body : Bytes) : GoM Conn Unit := do
  let mechanism ← liftErr "handleSaslHandshake"
    (X.codec.readSASLHandshakeRequest hdr.apiVersion body)
  let c ← get
  -- Both refusals are ordinary answers: the connection goes on in the state it was in.
  if c.state ≠ .awaitHandshake then handshakeReply X E hdr errIllegalSaslState
  else if mechanism ≠ mechanismPlain ∧ ¬ isSCRAMMechanism mechanism then
    handshakeReply X E hdr errUnsupportedSaslMech
  else
    -- The state changes before the answer is written, so a failed write does not undo it.
    set { c with clientMechanism := mechanism, state := ConnState.awaitAuth }
    handshakeReply X E hdr 0

/-- A SaslAuthenticate response. -/
def authReply (hdr : RequestHeader) (resp : SASLAuthenticateResponse) : GoM Conn Unit :=
  writeResponse E hdr (X.codec.appendSASLAuthenticateResponse hdr.apiVersion resp)

/-- A SaslAuthenticate response with an error of the proxy's own. -/
def refuse (hdr : RequestHeader) (errorCode : Int16) (msg : String) : GoM Conn Unit :=
  authReply X E hdr { errorCode, errorMessage := some (goString msg), saslAuthBytes := [] }

/-- `handleSaslAuthenticatePlain`. The user name is the tenant id. The password is kept for
the dial. -/
def handleSaslAuthenticatePlain (hdr : RequestHeader) (body : Bytes) : GoM Conn Unit := do
  let payload ← liftErr "handleSaslAuthenticatePlain"
    (X.codec.readSASLAuthenticateRequest hdr.apiVersion body)
  let c ← get
  if c.state ≠ .awaitAuth then
    refuse X E hdr errIllegalSaslState "SASL handshake required"
  else
    match parsePlain payload with
    | .error _ => refuse X E hdr errSaslAuthFailed "malformed PLAIN payload"
    | .ok creds => do
        match ← resolve E creds.username with
        | .error _ => refuse X E hdr errSaslAuthFailed "authentication failed"
        | .ok tenant => do
            -- The upstream is the authority, but the first forwarded request will ask it.
            modify fun c =>
              { c with tenant, password := creds.password, state := .authenticated }
            authReply X E hdr { errorCode := 0, errorMessage := none, saslAuthBytes := [] }

/-- The end of `handleSaslAuthenticateSCRAM`: relay a payload and its answer. A second
accepted round authenticates the client. -/
def relayRound (hdr : RequestHeader) (payload : Bytes) : GoM Conn Unit := do
  let r ← wrapErr "handleSaslAuthenticateSCRAM"
    (onUpstream (Upstream.relaySASLAuthenticate X.codec payload))
  let resp : SASLAuthenticateResponse :=
    { errorCode := r.errCode
      errorMessage := if r.errMsg = [] then none else some r.errMsg
      saslAuthBytes := r.respPayload }
  -- A rejected round changes nothing: neither the state nor the count of accepted rounds.
  if r.errCode ≠ 0 then authReply X E hdr resp
  else
    modify fun c =>
      let rounds := c.scramRoundsCompleted + 1
      { c with
          scramRoundsCompleted := rounds
          state := if rounds ≥ 2 then .authenticated else c.state }
    authReply X E hdr resp

/-- The part of `handleSaslAuthenticateSCRAM` for the first message: find the tenant and
dial its upstream. -/
def openRelay (hdr : RequestHeader) (payload : Bytes) : GoM Conn Unit :=
  match parseSCRAMClientFirstUsername payload with
  | .error _ => refuse X E hdr errSaslAuthFailed "malformed SCRAM client-first-message"
  | .ok username => do
      match ← resolve E username with
      | .error _ => refuse X E hdr errSaslAuthFailed "authentication failed"
      | .ok tenant => do
          -- The record stays in the connection even when the dial fails.
          modify fun c => { c with tenant }
          let c ← get
          match Upstream.dialForSCRAM X.codec (E.dial tenant.upstream) c.clientMechanism with
          -- A panic in the dial is no error value that the handler could turn into an answer.
          | .failed .panic closed => do
              noteClosed closed
              throw .panic
          | .failed (.err _) closed => do
              noteClosed closed
              refuse X E hdr errSaslAuthFailed "upstream unavailable"
          | .connected up => do
              set { c with upstream := some up, state := ConnState.relaySaslInFlight }
              relayRound X E hdr payload

/-- `handleSaslAuthenticateSCRAM`. -/
def handleSaslAuthenticateSCRAM (hdr : RequestHeader) (body : Bytes) : GoM Conn Unit := do
  let payload ← liftErr "handleSaslAuthenticateSCRAM"
    (X.codec.readSASLAuthenticateRequest hdr.apiVersion body)
  let c ← get
  if c.state = .awaitAuth then openRelay X E hdr payload
  -- Later messages are not parsed; the tenant of the first one stays.
  else if c.state = .relaySaslInFlight then relayRound X E hdr payload
  else refuse X E hdr errIllegalSaslState "SASL handshake required"

/-- `handleSaslAuthenticate`. -/
def handleSaslAuthenticate (hdr : RequestHeader) (body : Bytes) : GoM Conn Unit := do
  let c ← get
  -- Before a handshake the mechanism is empty, and PLAIN's handler refuses the request.
  if isSCRAMMechanism c.clientMechanism then handleSaslAuthenticateSCRAM X E hdr body
  else handleSaslAuthenticatePlain X E hdr body

end

end Kroxy.Proxy
