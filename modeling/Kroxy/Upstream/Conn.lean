import Kroxy.Auth.Sasl
import Kroxy.Kmsg.Codec
import Kroxy.Protocol.Framing

/-!
# `Kroxy.Upstream.Conn`: the proxy's connection to a broker

`upstream/conn.go`. A connection sends one request at a time and reads one frame back. The
three round-trip functions share that core (`exchange`) and differ in what they send, in
their error texts and in what they return of the frame.

The other end is a `Peer`. It answers each request at most once, in the order of the
requests: `reply i` is its answer to request number `i`, and a read takes the next answer
that has not been read. A read can therefore return the answer to an earlier request, when
an earlier read gave up before its answer came. Any call on the connection can fail, and
`fault` says which ones do.

`log` records what went over the connection, oldest first.
-/

set_option autoImplicit false

namespace Kroxy.Upstream

open Kroxy.Go
open Kroxy.Lib
open Kroxy.Kmsg
open Kroxy.Protocol
open Kroxy.Auth

/-! ### What goes over the wire -/

/-- A request struct that goes through `kmsg`'s request formatter. -/
inductive Message where
  | apiVersions
  | saslHandshake (mechanism : GoString)
  | saslAuthenticate (saslAuthBytes : Bytes)
  | api (a : Api) (version : Int16) (req : a.Request)

/-- `req.Key()`. -/
def Message.key : Message → Int16
  | .apiVersions => apiVersionsKey
  | .saslHandshake _ => saslHandshakeKey
  | .saslAuthenticate _ => saslAuthenticateKey
  | .api a _ _ => a.key

/-- `req.GetVersion()`. The proxy's own messages have fixed versions. -/
def Message.version : Message → Int16
  | .apiVersions => 0
  | .saslHandshake _ => 1
  | .saslAuthenticate _ => 1
  | .api _ version _ => version

/-- What is written as one request: the formatter's output, or a frame of the client's with
another correlation id in it. -/
inductive Packet where
  | formatted (msg : Message) (correlationID : Int32) (clientID : GoString)
  | raw (frame : Bytes)

/-- The API key a broker reads in a packet. -/
def Packet.key : Packet → Int16
  | .formatted msg _ _ => msg.key
  | .raw frame => (getBE16 frame).toInt16

/-- A request that was written, or a frame that was read together with the number of the
request it answers. -/
inductive Event where
  | sent (packet : Packet)
  | received (answers : Nat) (frame : Bytes)

/-- Is it a written request? -/
def Event.isSent : Event → Bool
  | .sent _ => true
  | .received _ _ => false

/-- How many requests were written. -/
def sentCount (log : List Event) : Nat := log.countP Event.isSent

/-- How many frames were read. -/
def receivedCount (log : List Event) : Nat := log.countP fun e => !e.isSent

/-- The broker's end of a connection and the network between. -/
structure Peer where
  /-- The answer to each request, `none` where there is none. -/
  reply : Nat → Option Bytes
  /-- The error of each call on the connection, `none` where it succeeds. -/
  fault : Nat → Option GoError
  remoteAddr : GoString := []

/-- `Conn`. The request timeout and the deadlines are left out: a deadline that passes is a
fault. -/
structure Conn where
  peer : Peer
  corrIDGen : Int32 := 0
  /-- How many calls were made on the network connection. -/
  calls : Nat := 0
  /-- The history of the connection. -/
  log : List Event := []

/-! ### Calls on the network connection -/

/-- One call, which fails when the network says so. -/
def netCall : GoM Conn Unit := fun c =>
  match c.peer.fault c.calls with
  | none => .ok () { c with calls := c.calls + 1 }
  | some e => .error (.err e) { c with calls := c.calls + 1 }

/-- `c.nc.SetDeadline`. -/
def setDeadline : GoM Conn Unit := netCall

/-- `applyRequestDeadline`. -/
def applyRequestDeadline : GoM Conn Unit := setDeadline

/-- Write one request. It counts as written even when a call fails: some or all of it may
have gone out. -/
def write (packet : Packet) : GoM Conn Unit := do
  -- Logged before the calls, whatever they return.
  modify fun c => { c with log := c.log ++ [.sent packet] }
  match packet with
  | .formatted _ _ _ => netCall
  -- `protocol.WriteFrame` writes the length and then the frame.
  | .raw _ => wrapErr "WriteFrame" do
      netCall
      netCall

/-- The answers that have not been read, with the numbers of the requests they answer. -/
def Conn.unread (c : Conn) : List (Nat × Bytes) :=
  ((List.range (sentCount c.log)).filterMap fun i =>
    (c.peer.reply i).map fun frame => (i, frame)).drop (receivedCount c.log)

/-- `protocol.ReadFrame(c.nc)`: the next answer. Its reads are one call, whose fault is any error
it can return for them. Without an answer, the read ends at the deadline. -/
def readFrame : GoM Conn Bytes := do
  netCall
  let c ← get
  match c.unread with
  -- The requests written so far have no answer left to read.
  | [] => fail (goString "i/o timeout")
  | (i, frame) :: _ =>
      if frame = [] then fail (goString "ReadFrame: zero-length frame")
      else if Framing.maxFrameSize < frame.length then
        fail (goString "ReadFrame: frame too large: " ++ decimal frame.length)
      else
        modify fun c => { c with log := c.log ++ [.received i frame] }
        pure frame

/-- `nextCorrelationID`. The counter wraps around. -/
def nextCorrelationID : GoM Conn Int32 := do
  modify fun c => { c with corrIDGen := c.corrIDGen + 1 }
  return (← get).corrIDGen

/-! ### Round trips -/

/-- Write a packet, read a frame, check that it is long enough and that it has the
correlation id of the packet. `fn` is the function the errors name, `short` its text for a
frame without a correlation id. -/
def exchange (fn short : String) (packet : Packet) (cid : Int32) : GoM Conn Bytes := do
  wrapErr fn (write packet)
  let respFrame ← wrapErr fn readFrame
  if respFrame.length < 4 then fail (goString fn ++ goString ": " ++ goString short)
  -- This is the only check that the frame answers the packet just written.
  else if responseCorrelationID respFrame ≠ cid then
    fail (goString fn ++ goString ": correlation id mismatch: want " ++ decimal cid.toInt ++
      goString " got " ++ decimal (responseCorrelationID respFrame).toInt)
  else pure respFrame

/-- The start of `RoundTrip` and `RoundTripRequest`: draw a correlation id, set the
deadline, exchange. -/
def timedExchange (fn short : String) (packet : Int32 → Packet) : GoM Conn Bytes := do
  -- The id is used up even when the deadline cannot be set.
  let cid ← nextCorrelationID
  wrapErr fn applyRequestDeadline
  exchange fn short (packet cid) cid

/-- `off`, where the body of a response starts: behind the correlation id and, in header
v1, the byte of an empty tagged-field section. -/
def headerLength (apiKey apiVersion : Int16) : Nat :=
  if responseHeaderVersion apiKey apiVersion ≥ 1 then 5 else 4

/-- The body of a response stands behind a header of the length its key and version have. -/
theorem drop_encodeResponse (body : Bytes) (cid : Int32) (apiKey apiVersion : Int16) :
    (encodeResponse body cid apiKey apiVersion).drop (headerLength apiKey apiVersion) =
      body := by
  have hlen : (appendResponseHeader cid (responseHeaderVersion apiKey apiVersion)).length =
      headerLength apiKey apiVersion := by
    unfold appendResponseHeader headerLength
    split <;> rfl
  rw [encodeResponse, ← hlen, List.drop_left]

/-- `respFrame[off:]`. A frame of four bytes is too short for header v1. -/
def afterHeader (apiKey apiVersion : Int16) (respFrame : Bytes) : GoM Conn Bytes :=
  if headerLength apiKey apiVersion ≤ respFrame.length then
    pure (respFrame.drop (headerLength apiKey apiVersion))
  else throw .panic

/-- The frame with the correlation id at offset 4 replaced. -/
def setCorrelationID (frame : Bytes) (cid : Int32) : Bytes :=
  frame.take 4 ++ putBE32 cid.toUInt32 ++ frame.drop 8

/-- `RoundTrip`: the client's frame under a correlation id of this connection, and the
answer under the client's. -/
def roundTrip (reqFrame : Bytes) (clientCorrelationID : Int32) : GoM Conn Bytes := do
  if reqFrame.length < 8 then fail (goString "RoundTrip: request frame too short")
  else
    let respFrame ← timedExchange "RoundTrip" "response frame too short"
      fun upstreamCID => .raw (setCorrelationID reqFrame upstreamCID)
    -- Only the correlation id is replaced; the rest of the frame passes as it is.
    pure (putBE32 clientCorrelationID.toUInt32 ++ respFrame.drop 4)

/-- `RoundTripRequest`: a typed request, and the body of the answer. -/
def roundTripRequest (msg : Message) (clientID : GoString) : GoM Conn Bytes := do
  let respFrame ← timedExchange "RoundTripRequest" "short response"
    fun cid => .formatted msg cid clientID
  afterHeader msg.key msg.version respFrame

/-- `directRoundTrip`: a message of the proxy's own, under the proxy's client id. -/
def directRoundTrip (msg : Message) (apiKey apiVersion : Int16) : GoM Conn Bytes := do
  let cid ← nextCorrelationID
  let respFrame ← exchange "directRoundTrip" "short response"
    (.formatted msg cid (goString "kroxy")) cid
  afterHeader apiKey apiVersion respFrame

/-! ### The handshake -/

section
variable (K : Codec)

/-- `apiVersions`. The answer is not looked at. -/
def apiVersions : GoM Conn Unit := do
  let _ ← wrapErr "apiVersions" (directRoundTrip .apiVersions apiVersionsKey 0)

/-- `saslHandshake`. -/
def saslHandshake (mechanism : GoString) : GoM Conn Unit := do
  let body ← wrapErr "saslHandshake"
    (directRoundTrip (.saslHandshake mechanism) saslHandshakeKey 1)
  let resp ← liftErr "saslHandshake" (K.readSASLHandshakeResponse 1 body)
  if resp.errorCode ≠ 0 then
    fail (goString "saslHandshake: upstream error code " ++ decimal resp.errorCode.toInt)
  else pure ()

/-- An upstream rejection, as the authentication functions report it. -/
def upstreamError {σ α : Type} (fn : String) (code : Int16) (msg : GoString) : GoM σ α :=
  fail (goString fn ++ goString ": upstream error " ++ decimal code.toInt ++
    goString ": " ++ msg)

/-- `plainAuthenticate`. -/
def plainAuthenticate (username password : GoString) : GoM Conn Unit := do
  let body ← wrapErr "plainAuthenticate" (directRoundTrip
    (.saslAuthenticate ([0] ++ username ++ [0] ++ password)) saslAuthenticateKey 1)
  let resp ← liftErr "plainAuthenticate" (K.readSASLAuthenticateResponse 1 body)
  if resp.errorCode ≠ 0 then
    upstreamError "plainAuthenticate" resp.errorCode (resp.errorMessage.getD [])
  else pure ()

/-- What `RelaySASLAuthenticate` returns. -/
structure Relayed where
  respPayload : Bytes
  errCode : Int16
  errMsg : GoString
  deriving DecidableEq

/-- `RelaySASLAuthenticate`: send a payload on, and take the answer apart. -/
def relaySASLAuthenticate (payload : Bytes) : GoM Conn Relayed := do
  wrapErr "RelaySASLAuthenticate" applyRequestDeadline
  let body ← wrapErr "RelaySASLAuthenticate"
    (directRoundTrip (.saslAuthenticate payload) saslAuthenticateKey 1)
  let resp ← liftErr "RelaySASLAuthenticate" (K.readSASLAuthenticateResponse 1 body)
  pure { respPayload := resp.saslAuthBytes
         errCode := resp.errorCode
         errMsg := resp.errorMessage.getD [] }

/-- One round of `scramAuthenticate`, which fails when the broker rejects it. -/
def scramRound (clientMsg : Bytes) : GoM Conn Bytes := do
  let r ← wrapErr "scramAuthenticate" (relaySASLAuthenticate K clientMsg)
  if r.errCode ≠ 0 then upstreamError "scramAuthenticate" r.errCode r.errMsg
  else pure r.respPayload

/-- The loop of `scramAuthenticate`, from the turn the session has come to. -/
def scramRounds : ScramTurn → GoM Conn Unit
  | .failed e => throw (.err (e.wrap (goString "scramAuthenticate")))
  | .done next =>
      -- The session may be done and still have a last message, whose answer it does not see.
      if next.length > 0 then do
        let _ ← scramRound K next
      else pure ()
  | .send clientMsg challenge => do
      let serverMsg ← scramRound K clientMsg
      scramRounds (challenge serverMsg)

/-- `scramAuthenticate`: the proxy as SCRAM client. -/
def scramAuthenticate (S : ScramClient) (mechanism username password : GoString) :
    GoM Conn Unit := do
  if isSCRAMMechanism mechanism then
    let c ← get
    let (clientMsg, challenge) ← liftErr "scramAuthenticate"
      (S.authenticate mechanism username password c.peer.remoteAddr)
    scramRounds K (.send clientMsg challenge)
  else fail (goString "scramAuthenticate: unsupported mechanism " ++ quote mechanism)

/-! ### Dialling -/

/-- `dialAndNegotiate` after the TCP connection is there. -/
def negotiate (mechanism : GoString) : GoM Conn Unit := do
  wrapErr "dialAndNegotiate" setDeadline
  wrapErr "dialAndNegotiate" apiVersions
  wrapErr "dialAndNegotiate" (saslHandshake K mechanism)

/-- What became of a dial: a connection, or an error and the connection that was closed
again, if it came to one. -/
inductive Dialled where
  | connected (c : Conn)
  | failed (stop : Stop) (closed : Option Conn)

/-- Open a connection and run `prog` on it. `fn` is the dial function the errors name. -/
def dialWith (fn : String) (link : Except GoError Peer) (prog : GoM Conn Unit) : Dialled :=
  match link with
  -- No TCP connection, so nothing to close.
  | .error e =>
      .failed (.err ((e.wrap (goString "dialAndNegotiate")).wrap (goString fn))) none
  | .ok peer =>
      match wrapErr fn prog { peer } with
      | .ok () c => .connected c
      | .error stop c => .failed stop (some c)

/-- `Dial`: authenticate with PLAIN. -/
def dial (link : Except GoError Peer) (username password : GoString) : Dialled :=
  dialWith "Dial" link do
    negotiate K mechanismPlain
    plainAuthenticate K username password
    -- The last call clears the deadline of the handshake.
    setDeadline

/-- A dial function's refusal of a mechanism. -/
def unsupportedMechanism (fn : String) (mechanism : GoString) : Dialled :=
  .failed (.err (errorsNew (goString fn ++ goString ": unsupported mechanism " ++
    quote mechanism))) none

/-- `DialForSCRAM`: stop before the authentication, which the client will drive. -/
def dialForSCRAM (link : Except GoError Peer) (mechanism : GoString) : Dialled :=
  if isSCRAMMechanism mechanism then
    dialWith "DialForSCRAM" link do
      negotiate K mechanism
      setDeadline
  else unsupportedMechanism "DialForSCRAM" mechanism

/-- `DialSCRAM`: authenticate with SCRAM as the client. -/
def dialSCRAM (S : ScramClient) (link : Except GoError Peer)
    (mechanism username password : GoString) : Dialled :=
  if isSCRAMMechanism mechanism then
    dialWith "DialSCRAM" link do
      negotiate K mechanism
      scramAuthenticate K S mechanism username password
      setDeadline
  else unsupportedMechanism "DialSCRAM" mechanism

end

end Kroxy.Upstream
