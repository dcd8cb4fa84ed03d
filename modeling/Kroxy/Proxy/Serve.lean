import Kroxy.Proxy.Conn

/-!
# `Kroxy.Proxy.Serve`: forwarding, dispatch and the serve loop

The rest of `proxy/conn.go`, and the handlers of `proxy/rewrite.go`,
`proxy/rewrite_groups.go` and `proxy/rewrite_admin.go`.

Twenty of the handlers do the same: decode, rewrite, round trip, rewrite back, encode.
`relay` is that cycle and each of them is an instance of it. Produce has a check of its own
in the middle, and Metadata and FindCoordinator need the advertised address.

`World.run` is a connection's life: client frames, with the network each of them meets, and
changes of the tenant table in between. The connection stops at the first frame that ends
in an error or a panic.
-/

set_option autoImplicit false

namespace Kroxy.Proxy

open Kroxy.Go
open Kroxy.Kmsg
open Kroxy.Protocol
open Kroxy.Auth
open Kroxy.Resolver
open Kroxy.Rewrite
open Kroxy.Upstream (Message Dialled)

section
variable (X : Server) (E : Env)

/-! ### The upstream connection -/

/-- `shouldTranslatePlainToSCRAM`. -/
def shouldTranslatePlainToSCRAM (c : Conn) : Bool :=
  c.clientMechanism == mechanismPlain && isSCRAMMechanism X.cfg.upstreamSASLMechanism

/-- The dial of `ensureUpstream`. -/
def dialUpstream (c : Conn) : Dialled :=
  if shouldTranslatePlainToSCRAM X c then
    Upstream.dialSCRAM X.codec X.scram (E.dial c.tenant.upstream)
      X.cfg.upstreamSASLMechanism c.tenant.id c.password
  else Upstream.dial X.codec (E.dial c.tenant.upstream) c.tenant.id c.password

/-- `ensureUpstream`. -/
def ensureUpstream : GoM Conn Unit := do
  let c ← get
  -- A client that came through the SCRAM relay has its connection already.
  if c.upstream.isSome then pure ()
  else
    match dialUpstream X E c with
    | .connected up => set { c with upstream := some up }
    -- The field stays empty, so the next request would dial again; but the error ends `serve`.
    | .failed stop closed => do
        noteClosed closed
        throw (stop.wrap (goString "ensureUpstream"))

/-! ### The rewrite handlers -/

/-- A rewrite handler. -/
abbrev Handler := RequestHeader → Bytes → GoM Conn Unit

/-- `advertised`: the host and the port of the configured address. -/
def advertised : Except GoError (GoString × Int32) :=
  Except.mapError (GoError.wrap · (goString "advertised")) do
    let (host, portStr) ← splitHostPort X.cfg.advertised
    let port ← atoi portStr
    pure (host, port.toInt32)

/-- The start of every handler: decode the body, prefix its names. -/
def readRewritten (fn : String) (a : Api) (hdr : RequestHeader) (body : Bytes) :
    GoM Conn a.Request := do
  let req ← liftErr fn (X.codec.readRequest a hdr.apiVersion body)
  let c ← get
  pure (requestIn X.codec.consumer c.tenant.topicPrefix a req)

/-- `roundTripTyped`. -/
def roundTripTyped (a : Api) (version : Int16) (req : a.Request) (clientID : GoString) :
    GoM Conn a.Response := do
  let body ← wrapErr "roundTripTyped"
    (onUpstream (Upstream.roundTripRequest (.api a version req) clientID))
  liftErr "roundTripTyped" (X.codec.readResponse a version body)

/-- The end of every handler: rewrite the response and write it to the client. -/
def writeRewritten (a : Api) (hdr : RequestHeader) (host : GoString) (port : Int32)
    (resp : a.Response) : GoM Conn Unit := do
  let c ← get
  writeFrame E (encodeResponse (X.codec.appendResponse a hdr.apiVersion
      (responseOut X.codec.consumer c.tenant.topicPrefix host port a resp))
    hdr.correlationID hdr.apiKey hdr.apiVersion)

/-- The rewrite cycle. The responses of its members carry no address. -/
def relay (fn : String) (a : Api) : Handler := fun hdr body => do
  let req ← readRewritten X fn a hdr body
  let resp ← wrapErr fn (roundTripTyped X a hdr.apiVersion req hdr.clientID)
  writeRewritten X E a hdr [] 0 resp

/-- A produce request with acks=0 has no response, so it is refused. -/
def handleProduce : Handler := fun hdr body => do
  let req ← readRewritten X "handleProduce" .produce hdr body
  -- The names are prefixed first; a refused request has not touched the upstream.
  if req.acks = 0 then
    fail (goString "handleProduce: acks=0 produce is not supported by the proxy")
  else
    let resp ← wrapErr "handleProduce"
      (roundTripTyped X .produce hdr.apiVersion req hdr.clientID)
    writeRewritten X E .produce hdr [] 0 resp

def handleMetadata : Handler := fun hdr body => do
  let req ← readRewritten X "handleMetadata" .metadata hdr body
  let resp ← wrapErr "handleMetadata"
    (roundTripTyped X .metadata hdr.apiVersion req hdr.clientID)
  -- The address is parsed after the round trip: a bad one costs the client its answer.
  let (host, port) ← liftErr "handleMetadata" (advertised X)
  writeRewritten X E .metadata hdr host port resp

def handleFindCoordinator : Handler := fun hdr body => do
  let req ← readRewritten X "handleFindCoordinator" .findCoordinator hdr body
  let resp ← wrapErr "handleFindCoordinator"
    (roundTripTyped X .findCoordinator hdr.apiVersion req hdr.clientID)
  let (host, port) ← liftErr "handleFindCoordinator" (advertised X)
  writeRewritten X E .findCoordinator hdr host port resp

def handleFetch : Handler := relay X E "handleFetch" .fetch
def handleListOffsets : Handler := relay X E "handleListOffsets" .listOffsets
def handleOffsetCommit : Handler := relay X E "handleOffsetCommit" .offsetCommit
def handleOffsetFetch : Handler := relay X E "handleOffsetFetch" .offsetFetch
def handleOffsetDelete : Handler := relay X E "handleOffsetDelete" .offsetDelete
def handleJoinGroup : Handler := relay X E "handleJoinGroup" .joinGroup
def handleSyncGroup : Handler := relay X E "handleSyncGroup" .syncGroup
def handleHeartbeat : Handler := relay X E "handleHeartbeat" .heartbeat
def handleLeaveGroup : Handler := relay X E "handleLeaveGroup" .leaveGroup
def handleDescribeGroups : Handler := relay X E "handleDescribeGroups" .describeGroups
def handleListGroups : Handler := relay X E "handleListGroups" .listGroups
def handleDeleteGroups : Handler := relay X E "handleDeleteGroups" .deleteGroups
def handleInitProducerID : Handler := relay X E "handleInitProducerID" .initProducerID
def handleAddPartitionsToTxn : Handler :=
  relay X E "handleAddPartitionsToTxn" .addPartitionsToTxn
def handleAddOffsetsToTxn : Handler := relay X E "handleAddOffsetsToTxn" .addOffsetsToTxn
def handleEndTxn : Handler := relay X E "handleEndTxn" .endTxn
def handleTxnOffsetCommit : Handler := relay X E "handleTxnOffsetCommit" .txnOffsetCommit
def handleCreateTopics : Handler := relay X E "handleCreateTopics" .createTopics
def handleDeleteTopics : Handler := relay X E "handleDeleteTopics" .deleteTopics
def handleDescribeConfigs : Handler := relay X E "handleDescribeConfigs" .describeConfigs

/-- The handler of each API. -/
def handlerOf : Api → Handler
  | .metadata => handleMetadata X E
  | .produce => handleProduce X E
  | .fetch => handleFetch X E
  | .listOffsets => handleListOffsets X E
  | .findCoordinator => handleFindCoordinator X E
  | .offsetCommit => handleOffsetCommit X E
  | .offsetFetch => handleOffsetFetch X E
  | .offsetDelete => handleOffsetDelete X E
  | .joinGroup => handleJoinGroup X E
  | .syncGroup => handleSyncGroup X E
  | .heartbeat => handleHeartbeat X E
  | .leaveGroup => handleLeaveGroup X E
  | .describeGroups => handleDescribeGroups X E
  | .listGroups => handleListGroups X E
  | .deleteGroups => handleDeleteGroups X E
  | .initProducerID => handleInitProducerID X E
  | .addPartitionsToTxn => handleAddPartitionsToTxn X E
  | .addOffsetsToTxn => handleAddOffsetsToTxn X E
  | .endTxn => handleEndTxn X E
  | .txnOffsetCommit => handleTxnOffsetCommit X E
  | .createTopics => handleCreateTopics X E
  | .deleteTopics => handleDeleteTopics X E
  | .describeConfigs => handleDescribeConfigs X E

/-! ### Dispatch -/

/-- The APIs with a rewrite handler. -/
def rewrittenApis : List Api :=
  [.metadata, .produce, .fetch, .listOffsets, .findCoordinator, .offsetCommit, .offsetFetch,
    .offsetDelete, .joinGroup, .syncGroup, .heartbeat, .leaveGroup, .describeGroups,
    .listGroups, .deleteGroups, .initProducerID, .addPartitionsToTxn, .addOffsetsToTxn,
    .endTxn, .txnOffsetCommit, .createTopics, .deleteTopics, .describeConfigs]

/-- The API of a key, if the proxy rewrites it. -/
def apiOf (apiKey : Int16) : Option Api := rewrittenApis.find? fun a => a.key == apiKey

/-- `rewriteHandler`: the handler of a key, `none` for a key whose frames are passed on as
they are. -/
def rewriteHandler (apiKey : Int16) : Option Handler := (apiOf apiKey).map (handlerOf X E)

/-- `forwardRewritten`, with the handler dispatch found. -/
def forwardRewritten (h : Handler) (hdr : RequestHeader) (body : Bytes) :
    GoM Conn Unit := do
  wrapErr "forwardRewritten" (ensureUpstream X E)
  h hdr body

/-- `forwardPassthrough`. -/
def forwardPassthrough (hdr : RequestHeader) (frame : Bytes) : GoM Conn Unit := do
  wrapErr "forwardPassthrough" (ensureUpstream X E)
  let respFrame ← wrapErr "forwardPassthrough"
    (onUpstream (Upstream.roundTrip frame hdr.correlationID))
  writeFrame E respFrame

/-- `dispatch`. -/
def dispatch (hdr : RequestHeader) (frame body : Bytes) : GoM Conn Unit := do
  if hdr.apiKey = apiVersionsKey then handleApiVersions X E hdr
  else if hdr.apiKey = saslHandshakeKey then handleSaslHandshake X E hdr body
  else if hdr.apiKey = saslAuthenticateKey then handleSaslAuthenticate X E hdr body
  else
    -- Every other key, known or not, needs an authenticated client.
    let c ← get
    if c.state ≠ .authenticated then
      fail (goString "client sent api key " ++ decimal hdr.apiKey.toInt ++
        goString " before authentication")
    else
      match rewriteHandler X E hdr.apiKey with
      | some h => forwardRewritten X E h hdr body
      -- The whole frame goes out, header included, with no look at its body.
      | none => forwardPassthrough X E hdr frame

/-- A header or a slice that was computed without the connection. -/
def liftStop {α : Type} : Except Stop α → GoM Conn α
  | .ok a => pure a
  | .error stop => throw stop

/-- The label under which `serve` counts a request, once the request is handled. -/
def tenantLabel (c : Conn) : GoString :=
  if c.tenant.id = [] then goString "_unauth" else c.tenant.id

/-- One turn of the loop in `serve`, after the frame is read. -/
def serveFrame (frame : Bytes) : GoM Conn Unit :=
  wrapErr "serve" do
    let hdr ← liftStop (parseRequestHeader frame)
    -- `frame[hdr.HeaderSize:]`, which panics on a header size outside the frame.
    let body ← liftStop (sliceFrom frame hdr.headerSize)
    dispatch X E hdr frame body

end

/-! ### The life of a connection -/

/-- What happens to a connection and around it. -/
inductive Input where
  /-- The client sends a frame, and the network does this while it is handled. -/
  | frame (bytes : Bytes) (net : Net)
  /-- The admin service changes the tenant table. -/
  | admin (op : MemoryResolver.Op)

/-- A connection, the tenant table, and why `serve` returned once it has. -/
structure World where
  resolver : MemoryResolver
  conn : Conn := {}
  stopped : Option Stop := none

/-- The world a connection starts in. -/
def World.start (r : MemoryResolver) : World := { resolver := r }

/-- The world after one input. A connection that has stopped reads no more frames. -/
def World.step (X : Server) (w : World) : Input → World
  | .admin op => { w with resolver := w.resolver.apply op }
  | .frame bytes net =>
      match w.stopped with
      | some _ => w
      | none =>
          match serveFrame X { net with resolver := w.resolver } bytes w.conn with
          | .ok () c => { w with conn := c }
          -- What the handler did before the error stays done.
          | .error stop c => { w with conn := c, stopped := some stop }

/-- The world after a sequence of inputs. -/
def World.run (X : Server) (w : World) (inputs : List Input) : World :=
  inputs.foldl (World.step X) w

end Kroxy.Proxy
