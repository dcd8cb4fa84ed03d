import Kroxy.Protocol.Header
import Kroxy.Rewrite.Groups

/-!
# `Kroxy.Kmsg.Codec`: the message codecs the proxy calls

`kmsg` reads and writes the bodies of messages at a version, and `franz-go`'s SCRAM
mechanism computes the client messages of an authentication. Both are libraries the proxy
links, so here they are parameters: `Codec` and `ScramClient`.
-/

set_option autoImplicit false

namespace Kroxy.Kmsg

open Kroxy.Go
open Kroxy.Protocol
open Kroxy.Rewrite

/-- The key of an API with a rewrite handler. -/
def Api.key : Api → Int16
  | .metadata => metadataKey
  | .produce => produceKey
  | .fetch => fetchKey
  | .listOffsets => listOffsetsKey
  | .findCoordinator => findCoordinatorKey
  | .offsetCommit => offsetCommitKey
  | .offsetFetch => offsetFetchKey
  | .offsetDelete => offsetDeleteKey
  | .joinGroup => joinGroupKey
  | .syncGroup => syncGroupKey
  | .heartbeat => heartbeatKey
  | .leaveGroup => leaveGroupKey
  | .describeGroups => describeGroupsKey
  | .listGroups => listGroupsKey
  | .deleteGroups => deleteGroupsKey
  | .initProducerID => initProducerIDKey
  | .addPartitionsToTxn => addPartitionsToTxnKey
  | .addOffsetsToTxn => addOffsetsToTxnKey
  | .endTxn => endTxnKey
  | .txnOffsetCommit => txnOffsetCommitKey
  | .createTopics => createTopicsKey
  | .deleteTopics => deleteTopicsKey
  | .describeConfigs => describeConfigsKey

/-- One row of an ApiVersions response. -/
structure ApiVersionsResponseApiKey where
  apiKey : Int16
  minVersion : Int16
  maxVersion : Int16
  deriving DecidableEq

/-- `ReadFrom` and `AppendTo` of the messages the proxy handles, each at a version. -/
structure Codec where
  readRequest : (a : Api) → Int16 → Bytes → Except GoError a.Request
  readResponse : (a : Api) → Int16 → Bytes → Except GoError a.Response
  appendResponse : (a : Api) → Int16 → a.Response → Bytes
  /-- The mechanism of a SaslHandshake request. -/
  readSASLHandshakeRequest : Int16 → Bytes → Except GoError GoString
  readSASLHandshakeResponse : Int16 → Bytes → Except GoError SASLHandshakeResponse
  appendSASLHandshakeResponse : Int16 → SASLHandshakeResponse → Bytes
  /-- The payload of a SaslAuthenticate request. -/
  readSASLAuthenticateRequest : Int16 → Bytes → Except GoError Bytes
  readSASLAuthenticateResponse : Int16 → Bytes → Except GoError SASLAuthenticateResponse
  appendSASLAuthenticateResponse : Int16 → SASLAuthenticateResponse → Bytes
  appendApiVersionsResponse : Int16 → List ApiVersionsResponseApiKey → Bytes
  consumer : ConsumerCodec

/-- Where a SCRAM session stands after a challenge: it failed, it is done (with a last
message to send unless that is empty), or it has a message to send and waits for the next
challenge. As an inductive type it says that a session does not go on forever. -/
inductive ScramTurn where
  | failed (e : GoError)
  | done (next : Bytes)
  | send (clientMsg : Bytes) (challenge : Bytes → ScramTurn)

/-- `Authenticate` of the SCRAM mechanisms, given the mechanism, the user, the password and
the broker's address: the first client message and what the session makes of each
challenge. -/
structure ScramClient where
  authenticate : (mechanism user pass remoteAddr : GoString) →
    Except GoError (Bytes × (Bytes → ScramTurn))

end Kroxy.Kmsg
