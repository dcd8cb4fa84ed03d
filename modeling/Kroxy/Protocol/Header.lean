import Kroxy.Go.Basic
import Kroxy.Lib.BigEndian

/-!
# `Kroxy.Protocol.Header`: API keys and message headers

`protocol/keys.go`, `protocol/header.go` and `protocol/response.go`.

`flexibleSince` is the flexibility table: the first flexible version of each key the proxy
knows, and `none` where the table says `false` for every version. A key that is not in the
table is not flexible either.

`parseRequestHeader` follows the Go code with its 64-bit `int` offset. The length of a
tagged field is an unsigned varint that the code converts to `int`, so the offset can wrap
around. Slicing the frame at an offset outside of it is a run-time panic, `Stop.panic`.
-/

set_option autoImplicit false

namespace Kroxy.Protocol

open Kroxy.Go
open Kroxy.Lib

/-! ### `keys.go` -/

def produceKey : Int16 := 0
def fetchKey : Int16 := 1
def listOffsetsKey : Int16 := 2
def metadataKey : Int16 := 3
def offsetCommitKey : Int16 := 8
def offsetFetchKey : Int16 := 9
def findCoordinatorKey : Int16 := 10
def joinGroupKey : Int16 := 11
def heartbeatKey : Int16 := 12
def leaveGroupKey : Int16 := 13
def syncGroupKey : Int16 := 14
def describeGroupsKey : Int16 := 15
def listGroupsKey : Int16 := 16
def saslHandshakeKey : Int16 := 17
def apiVersionsKey : Int16 := 18
def createTopicsKey : Int16 := 19
def deleteTopicsKey : Int16 := 20
def initProducerIDKey : Int16 := 22
def offsetForLeaderEpoch : Int16 := 23
def addPartitionsToTxnKey : Int16 := 24
def addOffsetsToTxnKey : Int16 := 25
def endTxnKey : Int16 := 26
def txnOffsetCommitKey : Int16 := 28
def describeConfigsKey : Int16 := 32
def saslAuthenticateKey : Int16 := 36
def deleteGroupsKey : Int16 := 42
def offsetDeleteKey : Int16 := 47

/-- The first flexible version of each listed key, `none` for a key that has none. -/
def flexibleSince : List (Int16 × Option Int16) :=
  [(produceKey, some 9), (fetchKey, some 12), (listOffsetsKey, some 6),
    (metadataKey, some 9), (offsetCommitKey, some 8), (offsetFetchKey, some 6),
    (findCoordinatorKey, some 3), (joinGroupKey, some 6), (heartbeatKey, some 4),
    (leaveGroupKey, some 4), (syncGroupKey, some 4), (describeGroupsKey, some 5),
    (listGroupsKey, some 3), (saslHandshakeKey, none), (apiVersionsKey, some 3),
    (createTopicsKey, some 5), (deleteTopicsKey, some 4), (initProducerIDKey, some 2),
    (addPartitionsToTxnKey, some 3), (addOffsetsToTxnKey, some 3), (endTxnKey, some 3),
    (txnOffsetCommitKey, some 3), (describeConfigsKey, none), (saslAuthenticateKey, some 2),
    (deleteGroupsKey, some 2), (offsetDeleteKey, none)]

/-- `isFlexibleRequest`. -/
def isFlexibleRequest (apiKey apiVersion : Int16) : Bool :=
  match flexibleSince.lookup apiKey with
  | some (some since) => decide (apiVersion ≥ since)
  | _ => false

/-! ### `header.go` -/

/-- `RequestHeader`. -/
structure RequestHeader where
  apiKey : Int16
  apiVersion : Int16
  correlationID : Int32
  /-- Empty for a null client id. -/
  clientID : GoString
  headerVersion : Int8
  /-- The number of bytes the header took, a Go `int`. -/
  headerSize : Int64
  deriving DecidableEq

/-- `RequestHeaderVersion`. -/
def requestHeaderVersion (apiKey apiVersion : Int16) : Int8 :=
  if apiKey = apiVersionsKey then (if apiVersion ≥ 3 then 2 else 1)
  else if isFlexibleRequest apiKey apiVersion then 2
  else 1

/-- `ResponseHeaderVersion`. An ApiVersions response always uses header v0. -/
def responseHeaderVersion (apiKey apiVersion : Int16) : Int8 :=
  if apiKey = apiVersionsKey then 0
  else if isFlexibleRequest apiKey apiVersion then 1
  else 0

/-- The byte loop of `readUvarint`: `i` bytes are read, `x` is the value so far and `s` the
shift of the next byte. -/
def readUvarintLoop : Bytes → Nat → UInt64 → UInt64 → Except GoError (UInt64 × Nat)
  | [], _, _, _ => .error (errorsNew (goString "uvarint truncated"))
  | b :: rest, i, x, s =>
      -- The limit counts bytes, not bits: a tenth byte may still shift bits out at the top.
      if i ≥ 10 then .error (errorsNew (goString "uvarint overflow"))
      else if b < 0x80 then .ok (x ||| (b.toUInt64 <<< s), i + 1)
      else readUvarintLoop rest (i + 1) (x ||| ((b &&& 0x7f).toUInt64 <<< s)) (s + 7)

/-- `readUvarint`: the value and the number of bytes it took. -/
def readUvarint (buf : Bytes) : Except GoError (UInt64 × Nat) := readUvarintLoop buf 0 0 0

/-- `len(frame)` as an `int`. -/
def goLen (frame : Bytes) : Int64 := Int64.ofNat frame.length

/-- `frame[off:]`, a panic when `off` is outside the frame. -/
def sliceFrom (frame : Bytes) (off : Int64) : Except Stop Bytes :=
  if 0 ≤ off ∧ off ≤ goLen frame then .ok (frame.drop off.toNatClampNeg) else .error .panic

/-- An error `ParseRequestHeader` returns itself. -/
def headerError {α : Type} (msg : String) : Except Stop α :=
  .error (.err (errorsNew (goString msg)))

/-- `readUvarint(frame[off:])` with the error wrapped, and the offset behind the varint. -/
def uvarintAt (frame : Bytes) (off : Int64) : Except Stop (UInt64 × Int64) := do
  let buf ← sliceFrom frame off
  match readUvarint buf with
  | .ok (x, consumed) => pure (x, off + Int64.ofNat consumed)
  | .error e => .error (.err (e.wrap (goString "ParseRequestHeader")))

/-- The tagged-field loop: skip `n` fields, each a tag, a length and that many bytes. The
bound check and the new offset use the length converted to `int`. -/
def skipTaggedFields (frame : Bytes) : Nat → Int64 → Except Stop Int64
  | 0, off => pure off
  | n + 1, off => do
      let (_, off) ← uvarintAt frame off
      let (length, off) ← uvarintAt frame off
      -- A length of `2 ^ 63` or more is negative here, passes the check and moves `off` back.
      if goLen frame < off + length.toInt64 then
        headerError "ParseRequestHeader: truncated tagged field"
      else skipTaggedFields frame n (off + length.toInt64)

/-- The tagged-field section: a count, then that many fields. -/
def readTaggedFields (frame : Bytes) (off : Int64) : Except Stop Int64 := do
  let (n, off) ← uvarintAt frame off
  skipTaggedFields frame n.toNat off

/-- The client id at offset 8, a nullable string with a 16-bit length, and the offset behind
it. -/
def readClientID (frame : Bytes) : Except Stop (GoString × Int64) :=
  if frame.length < 10 then headerError "ParseRequestHeader: truncated client_id length"
  else
    let clen : Int16 := (getBE16 (frame.drop 8)).toInt16
    -- A null client id (length -1) and an empty one both read as the empty string.
    if clen > 0 then
      let n := clen.toNatClampNeg
      if frame.length < 10 + n then headerError "ParseRequestHeader: truncated client_id"
      else .ok ((frame.drop 10).take n, Int64.ofNat (10 + n))
    else .ok ([], 10)

/-- `ParseRequestHeader` decodes the header from the start of the frame. -/
def parseRequestHeader (frame : Bytes) : Except Stop RequestHeader := do
  if frame.length < 8 then headerError "ParseRequestHeader: frame shorter than header"
  else
    let apiKey : Int16 := (getBE16 frame).toInt16
    let apiVersion : Int16 := (getBE16 (frame.drop 2)).toInt16
    let correlationID : Int32 := (getBE32 (frame.drop 4)).toInt32
    let headerVersion := requestHeaderVersion apiKey apiVersion
    let clientID ← (if headerVersion ≥ 1 then readClientID frame else pure ([], 8))
    let off ← (if headerVersion ≥ 2 then readTaggedFields frame clientID.2
      else pure clientID.2)
    pure { apiKey, apiVersion, correlationID, clientID := clientID.1, headerVersion,
           headerSize := off }

/-! ### `response.go` -/

/-- `AppendResponseHeader` on an empty buffer. -/
def appendResponseHeader (correlationID : Int32) (headerVersion : Int8) : Bytes :=
  putBE32 correlationID.toUInt32 ++ if headerVersion ≥ 1 then [0] else []

/-- `EncodeResponse`, with the encoded response struct as `body`. -/
def encodeResponse (body : Bytes) (correlationID : Int32) (apiKey apiVersion : Int16) :
    Bytes :=
  appendResponseHeader correlationID (responseHeaderVersion apiKey apiVersion) ++ body

/-- The correlation id at the front of a response frame. -/
def responseCorrelationID (frame : Bytes) : Int32 := (getBE32 frame).toInt32

/-- A response carries the correlation id it was encoded with. -/
theorem responseCorrelationID_encodeResponse (body : Bytes) (cid : Int32)
    (apiKey apiVersion : Int16) :
    responseCorrelationID (encodeResponse body cid apiKey apiVersion) = cid := by
  rw [responseCorrelationID, encodeResponse, appendResponseHeader, List.append_assoc,
    getBE32_putBE32_append, Int32.toInt32_toUInt32]

/-- A parsed header comes from a frame of at least eight bytes, and its key, version and
correlation id are those of the first eight. -/
theorem parseRequestHeader_eq_ok {frame : Bytes} {hdr : RequestHeader}
    (h : parseRequestHeader frame = .ok hdr) :
    8 ≤ frame.length ∧
      hdr.apiKey = (getBE16 frame).toInt16 ∧
      hdr.apiVersion = (getBE16 (frame.drop 2)).toInt16 ∧
      hdr.correlationID = (getBE32 (frame.drop 4)).toInt32 := by
  unfold parseRequestHeader at h
  split at h
  · cases h
  · rename_i hlen
    obtain ⟨clientID, -, h⟩ := bind_eq_ok h
    obtain ⟨off, -, h⟩ := bind_eq_ok h
    cases h
    exact ⟨by omega, rfl, rfl, rfl⟩

end Kroxy.Protocol
