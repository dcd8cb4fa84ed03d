import Kroxy.Kmsg.Codec

/-!
# `Kroxy.Kmsg.Wire`: messages on the wire

`Codec` is a parameter of the model. Runs on concrete frames need one that reads them as
`kmsg` does. This module has the primitive readers and writers, in two forms. Before the
flexible versions strings carry a 16-bit length, and byte fields and arrays a 32-bit one.
In the flexible versions lengths are varints, off by one so that 0 is null, and structs end
with tagged fields.

`Codec.sasl` knows the two SASL messages and no other. `readDeleteTopicsRequest` reads the
one request that comes in both forms here.
-/

set_option autoImplicit false

namespace Kroxy.Kmsg

open Kroxy.Go
open Kroxy.Lib
open Kroxy.Rewrite

/-- `kbin.ErrNotEnoughData`. -/
def errNotEnoughData : GoError :=
  errorsNew (goString "response did not contain enough data to be valid")

/-! ### Primitive fields -/

/-- The `count` bytes behind a length field of `width` bytes, and the rest. -/
def readSpan (width : Nat) (count : Int) (b : Bytes) : Except GoError (Bytes × Bytes) :=
  if 0 ≤ count ∧ width + count.toNat ≤ b.length then
    .ok ((b.drop width).take count.toNat, b.drop (width + count.toNat))
  else .error errNotEnoughData

/-- A string behind its 16-bit length. -/
def readString (b : Bytes) : Except GoError (GoString × Bytes) :=
  readSpan 2 (getBE16 b).toInt16.toInt b

/-- A byte field. It is never null: the length -1 is read as no bytes. -/
def readBytes (b : Bytes) : Except GoError (Bytes × Bytes) :=
  if 4 ≤ b.length ∧ (getBE32 b).toInt32 = -1 then .ok ([], b.drop 4)
  else readSpan 4 (getBE32 b).toInt32.toInt b

/-- A string that is absent when its length is negative. -/
def readNullableString (b : Bytes) : Except GoError (Option GoString × Bytes) :=
  if 2 ≤ b.length ∧ (getBE16 b).toInt16 < 0 then .ok (none, b.drop 2)
  else (readString b).map fun (s, rest) => (some s, rest)

/-- `n` elements one after the other. -/
def readMany {α : Type} (read : Bytes → Except GoError (α × Bytes)) :
    Nat → Bytes → Except GoError (List α × Bytes)
  | 0, b => .ok ([], b)
  | n + 1, b => do
      let (x, b) ← read b
      let (xs, b) ← readMany read n b
      pure (x :: xs, b)

/-- Read an INT16. -/
def readInt16 (b : Bytes) : Except GoError (Int16 × Bytes) :=
  if 2 ≤ b.length then .ok ((getBE16 b).toInt16, b.drop 2) else .error errNotEnoughData

/-- Read an INT32. -/
def readInt32 (b : Bytes) : Except GoError (Int32 × Bytes) :=
  if 4 ≤ b.length then .ok ((getBE32 b).toInt32, b.drop 4) else .error errNotEnoughData

/-- Read an INT64. -/
def readInt64 (b : Bytes) : Except GoError (Int64 × Bytes) :=
  if 8 ≤ b.length then
    .ok (Int64.ofNat ((getBE32 b).toNat * 2 ^ 32 + (getBE32 (b.drop 4)).toNat), b.drop 8)
  else .error errNotEnoughData

/-- An array behind its 32-bit length. A negative length counts as none. -/
def readArray {α : Type} (read : Bytes → Except GoError (α × Bytes)) (b : Bytes) :
    Except GoError (List α × Bytes) := do
  let (count, b) ← readInt32 b
  readMany read count.toInt.toNat b

/-- Write an INT16, most significant byte first. -/
def appendInt16 (x : Int16) : Bytes :=
  [UInt8.ofNat (x.toUInt16.toNat / 2 ^ 8), UInt8.ofNat x.toUInt16.toNat]

/-- Write an INT32. -/
def appendInt32 (x : Int32) : Bytes := putBE32 x.toUInt32

/-- Write an INT64. -/
def appendInt64 (x : Int64) : Bytes :=
  putBE32 (UInt32.ofNat (x.toUInt64.toNat / 2 ^ 32)) ++
    putBE32 (UInt32.ofNat x.toUInt64.toNat)

/-- Write a STRING behind its 16-bit length. -/
def appendString (s : GoString) : Bytes := appendInt16 (Int16.ofNat s.length) ++ s

/-- Write a NULLABLE_STRING: an absent one has the length -1. -/
def appendNullableString : Option GoString → Bytes
  | none => appendInt16 (-1)
  | some s => appendString s

/-- Write a BYTES field behind its 32-bit length. -/
def appendBytes (b : Bytes) : Bytes := appendInt32 (Int32.ofNat b.length) ++ b

/-- An INT16 has two bytes. -/
@[simp] theorem length_appendInt16 (x : Int16) : (appendInt16 x).length = 2 := rfl

/-- An INT32 has four. -/
@[simp] theorem length_appendInt32 (x : Int32) : (appendInt32 x).length = 4 := rfl

/-- An INT16 is read back. -/
@[simp] theorem getBE16_appendInt16 (x : Int16) (rest : Bytes) :
    (getBE16 (appendInt16 x ++ rest)).toInt16 = x := by
  show (getBE16 (putBE16 x.toUInt16 ++ rest)).toInt16 = x
  rw [getBE16_putBE16_append, Int16.toInt16_toUInt16]

/-- So is an INT32. -/
@[simp] theorem getBE32_appendInt32 (x : Int32) (rest : Bytes) :
    (getBE32 (appendInt32 x ++ rest)).toInt32 = x := by
  rw [appendInt32, getBE32_putBE32_append, Int32.toInt32_toUInt32]

/-- A request frame with a v1 header and no client id. -/
def requestFrame (apiKey apiVersion : Int16) (correlationID : Int32) (body : Bytes) : Bytes :=
  appendInt16 apiKey ++ appendInt16 apiVersion ++ appendInt32 correlationID ++
    appendNullableString none ++ body

/-! ### Fields of the flexible versions -/

/-- The varint of a length: seven bits a byte, `n` more bytes at most. -/
def readUvarintIn : Nat → Bytes → Except GoError (Nat × Bytes)
  | 0, _ => .error errNotEnoughData
  | _ + 1, [] => .error errNotEnoughData
  | n + 1, c :: b =>
      if c ≥ 0x80 then do
        let (x, b) ← readUvarintIn n b
        pure (c.toNat - 0x80 + 0x80 * x, b)
      -- The fifth byte has room for four of the 32 bits.
      else if n = 0 ∧ c > 0x0f then .error errNotEnoughData
      else .ok (c.toNat, b)

/-- Read an unsigned varint of at most five bytes. -/
def readUvarint (b : Bytes) : Except GoError (Nat × Bytes) := readUvarintIn 5 b

/-- Read a COMPACT_STRING, whose length is off by one. -/
def readCompactString (b : Bytes) : Except GoError (GoString × Bytes) := do
  let (len, b) ← readUvarint b
  readSpan 0 (len - 1) b

/-- Read a COMPACT_NULLABLE_STRING: an absent one has the length 0. -/
def readCompactNullableString (b : Bytes) : Except GoError (Option GoString × Bytes) := do
  let (len, rest) ← readUvarint b
  if len = 0 then pure (none, rest)
  else (readCompactString b).map fun (s, rest) => (some s, rest)

/-- An array behind its varint length. The length is cut to 32 bits with a sign before one is
taken off, so that large lengths count as none. No array has more elements than there are
bytes. -/
def readCompactArray {α : Type} (read : Bytes → Except GoError (α × Bytes)) (b : Bytes) :
    Except GoError (List α × Bytes) := do
  let (len, b) ← readUvarint b
  let count := Int32.ofNat len - 1
  if (b.length : Int) < count.toInt then .error errNotEnoughData
  else readMany read count.toInt.toNat b

/-- One tagged field: a tag, a length and that many bytes. -/
def skipTag (b : Bytes) : Except GoError (Unit × Bytes) := do
  let (_, b) ← readUvarint b
  let (len, b) ← readUvarint b
  let (_, b) ← readSpan 0 len b
  pure ((), b)

/-- The tagged fields at the end of a struct. -/
def skipTags (b : Bytes) : Except GoError (Unit × Bytes) := do
  let (count, b) ← readUvarint b
  let (_, b) ← readMany skipTag count b
  pure ((), b)

/-- The sixteen bytes of a topic id. -/
def readTopicID (b : Bytes) : Except GoError (TopicID × Bytes) := do
  let (bytes, b) ← readSpan 0 16 b
  pure (BitVec.ofNat 128 (bytes.foldl (fun x c => 0x100 * x + c.toNat) 0), b)

/-! ### DeleteTopics requests -/

/-- One entry of the list that replaces the names from version 6 on. -/
def readDeleteTopicsRequestTopic (b : Bytes) :
    Except GoError (DeleteTopicsRequestTopic × Bytes) := do
  let (topic, b) ← readCompactNullableString b
  let (topicID, b) ← readTopicID b
  let (_, b) ← skipTags b
  pure ({ topic, topicID }, b)

/-- `DeleteTopicsRequest.ReadFrom`. Version 4 is the first flexible one. -/
def readDeleteTopicsRequest (version : Int16) (b : Bytes) :
    Except GoError DeleteTopicsRequest :=
  if version < 4 then do
    let (topicNames, b) ← readArray readString b
    let (timeoutMillis, _) ← readInt32 b
    pure { topicNames, topics := [], timeoutMillis }
  else if version < 6 then do
    let (topicNames, b) ← readCompactArray readCompactString b
    let (timeoutMillis, b) ← readInt32 b
    let _ ← skipTags b
    pure { topicNames, topics := [], timeoutMillis }
  else do
    let (topics, b) ← readCompactArray readDeleteTopicsRequestTopic b
    let (timeoutMillis, b) ← readInt32 b
    let _ ← skipTags b
    pure { topicNames := [], topics, timeoutMillis }

/-! ### The SASL messages before version 2 -/

/-- `SASLHandshakeResponse.ReadFrom`. -/
def readSASLHandshakeResponse (b : Bytes) : Except GoError SASLHandshakeResponse := do
  let (errorCode, b) ← readInt16 b
  let (supportedMechanisms, _) ← readArray readString b
  pure { errorCode, supportedMechanisms }

/-- `SASLHandshakeResponse.AppendTo`. -/
def appendSASLHandshakeResponse (resp : SASLHandshakeResponse) : Bytes :=
  appendInt16 resp.errorCode ++ appendInt32 (Int32.ofNat resp.supportedMechanisms.length) ++
    (resp.supportedMechanisms.map appendString).flatten

/-- `SASLAuthenticateResponse.ReadFrom`. Version 0 has no session lifetime. -/
def readSASLAuthenticateResponse (version : Int16) (b : Bytes) :
    Except GoError SASLAuthenticateResponse := do
  let (errorCode, b) ← readInt16 b
  let (errorMessage, b) ← readNullableString b
  let (saslAuthBytes, b) ← readBytes b
  if version < 1 then pure { errorCode, errorMessage, saslAuthBytes }
  else
    let (sessionLifetimeMillis, _) ← readInt64 b
    pure { errorCode, errorMessage, saslAuthBytes, sessionLifetimeMillis }

/-- `SASLAuthenticateResponse.AppendTo`. -/
def appendSASLAuthenticateResponse (version : Int16) (resp : SASLAuthenticateResponse) :
    Bytes :=
  appendInt16 resp.errorCode ++ appendNullableString resp.errorMessage ++
    appendBytes resp.saslAuthBytes ++
    if version < 1 then [] else appendInt64 resp.sessionLifetimeMillis

/-- A codec for the SASL messages alone. It reads no other body. -/
def Codec.sasl : Codec where
  readRequest := fun _ _ _ => .error errNotEnoughData
  readResponse := fun _ _ _ => .error errNotEnoughData
  appendResponse := fun _ _ _ => []
  readSASLHandshakeRequest := fun _ b => (readString b).map Prod.fst
  readSASLHandshakeResponse := fun _ b => Kmsg.readSASLHandshakeResponse b
  appendSASLHandshakeResponse := fun _ resp => Kmsg.appendSASLHandshakeResponse resp
  readSASLAuthenticateRequest := fun _ b => (readBytes b).map Prod.fst
  readSASLAuthenticateResponse := Kmsg.readSASLAuthenticateResponse
  appendSASLAuthenticateResponse := Kmsg.appendSASLAuthenticateResponse
  appendApiVersionsResponse := fun _ _ => []
  consumer := noBlobs

example : readSASLAuthenticateResponse 1
      (appendSASLAuthenticateResponse 1 ⟨58, some (goString "no"), [7, 8], 3⟩) =
    .ok ⟨58, some (goString "no"), [7, 8], 3⟩ := by decide

end Kroxy.Kmsg
