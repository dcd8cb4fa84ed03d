import Kroxy.Go.Basic
import Kroxy.Lib.BigEndian

/-!
# `Kroxy.Protocol.Framing`: length-prefixed frames

`protocol/framing.go`. A frame on the wire is a 32-bit length and that many bytes.

A reader is the list of the bytes it has still to give. Behind them the stream has ended, and
`io.ReadFull` says how: `io.EOF` when it read nothing, `io.ErrUnexpectedEOF` when it read
some bytes and not all. A writer collects what is written to it. Each call on it can fail
after a part of its bytes.
-/

set_option autoImplicit false

namespace Kroxy.Protocol.Framing

open Kroxy.Go
open Kroxy.Lib

/-- `MaxFrameSize`, 100 MiB. -/
def maxFrameSize : Nat := 100 * 1024 * 1024

/-- `io.EOF`. -/
def ioEOF : GoError := errorsNew (goString "EOF")

/-- `io.ErrUnexpectedEOF`. -/
def ioErrUnexpectedEOF : GoError := errorsNew (goString "unexpected EOF")

/-! ### Reading -/

/-- `io.ReadFull` into a buffer of `n` bytes. A short read uses up what there was. -/
def readFull (n : Nat) : GoM Bytes Bytes := fun r =>
  if n ≤ r.length then .ok (r.take n) (r.drop n)
  else if r = [] then .error (.err ioEOF) []
  else .error (.err ioErrUnexpectedEOF) []

/-- The length prefix. Of the errors of this read only `io.ErrUnexpectedEOF` is wrapped. -/
def readHeader : GoM Bytes Bytes := fun r =>
  match readFull 4 r with
  | .ok hdr r' => .ok hdr r'
  | .error (.err e) r' =>
      if e.is ioErrUnexpectedEOF then .error (.err (e.wrap (goString "ReadFrame"))) r'
      else .error (.err e) r'
  | .error .panic r' => .error .panic r'

/-- `ReadFrame`: the body of the next frame. -/
def readFrame : GoM Bytes Bytes := do
  let hdr ← readHeader
  let size := getBE32 hdr
  if size = 0 then fail (goString "ReadFrame: zero-length frame")
  else if maxFrameSize < size.toNat then
    fail (goString "ReadFrame: frame too large: " ++ decimal size.toNat)
  -- Any error of the second read is wrapped, an `io.EOF` included.
  else wrapErr "ReadFrame" (readFull size.toNat)

/-- Repeated `ReadFrame` calls on a stream return the bodies and then the error. -/
inductive Reads : Bytes → List Bytes → GoError → Prop where
  | stop {r r' : Bytes} {e : GoError} : readFrame r = .error (.err e) r' → Reads r [] e
  | frame {r r' body : Bytes} {bodies : List Bytes} {e : GoError} :
      readFrame r = .ok body r' → Reads r' bodies e → Reads r (body :: bodies) e

/-! ### Writing -/

/-- An `io.Writer`. A call that fails has written some number of its bytes. -/
structure Writer where
  out : Bytes := []
  /-- How many calls were made. -/
  calls : Nat := 0
  /-- The bytes written and the error of each call that fails. -/
  fault : Nat → Option (Nat × GoError) := fun _ => none

/-- `w.Write`. -/
def write (b : Bytes) : GoM Writer Unit := fun w =>
  match w.fault w.calls with
  | none => .ok () { w with out := w.out ++ b, calls := w.calls + 1 }
  | some (n, e) => .error (.err e) { w with out := w.out ++ b.take n, calls := w.calls + 1 }

/-- `WriteFrame`. The length is truncated to 32 bits. -/
def writeFrame (body : Bytes) : GoM Writer Unit := do
  wrapErr "WriteFrame" (write (putBE32 (UInt32.ofNat body.length)))
  wrapErr "WriteFrame" (write body)

/-- `WriteFrame` for each body in turn. -/
def writeFrames : List Bytes → GoM Writer Unit
  | [] => pure ()
  | body :: rest => do
      writeFrame body
      writeFrames rest

/-- What writing the bodies puts on a fresh stream. -/
def written (bodies : List Bytes) : Bytes :=
  match writeFrames bodies {} with
  | .ok _ w => w.out
  | .error _ w => w.out

end Kroxy.Protocol.Framing
