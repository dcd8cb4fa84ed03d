import Kroxy.Lib.Interleave
import Kroxy.Protocol.Framing
import Kroxy.Proxy.Metered

/-!
# `Kroxy.Proxy.Listener`: the server as a whole

`proxy/listener.go`, and the loop of `serve` in `proxy/conn.go` around the turn that
`Metered.serveFrame` models. `Run` accepts connections in a loop. Each connection has a
goroutine of its own (`handle`), and `Run` returns when all of them have.

The goroutines run in any order, next to the accept loop, the admin service and whatever
cancels the context. They share the tenant table, the context and the instruments.
`process` is that system. A client goroutine stands before one of the points where it can be
interrupted: its start, the look at the context at the top of the loop, or the read of the next
frame. Between two of them it runs on its own.

Bytes arrive from a client in pieces of any size. `ReadFrame` waits until a whole frame is
there, the client has hung up, or the read fails.

A panic in any goroutine ends the process: nothing recovers from it.

The delay between two attempts to accept is kept, the time itself is not. A deadline that
passes is a failed read.
-/

set_option autoImplicit false

namespace Kroxy.Proxy

open Kroxy.Go
open Kroxy.Lib
open Kroxy.Protocol
open Kroxy.Protocol.Framing (readFrame ioEOF ioErrUnexpectedEOF)
open Kroxy.Resolver
open Kroxy.Observability

/-- `errClientClosed`. -/
def errClientClosed : GoError := errorsNew (goString "client closed connection")

/-- `context.Canceled`, the error of a cancelled context. -/
def errCanceled : GoError := errorsNew (goString "context canceled")

/-! ### What the goroutines share -/

/-- Where `Run` stands. -/
inductive AcceptLoop where
  | accepting
  /-- Between two attempts, after a transient error. -/
  | sleeping
  /-- In `wg.Wait()`. -/
  | draining
  /-- `Run` has returned nil. -/
  | returned
  deriving DecidableEq

/-- The shared state of a running server. -/
structure ServerState where
  resolver : MemoryResolver
  metrics : Option Metrics := none
  /-- Was the context cancelled? -/
  cancelled : Bool := false
  loop : AcceptLoop := .accepting
  /-- The delay before the next attempt to accept, in nanoseconds. -/
  backoff : Nat := 0

/-! ### A client goroutine -/

/-- Where the goroutine of a connection stands. -/
inductive Phase where
  | started
  /-- At the top of the loop in `serve`. -/
  | looking
  /-- In `ReadFrame`. -/
  | reading
  /-- `serve` has returned this error, and the deferred calls of `handle` have run. -/
  | returned (err : GoError)
  deriving DecidableEq

/-- Has the goroutine returned? -/
def Phase.isReturned : Phase → Bool
  | .returned _ => true
  | _ => false

/-- A connection with its goroutine and the bytes that have arrived on it. -/
structure Client where
  conn : Conn := {}
  phase : Phase := .started
  /-- The bytes that have arrived and were not read. -/
  inbox : Bytes := []
  /-- Has the client closed its side? -/
  hungUp : Bool := false
  /-- All bytes that have arrived. -/
  arrived : Bytes := []
  /-- The frames that were handed to `dispatch`, or had no header. -/
  frames : List Bytes := []
  /-- The same frames, each with the tenant id the connection had at the end of the turn. -/
  handled : List (Bytes × GoString) := []

/-- The network of a client during a turn of its goroutine. -/
structure ClientNet extends Net where
  /-- The error of `SetReadDeadline` before the read. -/
  setDeadline : Option GoError := none
  /-- The error of the read, if it gives up: the deadline passed, or the connection broke. -/
  read : Option GoError := none
  /-- The error of `SetReadDeadline` after the read. -/
  clearDeadline : Option GoError := none

/-- What happens on a client's connection. -/
inductive ClientEvent where
  | arrive (bytes : Bytes)
  | hangUp
  /-- The goroutine runs to the next point where it can be interrupted. -/
  | turn (net : ClientNet)

namespace Client

/-- `ReadFrame` with the bytes there are: a frame and the rest, or an error, or `none` while it
waits for more. -/
def poll (c : Client) : Option (Except GoError (Bytes × Bytes)) :=
  match readFrame c.inbox with
  | .ok frame rest => some (.ok (frame, rest))
  | .error (.err e) _ =>
      -- An incomplete frame is an error only when no more bytes can come.
      if c.hungUp = false ∧ (e.is ioEOF = true ∨ e.is ioErrUnexpectedEOF = true) then none
      else some (.error e)
  | .error .panic _ => none

/-- `serve` returns, and `handle` with it. -/
def finish (r : ServerState) (err : GoError) (c : Client) : ServerState × Client :=
  ({ r with metrics := r.metrics.map Metrics.connectionEnded },
    { c with phase := .returned err })

/-- What `serve` returns when `ReadFrame` has failed. -/
def readFailed (e : GoError) : GoError :=
  if e.is ioEOF then errClientClosed else e.wrap (goString "serve")

/-- The rest of a turn of the loop, once a frame is there. -/
def serve (X : Server) (r : ServerState) (net : Net) (frame : Bytes) (c : Client) :
    Option (ServerState × Client) :=
  match Metered.serveFrame X { net with resolver := r.resolver } frame ⟨c.conn, r.metrics⟩ with
  | .ok () m =>
      some ({ r with metrics := m.metrics },
        { c with
            conn := m.conn, phase := .looking
            handled := c.handled ++ [(frame, m.conn.tenant.id)] })
  | .error (.err e) m =>
      some (finish { r with metrics := m.metrics } e
        { c with conn := m.conn, handled := c.handled ++ [(frame, m.conn.tenant.id)] })
  | .error .panic _ => none

/-- A client goroutine, from one point where it can be interrupted to the next. -/
def turn (X : Server) (r : ServerState) (net : ClientNet) (c : Client) :
    Option (ServerState × Client) :=
  match c.phase with
  | .started =>
      some ({ r with metrics := r.metrics.map Metrics.connectionStarted },
        { c with phase := .looking })
  | .looking =>
      if r.cancelled then some (finish r errCanceled c)
      else
        match net.setDeadline with
        | some e => some (finish r (e.wrap (goString "serve")) c)
        | none => some (r, { c with phase := .reading })
  | .reading =>
      match net.read with
      | some e => some (finish r (readFailed e) c)
      | none =>
          match c.poll with
          | none => some (r, c)
          | some (.error e) => some (finish r (readFailed e) c)
          | some (.ok (frame, rest)) =>
              match net.clearDeadline with
              -- The frame that was read is lost with the connection.
              | some e => some (finish r (e.wrap (goString "serve")) c)
              | none =>
                  serve X r net.toNet frame
                    { c with inbox := rest, frames := c.frames ++ [frame] }
  | .returned _ => some (r, c)

/-- A client after an event. -/
def act (X : Server) (r : ServerState) (c : Client) : ClientEvent → Option (ServerState × Client)
  | .arrive bytes =>
      some (r, if c.hungUp then c
        else { c with inbox := c.inbox ++ bytes, arrived := c.arrived ++ bytes })
  | .hangUp => some (r, { c with hungUp := true })
  | .turn net => turn X r net c

end Client

/-! ### The accept loop -/

/-- `maxAcceptBackoff`, one second. -/
def maxAcceptBackoff : Nat := 1000000000

/-- The delay after one more transient error. -/
def nextBackoff (backoff : Nat) : Nat :=
  min (if backoff = 0 then 5000000 else backoff * 2) maxAcceptBackoff

/-- What happens around the clients. -/
inductive ServerEvent where
  /-- `Accept` returned a connection. -/
  | accepted
  /-- `Accept` returned an error, which may be `net.ErrClosed`. -/
  | acceptFailed (errClosed : Bool)
  /-- The timer of the accept loop fired. -/
  | timer
  /-- The accept loop saw that the context is done. -/
  | woken
  /-- `wg.Wait()` returned. -/
  | waited
  /-- The context was cancelled. -/
  | cancel
  /-- The admin service changed the tenant table. -/
  | admin (op : MemoryResolver.Op)

namespace ServerState

/-- `Run` and the rest of the shared state after an event. An event that cannot happen where
`Run` stands changes nothing. -/
def change (r : ServerState) (clients : List Client) : ServerEvent → ServerState
  | .accepted => if r.loop = .accepting then { r with backoff := 0 } else r
  | .acceptFailed errClosed =>
      if r.loop ≠ .accepting then r
      else if r.cancelled ∨ errClosed then { r with loop := .draining }
      else { r with loop := .sleeping, backoff := nextBackoff r.backoff }
  | .timer => if r.loop = .sleeping then { r with loop := .accepting } else r
  | .woken =>
      if r.loop = .sleeping ∧ r.cancelled = true then { r with loop := .draining } else r
  | .waited =>
      if r.loop = .draining ∧ clients.all (·.phase.isReturned) = true then
        { r with loop := .returned }
      else r
  | .cancel => { r with cancelled := true }
  | .admin op => { r with resolver := r.resolver.apply op }

/-- The goroutines that an event starts. -/
def spawn (r : ServerState) : ServerEvent → List Client
  | .accepted => if r.loop = .accepting then [{}] else []
  | _ => []

end ServerState

/-- The running server. -/
def process (X : Server) : System ServerState Client ClientEvent ServerEvent where
  act := Client.act X
  change := ServerState.change
  spawn := ServerState.spawn

/-- A server that has just started to listen. -/
def listening (table : MemoryResolver) (metrics : Option Metrics) :
    Joint ServerState Client := ⟨{ resolver := table, metrics }, []⟩

end Kroxy.Proxy
