import Kroxy.Config.Config
import Kroxy.Proxy.Listener

/-!
# `Kroxy.Cmd.Main`: the program

`run` in `cmd/kroxy/main.go`, with `resolver.New` and `Server.Wait`.

`start` is the first half: the configuration is loaded, the tenant table is built from it, the
TLS key pair is read, and the server is put together. The first error ends the program.

`program` is the second half. The server of `Kroxy.Proxy.Listener` runs next to the metrics and
the admin server, while `run` waits in its `select` for the first of them to return or for a
signal. Then it is in `Server.Wait`, until a goroutine has seen the last connection end or the
drain timeout is over. When `run` returns, the process ends and whatever is still running ends
with it.

The HTTP servers are two facts. They return nil only after the context is done, and any other
error of theirs reaches the `select` when it comes.
-/

set_option autoImplicit false

namespace Kroxy.Cmd

open Kroxy.Go
open Kroxy.Lib
open Kroxy.Kmsg
open Kroxy.Auth
open Kroxy.Resolver
open Kroxy.Observability
open Kroxy.Proxy

/-! ### From the configuration to a server -/

/-- `resolver.New`. -/
def resolverNew (cfg : Config.ResolverConfig) : Except GoError MemoryResolver :=
  if cfg.type = [] ∨ cfg.type = goString "memory" then
    MemoryResolver.newMemoryResolver cfg.memory.tenants
  else .error (errorsNew (goString "New: unknown resolver type " ++ quote cfg.type))

/-- `TLSConfig.Build`, with `tls.LoadX509KeyPair` as a parameter. -/
def tlsBuild (loadKeyPair : GoString → GoString → Except GoError Unit) (t : Config.TLSConfig) :
    Except GoError Unit :=
  if t.enabled = false then .ok ()
  else
    match loadKeyPair t.certFile t.keyFile with
    | .error e => .error (e.wrap (goString "TLSConfig.Build"))
    | .ok () => .ok ()

/-! ### The running program -/

/-- How `run` ended. -/
inductive Exit where
  /-- `Wait` saw the last connection end. -/
  | drained
  /-- `Wait` gave up. -/
  | timedOut
  | failed (err : GoError)
  deriving DecidableEq

/-- Where `run` stands. -/
inductive MainPhase where
  | selecting
  /-- In `srv.Wait()`. -/
  | waiting
  | exited (how : Exit)
  deriving DecidableEq

/-- Has the process ended? -/
def MainPhase.isExited : MainPhase → Bool
  | .exited _ => true
  | _ => false

/-- The shared state of the program. -/
structure ProgramState where
  server : ServerState
  adminEnabled : Bool := false
  /-- Does `Run` have its listener? -/
  bound : Bool := false
  /-- The error `Run` returned because it got no listener. -/
  runFailed : Option GoError := none
  main : MainPhase := .selecting
  /-- Did the goroutine of `Wait` close its channel? -/
  drained : Bool := false

/-- The servers next to the proxy. -/
inductive SideServer where
  | metrics
  | admin

/-- Is the side server there? -/
def ProgramState.runs (r : ProgramState) : SideServer → Bool
  | .metrics => r.server.metrics.isSome
  | .admin => r.adminEnabled

/-- What happens around the clients. -/
inductive ProgramEvent where
  /-- Something that the proxy server sees. -/
  | server (g : ServerEvent)
  /-- `Listen` returned. -/
  | listened (err : Option GoError)
  /-- The `select` saw that the context is done. -/
  | ctxDone
  /-- The `select` received what `Run` returned. -/
  | runReturned
  /-- The `select` received what a side server returned. -/
  | sideReturned (side : SideServer) (err : Option GoError)
  /-- In the goroutine of `Wait`, `s.wg.Wait()` returned. -/
  | counted
  /-- `Wait` saw the closed channel. -/
  | done
  | drainTimeout

/-- Can the event reach the server? The accept loop needs a listener, and only the admin server
changes the tenant table. -/
def ProgramState.reaches (r : ProgramState) : ServerEvent → Bool
  | .admin _ => r.adminEnabled
  | .cancel => true
  | _ => r.bound

namespace ProgramState

/-- The shared state after an event, while the process lives. -/
def next (r : ProgramState) (clients : List Client) : ProgramEvent → ProgramState
  | .server g => if r.reaches g then { r with server := r.server.change clients g } else r
  | .listened err =>
      if r.bound ∨ r.runFailed.isSome then r
      else
        match err with
        | none => { r with bound := true }
        | some e => { r with runFailed := some (e.wrap (goString "Run")) }
  | .ctxDone =>
      if r.main = .selecting ∧ r.server.cancelled = true then { r with main := .waiting } else r
  | .runReturned =>
      if r.main = .selecting then
        match r.runFailed with
        | some e => { r with main := .exited (.failed e) }
        | none => if r.server.loop = .returned then { r with main := .waiting } else r
      else r
  | .sideReturned side err =>
      if r.main = .selecting ∧ r.runs side = true then
        match err with
        -- `run` returns at once, without a look at the connections.
        | some e => { r with main := .exited (.failed e) }
        | none => if r.server.cancelled then { r with main := .waiting } else r
      else r
  | .counted =>
      if r.main = .waiting ∧ clients.all (·.phase.isReturned) = true then
        { r with drained := true }
      else r
  | .done =>
      if r.main = .waiting ∧ r.drained = true then { r with main := .exited .drained } else r
  | .drainTimeout => if r.main = .waiting then { r with main := .exited .timedOut } else r

/-- The shared state after an event. -/
def change (r : ProgramState) (clients : List Client) (y : ProgramEvent) : ProgramState :=
  if r.main.isExited then r else r.next clients y

/-- The goroutines that an event starts. -/
def spawn (r : ProgramState) : ProgramEvent → List Client
  | .server g => if r.main.isExited = false ∧ r.reaches g = true then r.server.spawn g else []
  | _ => []

/-- A client after an event. -/
def act (X : Server) (r : ProgramState) (c : Client) (x : ClientEvent) :
    Option (ProgramState × Client) :=
  if r.main.isExited then some (r, c)
  else (Client.act X r.server c x).map fun (server, c') => ({ r with server }, c')

end ProgramState

/-- The running program. -/
def program (X : Server) : System ProgramState Client ClientEvent ProgramEvent where
  act := ProgramState.act X
  change := ProgramState.change
  spawn := ProgramState.spawn

/-- `run` until its goroutines are started: the server, and the state it starts in. -/
def start (codec : Codec) (scram : ScramClient) (labels : LabelCheck)
    (loadKeyPair : GoString → GoString → Except GoError Unit) (config : Config) :
    Except GoError (Server × Joint ProgramState Client) := do
  let cfg ← config.load
  let table ← resolverNew cfg.resolver
  let metrics := if cfg.metrics.enabled then some {} else none
  tlsBuild loadKeyPair cfg.tls
  pure ({ codec, scram, cfg := cfg.serverConfig, labels },
    ⟨{ server := { resolver := table, metrics }, adminEnabled := cfg.admin.enabled }, []⟩)

end Kroxy.Cmd
