import Kroxy.Admin.Server
import Kroxy.Lib.Remote

/-!
# `Kroxy.Admin.Client`: the client of the admin RPC, and the way to the service

`admin/client.go`. `call` posts a request and reads the envelope of the response, and
`mapClientErr` turns an RPC error back into the resolver's errors. `Set`, `Delete` and `List`
are calls with their own parameters and results.

Between the client and the service stand libraries that are not modelled: HTTP, JSON and the RPC
server. `Libraries` says what is assumed of them: what a method returns, a result or an error with
a code, arrives as such when it arrives. `Lost` lists what the client may get instead, at any
time, whether or not the method was called and whether or not it has returned. The RPC server may
refuse a request, or stop waiting for the method after its `ExecutionTimeout`.

`remoteAdmin` puts the client, these libraries and the service together, as an object with remote
callers. The ids of the requests are left out: neither side reads them.
-/

set_option autoImplicit false

namespace Kroxy.Admin

open Kroxy.Go
open Kroxy.Lib
open Kroxy.Resolver

/-! ### The client -/

/-- `rpcError`. -/
structure Client.RpcError where
  code : Int
  message : GoString

/-- `rpcResponse`, with the outcome of `json.Unmarshal` for a result that is there. -/
structure Client.RpcResponse (α : Type) where
  result : Option (Except GoError α) := none
  error : Option Client.RpcError := none

/-- The HTTP response of a call. -/
structure HTTPResponse (α : Type) where
  statusCode : Int
  /-- What `io.ReadAll` returns for the body. -/
  raw : GoString
  /-- What the body decodes to. -/
  envelope : Except GoError (Client.RpcResponse α)

/-- `http.StatusOK`. -/
def statusOK : Int := 200

/-- `mapClientErr`. -/
def mapClientErr (e : Client.RpcError) : GoError :=
  if e.code = codeDuplicate then errDuplicate.wrap (goString "admin: " ++ e.message)
  else if e.code = codeNotFound then errNotFound.wrap (goString "admin: " ++ e.message)
  else if e.code = codeInvalid then errInvalidTenant.wrap (goString "admin: " ++ e.message)
  else errorsNew (goString "admin: rpc error " ++ decimal e.code ++ goString ": " ++ e.message)

namespace Client

/-- `call`, given what `c.http.Do` returns, or the error before it. `zero` is what `out` points
to at the start. -/
def call {α : Type} (zero : α) (sent : Except GoError (HTTPResponse α)) : Except GoError α :=
  match sent with
  | .error e => .error (e.wrap (goString "Client.call"))
  | .ok resp =>
      if resp.statusCode ≠ statusOK then
        .error (errorsNew (goString "Client.call: HTTP " ++ decimal resp.statusCode ++
          goString ": " ++ resp.raw))
      else
        match resp.envelope with
        | .error e => .error (e.wrap (goString "Client.call: decode"))
        | .ok envelope =>
            match envelope.error with
            | some e => .error (mapClientErr e)
            | none =>
                match envelope.result with
                -- An envelope without a result leaves `out` alone, and that is no error.
                | none => .ok zero
                | some (.ok out) => .ok out
                | some (.error e) => .error (e.wrap (goString "Client.call: decode result"))

/-- `Client.Set`. -/
def set (sent : Except GoError (HTTPResponse OKResult)) : Except GoError Unit :=
  (call ⟨false⟩ sent).map fun _ => ()

/-- `Client.Delete`. -/
def delete (sent : Except GoError (HTTPResponse OKResult)) : Except GoError Unit :=
  (call ⟨false⟩ sent).map fun _ => ()

/-- `Client.List`. -/
def list (sent : Except GoError (HTTPResponse ListResult)) : Except GoError ListResult :=
  call ⟨[]⟩ sent

end Client

/-! ### The libraries in between -/

/-- What is assumed of the libraries. -/
structure Libraries where
  /-- What becomes of a string on its way through JSON. -/
  carry : GoString → GoString
  /-- The envelope that the client decodes for what a method has returned. JSON makes `carried r`
  of a result `r`. -/
  envelope {α : Type} (carried : α → α) (returned : Except RpcError α) : Client.RpcResponse α
  /-- A result arrives. -/
  envelope_ok {α : Type} (carried : α → α) (r : α) :
    envelope carried (.ok r) = { result := some (.ok (carried r)) }
  /-- An error of `rpc.NewError` arrives with its code. -/
  envelope_coded {α : Type} (carried : α → α) (code : Int) (message : GoString) :
    envelope carried (.error (.coded code message)) = { error := some ⟨code, carry message⟩ }

/-- An error of the RPC server. Its codes are not those of the service. -/
structure LibraryError extends Client.RpcError where
  foreign : code ≠ codeDuplicate ∧ code ≠ codeNotFound ∧ code ≠ codeInvalid

/-- An error of another package, which does not know the errors of the resolver. -/
structure ForeignError where
  err : GoError
  foreign : err.is errDuplicate = false ∧ err.is errNotFound = false ∧
    err.is errInvalidTenant = false

/-- Why a call returns without the answer of the service. -/
inductive Lost where
  /-- `json.Marshal`, `http.NewRequestWithContext` or `c.http.Do` failed. -/
  | failed (e : ForeignError)
  /-- Some other server answered, or the HTTP server itself. -/
  | status (code : Int) (raw : GoString) (notOK : code ≠ statusOK)
  /-- The body is not an envelope. -/
  | body (e : ForeignError)
  /-- The result is not what the method returns. -/
  | result (e : ForeignError)
  /-- The RPC server answered in place of the method, which may have been called all the same. -/
  | library (e : LibraryError)
  /-- The envelope has no error and no result, or the result `null`. -/
  | empty

/-- What the client gets instead of the answer. -/
def Lost.http {α : Type} : Lost → Except GoError (HTTPResponse α)
  | .failed e => .error e.err
  -- The body of another status is not decoded.
  | .status code raw _ => .ok ⟨code, raw, .ok {}⟩
  | .body e => .ok ⟨statusOK, [], .error e.err⟩
  | .result e => .ok ⟨statusOK, [], .ok { result := some (.error e.err) }⟩
  | .library e => .ok ⟨statusOK, [], .ok { error := some e.toRpcError }⟩
  | .empty => .ok ⟨statusOK, [], .ok {}⟩

/-! ### The service behind the network -/

/-- A request. -/
inductive Request where
  | set (p : SetParams)
  | delete (p : DeleteParams)
  | list

/-- The envelope of a response. -/
inductive Reply where
  | set (envelope : Client.RpcResponse OKResult)
  | delete (envelope : Client.RpcResponse OKResult)
  | list (envelope : Client.RpcResponse ListResult)

/-- What a method of the client returns without an error. -/
inductive Returned where
  | nil
  | tenants (r : ListResult)

/-- The parameters as the service gets them. -/
def SetParams.carried (L : Libraries) (p : SetParams) : SetParams :=
  ⟨L.carry p.id, L.carry p.topicPrefix, L.carry p.upstream⟩

/-- The same for a deletion. -/
def DeleteParams.carried (L : Libraries) (p : DeleteParams) : DeleteParams := ⟨L.carry p.id⟩

/-- The result as the client gets it. -/
def ListResult.carried (L : Libraries) (r : ListResult) : ListResult :=
  ⟨r.tenants.map fun t => ⟨L.carry t.id, L.carry t.topicPrefix, L.carry t.upstream⟩⟩

/-- What `p.Bind` does. -/
def bound {α : Type} (bind : Option GoError) (params : α) : Except GoError α :=
  match bind with
  | none => .ok params
  | some e => .error e

/-- What a method returned, and the table it left. -/
def outcome {α : Type} : EStateM.Result RpcError Table α → Except RpcError α × Table
  | .ok r s => (.ok r, s)
  | .error e s => (.error e, s)

/-- A call of a method, of which `p.Bind` returns the error `bind`, up to the envelope that the
client decodes. -/
def handle (L : Libraries) (s : Table) : Request → Option GoError → Reply × Table
  | .set p, bind =>
      (outcome (Service.set (bound bind (p.carried L)) s)).map (fun r => .set (L.envelope id r)) id
  | .delete p, bind =>
      (outcome (Service.delete (bound bind (p.carried L)) s)).map
        (fun r => .delete (L.envelope id r)) id
  | .list, _ =>
      (outcome (Service.list s)).map (fun r => .list (L.envelope (ListResult.carried L) r)) id

/-- What the client's method returns for the response of the service. -/
def Reply.returned : Reply → Except GoError Returned
  | .set r => (Client.set (.ok ⟨statusOK, [], .ok r⟩)).map fun _ => .nil
  | .delete r => (Client.delete (.ok ⟨statusOK, [], .ok r⟩)).map fun _ => .nil
  | .list r => (Client.list (.ok ⟨statusOK, [], .ok r⟩)).map .tenants

/-- What it returns without one. -/
def Request.lose (why : Lost) : Request → Except GoError Returned
  | .set _ => (Client.set why.http).map fun _ => .nil
  | .delete _ => (Client.delete why.http).map fun _ => .nil
  | .list => (Client.list why.http).map .tenants

/-- The service with remote callers. -/
def remoteAdmin (L : Libraries) :
    Remote Table Request (Option GoError) Reply Lost (Except GoError Returned) where
  exec := handle L
  read := Reply.returned
  lose request why := request.lose why

/-- A call of the client. -/
abbrev AdminCall := RemoteCall Request Reply (Except GoError Returned)

/-- What happens to the calls of the client. -/
abbrev AdminMove := Move (RemoteEvent (Option GoError) Lost) Request

/-- The table with the calls that were made. -/
abbrev AdminState := Joint (RemoteObject Table Request (Option GoError) Reply) AdminCall

end Kroxy.Admin
