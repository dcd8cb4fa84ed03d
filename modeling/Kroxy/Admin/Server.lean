import Kroxy.Resolver.Calls

/-!
# `Kroxy.Admin.Server`: the tenant service of the admin RPC

The methods of `admin/server.go`. Each binds its parameters, calls the resolver and turns an
error of the resolver into an RPC error with `mapErr`. The binding is the RPC library's: a
method gets its outcome.
-/

set_option autoImplicit false

namespace Kroxy.Admin

open Kroxy.Go
open Kroxy.Resolver

/-- `CodeDuplicate`: the tenant exists already. -/
def codeDuplicate : Int := -32011

/-- `CodeNotFound`: there is no such tenant. -/
def codeNotFound : Int := -32012

/-- `CodeInvalid`: the payload is not valid. -/
def codeInvalid : Int := -32013

/-- An error of a method: one made by `rpc.NewError`, or any other. -/
inductive RpcError where
  | coded (code : Int) (message : GoString)
  | other (err : GoError)
  deriving DecidableEq

/-- `mapErr`. -/
def mapErr (err : GoError) : RpcError :=
  if err.is errDuplicate then .coded codeDuplicate err.text
  else if err.is errNotFound then .coded codeNotFound err.text
  else if err.is errInvalidTenant then .coded codeInvalid err.text
  else .other err

/-- The parameters of `Tenants.Set`. -/
structure SetParams where
  id : GoString
  topicPrefix : GoString
  upstream : GoString

/-- The parameters of `Tenants.Delete`. -/
structure DeleteParams where
  id : GoString

/-- The result of a mutation. -/
structure OKResult where
  ok : Bool

/-- A tenant as `Tenants.List` shows it. -/
structure TenantView where
  id : GoString
  topicPrefix : GoString
  upstream : GoString

/-- The result of `Tenants.List`. -/
structure ListResult where
  tenants : List TenantView

/-- A method of the service. -/
abbrev ServiceM := EStateM RpcError Table

/-- `p.Bind(&in)`, with the library's outcome `bound`. -/
def bindParams {α : Type} (bound : Except GoError α) : ServiceM α :=
  match bound with
  | .ok params => pure params
  | .error e => throw (.coded codeInvalid e.text)

/-- A call of `s.store`, with `mapErr` on its error. -/
def onStore {α : Type} (x : TableM α) : ServiceM α := fun s =>
  match x s with
  | .ok a s' => .ok a s'
  | .error e s' => .error (mapErr e) s'

namespace Service

/-- `Service.Set`. -/
def set (p : Except GoError SetParams) : ServiceM OKResult := do
  let params ← bindParams p
  onStore (memorySet ⟨params.id, params.topicPrefix, params.upstream⟩)
  pure ⟨true⟩

/-- `Service.Delete`. -/
def delete (p : Except GoError DeleteParams) : ServiceM OKResult := do
  let params ← bindParams p
  onStore (memoryDelete params.id)
  pure ⟨true⟩

/-- `Service.List`. -/
def list : ServiceM ListResult := do
  let tenants ← onStore memoryList
  pure ⟨tenants.map fun t => ⟨t.id, t.topicPrefix, t.upstream⟩⟩

end Service

/-! ### `mapErr` on the sentinels -/

section
variable {e : GoError}

/-- A wrapped `ErrDuplicate` gets its code. -/
theorem mapErr_duplicate (h : e.root = errDuplicate.root) :
    mapErr e = .coded codeDuplicate e.text := by
  simp [mapErr, GoError.is, h]

/-- So does a wrapped `ErrNotFound`. -/
theorem mapErr_notFound (h : e.root = errNotFound.root) :
    mapErr e = .coded codeNotFound e.text := by
  have hother : (errNotFound.root == errDuplicate.root) = false := by decide
  simp [mapErr, GoError.is, h, hother]

/-- And a wrapped `ErrInvalidTenant`. -/
theorem mapErr_invalid (h : e.root = errInvalidTenant.root) :
    mapErr e = .coded codeInvalid e.text := by
  have hduplicate : (errInvalidTenant.root == errDuplicate.root) = false := by decide
  have hnotFound : (errInvalidTenant.root == errNotFound.root) = false := by decide
  simp [mapErr, GoError.is, h, hduplicate, hnotFound]

end

end Kroxy.Admin
