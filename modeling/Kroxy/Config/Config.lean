import Kroxy.Proxy.Conn

/-!
# `Kroxy.Config.Config`: what the proxy accepts as a configuration

`config/config.go` behind the YAML decoder: `applyDefaults` fills the empty fields and
`validate` refuses what is still missing. `Load` returns the configuration that passed both,
and `run` in `cmd/kroxy` hands parts of it to the server.

The checks are made one after the other and the first that fails names the field. Only the
admin address is parsed here. The advertised address is parsed by every connection that needs
it, long after the configuration was accepted.
-/

set_option autoImplicit false

namespace Kroxy

open Kroxy.Go
open Kroxy.Auth
open Kroxy.Resolver
open Kroxy.Proxy

namespace Config

/-- `TLSConfig`: whether the listener uses TLS, and its key pair. -/
structure TLSConfig where
  enabled : Bool := false
  certFile : GoString := []
  keyFile : GoString := []

/-- `UpstreamSASLConfig`. -/
structure UpstreamSASLConfig where
  mechanism : GoString := []

/-- `UpstreamConfig`: the shared bootstrap address and the mechanism. -/
structure UpstreamConfig where
  bootstrap : GoString := []
  sasl : UpstreamSASLConfig := {}

/-- `resolver.MemoryConfig`. -/
structure MemoryConfig where
  tenants : List Tenant := []

/-- `resolver.Config`. -/
structure ResolverConfig where
  type : GoString := []
  memory : MemoryConfig := {}

/-- `LogConfig`. -/
structure LogConfig where
  level : GoString := []
  format : GoString := []

/-- `MetricsConfig`. -/
structure MetricsConfig where
  enabled : Bool := false
  listen : GoString := []

/-- `AdminConfig`. -/
structure AdminConfig where
  enabled : Bool := false
  listen : GoString := []

end Config

/-- The configuration as it was decoded. A field that was not written is empty. -/
structure Config where
  listen : GoString := []
  advertised : GoString := []
  tls : Config.TLSConfig := {}
  upstream : Config.UpstreamConfig := {}
  resolver : Config.ResolverConfig := {}
  log : Config.LogConfig := {}
  metrics : Config.MetricsConfig := {}
  admin : Config.AdminConfig := {}

namespace Config

/-- `if s == "" { s = value }`. -/
def orDefault (s value : GoString) : GoString := if s = [] then value else s

/-- `applyDefaults`. -/
def applyDefaults (c : Config) : Config :=
  { c with
      listen := orDefault c.listen (goString ":9092")
      log :=
        { level := orDefault c.log.level (goString "info")
          format := orDefault c.log.format (goString "json") }
      metrics := { c.metrics with listen := orDefault c.metrics.listen (goString ":9090") }
      admin := { c.admin with listen := orDefault c.admin.listen (goString "127.0.0.1:9095") }
      resolver :=
        { type := orDefault c.resolver.type (goString "memory")
          -- A tenant without an upstream of its own goes to the shared cluster.
          memory :=
            { tenants := c.resolver.memory.tenants.map fun t =>
                { t with upstream := orDefault t.upstream c.upstream.bootstrap } } } }

/-- An error of `validate`. -/
def configError (msg : GoString) : Except GoError Unit :=
  .error (errorsNew (goString "config: " ++ msg))

/-- The error for a missing field of the tenant at `i`. -/
def tenantFieldError (i : Nat) (field : String) : Except GoError Unit :=
  configError (goString "resolver.memory.tenants[" ++ decimal i ++ goString "]." ++
    goString field ++ goString " is required")

/-- The loop of `validateMemoryResolver`. `i` is the index of the next record. -/
def validateTenants : List Tenant → Nat → Except GoError Unit
  | [], _ => .ok ()
  | t :: rest, i =>
      if t.id = [] then tenantFieldError i "id"
      else if t.topicPrefix = [] then tenantFieldError i "topic_prefix"
      else validateTenants rest (i + 1)

/-- `validateMemoryResolver`. -/
def validateMemoryResolver (c : Config) : Except GoError Unit :=
  if c.resolver.memory.tenants = [] ∧ c.admin.enabled = false then
    configError (goString ("resolver.memory.tenants must contain at least one entry " ++
      "(or enable the admin RPC)"))
  else validateTenants c.resolver.memory.tenants 0

/-- The check of the admin address. -/
def validateAdmin (c : Config) : Except GoError Unit :=
  if c.admin.enabled then
    match splitHostPort c.admin.listen with
    | .ok _ => .ok ()
    | .error e => .error (e.wrap (goString "config: admin.listen is invalid"))
  else .ok ()

/-- `validate`. -/
def validate (c : Config) : Except GoError Unit := do
  -- Any text will do for an advertised address.
  if c.advertised = [] then configError (goString "advertised is required")
  if c.upstream.bootstrap = [] then configError (goString "upstream.bootstrap is required")
  if c.resolver.type = goString "memory" then validateMemoryResolver c
  else configError (goString "unknown resolver.type " ++ quote c.resolver.type)
  validateAdmin c
  if c.tls.enabled = true ∧ (c.tls.certFile = [] ∨ c.tls.keyFile = []) then
    configError (goString "tls.cert_file and tls.key_file are required when tls.enabled")
  if c.upstream.sasl.mechanism ≠ [] ∧ isSCRAMMechanism c.upstream.sasl.mechanism = false then
    configError (goString "upstream.sasl.mechanism " ++ quote c.upstream.sasl.mechanism ++
      goString (" is not supported (use SCRAM-SHA-256 or SCRAM-SHA-512, or leave empty for " ++
        "PLAIN pass-through)"))

/-- `Load` of a decoded configuration. -/
def load (c : Config) : Except GoError Config :=
  match validate (applyDefaults c) with
  | .ok () => .ok (applyDefaults c)
  | .error e => .error (e.wrap (goString "Load"))

/-- What `run` hands to `proxy.NewServer`. -/
def serverConfig (c : Config) : ServerConfig where
  advertised := c.advertised
  upstreamSASLMechanism := c.upstream.sasl.mechanism

/-- A configuration that is loaded has its defaults filled in. -/
theorem load_eq_ok {c c' : Config} (h : load c = .ok c') : c' = applyDefaults c := by
  unfold load at h
  split at h
  · cases h
    rfl
  · cases h

end Config

end Kroxy
