import Kroxy.Go.Basic

/-!
# `Kroxy.Observability.Metrics`: the instruments of the proxy

The Prometheus instruments of `observability/metrics.go`, seen from the proxy. The library is
not modelled. A vector is the list of the calls the proxy made on it, each under the labels it
was made with, oldest first. The value of a counter's series is how often its labels occur, and
the series that exist are the labels that occur at all.

`WithLabelValues` panics on a label value the library does not accept. The check is a parameter
(`LabelCheck`), of which only its ASCII case is known. All labels of the proxy are ASCII texts
of its own, but for one: the tenant id in `ObserveRequest`.

What a histogram does with the durations is left out, and times are not modelled.
-/

set_option autoImplicit false

namespace Kroxy.Observability

open Kroxy.Go

/-! ### The library -/

/-- The label values the library accepts. -/
structure LabelCheck where
  valid : GoString → Bool
  ascii : ∀ s : GoString, (∀ b ∈ s, b < 0x80) → valid s = true

/-- The check of the Prometheus library: a label value is UTF-8. -/
def LabelCheck.utf8 : LabelCheck where
  valid := validUTF8
  ascii _ := validUTF8_of_ascii

/-- The calls on a vector with labels of type `κ`. -/
structure CounterVec (κ : Type) where
  /-- The labels of the calls. -/
  increments : List κ := []

namespace CounterVec

variable {κ : Type}

/-- `WithLabelValues(labels).Inc()`, on labels that pass the check. -/
def inc (labels : κ) (v : CounterVec κ) : CounterVec κ := ⟨v.increments ++ [labels]⟩

/-- The value of the series with these labels. -/
def value [DecidableEq κ] (v : CounterVec κ) (labels : κ) : Nat := v.increments.count labels

/-- The labels of the series there are. -/
def series [DecidableEq κ] (v : CounterVec κ) : List κ := v.increments.dedup

end CounterVec

/-! ### The instruments -/

/-- `Metrics`. -/
structure Metrics where
  connectionsActive : Int := 0
  connectionsTotal : Nat := 0
  /-- By `api_key` and `tenant`. -/
  requestsTotal : CounterVec (GoString × GoString) := {}
  /-- By `api_key` and `tenant`. -/
  requestDuration : CounterVec (GoString × GoString) := {}
  /-- By `kind`. -/
  upstreamErrorTotal : CounterVec GoString := {}
  /-- By `result`. -/
  resolverCallsTotal : CounterVec GoString := {}
  /-- By `mechanism` and `result`. -/
  saslHandshakeTotal : CounterVec (GoString × GoString) := {}

namespace Metrics

/-- `ObserveRequest` with a tenant that passes the check. The key is printed by
`strconv.Itoa`. -/
def observeRequest (apiKey : Int16) (tenant : GoString) (m : Metrics) : Metrics :=
  { m with
      requestsTotal := m.requestsTotal.inc (decimal apiKey.toInt, tenant)
      requestDuration := m.requestDuration.inc (decimal apiKey.toInt, tenant) }

/-- `UpstreamErrorTotal.WithLabelValues(kind).Inc()`. -/
def upstreamError (kind : String) (m : Metrics) : Metrics :=
  { m with upstreamErrorTotal := m.upstreamErrorTotal.inc (goString kind) }

/-- `ResolverCallsTotal.WithLabelValues(result).Inc()`. -/
def resolverCall (result : String) (m : Metrics) : Metrics :=
  { m with resolverCallsTotal := m.resolverCallsTotal.inc (goString result) }

/-- `SaslHandshakeTotal.WithLabelValues(mechanism, result).Inc()`. -/
def saslHandshake (mechanism : GoString) (result : String) (m : Metrics) : Metrics :=
  { m with saslHandshakeTotal := m.saslHandshakeTotal.inc (mechanism, goString result) }

/-- The start of `handle`. -/
def connectionStarted (m : Metrics) : Metrics :=
  { m with
      connectionsTotal := m.connectionsTotal + 1
      connectionsActive := m.connectionsActive + 1 }

/-- `ConnectionsActive.Dec()`, deferred by `handle`. -/
def connectionEnded (m : Metrics) : Metrics :=
  { m with connectionsActive := m.connectionsActive - 1 }

end Metrics

end Kroxy.Observability
