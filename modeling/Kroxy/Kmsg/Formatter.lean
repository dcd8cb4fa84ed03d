import Kroxy.Kmsg.Wire

/-!
# `Kroxy.Kmsg.Formatter`: how the peers frame messages

Clients and brokers put a header in front of each message, as `kmsg`'s `RequestFormatter`
does. Which header it is depends on whether Kafka's message definitions call the version
flexible. `kafkaFlexibleSince` has their table for the APIs the proxy advertises. It is
written down on its own here, and not derived from the proxy's.
-/

set_option autoImplicit false

namespace Kroxy.Kmsg

open Kroxy.Go
open Kroxy.Lib
open Kroxy.Protocol

/-- The first flexible version of each API in Kafka's message definitions, `none` for an API
that has none. -/
def kafkaFlexibleSince : List (Int16 × Option Int16) :=
  [(0, some 9), (1, some 12), (2, some 6), (3, some 9), (8, some 8), (9, some 6),
    (10, some 3), (11, some 6), (12, some 4), (13, some 4), (14, some 4), (15, some 5),
    (16, some 3), (17, none), (18, some 3), (19, some 5), (20, some 4), (22, some 2),
    (24, some 3), (25, some 3), (26, some 3), (28, some 3), (32, some 4), (36, some 2),
    (42, some 2), (47, none)]

/-- `IsFlexible` of a request at a version. -/
def kafkaFlexible (apiKey apiVersion : Int16) : Bool :=
  match kafkaFlexibleSince.lookup apiKey with
  | some (some since) => decide (apiVersion ≥ since)
  | _ => false

/-- `RequestFormatter.AppendRequest` without the length prefix. A flexible request has the
byte of an empty tagged-field section behind the client id. -/
def formatRequest (apiKey apiVersion : Int16) (correlationID : Int32)
    (clientID : Option GoString) (body : Bytes) : Bytes :=
  appendInt16 apiKey ++ appendInt16 apiVersion ++ appendInt32 correlationID ++
    appendNullableString clientID ++
    (if kafkaFlexible apiKey apiVersion then [0] else []) ++ body

/-- A broker's response without the length prefix. The response to ApiVersions has the old
header in every version. -/
def formatResponse (apiKey apiVersion : Int16) (correlationID : Int32) (body : Bytes) : Bytes :=
  appendInt32 correlationID ++
    (if apiKey ≠ apiVersionsKey ∧ kafkaFlexible apiKey apiVersion then [0] else []) ++ body

end Kroxy.Kmsg
