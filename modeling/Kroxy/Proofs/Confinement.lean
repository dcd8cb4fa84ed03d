import Kroxy.Kmsg.Wire
import Kroxy.Proofs.AuthGate
import Kroxy.Proofs.RequestNames

/-!
# `Kroxy.Proofs.Confinement`: which names leave the proxy

A tenant is confined when every topic, group and transactional id in the requests sent
upstream for it starts with its prefix. Two parts of `dispatch` decide about that. A request
with a rewrite handler is decoded, rewritten and encoded again. A request with any other key
goes on byte for byte, under a new correlation id.

`mem_requestsFor` says which request a frame of an authenticated client leads to. Two
equivalences follow from it:

* `names_confined_frame`: the names of that request all start with the prefix exactly when
  the frame is harmless. A rewritten request is harmless when no name is empty and the names
  the rewriter leaves alone start with the prefix. Any other request is harmless when the
  client already wrote the prefix in front of every name.
* `topics_byName_frame`: for Fetch, Metadata and DeleteTopics, topics are addressed by
  prefixed name exactly when the version has no topic ids and no name is missing. The version
  ranges of the ApiVersions response are not checked on the way.

Member metadata and assignments of JoinGroup and SyncGroup are opaque to a broker and count
as bytes here, not as names.
-/

set_option autoImplicit false

namespace Kroxy.Proofs

open Kroxy.Go
open Kroxy.Lib
open Kroxy.Kmsg
open Kroxy.Protocol
open Kroxy.Rewrite
open Kroxy.Resolver
open Kroxy.Proxy
open Kroxy.Upstream (Event Packet Peer setCorrelationID)

/-! ### The request a frame leads to -/

/-- The connection after a frame, whether it goes on or ends. -/
def afterFrame (X : Server) (E : Env) (frame : Bytes) (c : Conn) : Conn :=
  match serveFrame X E frame c with
  | .ok _ c' => c'
  | .error _ c' => c'

/-- The client requests written upstream while a frame is handled. -/
def requestsFor (X : Server) (E : Env) (frame : Bytes) (c : Conn) : List Packet :=
  (clientRequests (afterFrame X E frame c)).drop (clientRequests c).length

/-- A connection to the upstream is there or can be dialled, and is not broken. -/
def Reaches (X : Server) (E : Env) (c : Conn) : Prop :=
  ∃ up, HasUpstream X E c up ∧ Ready up

/-- What a frame of an authenticated client leads to: `packet` is the rewritten or raw
request, under the next correlation id of the upstream connection. -/
structure Forwards (X : Server) (E : Env) (hdr : RequestHeader) (frame body : Bytes)
    (c : Conn) (packet : Packet) : Prop where
  key : needsAuth hdr.apiKey = true
  sent : ∃ up, HasUpstream X E c up ∧ Ready up ∧
    forwardedPacket X c.tenant.topicPrefix hdr frame body (up.corrIDGen + 1) = some packet

/-- A turn has one upstream connection. -/
theorem HasUpstream.unique {X : Server} {E : Env} {c : Conn} {up up' : Upstream.Conn}
    (h : HasUpstream X E c up) (h' : HasUpstream X E c up') : up = up' := by
  rcases h with hsome | ⟨hnone, hdial⟩
  · rcases h' with hsome' | ⟨hnone', -⟩
    · exact Option.some.inj (hsome.symm.trans hsome')
    · cases hsome.symm.trans hnone'
  · rcases h' with hsome' | ⟨-, hdial'⟩
    · cases hsome'.symm.trans hnone
    · rw [hdial] at hdial'
      cases hdial'
      rfl

/-- A frame is forwarded as one packet. -/
theorem Forwards.unique {X : Server} {E : Env} {hdr : RequestHeader} {frame body : Bytes}
    {c : Conn} {packet packet' : Packet} (h : Forwards X E hdr frame body c packet)
    (h' : Forwards X E hdr frame body c packet') : packet = packet' := by
  obtain ⟨up, hup, -, hpacket⟩ := h.sent
  obtain ⟨up', hup', -, hpacket'⟩ := h'.sent
  cases hup.unique hup'
  exact Option.some.inj (hpacket.symm.trans hpacket')

/-! ### Client requests, turn by turn -/

/-- Before a dial and after it the client has sent nothing over the connection. -/
theorem HasUpstream.requests {X : Server} {E : Env} {c : Conn} {up up' : Upstream.Conn}
    (h : HasUpstream X E c up) {sent : List Packet}
    (hlog : requestsOn up'.log = requestsOn up.log ++ sent) :
    clientRequests { c with upstream := some up' } = clientRequests c ++ sent := by
  -- A connection dialled for this request has carried its handshake and no client request.
  have hold : (c.upstream.toList.flatMap fun u => requestsOn u.log) = requestsOn up.log := by
    rcases h with hsome | ⟨hnone, hdial⟩
    · rw [hsome]
      simp
    · have hspec := dialUpstream_spec X E c
      rw [hdial] at hspec
      rw [hnone, (hspec.1.only).requestsOn]
      rfl
  simp only [clientRequests, upstreams, List.flatMap_append, hold]
  simp [hlog]

/-- Sending a client request adds it to the requests of the log. -/
theorem Sends.requests {packet : Packet} {up up' : Upstream.Conn}
    (h : Sends packet up up') (key : needsAuth packet.key = true) :
    requestsOn up'.log = requestsOn up.log ++ [packet] := by
  obtain ⟨tail, hlog, htail⟩ := h.log
  have hquiet : requestsOn tail = [] := by
    rw [requestsOn, List.filterMap_eq_nil_iff]
    intro e he
    cases e with
    | sent packet' => cases htail _ he
    | received i frame => rfl
  rw [hlog]
  show requestsOn (up.log ++ ([.sent packet] ++ tail)) = _
  simp only [requestsOn, List.filterMap_append] at hquiet ⊢
  rw [hquiet]
  simp [key]

/-- A turn of an authenticated client sends the request it forwards, or nothing when it
forwards nothing. -/
theorem Turn.requests {X : Server} {E : Env} {hdr : RequestHeader} {frame body : Bytes}
    {c c' : Conn} {out : Option Bytes} (h : Turn X E hdr frame body c out c')
    (hstate : c.state = .authenticated) :
    (∃ packet, Forwards X E hdr frame body c packet ∧
        clientRequests c' = clientRequests c ++ [packet]) ∨
      ((∀ packet, ¬ Forwards X E hdr frame body c packet) ∧
        clientRequests c' = clientRequests c) := by
  cases h with
  | idle _ own key =>
      refine Or.inr ⟨?_, rfl⟩
      intro packet hforwards
      cases key.symm.trans hforwards.key
  | early key state => exact absurd hstate state
  | chose mech _ own key state => cases hstate.symm.trans state
  | plain payload creds tenant _ own key state => cases hstate.symm.trans state
  | undialled payload username tenant closed _ own key state => cases hstate.symm.trans state
  | opened payload username tenant up _ _ key state => cases hstate.symm.trans state
  | relayed payload up _ _ key state => cases hstate.symm.trans state
  | unreachable closed key state upstream dialled only =>
      refine Or.inr ⟨?_, ?_⟩
      -- The dial failed, so there is no connection to forward on.
      · intro packet hforwards
        obtain ⟨up, hup, -⟩ := hforwards.sent
        obtain ⟨stop, hfailed⟩ := dialled
        rcases hup with hsome | ⟨-, hdial⟩
        · cases upstream.symm.trans hsome
        · cases hfailed.symm.trans hdial
      · -- The closed connection got no further than its handshake.
        have hclosed : (closed.toList.flatMap fun u => requestsOn u.log) = [] := by
          rw [List.flatMap_eq_nil_iff]
          intro up hup
          exact (only up (Option.mem_toList.mp hup)).requestsOn
        simp only [clientRequests, upstreams, List.flatMap_append, hclosed,
          List.append_nil]
  | unsent up up' key state upstream quiet why =>
      refine Or.inr ⟨?_, ?_⟩
      · intro packet hforwards
        obtain ⟨up₁, hup₁, hready, hpacket⟩ := hforwards.sent
        cases upstream.unique hup₁
        rcases why with hnone | hbroken
        · cases hnone.symm.trans hpacket
        · exact hbroken hready
      · have hlog : requestsOn up'.log = requestsOn up.log ++ [] := by
          rw [quiet.log, List.append_nil]
        rw [upstream.requests hlog, List.append_nil]
  | failed up up' packet key state upstream ready forwarded packetKey sends =>
      exact Or.inl ⟨packet, ⟨key, up, upstream, ready, forwarded⟩,
        upstream.requests (sends.requests (packetKey ▸ key))⟩
  | answered up up' packet reply resp key state upstream ready forwarded packetKey round
      answer =>
      exact Or.inl ⟨packet, ⟨key, up, upstream, ready, forwarded⟩,
        upstream.requests (round.sends.requests (packetKey ▸ key))⟩

/-- The frame is cut into a header and a body. -/
def Parsed (frame : Bytes) (hdr : RequestHeader) (body : Bytes) : Prop :=
  parseRequestHeader frame = .ok hdr ∧ sliceFrom frame hdr.headerSize = .ok body

/-- A frame has one header and one body. -/
theorem Parsed.unique {frame body body' : Bytes} {hdr hdr' : RequestHeader}
    (h : Parsed frame hdr body) (h' : Parsed frame hdr' body') :
    hdr' = hdr ∧ body' = body := by
  cases h.1.symm.trans h'.1
  cases h.2.symm.trans h'.2
  exact ⟨rfl, rfl⟩

/-- A frame with a header leaves the connection a turn leaves. -/
theorem afterFrame_parsed (X : Server) (E : Env) {frame body : Bytes} {hdr : RequestHeader}
    (h : Parsed frame hdr body) (c : Conn) :
    ∃ out c₁ frames, Turn X E hdr frame body c out c₁ ∧
      afterFrame X E frame c = { c₁ with written := frames } := by
  have hends := serveFrame_parsed (X := X) (E := E) h.1 h.2 c
  unfold afterFrame
  cases hrun : serveFrame X E frame c with
  | ok u c' =>
      obtain ⟨resp, c₁, hturn, rfl⟩ := hends.of_ok hrun
      exact ⟨some resp, c₁, _, hturn, rfl⟩
  | error stop c' => exact ⟨none, c', c'.written, hends.of_error hrun, rfl⟩

/-- A frame without a header changes nothing. -/
theorem afterFrame_malformed (X : Server) (E : Env) {frame : Bytes}
    (h : ∀ hdr body, ¬ Parsed frame hdr body) (c : Conn) : afterFrame X E frame c = c := by
  have hends := serveFrame_turn X E frame c
  unfold afterFrame
  cases hrun : serveFrame X E frame c with
  | ok u c' =>
      obtain ⟨hdr, body, hparse, hslice, -⟩ := hends.of_ok hrun
      exact absurd ⟨hparse, hslice⟩ (h hdr body)
  | error stop c' =>
      rcases hends.of_error hrun with rfl | ⟨hdr, body, hparse, hslice, -⟩
      · rfl
      · exact absurd ⟨hparse, hslice⟩ (h hdr body)

/-- A frame of an authenticated client leads to the request it forwards and to no other. -/
theorem mem_requestsFor {X : Server} {E : Env} {frame : Bytes} {c : Conn}
    (hstate : c.state = .authenticated) (packet : Packet) :
    packet ∈ requestsFor X E frame c ↔
      ∃ hdr body, Parsed frame hdr body ∧ Forwards X E hdr frame body c packet := by
  by_cases hparsed : ∃ hdr body, Parsed frame hdr body
  · obtain ⟨hdr, body, hframe⟩ := hparsed
    obtain ⟨out, c₁, frames, hturn, hafter⟩ := afterFrame_parsed X E hframe c
    have hrequests : clientRequests (afterFrame X E frame c) = clientRequests c₁ := by
      rw [hafter]
      rfl
    rw [requestsFor, hrequests]
    -- The turn sent one request or none, and the list has grown by just that.
    rcases hturn.requests hstate with ⟨sent, hforwards, hgrown⟩ | ⟨hnone, hsame⟩
    · rw [hgrown, List.drop_left, List.mem_singleton]
      constructor
      · rintro rfl
        exact ⟨hdr, body, hframe, hforwards⟩
      · rintro ⟨hdr', body', hframe', hforwards'⟩
        obtain ⟨rfl, rfl⟩ := hframe.unique hframe'
        exact hforwards'.unique hforwards
    · rw [hsame, List.drop_length]
      constructor
      · intro hmem
        cases hmem
      · rintro ⟨hdr', body', hframe', hforwards'⟩
        obtain ⟨rfl, rfl⟩ := hframe.unique hframe'
        exact absurd hforwards' (hnone packet)
  · push Not at hparsed
    rw [requestsFor, afterFrame_malformed X E hparsed, List.drop_length]
    constructor
    · intro hmem
      cases hmem
    · rintro ⟨hdr, body, hframe, -⟩
      exact absurd hframe (hparsed hdr body)

/-! ### Names -/

/-- How Kafka's message definitions read the names in a request of a key and version, from
what follows the correlation id: the client id, the rest of the header and the body. The
proxy has no such table for the requests it passes on as bytes. -/
abbrev Schema := Int16 → Int16 → Bytes → List GoString

/-- The topics, groups and transactional ids in a request sent upstream. -/
def packetNames (schema : Schema) : Packet → List GoString
  | .formatted (.api a version req) _ _ => names version a req
  | .formatted _ _ _ => []
  | .raw frame =>
      schema (getBE16 frame).toInt16 (getBE16 (frame.drop 2)).toInt16 (frame.drop 8)

/-- What a frame must satisfy for its names to stay inside the prefix. -/
def Harmless (X : Server) (schema : Schema) (p : GoString) (frame : Bytes) : Prop :=
  ∀ hdr body, Parsed frame hdr body → needsAuth hdr.apiKey = true →
    match apiOf hdr.apiKey with
    | none => Confined p (schema hdr.apiKey hdr.apiVersion (frame.drop 8))
    | some a => ∀ req, X.codec.readRequest a hdr.apiVersion body = .ok req →
        wantsNoResponse a req = false →
        (∀ n ∈ names hdr.apiVersion a req, n ≠ []) ∧ Confined p (leftAlone hdr.apiVersion a req)

/-- A raw request says what the client's frame said: only the correlation id differs. -/
theorem packetNames_raw (schema : Schema) {frame body : Bytes} {hdr : RequestHeader}
    (h : Parsed frame hdr body) (cid : Int32) :
    packetNames schema (.raw (setCorrelationID frame cid)) =
      schema hdr.apiKey hdr.apiVersion (frame.drop 8) := by
  obtain ⟨hlen, hkey, hversion, -⟩ := parseRequestHeader_eq_ok h.1
  -- The new id takes the place of the old one, four bytes for four.
  have hrest : (setCorrelationID frame cid).drop 8 = frame.drop 8 := by
    have hfront : (frame.take 4 ++ putBE32 cid.toUInt32).length = 8 := by
      rw [List.length_append, List.length_take, length_putBE32]
      omega
    exact List.drop_left' hfront
  have hsecond : getBE16 ((setCorrelationID frame cid).drop 2) = getBE16 (frame.drop 2) := by
    match frame, hlen with
    | a :: b :: c :: d :: rest, _ => rfl
  rw [packetNames, getBE16_setCorrelationID hlen, hsecond, hrest, hkey, hversion]

/-- What is forwarded is confined exactly when the frame is harmless. -/
theorem forwardedPacket_confined (X : Server) (schema : Schema) {p : GoString} (hp : p ≠ [])
    {frame body : Bytes} {hdr : RequestHeader} (hframe : Parsed frame hdr body)
    (key : needsAuth hdr.apiKey = true) (cid : Int32) :
    (∀ packet ∈ forwardedPacket X p hdr frame body cid,
        Confined p (packetNames schema packet)) ↔ Harmless X schema p frame := by
  -- A frame has one header and one body, so the condition is about those.
  have hharmless : Harmless X schema p frame ↔
      match apiOf hdr.apiKey with
      | none => Confined p (schema hdr.apiKey hdr.apiVersion (frame.drop 8))
      | some a => ∀ req, X.codec.readRequest a hdr.apiVersion body = .ok req →
          wantsNoResponse a req = false → (∀ n ∈ names hdr.apiVersion a req, n ≠ []) ∧
            Confined p (leftAlone hdr.apiVersion a req) := by
    constructor
    · intro h
      exact h hdr body hframe key
    · intro h hdr' body' hframe' _
      obtain ⟨rfl, rfl⟩ := hframe.unique hframe'
      exact h
  rw [hharmless]
  unfold forwardedPacket
  cases apiOf hdr.apiKey with
  | none => simp [packetNames_raw schema hframe]
  | some a =>
      dsimp only
      cases X.codec.readRequest a hdr.apiVersion body with
      | error e => simp
      | ok req =>
          -- A Produce that wants no response is refused, and names nothing upstream.
          cases hwants : wantsNoResponse a req with
          | true => simp [hwants]
          | false =>
              have hiff := names_confined_iff X.codec.consumer hp hdr.apiVersion a req
              simpa [packetNames, hwants] using hiff

/-- A frame of an authenticated client takes no name out of the tenant's prefix exactly when
no upstream is reached or the frame is harmless. -/
theorem names_confined_frame (X : Server) (E : Env) (schema : Schema) (frame : Bytes)
    (c : Conn) (hstate : c.state = .authenticated) (hp : c.tenant.topicPrefix ≠ []) :
    (∀ packet ∈ requestsFor X E frame c,
        Confined c.tenant.topicPrefix (packetNames schema packet)) ↔
      (Reaches X E c → Harmless X schema c.tenant.topicPrefix frame) := by
  constructor
  · rintro h ⟨up, hup, hready⟩ hdr body hframe key
    refine (forwardedPacket_confined X schema hp hframe key (up.corrIDGen + 1)).mp ?_ hdr body
      hframe key
    intro packet hpacket
    exact h packet ((mem_requestsFor hstate packet).mpr
      ⟨hdr, body, hframe, key, up, hup, hready, hpacket⟩)
  · intro h packet hmem
    obtain ⟨hdr, body, hframe, key, up, hup, hready, hpacket⟩ :=
      (mem_requestsFor hstate packet).mp hmem
    exact (forwardedPacket_confined X schema hp hframe key (up.corrIDGen + 1)).mpr
      (h ⟨up, hup, hready⟩) packet hpacket

/-! ### A passed-on request

OffsetForLeaderEpoch, v0: an array of topics, each with an array of partitions of eight
bytes. -/

/-- The topic names of `n` entries. -/
def epochTopics : Nat → Bytes → Except GoError (List GoString)
  | 0, _ => .ok []
  | n + 1, b => do
      let (topic, b) ← readString b
      let (partitions, b) ← readInt32 b
      let rest ← epochTopics n (b.drop (8 * partitions.toInt.toNat))
      pure (topic :: rest)

/-- The message definition of OffsetForLeaderEpoch v0. -/
def epochSchema : Schema := fun apiKey apiVersion b =>
  if apiKey = offsetForLeaderEpoch ∧ apiVersion = 0 then
    let topics := do
      let (_, b) ← readNullableString b
      let (count, b) ← readInt32 b
      epochTopics count.toInt.toNat b
    topics.toOption.getD []
  else []

/-- The epoch of partition 0 of a topic is asked for. -/
def epochFrame (topic : String) : Bytes :=
  requestFrame offsetForLeaderEpoch 0 7
    (appendInt32 1 ++ appendString (goString topic) ++ appendInt32 1 ++ appendInt32 0 ++
      appendInt32 5)

/-- A deployment. -/
def plainServer (codec : Codec) : Server where
  codec := codec
  scram := ⟨fun _ _ _ _ => .error errNotEnoughData⟩
  labels := .utf8
  cfg := { advertised := goString "proxy:9092" }

/-- A network without a way to a new upstream connection. -/
def noDial : Env where
  dial := fun _ => .error errNotEnoughData
  resolver := .empty

/-- A client of the tenant `acme` with an upstream connection that works. -/
def acmeConn : Conn where
  state := .authenticated
  tenant := ⟨goString "acme", goString "acme.", goString "kafka:9092"⟩
  upstream := some { peer := { reply := fun _ => none, fault := fun _ => none } }

/-- A client that writes the prefix itself stays inside it. -/
theorem names_confined_frame_epoch :
    (∀ packet ∈ requestsFor (plainServer .sasl) noDial (epochFrame "acme.orders") acmeConn,
        Confined acmeConn.tenant.topicPrefix (packetNames epochSchema packet)) ↔
      (Reaches (plainServer .sasl) noDial acmeConn → Harmless (plainServer .sasl) epochSchema
        acmeConn.tenant.topicPrefix (epochFrame "acme.orders")) :=
  names_confined_frame (plainServer .sasl) noDial epochSchema (epochFrame "acme.orders")
    acmeConn rfl (by decide)

/-- A plain topic name in an OffsetForLeaderEpoch request goes upstream as it is. -/
theorem epoch_names_foreign_topic :
    acmeConn.state = .authenticated ∧ acmeConn.tenant.topicPrefix = goString "acme." ∧
      (requestsFor (plainServer .sasl) noDial (epochFrame "orders") acmeConn).map
        (packetNames epochSchema) = [[goString "orders"]] ∧
      ¬ goString "acme." <+: goString "orders" := by
  refine ⟨rfl, rfl, ?_, ?_⟩
  · decide +kernel
  · decide

/-! ### Topic references -/

/-- How a request refers to a topic. -/
structure TopicRef where
  name : Option GoString
  id : TopicID := 0

/-- The reference is a name that starts with `p`. -/
def TopicRef.ByName (p : GoString) (ref : TopicRef) : Prop :=
  ∃ n, ref.name = some n ∧ p <+: n

/-- The reference is an id without a name. -/
def TopicRef.Bare (ref : TopicRef) : Prop :=
  (ref.name = none ∨ ref.name = some []) ∧ ref.id ≠ 0

/-- The APIs whose later versions refer to topics by id. -/
def idApis : List Api := [.fetch, .metadata, .deleteTopics]

/-- The version has topic ids. -/
def addressesByID (v : Int16) : Api → Bool
  | .fetch => decide (13 ≤ v)
  | .metadata => decide (10 ≤ v)
  | .deleteTopics => decide (6 ≤ v)
  | _ => false

/-- The topic references of a request at version `v`. -/
def topicRefs (v : Int16) : (a : Api) → a.Request → List TopicRef
  | .fetch, r =>
      if 13 ≤ v then
        (r.topics.map fun t => ⟨none, t.topicID⟩) ++
          r.forgottenTopics.map fun t => ⟨none, t.topicID⟩
      else
        (r.topics.map fun t => ⟨some t.topic, 0⟩) ++
          if 7 ≤ v then r.forgottenTopics.map fun t => ⟨some t.topic, 0⟩ else []
  | .metadata, r =>
      (r.topics.getD []).map fun t => ⟨t.topic, if 10 ≤ v then t.topicID else 0⟩
  | .deleteTopics, r =>
      if 6 ≤ v then r.topics.map fun t => ⟨t.topic, t.topicID⟩
      else r.topicNames.map fun n => ⟨some n, 0⟩
  | _, _ => []

/-- A request sent upstream for one of these APIs refers to its topics by prefixed name, at a
version without ids. -/
def TopicsByName (p : GoString) : Packet → Prop
  | .formatted (.api a version req) _ _ =>
      a ∈ idApis → addressesByID version a = false ∧
        ∀ ref ∈ topicRefs version a req, ref.ByName p ∧ ¬ ref.Bare
  | _ => True

/-- What a request of these APIs must satisfy: a version without ids, a name in every
reference, not empty unless the prefix is, and forgotten topics that carry the prefix. -/
def NameKeyed (X : Server) (p : GoString) (frame : Bytes) : Prop :=
  ∀ hdr body a req, Parsed frame hdr body → apiOf hdr.apiKey = some a → a ∈ idApis →
    X.codec.readRequest a hdr.apiVersion body = .ok req →
    addressesByID hdr.apiVersion a = false ∧
      (∀ ref ∈ topicRefs hdr.apiVersion a req, ∃ n, ref.name = some n ∧ (n = [] → p = [])) ∧
      Confined p (leftAlone hdr.apiVersion a req)

/-- A name that was prefixed begins with the prefix, unless it was empty. -/
theorem prefix_prefixIn (p n : GoString) :
    p <+: prefixIn p n ↔ (n = [] → p = []) := by
  by_cases hp : p = []
  · subst hp
    simp
  · rw [prefix_prefixIn_iff hp]
    simp [hp]

/-- Without ids in the version there is none in a reference. -/
theorem topicRefs_id {v : Int16} {a : Api} (hv : addressesByID v a = false) (req : a.Request) :
    ∀ ref ∈ topicRefs v a req, ref.id = 0 := by
  intro ref href
  cases a with
  | fetch =>
      have hv' : ¬ (13 : Int16) ≤ v := by simpa [addressesByID] using hv
      simp only [topicRefs, hv', if_false, List.mem_append, List.mem_map] at href
      rcases href with ⟨t, -, rfl⟩ | hforgotten
      · rfl
      · split at hforgotten
        · obtain ⟨t, -, rfl⟩ := List.mem_map.mp hforgotten
          rfl
        · cases hforgotten
  | metadata =>
      have hv' : ¬ (10 : Int16) ≤ v := by simpa [addressesByID] using hv
      obtain ⟨t, -, rfl⟩ := List.mem_map.mp href
      exact if_neg hv'
  | deleteTopics =>
      have hv' : ¬ (6 : Int16) ≤ v := by simpa [addressesByID] using hv
      simp only [topicRefs, hv', if_false] at href
      obtain ⟨n, -, rfl⟩ := List.mem_map.mp href
      rfl
  | _ => cases href

/-- At a version without ids, the references of a rewritten request are prefixed names
exactly when the request met the condition. -/
theorem byName_requestIn (B : ConsumerCodec) (p : GoString) {v : Int16} {a : Api}
    (ha : a ∈ idApis) (hv : addressesByID v a = false) (req : a.Request) :
    (∀ ref ∈ topicRefs v a (requestIn B p a req), ref.ByName p) ↔
      (∀ ref ∈ topicRefs v a req, ∃ n, ref.name = some n ∧ (n = [] → p = [])) ∧
        Confined p (leftAlone v a req) := by
  cases a with
  | fetch =>
      have hv' : ¬ (13 : Int16) ≤ v := by simpa [addressesByID] using hv
      have hlt : v < 13 := Int16.not_le.mp hv'
      by_cases h7 : 7 ≤ v
      · -- A forgotten topic that starts with the prefix meets the first condition as well.
        have hforgotten : Confined p (req.forgottenTopics.map (·.topic)) →
            ∀ t ∈ req.forgottenTopics, t.topic = [] → p = [] := by
          intro hconf t ht hempty
          have hprefix := hconf _ (List.mem_map_of_mem ht)
          rw [hempty] at hprefix
          exact List.prefix_nil.mp hprefix
        simp [topicRefs, requestIn, fetchRequestIn, leftAlone, hv', h7, hlt, Confined,
          TopicRef.ByName, prefix_prefixIn, or_imp, forall_and] at hforgotten ⊢
        tauto
      · simp [topicRefs, requestIn, fetchRequestIn, leftAlone, hv', h7, Confined,
          TopicRef.ByName, prefix_prefixIn]
  | metadata =>
      have hptr : ∀ name : Option GoString,
          (∃ n, name.map (prefixIn p) = some n ∧ p <+: n) ↔
            ∃ n, name = some n ∧ (n = [] → p = []) := by
        intro name
        cases name <;> simp [prefix_prefixIn]
      cases hts : req.topics with
      | none => simp [topicRefs, requestIn, metadataRequestIn, leftAlone, Confined, hts]
      | some ts =>
          simp only [topicRefs, requestIn, metadataRequestIn, leftAlone, Confined, hts,
            TopicRef.ByName, prefixInPtr_eq_map, Option.map_some, Option.getD_some,
            List.map_map, List.forall_mem_map, Function.comp_apply, hptr]
          simp
  | deleteTopics =>
      have hv' : ¬ (6 : Int16) ≤ v := by simpa [addressesByID] using hv
      simp [topicRefs, requestIn, deleteTopicsRequestIn, leftAlone, Confined, hv',
        TopicRef.ByName, prefix_prefixIn]
  | _ => simp [idApis] at ha

/-- The requests that carry topic ids are answered. -/
theorem wantsNoResponse_idApis {a : Api} (ha : a ∈ idApis) (req : a.Request) :
    wantsNoResponse a req = false := by
  cases a with
  | produce => simp [idApis] at ha
  | _ => rfl

/-- The request forwarded for a frame of one of these APIs. -/
theorem forwardedPacket_idApis {X : Server} {hdr : RequestHeader} {a : Api} {body : Bytes}
    {req : a.Request} (p : GoString) (frame : Bytes) (cid : Int32)
    (hapi : apiOf hdr.apiKey = some a) (ha : a ∈ idApis)
    (hdecoded : X.codec.readRequest a hdr.apiVersion body = .ok req) :
    forwardedPacket X p hdr frame body cid = some (.formatted
      (.api a hdr.apiVersion (requestIn X.codec.consumer p a req)) cid hdr.clientID) := by
  unfold forwardedPacket
  rw [hapi]
  dsimp only
  rw [hdecoded]
  simp [wantsNoResponse_idApis ha]

/-- Where a forwarded request with a handler comes from. -/
theorem forwardedPacket_api {X : Server} {hdr : RequestHeader} {p : GoString}
    {frame body : Bytes} {cid cid' : Int32} {a : Api} {version : Int16} {sent : a.Request}
    {clientID : GoString}
    (h : forwardedPacket X p hdr frame body cid =
      some (.formatted (.api a version sent) cid' clientID)) :
    hdr.apiVersion = version ∧ ∃ req, apiOf hdr.apiKey = some a ∧
      X.codec.readRequest a hdr.apiVersion body = .ok req ∧
      requestIn X.codec.consumer p a req = sent := by
  unfold forwardedPacket at h
  cases hapi : apiOf hdr.apiKey with
  | none =>
      rw [hapi] at h
      cases h
  | some a' =>
      rw [hapi] at h
      dsimp only at h
      cases hdecoded : X.codec.readRequest a' hdr.apiVersion body with
      | error e =>
          rw [hdecoded] at h
          cases h
      | ok req =>
          rw [hdecoded] at h
          dsimp only at h
          split at h
          · cases h
          · cases h
            exact ⟨rfl, req, rfl, hdecoded, rfl⟩

/-- A forwarded Fetch, Metadata or DeleteTopics request refers to its topics by prefixed name
exactly when no upstream is reached or the client's request was keyed by name. -/
theorem topics_byName_frame (X : Server) (E : Env) (frame : Bytes) (c : Conn)
    (hstate : c.state = .authenticated) :
    (∀ packet ∈ requestsFor X E frame c, TopicsByName c.tenant.topicPrefix packet) ↔
      (Reaches X E c → NameKeyed X c.tenant.topicPrefix frame) := by
  constructor
  · rintro h ⟨up, hup, hready⟩ hdr body a req hframe hapi ha hdecoded
    -- No API with a rewrite handler belongs to the handshake.
    have key : needsAuth hdr.apiKey = true := by
      rw [← key_of_apiOf hapi]
      cases a <;> decide
    have hpacket := forwardedPacket_idApis c.tenant.topicPrefix frame (up.corrIDGen + 1) hapi
      ha hdecoded
    -- The request is sent, so what holds of everything sent holds of it.
    obtain ⟨hversion, hrefs⟩ := h _ ((mem_requestsFor hstate _).mpr
      ⟨hdr, body, hframe, key, up, hup, hready, hpacket⟩) ha
    exact ⟨hversion, (byName_requestIn X.codec.consumer _ ha hversion req).mp
      fun ref href => (hrefs ref href).1⟩
  · intro h packet hmem
    obtain ⟨hdr, body, hframe, key, up, hup, hready, hpacket⟩ :=
      (mem_requestsFor hstate packet).mp hmem
    match packet with
    | .raw frame' => exact True.intro
    | .formatted .apiVersions _ _ => exact True.intro
    | .formatted (.saslHandshake _) _ _ => exact True.intro
    | .formatted (.saslAuthenticate _) _ _ => exact True.intro
    | .formatted (.api a version sent) cid clientID =>
        intro ha
        obtain ⟨hversion, req, hapi, hdecoded, hsent⟩ := forwardedPacket_api hpacket
        subst hversion hsent
        obtain ⟨hversion, hnamed⟩ :=
          h ⟨up, hup, hready⟩ hdr body a req hframe hapi ha hdecoded
        refine ⟨hversion, ?_⟩
        intro ref href
        refine ⟨(byName_requestIn X.codec.consumer _ ha hversion req).mpr hnamed ref href, ?_⟩
        rintro ⟨-, hid⟩
        exact hid (topicRefs_id hversion _ ref href)

/-! ### A topic id that goes through -/

/-- One topic without a name, the id 1, a timeout of a second: DeleteTopics v6. -/
def deleteByID : DeleteTopicsRequest where
  topicNames := []
  topics := [{ topic := none, topicID := 1 }]
  timeoutMillis := 1000

/-- The same on the wire: an array of one, a null name, the id, no tagged fields, the timeout
and no tagged fields. -/
def deleteByIDBody : Bytes :=
  [2] ++ [0] ++ (List.replicate 15 0 ++ [1]) ++ [0] ++ appendInt32 1000 ++ [0]

/-- A codec for the SASL messages and DeleteTopics requests. -/
def adminCodec : Codec :=
  { Codec.sasl with
      readRequest := fun a version b =>
        match a with
        | .deleteTopics => readDeleteTopicsRequest version b
        | _ => .error errNotEnoughData }

/-- Delete the topic `orders` by name, at v1. -/
def deleteByNameFrame : Bytes :=
  requestFrame deleteTopicsKey 1 7
    (appendInt32 1 ++ appendString (goString "orders") ++ appendInt32 1000)

/-- Delete a topic by id, at v6, which is above the advertised versions. -/
def deleteByIDFrame : Bytes := requestFrame deleteTopicsKey 6 7 ([0] ++ deleteByIDBody)

/-- A DeleteTopics frame with names only. -/
theorem topics_byName_frame_delete :
    (∀ packet ∈ requestsFor (plainServer adminCodec) noDial deleteByNameFrame acmeConn,
        TopicsByName acmeConn.tenant.topicPrefix packet) ↔
      (Reaches (plainServer adminCodec) noDial acmeConn →
        NameKeyed (plainServer adminCodec) acmeConn.tenant.topicPrefix deleteByNameFrame) :=
  topics_byName_frame (plainServer adminCodec) noDial deleteByNameFrame acmeConn rfl

/-- The request goes upstream as it came, with its bare id. -/
theorem topic_id_bypasses_rewriter :
    requestsFor (plainServer adminCodec) noDial deleteByIDFrame acmeConn =
        [.formatted (.api .deleteTopics 6 deleteByID) 1 []] ∧
      (∃ ref ∈ topicRefs 6 .deleteTopics deleteByID, ref.Bare) ∧
      ¬ TopicsByName acmeConn.tenant.topicPrefix
        (.formatted (.api .deleteTopics 6 deleteByID) 1 []) := by
  refine ⟨by rfl, ⟨⟨none, 1⟩, List.mem_singleton.mpr rfl, Or.inl rfl, by decide⟩, ?_⟩
  intro h
  -- Version 6 has ids.
  cases (h (by decide)).1

end Kroxy.Proofs
