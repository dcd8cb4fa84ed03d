import Kroxy.Lib.Weave
import Kroxy.Proofs.Forwarding
import Kroxy.Proofs.VirtualCluster

/-!
# `Kroxy.Proofs.SharedCluster`: every tenant of a running server has a cluster of its own

The proxy as a whole. Clients of several tenants are connected in any interleaving. Their
requests go to one shared cluster, which works them off in some order of its own. `ServedBy`
says that the cluster's log fits the upstream connections: it has the requests in the order they
were sent on each connection, and the replies that were read are its responses.

`shared_cluster_private` puts three results together. `Told` takes the wire dialogue of a
client to the upstream side, `exists_weave` orders the dialogues of all clients as the cluster's
log does, and `runs_tenantView` splits that log by tenants. In the end each client has been told,
byte for byte, what a cluster that belongs to its tenant alone would have said.
-/

set_option autoImplicit false

namespace Kroxy.Proofs

open Kroxy.Go
open Kroxy.Lib
open Kroxy.Kmsg
open Kroxy.Protocol
open Kroxy.Rewrite
open Kroxy.Resolver
open Kroxy.Proxy
open Kroxy.Broker
open Kroxy.Observability
open Kroxy.Upstream (Packet Peer headerLength)

/-! ### The cluster on the wire -/

/-- The packet is the request of the exchange, and a reply decodes to its response. -/
def OnWire (X : Server) (x : Exchange) (round : Packet × Option Bytes) : Prop :=
  (∃ cid clientID, round.1 = .formatted (.api x.api x.version x.request) cid clientID) ∧
  ∀ reply ∈ round.2,
    X.codec.readResponse x.api x.version (reply.drop (headerLength x.api.key x.version)) =
      .ok x.response

/-- The frame is the request of the exchange, and a response is its response encoded. -/
def Spoken (X : Server) (x : Exchange) (entry : Bytes × Option Bytes) : Prop :=
  ∃ hdr body, Parsed entry.1 hdr body ∧ apiOf hdr.apiKey = some x.api ∧
    hdr.apiVersion = x.version ∧ X.codec.readRequest x.api x.version body = .ok x.request ∧
    ∀ resp ∈ entry.2, resp = encodeResponse (X.codec.appendResponse x.api x.version x.response)
      hdr.correlationID hdr.apiKey hdr.apiVersion

/-- The log of the cluster, with the client each request came from, fits the upstream
connections. A request without a reply may have been lost. -/
structure ServedBy (X : Server) (clients : List Client) (log : List (Nat × Exchange)) :
    Prop where
  known : ∀ x ∈ log, x.1 < clients.length
  rounds : ∀ i c, clients[i]? = some c → ∃ ran lost, clientRounds c.conn = ran ++ lost ∧
    List.Forall₂ (OnWire X) (ownPart i log) ran ∧ ∀ round ∈ lost, round.2 = none

/-- The requests in the frames have no empty names. -/
def FramesNamed (X : Server) (frames : List Bytes) : Prop :=
  ∀ frame ∈ frames, ∀ hdr body a req, Parsed frame hdr body → apiOf hdr.apiKey = some a →
    X.codec.readRequest a hdr.apiVersion body = .ok req → WellNamed hdr.apiVersion a req

/-! ### One client -/

section
variable {X : Server} {host : GoString} {port : Int32}

/-- What the cluster sees of an exchange with a client whose prefix is `p`. -/
def upstreamOf (X : Server) (p : GoString) (x : Exchange) : Exchange :=
  { x with request := requestIn X.codec.consumer p x.api x.request }

/-- What the client sees of it. -/
def clientOf (X : Server) (host : GoString) (port : Int32) (p : GoString) (x : Exchange) :
    Exchange :=
  { x with response := responseOut X.codec.consumer p host port x.api x.response }

/-- Only the two responses that carry an address depend on it. -/
theorem responseOut_addressFor (hadv : advertised X = .ok (host, port)) {a : Api}
    {host' : GoString} {port' : Int32} (haddr : addressFor X a = .ok (host', port'))
    (B : ConsumerCodec) (p : GoString) (resp : a.Response) :
    responseOut B p host' port' a resp = responseOut B p host port a resp := by
  cases a with
  | metadata | findCoordinator =>
      cases hadv.symm.trans haddr
      rfl
  | _ => rfl

/-- The correlation id and then the rest of the response header. -/
theorem drop_headerLength_sub (reply : Bytes) (apiKey apiVersion : Int16) :
    (reply.drop 4).drop (headerLength apiKey apiVersion - 4) =
      reply.drop (headerLength apiKey apiVersion) := by
  have hle : 4 ≤ headerLength apiKey apiVersion := by
    unfold headerLength
    split <;> omega
  rw [List.drop_drop, Nat.add_sub_cancel' hle]

/-- A round that the cluster served is an exchange that the client was told of. -/
theorem Relayed.spoken (hadv : advertised X = .ok (host, port)) {p : GoString}
    {entry : Bytes × Option Bytes} {round : Packet × Option Bytes} {x : Exchange}
    (h : Relayed X p entry round) (hwire : OnWire X x round) :
    ∃ y, x = upstreamOf X p y ∧ Spoken X (clientOf X host port p y) entry := by
  obtain ⟨version, api, request, response⟩ := x
  obtain ⟨hdr, body, cid, hparsed, hkey, hsent, hanswer⟩ := h
  obtain ⟨⟨cid', clientID, hpacket⟩, hreply⟩ := hwire
  unfold forwardedPacket at hsent
  rw [hpacket] at hsent
  -- The cluster has no exchange for a frame that was passed on as it is.
  cases hapi : apiOf hdr.apiKey with
  | none =>
      rw [hapi] at hsent
      cases hsent
  | some a =>
      rw [hapi] at hsent
      cases hread : X.codec.readRequest a hdr.apiVersion body with
      | error e =>
          simp only [hread] at hsent
          cases hsent
      | ok req =>
          simp only [hread] at hsent
          split at hsent
          · cases hsent
          · cases hsent
            refine ⟨⟨hdr.apiVersion, api, req, response⟩, rfl, hdr, body, hparsed, hapi, rfl,
              hread, ?_⟩
            intro resp hresp
            obtain ⟨reply, hmem, hans⟩ := hanswer resp hresp
            have hdecoded := hreply reply hmem
            unfold answerTo at hans
            simp only [hapi, drop_headerLength_sub] at hans
            rw [hdecoded] at hans
            cases haddr : addressFor X api with
            | error e =>
                rw [haddr] at hans
                cases hans
            | ok address =>
                obtain ⟨host', port'⟩ := address
                rw [haddr] at hans
                cases hans
                rw [responseOut_addressFor hadv haddr]
                rfl

/-- The names of an exchange are those of its frame. -/
theorem Spoken.wellNamed {p : GoString} {y : Exchange} {entry : Bytes × Option Bytes}
    {frames : List Bytes} (h : Spoken X (clientOf X host port p y) entry)
    (hframe : entry.1 ∈ frames) (hnames : FramesNamed X frames) :
    WellNamed y.version y.api y.request := by
  obtain ⟨hdr, body, hparsed, hapi, hversion, hread, -⟩ := h
  have hnamed := hnames _ hframe hdr body y.api y.request hparsed hapi
  rw [hversion] at hnamed
  exact hnamed hread

/-- While a connection is open, no frame is without its response. -/
theorem isSome_of_mem_answers {frames written : List Bytes}
    (h : written.length = frames.length) {entry : Bytes × Option Bytes}
    (hentry : entry ∈ answers frames written) : entry.2.isSome = true := by
  induction frames generalizing written with
  | nil => cases hentry
  | cons frame frames ih =>
      cases written with
      | nil => cases h
      | cons resp written =>
          rcases List.mem_cons.mp hentry with rfl | hrest
          · rfl
          · exact ih (Nat.succ.inj h) hrest

/-- The dialogue of a client whose requests the cluster served. -/
structure Overheard (X : Server) (host : GoString) (port : Int32) (p : GoString)
    (frames written : List Bytes) (xs ys : List Exchange) : Prop where
  upstream : List.Forall₂ (fun x y => x = upstreamOf X p y) xs ys
  named : ∀ y ∈ ys, WellNamed y.version y.api y.request
  spoken : ∃ done rest, talk frames written = done ++ rest ∧
    List.Forall₂ (Spoken X) (ys.map (clientOf X host port p)) done ∧
    ∀ entry ∈ rest, entry.2 = none

/-- A client whose rounds the cluster served has such a dialogue. -/
theorem Told.overheard (hadv : advertised X = .ok (host, port)) {frames : List Bytes} {w : World}
    (h : Told X frames w) (hnames : FramesNamed X frames) {xs : List Exchange}
    {ran lost : List (Packet × Option Bytes)} (hrounds : clientRounds w.conn = ran ++ lost)
    (hran : List.Forall₂ (OnWire X) xs ran) (hlost : ∀ round ∈ lost, round.2 = none) :
    ∃ ys, Overheard X host port w.conn.tenant.topicPrefix frames w.conn.written xs ys := by
  obtain ⟨done, rest, htalk, hall, hsilent, -⟩ := h.relayed
  rw [hrounds] at hall
  -- The entries whose requests the cluster served, and those whose requests were lost.
  have hserved := List.forall₂_take_append _ _ _ hall
  have hunserved := List.forall₂_drop_append _ _ _ hall
  obtain ⟨ys, hup, hspoken⟩ := forall₂_middle
    (forall₂_join (fun x entry round hwire hrelayed => hrelayed.spoken hadv hwire) hran hserved)
  have hframes : ∀ entry ∈ done, entry.1 ∈ frames := by
    intro entry hentry
    apply fst_mem_of_mem_talk
    rw [htalk]
    exact List.mem_append_left rest hentry
  refine ⟨ys, hup, ?_, done.take ran.length, done.drop ran.length ++ rest, ?_, ?_, ?_⟩
  · intro y hy
    obtain ⟨entry, hentry, hsaid⟩ := exists_of_forall₂_right hspoken.flip hy
    exact Spoken.wellNamed hsaid (hframes entry (List.mem_of_mem_take hentry)) hnames
  · rw [htalk, ← List.append_assoc, List.take_append_drop]
  · exact List.forall₂_map_left_iff.mpr hspoken
  · intro entry hentry
    rcases List.mem_append.mp hentry with hdone | hrest
    · obtain ⟨round, hround, hdr, body, cid, -, -, -, hreply⟩ :=
        exists_of_forall₂_right hunserved.flip hdone
      -- A response needs a reply, and a lost request has none.
      cases hresp : entry.2 with
      | none => rfl
      | some resp =>
          obtain ⟨reply, hmem, -⟩ := hreply resp hresp
          rw [hlost round hround] at hmem
          cases hmem
    · exact hsilent entry hrest

end

/-! ### All clients -/

section
variable {X : Server} {table : MemoryResolver} {metrics : Option Metrics}
variable {es : List (Move ClientEvent ServerEvent)} {s : Joint ServerState Client}
variable {host : GoString} {port : Int32} {log : List (Nat × Exchange)}

/-- The cluster's log, client by client. -/
theorem overheard_client (h : (process X).run (listening table metrics) es = some s)
    (hadv : advertised X = .ok (host, port)) {i : Nat} {p : GoString} {c : Client}
    (hi : s.parts[i]? = some c)
    (hp : c.conn.state = .authenticated → c.conn.tenant.topicPrefix = p)
    (hnames : FramesNamed X c.frames) (hserved : ServedBy X s.parts log) :
    ∃ ys, Overheard X host port p c.frames c.conn.written (ownPart i log) ys := by
  obtain ⟨w, htold, hconn, -⟩ := told_client h (List.mem_of_getElem? hi)
  obtain ⟨ran, lost, hrounds, hran, hlost⟩ := hserved.rounds i c hi
  rw [← hconn] at hp hrounds ⊢
  obtain ⟨ys, hover⟩ := htold.overheard hadv hnames hrounds hran hlost
  by_cases hstate : w.conn.state = .authenticated
  · exact ⟨ys, hp hstate ▸ hover⟩
  · -- Nothing went upstream, so the prefix does not matter.
    rw [htold.gated hstate, List.nil_eq, List.append_eq_nil_iff] at hrounds
    rw [hrounds.1, List.forall₂_nil_right_iff] at hran
    rw [hran] at hover ⊢
    cases List.forall₂_nil_left_iff.mp hover.upstream
    exact ⟨[], .nil, hover.named, hover.spoken⟩

/-- An open connection leaves no request without a response. -/
theorem silent_eq_nil (h : (process X).run (listening table metrics) es = some s) {c : Client}
    (hc : c ∈ s.parts) (hphase : c.phase.isReturned = false)
    {done rest : List (Bytes × Option Bytes)}
    (htalk : talk c.frames c.conn.written = done ++ rest)
    (hsilent : ∀ entry ∈ rest, entry.2 = none) : rest = [] := by
  obtain ⟨w, htold, hconn, hopen⟩ := told_client h hc
  have hlen := htold.answered (hopen hphase)
  rw [hconn] at hlen
  apply List.eq_nil_iff_forall_not_mem.mpr
  intro entry hentry
  have hmem : entry ∈ talk c.frames c.conn.written := by
    rw [htalk]
    exact List.mem_append_right done hentry
  have hsome := isSome_of_mem_answers hlen (List.mem_of_mem_filter hmem)
  rw [hsilent entry hentry] at hsome
  cases hsome

end

/-- Tenants with non-empty, pairwise incomparable prefixes share a cluster behind a running
server. Whatever the interleaving, and whichever connections have ended, there is one history of
what the clients asked and were told, in their own words: its part for each tenant is a run of a
cluster of the tenant's own, and its part for each client is the client's dialogue on the wire. -/
theorem shared_cluster_private {X : Server} {table : MemoryResolver} {metrics : Option Metrics}
    {es : List (Move ClientEvent ServerEvent)} {s : Joint ServerState Client}
    (h : (process X).run (listening table metrics) es = some s)
    {host : GoString} {port : Int32} (hadv : advertised X = .ok (host, port))
    {ι : Type} [DecidableEq ι] {tenantPrefix : ι → GoString} (hne : ∀ t, tenantPrefix t ≠ [])
    (hinc : ∀ t u, t ≠ u → Incomparable (tenantPrefix t) (tenantPrefix u)) {who : Nat → ι}
    (hwho : ∀ i c, s.parts[i]? = some c → c.conn.state = .authenticated →
      c.conn.tenant.topicPrefix = tenantPrefix (who i))
    (hnames : ∀ c ∈ s.parts, FramesNamed X c.frames)
    {D O : Type} {ops : Ops D O} {log : List (Nat × Exchange)} {cluster : State D O}
    (hserved : ServedBy X s.parts log) (hruns : Runs ops .empty (log.map Prod.snd) cluster) :
    ∃ history : List (Nat × Exchange),
      (∀ t, ∃ own, Runs (asVirtual host port ops) .empty
        ((history.filter fun e => who e.1 = t).map Prod.snd) own) ∧
      ∀ i c, s.parts[i]? = some c → ∃ done rest,
        talk c.frames c.conn.written = done ++ rest ∧
        List.Forall₂ (Spoken X) (ownPart i history) done ∧ (∀ entry ∈ rest, entry.2 = none) ∧
        (c.phase.isReturned = false → rest = []) := by
  have hclient : ∀ i, ∃ ys,
      List.Forall₂ (fun x y => x = upstreamOf X (tenantPrefix (who i)) y) (ownPart i log) ys ∧
      (∀ y ∈ ys, WellNamed y.version y.api y.request) ∧
      ∀ c, s.parts[i]? = some c → Overheard X host port (tenantPrefix (who i)) c.frames
        c.conn.written (ownPart i log) ys := by
    intro i
    cases hi : s.parts[i]? with
    | none =>
        have hnone : ownPart i log = [] := by
          refine ownPart_eq_nil fun x hx heq => ?_
          have hlt := hserved.known x hx
          rw [List.getElem?_eq_none_iff] at hi
          omega
        rw [hnone]
        exact ⟨[], .nil, nofun, nofun⟩
    | some c =>
        obtain ⟨ys, hover⟩ := overheard_client h hadv hi (hwho i c hi)
          (hnames c (List.mem_of_getElem? hi)) hserved
        exact ⟨ys, hover.upstream, hover.named, fun d hd => Option.some.inj hd ▸ hover⟩
  choose parts hup hnamed hover using hclient
  -- One history of all clients, in the order of the cluster's log.
  obtain ⟨woven, hparts, hall⟩ := exists_weave hup
  let visits : List (Visit ι) := woven.map fun e => ⟨who e.1, e.2⟩
  have hvisits : visits.map (Visit.upstream X.codec.consumer tenantPrefix) =
      log.map Prod.snd := by
    have heq : List.Forall₂ (· = ·) (log.map Prod.snd)
        (woven.map fun e => upstreamOf X (tenantPrefix (who e.1)) e.2) := by
      rw [List.forall₂_map_left_iff, List.forall₂_map_right_iff]
      refine hall.imp fun e e' hee => ?_
      rw [hee.1]
      exact hee.2
    rw [List.forall₂_eq_eq_eq] at heq
    rw [heq, List.map_map]
    rfl
  have hvisitNames : ∀ x ∈ visits,
      WellNamed x.exchange.version x.exchange.api x.exchange.request := by
    intro x hx
    obtain ⟨e, he, rfl⟩ := List.mem_map.mp hx
    exact hnamed e.1 e.2 (hparts e.1 ▸ mem_ownPart he)
  refine ⟨woven.map fun e => (e.1, clientOf X host port (tenantPrefix (who e.1)) e.2), ?_, ?_⟩
  · intro t
    have hstart : Owned (tenantPrefix t) (State.empty : State D O) := nofun
    obtain ⟨own, -, hown⟩ := runs_tenantView X.codec.consumer tenantPrefix ops host port hne hinc
      t hvisitNames hstart (hvisits ▸ hruns) (SameEntries.refl State.empty)
    refine ⟨own, ?_⟩
    rw [List.filter_map, List.map_map] at hown ⊢
    exact hown
  · intro i c hi
    obtain ⟨done, rest, htalk, hspoken, hsilent⟩ := (hover i c hi).spoken
    refine ⟨done, rest, htalk, ?_, hsilent, fun hphase =>
      silent_eq_nil h (List.mem_of_getElem? hi) hphase htalk hsilent⟩
    rw [ownPart_map (fun j => clientOf X host port (tenantPrefix (who j))), hparts]
    exact hspoken

/-! ### Two tenants that create a topic -/

/-- A request for one topic. -/
def createRequest (topic : GoString) : CreateTopicsRequest :=
  { topics := [{ topic, numPartitions := 1, replicationFactor := 1 }] }

/-- A codec that reads the body of a CreateTopics request or response as the name of one
topic. -/
def topicCodec : Codec :=
  { Codec.sasl with
      readRequest := fun a _ body => match a with
        | .createTopics => if body = [] then .error errNotEnoughData else .ok (createRequest body)
        | _ => .error errNotEnoughData
      readResponse := fun a _ body => match a with
        | .createTopics => .ok { topics := [{ topic := body, errorCode := 0 }] }
        | _ => .error errNotEnoughData
      appendResponse := fun a _ resp => match a, resp with
        | .createTopics, resp => resp.topics.flatMap (·.topic)
        | _, _ => [] }

/-- A server that reads topic requests. -/
def topicServer : Server := { relayServer with codec := topicCodec }

/-- A broker that has created the topic. -/
def topicBroker (topic : String) : Peer :=
  { saslBroker [0] with
      reply := fun i => if i = 3 then some (appendInt32 4 ++ goString topic)
        else (saslBroker [0]).reply i }

/-- Two tenants connect, and both create `orders`. -/
def twoCreators : List (Move ClientEvent ServerEvent) :=
  let create := requestFrame createTopicsKey 1 7 (goString "orders")
  [.common .accepted, .common .accepted, .own 0 (.turn quietNet), .own 1 (.turn quietNet)] ++
    sends (topicBroker "acme.orders") 0 (clientSession "acme" create) ++
    sends (topicBroker "globex.orders") 1 (clientSession "globex" create)

/-- Is it a request for this topic? -/
def creates (topic : GoString) : Packet → Bool
  | .formatted (.api .createTopics version req) _ _ =>
      decide (version = 1 ∧ req = createRequest topic)
  | _ => false

/-- The packets that create the topic. -/
theorem eq_of_creates {topic : GoString} {packet : Packet} (h : creates topic packet = true) :
    ∃ cid clientID,
      packet = .formatted (.api .createTopics 1 (createRequest topic)) cid clientID := by
  unfold creates at h
  split at h
  · rename_i version req cid clientID
    obtain ⟨rfl, rfl⟩ := of_decide_eq_true h
    exact ⟨cid, clientID, rfl⟩
  · cases h

/-- Has the client made one request, for `orders` under its prefix, and got the reply? -/
def createdOrders (c : Client) : Bool :=
  let topic := c.conn.tenant.topicPrefix ++ goString "orders"
  (clientRounds c.conn).map (fun round => creates topic round.1) == [true] &&
    (clientRounds c.conn).map Prod.snd == [some (appendInt32 4 ++ topic)]

/-- Both clients of the run create their topic. -/
theorem twoCreators_run :
    ∃ s, (process topicServer).run (listening twoTenantTable none) twoCreators = some s ∧
      s.parts.map (fun c => (c.conn.tenant.topicPrefix, createdOrders c)) =
        [(goString "acme.", true), (goString "globex.", true)] :=
  Option.map_eq_some_iff.mp (by decide +kernel)

/-- What the cluster has in its log for a client with this prefix. -/
def createExchange (p : GoString) : Exchange where
  version := 1
  api := .createTopics
  request := createRequest (p ++ goString "orders")
  response := { topics := [{ topic := p ++ goString "orders", errorCode := 0 }] }

/-- The one round of such a client is the sample exchange. -/
theorem createdOrders_onWire {c : Client} (h : createdOrders c = true) :
    List.Forall₂ (OnWire topicServer) [createExchange c.conn.tenant.topicPrefix]
      (clientRounds c.conn) := by
  simp only [createdOrders, Bool.and_eq_true, beq_iff_eq] at h
  obtain ⟨hpackets, hreplies⟩ := h
  obtain ⟨round, hround⟩ := List.length_eq_one_iff.mp (by simpa using congrArg List.length hreplies)
  rw [hround] at hpackets hreplies ⊢
  obtain ⟨cid, clientID, hpacket⟩ := eq_of_creates (List.cons.inj hpackets).1
  have hreply : round.2 = some _ := (List.cons.inj hreplies).1
  refine .cons ⟨⟨cid, clientID, hpacket⟩, ?_⟩ .nil
  intro reply hmem
  cases hreply.symm.trans hmem
  rfl

/-- The sample codec reads no empty name. -/
theorem topicServer_framesNamed (frames : List Bytes) : FramesNamed topicServer frames := by
  intro frame _ hdr body a req _ _ hread
  cases a with
  | createTopics =>
      simp only [topicServer, topicCodec] at hread
      split at hread
      · cases hread
      · rename_i hbody
        cases hread
        simpa [WellNamed, createRequest] using hbody
  | _ => cases hread

/-- The prefixes of the two. -/
def creatorPrefix : Bool → GoString
  | true => goString "acme."
  | false => goString "globex."

/-- Each of the two has a cluster of its own, in which it has created `orders`. -/
theorem shared_cluster_private_two :
    ∃ s history, (process topicServer).run (listening twoTenantTable none) twoCreators = some s ∧
      (∀ t, ∃ own, Runs (asVirtual (goString "proxy") 9092 smallCluster) .empty
        ((history.filter fun e => (e.1 == 0) = t).map Prod.snd) own) ∧
      ∀ i c, s.parts[i]? = some c → ∃ done rest,
        talk c.frames c.conn.written = done ++ rest ∧
        List.Forall₂ (Spoken topicServer) (ownPart i history) done := by
  obtain ⟨s, hs, hparts⟩ := twoCreators_run
  obtain ⟨c, d, hcd⟩ := List.length_eq_two.mp (by simpa using congrArg List.length hparts)
  rw [hcd] at hparts
  simp only [List.map_cons, List.map_nil, List.cons.injEq, Prod.mk.injEq, and_true] at hparts
  obtain ⟨⟨hp, hc⟩, hq, hd⟩ := hparts
  have hcases : ∀ i e, s.parts[i]? = some e → i = 0 ∧ e = c ∨ i = 1 ∧ e = d := by
    intro i e hi
    rw [hcd] at hi
    match i, hi with
    | 0, hi => exact Or.inl ⟨rfl, (Option.some.inj hi).symm⟩
    | 1, hi => exact Or.inr ⟨rfl, (Option.some.inj hi).symm⟩
  have hserved : ServedBy topicServer s.parts
      [(0, createExchange (goString "acme.")), (1, createExchange (goString "globex."))] := by
    refine ⟨by simp [hcd], fun i e hi => ⟨clientRounds e.conn, [], by simp, ?_, nofun⟩⟩
    obtain ⟨rfl, rfl⟩ | ⟨rfl, rfl⟩ := hcases i e hi
    · exact hp ▸ createdOrders_onWire hc
    · exact hq ▸ createdOrders_onWire hd
  have hruns : ∃ cluster, Runs smallCluster .empty
      [createExchange (goString "acme."), createExchange (goString "globex.")] cluster :=
    ⟨_, .cons ⟨_, .refl _, rfl⟩ (.cons ⟨_, .refl _, rfl⟩ (.nil _))⟩
  obtain ⟨cluster, hruns⟩ := hruns
  have hadv : advertised topicServer = .ok (goString "proxy", 9092) := rfl
  have hne : ∀ t, creatorPrefix t ≠ [] := by decide
  have hinc : ∀ t u, t ≠ u → Incomparable (creatorPrefix t) (creatorPrefix u) := by decide
  have hwho : ∀ i e, s.parts[i]? = some e → e.conn.state = .authenticated →
      e.conn.tenant.topicPrefix = creatorPrefix (i == 0) := by
    intro i e hi _
    obtain ⟨rfl, rfl⟩ | ⟨rfl, rfl⟩ := hcases i e hi
    · exact hp
    · exact hq
  obtain ⟨history, hprivate, htold⟩ := shared_cluster_private hs hadv hne hinc hwho
    (fun e _ => topicServer_framesNamed e.frames) hserved hruns
  refine ⟨s, history, hs, hprivate, fun i e hi => ?_⟩
  obtain ⟨done, rest, htalk, hspoken, -⟩ := htold i e hi
  exact ⟨done, rest, htalk, hspoken⟩

end Kroxy.Proofs
