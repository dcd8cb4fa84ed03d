import Kroxy.Proofs.Confinement
import Kroxy.Proofs.Delivery

/-!
# `Kroxy.Proofs.Forwarding`: the dialogue with a client is the dialogue with its broker

A client's frames, with the responses written for them, are one side of a dialogue (`talk`). The
requests on its upstream connections, with the frames read after them, are the other
(`clientRounds`). `Relayed` relates an entry of one to an entry of the other: the packet is the
client's frame through the request rewriter, and the response is the broker's reply through the
response rewriter, both under the prefix of the client's tenant.

Along every run the two sides go together entry by entry (`told_run`). No request is sent twice,
none is made up, no reply goes to another request, and nothing belongs to another client.

* `dialogue_relayed`: the same for every client of a running server.
* `advertised_rewritten`: a request goes upstream through its rewriter when its key is one that
  the proxy advertises, and as it came when it is not.
* `tenants_apart`: two clients whose prefixes are incomparable name nothing in common upstream,
  as long as their frames are harmless in the sense of `Kroxy.Proofs.Confinement`.
-/

set_option autoImplicit false

namespace Kroxy.Proofs

open Kroxy.Go
open Kroxy.Lib
open Kroxy.Kmsg
open Kroxy.Protocol
open Kroxy.Auth
open Kroxy.Rewrite
open Kroxy.Resolver
open Kroxy.Proxy
open Kroxy.Observability
open Kroxy.Upstream (Packet Event Peer setCorrelationID)

/-- Does the frame need an authenticated client? -/
def isClientRequest (frame : Bytes) : Bool :=
  match parseRequestHeader frame with
  | .ok hdr => needsAuth hdr.apiKey
  | .error _ => false

/-- The key of the header decides whether a frame needs a login. -/
theorem isClientRequest_parsed {frame body : Bytes} {hdr : RequestHeader}
    (h : Parsed frame hdr body) : isClientRequest frame = needsAuth hdr.apiKey := by
  rw [isClientRequest, h.1]

/-! ### The two sides of the dialogue -/

/-- The frame that was read next, if one was. -/
def nextReply : List Event → Option Bytes
  | .received _ frame :: _ => some frame
  | _ => none

/-- The client requests sent over a connection, each with the frame that was read after it. -/
def roundsOn : List Event → List (Packet × Option Bytes)
  | [] => []
  | .received _ _ :: log => roundsOn log
  | .sent packet :: log =>
      if needsAuth packet.key then (packet, nextReply log) :: roundsOn log else roundsOn log

/-- The client requests sent over any of the upstream connections, with their replies. -/
def clientRounds (c : Conn) : List (Packet × Option Bytes) :=
  (upstreams c).flatMap fun up => roundsOn up.log

/-- The frames of a client with the responses written for them. -/
def answers : (frames written : List Bytes) → List (Bytes × Option Bytes)
  | [], _ => []
  | frame :: frames, written => (frame, written.head?) :: answers frames written.tail

/-- The same for the frames that need authentication. -/
def talk (frames written : List Bytes) : List (Bytes × Option Bytes) :=
  (answers frames written).filter fun entry => isClientRequest entry.1

/-- The packet is the frame rewritten, and the response is the reply rewritten. -/
def Relayed (X : Server) (p : GoString) (entry : Bytes × Option Bytes)
    (round : Packet × Option Bytes) : Prop :=
  ∃ hdr body cid, Parsed entry.1 hdr body ∧ needsAuth hdr.apiKey = true ∧
    forwardedPacket X p hdr entry.1 body cid = some round.1 ∧
    ∀ resp ∈ entry.2, ∃ reply ∈ round.2, answerTo X p hdr (reply.drop 4) = some resp

/-- The requests of a log are those of its rounds. -/
theorem requestsOn_eq_map (log : List Event) : requestsOn log = (roundsOn log).map Prod.fst := by
  induction log with
  | nil => rfl
  | cons e log ih =>
      cases e with
      | received i frame => exact ih
      | sent packet =>
          by_cases hkey : needsAuth packet.key = true
          · simp only [roundsOn, if_pos hkey, List.map_cons, ← ih]
            simp [requestsOn, hkey]
          · simp only [roundsOn, if_neg hkey, ← ih]
            simp [requestsOn, hkey]

/-- The same for all upstream connections of a client. -/
theorem clientRequests_eq_map (c : Conn) :
    clientRequests c = (clientRounds c).map Prod.fst := by
  simp only [clientRequests, clientRounds, requestsOn_eq_map, List.map_flatMap]

/-- A log without client requests has no rounds. -/
theorem roundsOn_eq_nil {log : List Event} (h : requestsOn log = []) : roundsOn log = [] := by
  rw [requestsOn_eq_map] at h
  exact List.map_eq_nil_iff.mp h

/-- Nor have connections that only saw handshakes. -/
theorem clientRounds_eq_nil {c : Conn} (h : ∀ up ∈ upstreams c, HandshakeOnly up.log) :
    clientRounds c = [] := by
  rw [clientRounds, List.flatMap_eq_nil_iff]
  exact fun up hup => roundsOn_eq_nil (h up hup).requestsOn

/-- A request that is sent closes the rounds before it. -/
theorem roundsOn_append (log tail : List Event) (packet : Packet) :
    roundsOn (log ++ .sent packet :: tail) = roundsOn log ++ roundsOn (.sent packet :: tail) := by
  induction log with
  | nil => rfl
  | cons e log ih =>
      cases e with
      | received i frame => exact ih
      | sent first =>
          have hnext : nextReply (log ++ .sent packet :: tail) = nextReply log := by
            cases log with
            | nil => rfl
            | cons e' log => cases e' <;> rfl
          show (if needsAuth first.key then (first, nextReply (log ++ _)) :: roundsOn (log ++ _)
            else roundsOn (log ++ _)) = _
          rw [hnext, ih]
          simp only [roundsOn]
          split <;> rfl

/-- One more frame and its answer. -/
theorem answers_concat {frames written : List Bytes} (h : written.length = frames.length)
    (frame : Bytes) (out : Option Bytes) :
    answers (frames ++ [frame]) (written ++ out.toList) =
      answers frames written ++ [(frame, out)] := by
  induction frames generalizing written with
  | nil =>
      cases List.length_eq_zero_iff.mp h
      cases out <;> rfl
  | cons first frames ih =>
      cases written with
      | nil => cases h
      | cons resp written => exact congrArg _ (ih (Nat.succ.inj h))

/-- Frames that come after the end get no response. -/
theorem answers_append_none {frames written : List Bytes} (h : written.length ≤ frames.length)
    (later : List Bytes) :
    answers (frames ++ later) written =
      answers frames written ++ later.map fun frame => (frame, none) := by
  induction frames generalizing written with
  | nil =>
      cases List.length_eq_zero_iff.mp (Nat.le_zero.mp h)
      induction later with
      | nil => rfl
      | cons frame later ih => exact congrArg _ ih
  | cons first frames ih =>
      cases written with
      | nil => exact congrArg _ (ih (Nat.zero_le _))
      | cons resp written => exact congrArg _ (ih (Nat.le_of_succ_le_succ h))

/-- One more frame counts when it needs a login. -/
theorem talk_concat {frames written : List Bytes} (h : written.length = frames.length)
    {frame body : Bytes} {hdr : RequestHeader} (hparsed : Parsed frame hdr body)
    (out : Option Bytes) :
    talk (frames ++ [frame]) (written ++ out.toList) =
      talk frames written ++ if needsAuth hdr.apiKey = true then [(frame, out)] else [] := by
  rw [talk, answers_concat h, List.filter_append, List.filter_cons,
    isClientRequest_parsed hparsed, List.filter_nil]
  rfl

/-- What was answered was sent. -/
theorem fst_mem_of_mem_answers {frames written : List Bytes} {entry : Bytes × Option Bytes}
    (h : entry ∈ answers frames written) : entry.1 ∈ frames := by
  induction frames generalizing written with
  | nil => cases h
  | cons frame frames ih =>
      rcases List.mem_cons.mp h with rfl | h
      · exact List.mem_cons_self
      · exact List.mem_cons_of_mem _ (ih h)

/-- So was what counts. -/
theorem fst_mem_of_mem_talk {frames written : List Bytes} {entry : Bytes × Option Bytes}
    (h : entry ∈ talk frames written) : entry.1 ∈ frames :=
  fst_mem_of_mem_answers (List.mem_of_mem_filter h)

/-! ### The keys of the ApiVersions response -/

/-- The keys that `handleApiVersions` advertises. -/
def advertisedKeys : List Int16 := advertisedVersions.map (·.apiKey)

/-- The proxy advertises the three handshake APIs and those it rewrites. -/
theorem advertisedKeys_perm :
    advertisedKeys.Perm
      ([apiVersionsKey, saslHandshakeKey, saslAuthenticateKey] ++ rewrittenApis.map Api.key) := by
  decide

/-- So a client that keeps to the advertised keys always meets a rewriter. -/
theorem apiOf_isSome_iff {apiKey : Int16} (h : needsAuth apiKey = true) :
    (apiOf apiKey).isSome ↔ apiKey ∈ advertisedKeys := by
  have hhandshake :
      apiKey ∉ ([apiVersionsKey, saslHandshakeKey, saslAuthenticateKey] : List Int16) := by
    intro hmem
    have hfalse : needsAuth apiKey = false := needsAuth_eq_false.mpr (by simpa using hmem)
    rw [h] at hfalse
    cases hfalse
  rw [advertisedKeys_perm.mem_iff, List.mem_append, or_iff_right hhandshake, apiOf,
    List.find?_isSome, List.mem_map]
  simp only [beq_iff_eq]

/-! ### What a turn adds to the dialogue -/

section
variable {X : Server} {E : Env} {hdr : RequestHeader} {frame body : Bytes} {c c' : Conn}
variable {out : Option Bytes} {packet : Packet} {up up' : Upstream.Conn}

/-- The rounds of the current upstream connection are the client's last. -/
theorem HasUpstream.rounds (h : HasUpstream X E c up) {more : List (Packet × Option Bytes)}
    (hlog : roundsOn up'.log = roundsOn up.log ++ more) :
    clientRounds { c with upstream := some up' } = clientRounds c ++ more := by
  -- A connection dialled for this request has carried its handshake and no client request.
  have hold : (c.upstream.toList.flatMap fun u => roundsOn u.log) = roundsOn up.log := by
    rcases h with hsome | ⟨hnone, hdial⟩
    · rw [hsome]
      simp
    · have hspec := dialUpstream_spec X E c
      rw [hdial] at hspec
      rw [hnone, roundsOn_eq_nil hspec.1.only.requestsOn]
      rfl
  simp only [clientRounds, upstreams, List.flatMap_append, hold]
  simp [hlog]

/-- Sending a client request begins a round. -/
theorem Sends.rounds (h : Sends packet up up') (key : needsAuth packet.key = true) :
    ∃ reply, roundsOn up'.log = roundsOn up.log ++ [(packet, reply)] := by
  obtain ⟨tail, hlog, htail⟩ := h.log
  have hquiet : roundsOn tail = [] := by
    apply roundsOn_eq_nil
    rw [requestsOn, List.filterMap_eq_nil_iff]
    intro e he
    cases e with
    | sent packet' => cases htail _ he
    | received i frame => rfl
  refine ⟨nextReply tail, ?_⟩
  rw [hlog, roundsOn_append, roundsOn, if_pos key, hquiet]

/-- A whole round has its reply. -/
theorem Round.rounds {reply : Bytes} (h : Round packet reply up up')
    (key : needsAuth packet.key = true) :
    roundsOn up'.log = roundsOn up.log ++ [(packet, some reply)] := by
  obtain ⟨i, hlog, -⟩ := h.log
  rw [hlog, roundsOn_append, roundsOn, if_pos key]
  rfl

/-- What a turn adds to the two sides of the dialogue, when its frame needs authentication: an
entry on either side, or one that gets no response. -/
inductive Adds (X : Server) (p : GoString) (frame : Bytes) (out : Option Bytes)
    (rounds : List (Packet × Option Bytes)) : List (Packet × Option Bytes) → Prop where
  | round (new : Packet × Option Bytes) (relayed : Relayed X p (frame, out) new) :
      Adds X p frame out rounds (rounds ++ [new])
  | nothing (silent : out = none) : Adds X p frame out rounds rounds

/-- A turn of an authenticated client. -/
theorem Turn.adds (h : Turn X E hdr frame body c out c') (hparsed : Parsed frame hdr body)
    (hstate : c.state = .authenticated) :
    (needsAuth hdr.apiKey = true →
      Adds X c.tenant.topicPrefix frame out (clientRounds c) (clientRounds c')) ∧
    (needsAuth hdr.apiKey = false → clientRounds c' = clientRounds c) := by
  cases h with
  | idle _ own key => exact ⟨fun hkey => Bool.noConfusion (hkey.symm.trans key), fun _ => rfl⟩
  | early key state => exact absurd hstate state
  | chose mech _ own key state => cases hstate.symm.trans state
  | plain payload creds tenant _ own key state => cases hstate.symm.trans state
  | undialled payload username tenant closed _ own key state => cases hstate.symm.trans state
  | opened payload username tenant up _ _ key state => cases hstate.symm.trans state
  | relayed payload up _ _ key state => cases hstate.symm.trans state
  | unreachable closed key state upstream dialled only =>
      -- The closed connection got no further than its handshake.
      have hclosed : (closed.toList.flatMap fun u => roundsOn u.log) = [] := by
        rw [List.flatMap_eq_nil_iff]
        intro up hup
        exact roundsOn_eq_nil (only up (Option.mem_toList.mp hup)).requestsOn
      have hsame : clientRounds { c with closed := c.closed ++ closed.toList } =
          clientRounds c := by
        simp only [clientRounds, upstreams, List.flatMap_append, hclosed, List.append_nil]
      exact ⟨fun _ => hsame ▸ .nothing rfl, fun _ => hsame⟩
  | unsent up up' key state upstream quiet why =>
      have hsame : clientRounds { c with upstream := some up' } = clientRounds c := by
        have hlog : roundsOn up'.log = roundsOn up.log ++ [] := by
          rw [quiet.log, List.append_nil]
        rw [upstream.rounds hlog, List.append_nil]
      exact ⟨fun _ => hsame ▸ .nothing rfl, fun _ => hsame⟩
  | failed up up' packet key state upstream ready forwarded packetKey sends =>
      obtain ⟨reply, hreply⟩ := sends.rounds (packetKey ▸ key)
      rw [upstream.rounds hreply]
      refine ⟨fun _ => .round (packet, reply) ?_,
        fun hnot => Bool.noConfusion (key.symm.trans hnot)⟩
      refine ⟨hdr, body, up.corrIDGen + 1, hparsed, key, forwarded, ?_⟩
      intro r hr
      cases hr
  | answered up up' packet reply resp key state upstream ready forwarded packetKey round
      answer =>
      rw [upstream.rounds (round.rounds (packetKey ▸ key))]
      refine ⟨fun _ => .round (packet, some reply) ?_,
        fun hnot => Bool.noConfusion (key.symm.trans hnot)⟩
      refine ⟨hdr, body, up.corrIDGen + 1, hparsed, key, forwarded, ?_⟩
      intro r hr
      cases hr
      exact ⟨reply, rfl, answer⟩

end

/-! ### Along a run -/

/-- The dialogue of a connection that has been sent `frames`. -/
structure Told (X : Server) (frames : List Bytes) (w : World) : Prop where
  /-- Nothing goes upstream before authentication. -/
  gated : w.conn.state ≠ .authenticated → clientRounds w.conn = []
  written : w.conn.written.length ≤ frames.length
  /-- An open connection has answered every frame. -/
  answered : w.stopped = none → w.conn.written.length = frames.length
  /-- Both sides go together, up to a frame that ended the connection. -/
  relayed : ∃ done rest, talk frames w.conn.written = done ++ rest ∧
    List.Forall₂ (Relayed X w.conn.tenant.topicPrefix) done (clientRounds w.conn) ∧
    (∀ entry ∈ rest, entry.2 = none) ∧ (w.stopped = none → rest = [])

section
variable {X : Server} {frames : List Bytes} {w : World} {frame body : Bytes}
variable {hdr : RequestHeader} {E : Env} {c : Conn} {out : Option Bytes}

/-- A turn of an authenticated client adds an entry to both sides, or ends the connection. -/
theorem Told.turn_authenticated (h : Told X frames w) (hopen : w.stopped = none)
    (hstate : w.conn.state = .authenticated) (hparsed : Parsed frame hdr body)
    (hturn : Turn X E hdr frame body w.conn out c) {stopped : Option Stop}
    (hout : stopped = none → out.isSome = true) :
    ∃ done rest, talk (frames ++ [frame]) (w.conn.written ++ out.toList) = done ++ rest ∧
      List.Forall₂ (Relayed X c.tenant.topicPrefix) done (clientRounds c) ∧
      (∀ entry ∈ rest, entry.2 = none) ∧ (stopped = none → rest = []) := by
  obtain ⟨done, rest, htalk, hall, -, hnil⟩ := h.relayed
  obtain ⟨-, htenant, -⟩ := hturn.frozen hstate
  rw [talk_concat (h.answered hopen) hparsed, htalk, hnil hopen, List.append_nil, htenant]
  obtain ⟨hadds, hsame⟩ := hturn.adds hparsed hstate
  cases hkey : needsAuth hdr.apiKey with
  | false =>
      rw [hsame hkey]
      exact ⟨done, [], rfl, hall, nofun, fun _ => rfl⟩
  | true =>
      have hadd := hadds hkey
      generalize clientRounds c = rounds at hadd ⊢
      cases hadd with
      | round new relayed =>
          exact ⟨done ++ [(frame, out)], [], by simp, List.rel_append hall (.cons relayed .nil),
            nofun, fun _ => rfl⟩
      | nothing silent =>
          subst silent
          exact ⟨done, [(frame, none)], rfl, hall, by simp, fun hnext => nomatch hout hnext⟩

/-- A turn of any other client adds nothing to the upstream side. -/
theorem Told.turn_unauthenticated (h : Told X frames w) (hsound : Sound X.codec w.conn)
    (hopen : w.stopped = none) (hstate : w.conn.state ≠ .authenticated)
    (hparsed : Parsed frame hdr body) (hturn : Turn X E hdr frame body w.conn out c)
    {stopped : Option Stop} (hout : stopped = none → out.isSome = true) :
    clientRounds c = [] ∧
    ∃ rest, talk (frames ++ [frame]) (w.conn.written ++ out.toList) = rest ∧
      (∀ entry ∈ rest, entry.2 = none) ∧ (stopped = none → rest = []) := by
  obtain ⟨done, rest, htalk, hall, -, hnil⟩ := h.relayed
  rw [h.gated hstate, List.forall₂_nil_right_iff] at hall
  refine ⟨clientRounds_eq_nil (hsound.turn_handshakeOnly hstate hturn), _, rfl, ?_⟩
  rw [talk_concat (h.answered hopen) hparsed, htalk, hnil hopen, hall, List.nil_append,
    List.nil_append]
  cases hkey : needsAuth hdr.apiKey with
  | false => exact ⟨nofun, fun _ => rfl⟩
  | true =>
      -- A request that comes too early ends the connection.
      obtain ⟨rfl, -⟩ := hturn.early_of_unauthenticated hkey hstate
      exact ⟨by simp, fun hnext => nomatch hout hnext⟩

/-- A turn adds one frame, and one round when it needs one. -/
theorem Told.turn (h : Told X frames w) (hsound : Sound X.codec w.conn)
    (hopen : w.stopped = none) (hparsed : Parsed frame hdr body)
    (hturn : Turn X E hdr frame body w.conn out c) {stopped : Option Stop}
    (hout : stopped = none ↔ out.isSome = true) :
    Told X (frames ++ [frame])
      { w with conn := { c with written := w.conn.written ++ out.toList }, stopped } := by
  have hlen := h.answered hopen
  have hwritten : (w.conn.written ++ out.toList).length =
      frames.length + if out.isSome = true then 1 else 0 := by
    cases out <;> simp [hlen]
  have hle : (w.conn.written ++ out.toList).length ≤ (frames ++ [frame]).length := by
    rw [hwritten]
    simp
    split <;> omega
  have hanswered : stopped = none →
      (w.conn.written ++ out.toList).length = (frames ++ [frame]).length := by
    intro hnext
    simp [hwritten, hout.mp hnext]
  by_cases hstate : w.conn.state = .authenticated
  · refine ⟨fun hnot => absurd (hturn.frozen hstate).1 hnot, hle, hanswered, ?_⟩
    exact h.turn_authenticated hopen hstate hparsed hturn hout.mp
  · obtain ⟨hnone, rest, htalk, hsilent, hnil⟩ :=
      h.turn_unauthenticated hsound hopen hstate hparsed hturn hout.mp
    refine ⟨fun _ => hnone, hle, hanswered, [], rest, htalk, ?_, hsilent, hnil⟩
    show List.Forall₂ _ [] (clientRounds c)
    rw [hnone]
    exact .nil

/-- Frames that come after the end of a connection get no response. -/
theorem Told.stopped (h : Told X frames w) (later : List Bytes) {stop : Stop} :
    Told X (frames ++ later) { w with stopped := some stop } := by
  obtain ⟨done, rest, htalk, hall, hsilent, -⟩ := h.relayed
  refine ⟨h.gated, Nat.le_trans h.written (by simp), nofun, done,
    rest ++ (later.map fun frame => (frame, none)).filter fun entry => isClientRequest entry.1,
    ?_, hall, ?_, nofun⟩
  · show talk (frames ++ later) w.conn.written = _
    rw [talk, answers_append_none h.written, List.filter_append, ← List.append_assoc, ← htalk]
    rfl
  · intro entry hentry
    rcases List.mem_append.mp hentry with hold | hnew
    · exact hsilent entry hold
    · obtain ⟨frame, -, rfl⟩ := List.mem_map.mp (List.mem_of_mem_filter hnew)
      rfl

end

/-- The dialogue of a connection, after any run. -/
theorem told_run (X : Server) (r : MemoryResolver) (inputs : List Input) :
    Told X (clientFrames inputs) (World.run X (World.start r) inputs) := by
  refine run_induction (P := fun inputs w => Told X (clientFrames inputs) w) ?_ ?_ ?_ ?_ inputs
  · exact ⟨fun _ => rfl, Nat.le_refl _, fun _ => rfl, [], [], rfl, .nil, nofun, fun _ => rfl⟩
  · intro inputs op h
    rw [clientFrames_concat]
    have hnil : clientFrames inputs ++ clientFrames [.admin op] = clientFrames inputs :=
      List.append_nil _
    rw [hnil]
    exact ⟨h.gated, h.written, h.answered, h.relayed⟩
  · intro inputs bytes net stop hstop h
    rw [clientFrames_concat]
    have hsame : World.run X (World.start r) inputs =
        { World.run X (World.start r) inputs with stopped := some stop } := by rw [← hstop]
    rw [hsame]
    exact h.stopped _
  · intro inputs bytes net w' hopen h hframe
    rw [clientFrames_concat]
    have hsound := sound_run X r inputs
    generalize World.run X (World.start r) inputs = w at hopen h hframe hsound
    cases hframe with
    | answered hdr body resp c parsed sliced turn =>
        have hout : (none : Option Stop) = none ↔ (some resp).isSome = true := by simp
        have htold := h.turn hsound hopen ⟨parsed, sliced⟩ turn hout
        rw [← turn.written, ← hopen] at htold
        exact htold
    | ended stop hdr body c parsed sliced turn =>
        have hout : some stop = none ↔ (none : Option Bytes).isSome = true := by simp
        have htold := h.turn hsound hopen ⟨parsed, sliced⟩ turn hout
        rw [← turn.written, Option.toList_none, List.append_nil] at htold
        exact htold
    | malformed stop => exact h.stopped [bytes]

/-! ### On a running server -/

/-- What is on the right of a list relation has a partner on the left. -/
theorem exists_of_forall₂_right {α β : Type} {R : α → β → Prop} {l : List α} {l' : List β}
    (h : List.Forall₂ R l l') {b : β} (hb : b ∈ l') : ∃ a ∈ l, R a b := by
  induction h with
  | nil => cases hb
  | cons hab _ ih =>
      rcases List.mem_cons.mp hb with rfl | hb
      · exact ⟨_, List.mem_cons_self, hab⟩
      · obtain ⟨a, ha, hR⟩ := ih hb
        exact ⟨a, List.mem_cons_of_mem _ ha, hR⟩

section
variable {X : Server} {table : MemoryResolver} {metrics : Option Metrics}
variable {es : List (Move ClientEvent ServerEvent)} {s : Joint ServerState Client}

/-- The dialogue of a client, as that of a connection in a world of its own. -/
theorem told_client (h : (process X).run (listening table metrics) es = some s) {c : Client}
    (hc : c ∈ s.parts) :
    ∃ w, Told X c.frames w ∧ w.conn = c.conn ∧ (c.phase.isReturned = false → w.stopped = none) := by
  obtain ⟨inputs, hlived, -⟩ := client_lives h c hc
  exact ⟨_, hlived.frames ▸ told_run X table inputs, hlived.conn, hlived.stopped⟩

/-- Whatever the other clients do, the dialogue of a client with the proxy and the dialogue of
the proxy with the client's upstream are the same, entry by entry, through the rewriters and
under the client's own prefix. While the client is connected, no entry is missing. -/
theorem dialogue_relayed (h : (process X).run (listening table metrics) es = some s)
    {c : Client} (hc : c ∈ s.parts) :
    ∃ done rest, talk c.frames c.conn.written = done ++ rest ∧
      List.Forall₂ (Relayed X c.conn.tenant.topicPrefix) done (clientRounds c.conn) ∧
      (∀ entry ∈ rest, entry.2 = none) ∧ (c.phase.isReturned = false → rest = []) := by
  obtain ⟨w, htold, hconn, hopen⟩ := told_client h hc
  obtain ⟨done, rest, htalk, hall, hsilent, hnil⟩ := htold.relayed
  rw [hconn] at htalk hall
  exact ⟨done, rest, htalk, hall, hsilent, fun hphase => hnil (hopen hphase)⟩

/-- What went upstream for a client comes from one of its frames. It is what the rewriter of the
key made of the request, for the keys the proxy advertises, and for all others it is the frame
as it came under a new correlation id. -/
theorem advertised_rewritten (h : (process X).run (listening table metrics) es = some s)
    {c : Client} (hc : c ∈ s.parts) {packet : Packet} (hpacket : packet ∈ clientRequests c.conn) :
    ∃ frame ∈ c.frames, ∃ hdr body cid, Parsed frame hdr body ∧
      ((hdr.apiKey ∈ advertisedKeys ∧ ∃ a req, a.key = hdr.apiKey ∧
          X.codec.readRequest a hdr.apiVersion body = .ok req ∧
          packet = .formatted (.api a hdr.apiVersion
            (requestIn X.codec.consumer c.conn.tenant.topicPrefix a req)) cid hdr.clientID) ∨
        (hdr.apiKey ∉ advertisedKeys ∧ packet = .raw (setCorrelationID frame cid))) := by
  rw [clientRequests_eq_map] at hpacket
  obtain ⟨round, hround, rfl⟩ := List.mem_map.mp hpacket
  obtain ⟨w, htold, hconn, -⟩ := told_client h hc
  obtain ⟨done, rest, htalk, hall, -⟩ := htold.relayed
  rw [hconn] at htalk hall
  obtain ⟨entry, hentry, hdr, body, cid, hparsed, hkey, hsent, -⟩ :=
    exists_of_forall₂_right hall hround
  refine ⟨entry.1, fst_mem_of_mem_talk (htalk ▸ List.mem_append_left _ hentry), hdr, body, cid,
    hparsed, ?_⟩
  have hapi := apiOf_isSome_iff hkey
  unfold forwardedPacket at hsent
  split at hsent
  · rename_i hnone
    rw [hnone] at hapi
    exact Or.inr ⟨by simpa using hapi, (Option.some.inj hsent).symm⟩
  · rename_i a hsome
    rw [hsome] at hapi
    refine Or.inl ⟨hapi.mp rfl, a, ?_⟩
    split at hsent
    · cases hsent
    · rename_i req hread
      split at hsent
      · cases hsent
      · exact ⟨req, key_of_apiOf hsome, hread, (Option.some.inj hsent).symm⟩

/-- A client that sends harmless frames only names nothing outside its prefix. -/
theorem confined_client (h : (process X).run (listening table metrics) es = some s)
    {c : Client} (hc : c ∈ s.parts) {schema : Schema} (hp : c.conn.tenant.topicPrefix ≠ [])
    (hharmless : ∀ f ∈ c.frames, Harmless X schema c.conn.tenant.topicPrefix f) :
    ∀ packet ∈ clientRequests c.conn,
      Confined c.conn.tenant.topicPrefix (packetNames schema packet) := by
  intro packet hpacket
  rw [clientRequests_eq_map] at hpacket
  obtain ⟨round, hround, rfl⟩ := List.mem_map.mp hpacket
  obtain ⟨w, htold, hconn, -⟩ := told_client h hc
  obtain ⟨done, rest, htalk, hall, -⟩ := htold.relayed
  rw [hconn] at htalk hall
  obtain ⟨entry, hentry, hdr, body, cid, hparsed, hkey, hsent, -⟩ :=
    exists_of_forall₂_right hall hround
  have hframe : entry.1 ∈ c.frames := by
    apply fst_mem_of_mem_talk
    rw [htalk]
    exact List.mem_append_left rest hentry
  exact (forwardedPacket_confined X schema hp hparsed hkey cid).mpr (hharmless _ hframe) _ hsent

/-- Two clients with incomparable prefixes that send harmless frames name no topic, group or
transactional id in common upstream, in any interleaving. -/
theorem tenants_apart (h : (process X).run (listening table metrics) es = some s)
    {c d : Client} (hc : c ∈ s.parts) (hd : d ∈ s.parts) {schema : Schema}
    (hprefixes : Incomparable c.conn.tenant.topicPrefix d.conn.tenant.topicPrefix)
    (hharmless : ∀ f ∈ c.frames, Harmless X schema c.conn.tenant.topicPrefix f)
    (hharmless' : ∀ f ∈ d.frames, Harmless X schema d.conn.tenant.topicPrefix f) :
    ∀ packet ∈ clientRequests c.conn, ∀ packet' ∈ clientRequests d.conn,
      ∀ n ∈ packetNames schema packet, n ∉ packetNames schema packet' := by
  intro packet hpacket packet' hpacket' n hn hn'
  have hp : c.conn.tenant.topicPrefix ≠ [] := fun hnil => hprefixes.1 (hnil ▸ List.nil_prefix)
  have hq : d.conn.tenant.topicPrefix ≠ [] := fun hnil => hprefixes.2 (hnil ▸ List.nil_prefix)
  have hcn := confined_client h hc hp hharmless packet hpacket n hn
  have hdn := confined_client h hd hq hharmless' packet' hpacket' n hn'
  rcases List.prefix_or_prefix_of_prefix hcn hdn with hpq | hqp
  · exact hprefixes.1 hpq
  · exact hprefixes.2 hqp

end

/-! ### Two tenants -/

/-- A table with two tenants of one upstream. -/
def twoTenantTable : MemoryResolver :=
  acmeTable.apply (.set ⟨goString "globex", goString "globex.", goString "kafka:9092"⟩)

/-- The frames of a client that logs in and makes a request. -/
def clientSession (tenant : String) (request : Bytes) : List Bytes :=
  [requestFrame saslHandshakeKey 1 1 (appendString mechanismPlain),
    requestFrame saslAuthenticateKey 1 2
      (appendBytes ([0] ++ goString tenant ++ [0] ++ goString "secret")),
    request]

/-- Client `i` sends its frames, and each of them is read and served. -/
def sends {γ : Type} (broker : Peer) (i : Nat) (frames : List Bytes) :
    List (Move ClientEvent γ) :=
  let net : ClientNet := { dial := fun _ => .ok broker }
  frames.flatMap fun frame =>
    [.own i (.arrive (frameBytes frame)), .own i (.turn net), .own i (.turn net)]

/-- Two tenants connect, and each asks for a topic of its own. -/
def twoTenants : List (Move ClientEvent ServerEvent) :=
  [.common .accepted, .common .accepted, .own 0 (.turn quietNet), .own 1 (.turn quietNet)] ++
    sends (saslBroker [0, 0]) 0 (clientSession "acme" (epochFrame "acme.orders")) ++
    sends (saslBroker [0, 0]) 1 (clientSession "globex" (epochFrame "globex.orders"))

/-- Both clients of the run get their answer. -/
theorem twoTenants_run :
    ∃ s, (process relayServer).run (listening twoTenantTable none) twoTenants = some s ∧
      s.parts.map (fun c => (c.conn.tenant.topicPrefix, c.frames,
        (clientRounds c.conn).length, c.phase.isReturned)) =
      [(goString "acme.", clientSession "acme" (epochFrame "acme.orders"), 1, false),
        (goString "globex.", clientSession "globex" (epochFrame "globex.orders"), 1, false)] :=
  Option.map_eq_some_iff.mp (by decide +kernel)

/-- The first tenant's one request and its answer. -/
theorem dialogue_relayed_two :
    ∃ s c, (process relayServer).run (listening twoTenantTable none) twoTenants = some s ∧
      s.parts[0]? = some c ∧ (clientRounds c.conn).length = 1 ∧
      List.Forall₂ (Relayed relayServer c.conn.tenant.topicPrefix)
        (talk c.frames c.conn.written) (clientRounds c.conn) := by
  obtain ⟨s, hs, hparts⟩ := twoTenants_run
  obtain ⟨c, d, hcd⟩ := List.length_eq_two.mp (by simpa using congrArg List.length hparts)
  rw [hcd] at hparts
  simp only [List.map_cons, List.map_nil, List.cons.injEq, Prod.mk.injEq, and_true] at hparts
  obtain ⟨⟨-, -, hrounds, hphase⟩, -⟩ := hparts
  obtain ⟨done, rest, htalk, hall, -, hnil⟩ := dialogue_relayed hs (c := c) (by simp [hcd])
  refine ⟨s, c, hs, by simp [hcd], hrounds, ?_⟩
  rw [htalk, hnil hphase, List.append_nil]
  exact hall

/-- The first tenant's request is for a key that is not advertised. -/
theorem advertised_rewritten_two :
    ∃ s c packet, (process relayServer).run (listening twoTenantTable none) twoTenants = some s ∧
      s.parts[0]? = some c ∧ packet ∈ clientRequests c.conn ∧
      ∃ frame ∈ c.frames, ∃ hdr body cid, Parsed frame hdr body ∧
        packet = .raw (setCorrelationID frame cid) := by
  obtain ⟨s, hs, hparts⟩ := twoTenants_run
  obtain ⟨c, d, hcd⟩ := List.length_eq_two.mp (by simpa using congrArg List.length hparts)
  rw [hcd] at hparts
  simp only [List.map_cons, List.map_nil, List.cons.injEq, Prod.mk.injEq, and_true] at hparts
  obtain ⟨⟨-, -, hrounds, -⟩, -⟩ := hparts
  have hlen : 0 < (clientRequests c.conn).length := by
    rw [clientRequests_eq_map, List.length_map]
    omega
  obtain ⟨packet, hpacket⟩ := List.exists_mem_of_length_pos hlen
  have hc : c ∈ s.parts := by simp [hcd]
  obtain ⟨frame, hframe, hdr, body, cid, hparsed, ⟨-, a, req, -, hread, -⟩ | ⟨-, hraw⟩⟩ :=
    advertised_rewritten hs hc hpacket
  · -- This codec reads no request bodies.
    cases hread
  · exact ⟨s, c, packet, hs, by simp [hcd], hpacket, frame, hframe, hdr, body, cid, hparsed, hraw⟩

/-- A codec that reads no request bodies makes a frame harmless when the names of the raw frame
are. -/
theorem harmless_relayServer {p : GoString} {frame : Bytes}
    (h : Confined p (epochSchema (getBE16 frame).toInt16 (getBE16 (frame.drop 2)).toInt16
      (frame.drop 8))) : Harmless relayServer epochSchema p frame := by
  intro hdr body hparsed _
  obtain ⟨-, hkey, hversion, -⟩ := parseRequestHeader_eq_ok hparsed.1
  split
  · rw [hkey, hversion]
    exact h
  · intro req hread
    cases hread

/-- The frames of a sample session are harmless. -/
theorem clientSession_harmless {p : GoString} {tenant topic : String}
    (h : (clientSession tenant (epochFrame topic)).all (fun frame =>
      (epochSchema (getBE16 frame).toInt16 (getBE16 (frame.drop 2)).toInt16
        (frame.drop 8)).all fun n => p.isPrefixOf n) = true) :
    ∀ f ∈ clientSession tenant (epochFrame topic), Harmless relayServer epochSchema p f := by
  intro f hf
  apply harmless_relayServer
  intro n hn
  exact List.isPrefixOf_iff_prefix.mp (List.all_eq_true.mp (List.all_eq_true.mp h f hf) n hn)

/-- The topics of the two tenants. -/
theorem tenants_apart_two :
    ∃ s c d, (process relayServer).run (listening twoTenantTable none) twoTenants = some s ∧
      s.parts = [c, d] ∧ c.conn.tenant.topicPrefix = goString "acme." ∧
      d.conn.tenant.topicPrefix = goString "globex." ∧
      ∀ packet ∈ clientRequests c.conn, ∀ packet' ∈ clientRequests d.conn,
        ∀ n ∈ packetNames epochSchema packet, n ∉ packetNames epochSchema packet' := by
  obtain ⟨s, hs, hparts⟩ := twoTenants_run
  obtain ⟨c, d, hcd⟩ := List.length_eq_two.mp (by simpa using congrArg List.length hparts)
  rw [hcd] at hparts
  simp only [List.map_cons, List.map_nil, List.cons.injEq, Prod.mk.injEq, and_true] at hparts
  obtain ⟨⟨hp, hc, -⟩, hq, hd, -⟩ := hparts
  refine ⟨s, c, d, hs, hcd, hp, hq, tenants_apart hs (by simp [hcd]) (by simp [hcd]) ?_ ?_ ?_⟩
  · rw [hp, hq]
    decide
  · rw [hp, hc]
    exact clientSession_harmless (by decide +kernel)
  · rw [hq, hd]
    exact clientSession_harmless (by decide +kernel)

end Kroxy.Proofs
