import Kroxy.Proofs.Ordering
import Kroxy.Proofs.ScramRelay
import Kroxy.Proxy.Listener

/-!
# `Kroxy.Proofs.Goroutines`: the connections of a running server, in any interleaving

`ClientStep` lists what an event can do to a client, and `act_step` proves the list complete.

`ServerStep` and `change_step` do the same for the events around the clients.

Two results about `process`, for every order of events in which no goroutine panics:

* `client_alone`: a client gets exactly as far without the traffic of the others, and with the
  instruments as they were or off.
* `client_lives`: what a client's connection went through is a run of `World`. So whatever
  holds in every run of one connection holds for each of them, side by side.
-/

set_option autoImplicit false

namespace Kroxy.Proofs

open Kroxy.Go
open Kroxy.Lib
open Kroxy.Kmsg
open Kroxy.Protocol
open Kroxy.Proxy
open Kroxy.Resolver
open Kroxy.Observability

/-! ### What an event does to a client -/

/-- What an event can do to a client and to what it shares with the others. -/
inductive ClientStep (X : Server) (r : ServerState) (c : Client) :
    ServerState → Client → Prop where
  /-- Nothing: it waits, or it has returned, or the bytes come too late. -/
  | idle : ClientStep X r c r c
  | arrived (bytes : Bytes) :
      ClientStep X r c r
        { c with inbox := c.inbox ++ bytes, arrived := c.arrived ++ bytes }
  | hungUp : ClientStep X r c r { c with hungUp := true }
  | started (phase : c.phase = .started) :
      ClientStep X r c { r with metrics := r.metrics.map Metrics.connectionStarted }
        { c with phase := .looking }
  /-- The context is not done, and the goroutine waits for a frame. -/
  | reads (phase : c.phase = .looking) (live : r.cancelled = false) :
      ClientStep X r c r { c with phase := .reading }
  /-- `serve` returned before it had a frame. -/
  | ended (err : GoError) (phase : c.phase = .looking ∨ c.phase = .reading) :
      ClientStep X r c { r with metrics := r.metrics.map Metrics.connectionEnded }
        { c with phase := .returned err }
  /-- A frame was served. -/
  | served (net : Net) (frame rest : Bytes) (m : Metered) (phase : c.phase = .reading)
      (polled : c.poll = some (.ok (frame, rest)))
      (run : Metered.serveFrame X { net with resolver := r.resolver } frame
        ⟨c.conn, r.metrics⟩ = .ok () m) :
      ClientStep X r c { r with metrics := m.metrics }
        { c with
            conn := m.conn, phase := .looking, inbox := rest, frames := c.frames ++ [frame]
            handled := c.handled ++ [(frame, m.conn.tenant.id)] }
  /-- A frame ended the connection. -/
  | failed (net : Net) (frame rest : Bytes) (e : GoError) (m : Metered)
      (phase : c.phase = .reading) (polled : c.poll = some (.ok (frame, rest)))
      (run : Metered.serveFrame X { net with resolver := r.resolver } frame
        ⟨c.conn, r.metrics⟩ = .error (.err e) m) :
      ClientStep X r c { r with metrics := m.metrics.map Metrics.connectionEnded }
        { c with
            conn := m.conn, phase := .returned e, inbox := rest, frames := c.frames ++ [frame]
            handled := c.handled ++ [(frame, m.conn.tenant.id)] }

section
variable {X : Server} {r r' r₁ : ServerState} {c c' : Client}

/-- A turn of the goroutine is a step. -/
theorem turn_step {net : ClientNet} (h : Client.turn X r net c = some (r', c')) :
    ClientStep X r c r' c' := by
  unfold Client.turn at h
  split at h
  · rename_i hphase
    cases h
    exact .started hphase
  · rename_i hphase
    split at h
    · cases h
      exact .ended _ (Or.inl hphase)
    · rename_i hlive
      split at h
      · cases h
        exact .ended _ (Or.inl hphase)
      · cases h
        exact .reads hphase (by simpa using hlive)
  · rename_i hphase
    split at h
    · cases h
      exact .ended _ (Or.inr hphase)
    · split at h
      · cases h
        exact .idle
      · cases h
        exact .ended _ (Or.inr hphase)
      · rename_i frame rest hpoll
        split at h
        · cases h
          exact .ended _ (Or.inr hphase)
        · unfold Client.serve at h
          split at h
          · rename_i m hrun
            cases h
            exact .served net.toNet frame rest m hphase hpoll hrun
          · rename_i e m hrun
            cases h
            exact .failed net.toNet frame rest e m hphase hpoll hrun
          · cases h
  · cases h
    exact .idle

/-- Every event does one of these. -/
theorem act_step {x : ClientEvent} (h : Client.act X r c x = some (r', c')) :
    ClientStep X r c r' c' := by
  cases x with
  | arrive bytes =>
      cases h
      split
      · exact .idle
      · exact .arrived bytes
  | hangUp =>
      cases h
      exact .hungUp
  | turn net => exact turn_step h

/-- No client touches the tenant table, the context or the accept loop. -/
theorem ClientStep.shared (h : ClientStep X r c r' c') :
    r'.resolver = r.resolver ∧ r'.cancelled = r.cancelled ∧ r'.loop = r.loop ∧
      r'.backoff = r.backoff := by
  cases h <;> exact ⟨rfl, rfl, rfl, rfl⟩

/-- No client turns the instruments on or off. -/
theorem ClientStep.metrics (h : ClientStep X r c r' c') :
    r'.metrics.isSome = r.metrics.isSome := by
  cases h with
  | started phase => exact Option.isSome_map
  | ended err phase => exact Option.isSome_map
  | served net frame rest m phase polled run => exact (Metered.serveFrame_of_ok run).2
  | failed net frame rest e m phase polled run =>
      exact Option.isSome_map.trans (Metered.serveFrame_of_err run).2
  | _ => rfl

/-- What an event does to the connection of a client: nothing, or a turn with the table there is
at that moment. -/
theorem ClientStep.conn_turn (h : ClientStep X r c r' c') :
    c'.conn = c.conn ∨ ∃ E hdr frame body out conn frames, E.resolver = r.resolver ∧
      Turn X E hdr frame body c.conn out conn ∧ c'.conn = { conn with written := frames } := by
  cases h with
  | served net frame rest m phase polled run =>
      have hrun := (Metered.serveFrame_of_ok run).1
      obtain ⟨hdr, body, -, -, resp, conn, turn, hconn⟩ := (serveFrame_turn X _ _ _).of_ok hrun
      exact Or.inr ⟨_, hdr, frame, body, some resp, conn, _, rfl, turn, hconn⟩
  | failed net frame rest e m phase polled run =>
      have hrun := (Metered.serveFrame_of_err run).1
      rcases (serveFrame_turn X _ _ _).of_error hrun with hsame | ⟨hdr, body, -, -, turn⟩
      · exact Or.inl hsame
      · exact Or.inr ⟨_, hdr, frame, body, none, _, _, rfl, turn, rfl⟩
  | _ => exact Or.inl rfl

/-! ### What an event does to the rest of the server -/

/-- What an event around the clients can do to the shared state. -/
inductive ServerStep (r : ServerState) (clients : List Client) :
    ServerEvent → ServerState → Prop where
  /-- The event cannot happen where `Run` stands. -/
  | stutter (g : ServerEvent) (spawn : r.spawn g = []) (table : ∀ op, g ≠ .admin op)
      (ctx : g ≠ .cancel) : ServerStep r clients g r
  | accepted (loop : r.loop = .accepting) :
      ServerStep r clients .accepted { r with backoff := 0 }
  /-- The listener is closed, or the context is done. -/
  | stopped (errClosed : Bool) (loop : r.loop = .accepting)
      (why : r.cancelled = true ∨ errClosed = true) :
      ServerStep r clients (.acceptFailed errClosed) { r with loop := .draining }
  | transient (loop : r.loop = .accepting) (live : r.cancelled = false) :
      ServerStep r clients (.acceptFailed false)
        { r with loop := .sleeping, backoff := nextBackoff r.backoff }
  | timer (loop : r.loop = .sleeping) : ServerStep r clients .timer { r with loop := .accepting }
  | woken (loop : r.loop = .sleeping) (ctx : r.cancelled = true) :
      ServerStep r clients .woken { r with loop := .draining }
  | waited (loop : r.loop = .draining) (all : ∀ c ∈ clients, c.phase.isReturned = true) :
      ServerStep r clients .waited { r with loop := .returned }
  | cancel : ServerStep r clients .cancel { r with cancelled := true }
  | admin (op : MemoryResolver.Op) :
      ServerStep r clients (.admin op) { r with resolver := r.resolver.apply op }

/-- So is a change of the server. -/
theorem change_step (r : ServerState) (clients : List Client) (g : ServerEvent) :
    ServerStep r clients g (r.change clients g) := by
  cases g with
  | cancel => exact .cancel
  | admin op => exact .admin op
  | accepted =>
      simp only [ServerState.change]
      split
      · rename_i hloop
        exact .accepted hloop
      · rename_i hloop
        exact .stutter _ (by simp [ServerState.spawn, hloop]) nofun nofun
  | acceptFailed errClosed =>
      simp only [ServerState.change]
      split
      · exact .stutter _ rfl nofun nofun
      · rename_i hloop
        split
        · rename_i hwhy
          exact .stopped errClosed (not_not.mp hloop) hwhy
        · rename_i hwhy
          simp only [not_or, Bool.not_eq_true] at hwhy
          rw [hwhy.2]
          exact .transient (not_not.mp hloop) hwhy.1
  | timer =>
      simp only [ServerState.change]
      split
      · rename_i hloop
        exact .timer hloop
      · exact .stutter _ rfl nofun nofun
  | woken =>
      simp only [ServerState.change]
      split
      · rename_i hboth
        exact .woken hboth.1 hboth.2
      · exact .stutter _ rfl nofun nofun
  | waited =>
      simp only [ServerState.change]
      split
      · rename_i hboth
        exact .waited hboth.1 (List.all_eq_true.mp hboth.2)
      · exact .stutter _ rfl nofun nofun

/-- Every goroutine starts with a fresh connection, while `Run` accepts. -/
theorem mem_spawn {r : ServerState} {g : ServerEvent} {c : Client} (h : c ∈ r.spawn g) :
    c = {} ∧ g = .accepted ∧ r.loop = .accepting := by
  cases g with
  | accepted =>
      simp only [ServerState.spawn] at h
      split at h
      · rename_i hloop
        exact ⟨List.mem_singleton.mp h, rfl, hloop⟩
      · cases h
  | _ => cases h

/-! ### Clients do not see each other -/

/-- What a served frame makes of a client, without the instruments. -/
def servedClient (X : Server) (table : MemoryResolver) (net : Net) (frame : Bytes)
    (c : Client) : Option Client :=
  match serveFrame X { net with resolver := table } frame c.conn with
  | .ok () conn =>
      some { c with
        conn, phase := .looking, handled := c.handled ++ [(frame, conn.tenant.id)] }
  | .error (.err e) conn =>
      some { c with
        conn, phase := .returned e, handled := c.handled ++ [(frame, conn.tenant.id)] }
  | .error .panic _ => none

/-- A goroutine that gets through a frame gets through it without the instruments, and with
instruments that are on only if they were on before. -/
theorem serve_part {net : Net} {frame : Bytes} (htable : r₁.resolver = r.resolver)
    (hmetrics : r₁.metrics.isSome = true → r.metrics.isSome = true)
    (h : Client.serve X r net frame c = some (r', c')) :
    ∃ r₁', Client.serve X r₁ net frame c = some (r₁', c') := by
  -- What is left of the client is what the plain program leaves, whenever nothing panics.
  have hsnd : ∀ q : ServerState, q.resolver = r.resolver →
      ¬ Fails .panic (Metered.serveFrame X { net with resolver := q.resolver } frame)
        ⟨c.conn, q.metrics⟩ →
      (Client.serve X q net frame c).map Prod.snd = servedClient X r.resolver net frame c := by
    intro q hq hlive
    have hmatch := Metered.matches_of_not_panics hlive
    unfold Client.serve servedClient
    rw [← hq]
    generalize Metered.serveFrame X { net with resolver := q.resolver } frame
      ⟨c.conn, q.metrics⟩ = left at hmatch ⊢
    generalize serveFrame X { net with resolver := q.resolver } frame c.conn = right
      at hmatch ⊢
    cases hmatch with
    | ok a hs => simp [hs.1]
    | error stop hs => cases stop <;> simp [hs.1, Client.finish]
  have hlive : ¬ Fails .panic (Metered.serveFrame X { net with resolver := r.resolver } frame)
      ⟨c.conn, r.metrics⟩ := by
    rintro ⟨m, hpanic⟩
    unfold Client.serve at h
    rw [hpanic] at h
    cases h
  have hlive₁ : ¬ Fails .panic (Metered.serveFrame X { net with resolver := r₁.resolver } frame)
      ⟨c.conn, r₁.metrics⟩ := by
    rw [htable, Metered.panics_serveFrame_iff]
    rw [Metered.panics_serveFrame_iff] at hlive
    rintro (hpanic | ⟨hon, hlabel⟩)
    · exact hlive (Or.inl hpanic)
    · exact hlive (Or.inr ⟨hmetrics hon, hlabel⟩)
  have hboth : (Client.serve X r₁ net frame c).map Prod.snd = some c' := by
    rw [hsnd r₁ htable hlive₁, ← hsnd r rfl hlive, h]
    rfl
  obtain ⟨⟨r₁', c₁⟩, hserve, rfl⟩ := Option.map_eq_some_iff.mp hboth
  exact ⟨r₁', hserve⟩

/-- Of what the clients share, an event on one of them reads the table and the context, and
whether the instruments are on. -/
theorem act_part (htable : r₁.resolver = r.resolver) (hctx : r₁.cancelled = r.cancelled)
    (hmetrics : r₁.metrics.isSome = true → r.metrics.isSome = true) {x : ClientEvent}
    (h : Client.act X r c x = some (r', c')) : ∃ r₁', Client.act X r₁ c x = some (r₁', c') := by
  cases x with
  | arrive bytes =>
      cases h
      exact ⟨r₁, rfl⟩
  | hangUp =>
      cases h
      exact ⟨r₁, rfl⟩
  | turn net =>
      simp only [Client.act, Client.turn] at h ⊢
      cases hphase : c.phase with
      | started =>
          rw [hphase] at h
          cases h
          exact ⟨_, rfl⟩
      | returned err =>
          rw [hphase] at h
          cases h
          exact ⟨_, rfl⟩
      | looking =>
          rw [hphase] at h
          simp only [hctx] at h ⊢
          cases hcancelled : r.cancelled <;> cases hdeadline : net.setDeadline <;>
            simp only [hcancelled, hdeadline] at h ⊢ <;> cases h <;> exact ⟨_, rfl⟩
      | reading =>
          rw [hphase] at h
          cases hread : net.read with
          | some e =>
              simp only [hread] at h ⊢
              cases h
              exact ⟨_, rfl⟩
          | none =>
              simp only [hread] at h ⊢
              cases hpoll : c.poll with
              | none =>
                  simp only [hpoll] at h ⊢
                  cases h
                  exact ⟨_, rfl⟩
              | some got =>
                  simp only [hpoll] at h ⊢
                  cases got with
                  | error e =>
                      cases h
                      exact ⟨_, rfl⟩
                  | ok p =>
                      dsimp only at h ⊢
                      cases hclear : net.clearDeadline with
                      | some e =>
                          simp only [hclear] at h ⊢
                          cases h
                          exact ⟨_, rfl⟩
                      | none =>
                          simp only [hclear] at h ⊢
                          exact serve_part htable hmetrics h

end

/-- The accept loop as a new client can see it: it is over once it waits for the others. -/
def AcceptLoop.seen : AcceptLoop → AcceptLoop
  | .returned => .draining
  | loop => loop

/-- What a client can see of the shared state. -/
def clientView (r : ServerState) : MemoryResolver × Bool × AcceptLoop :=
  (r.resolver, r.cancelled, AcceptLoop.seen r.loop)

/-- Accept loops that look alike accept and sleep alike. -/
theorem AcceptLoop.seen_eq {a b : AcceptLoop} (h : seen a = seen b) :
    (a = .accepting ↔ b = .accepting) ∧ (a = .sleeping ↔ b = .sleeping) := by
  cases a <;> cases b <;> simp_all [seen]

/-- An accepted connection changes the delay only. -/
theorem clientView_accepted (r : ServerState) (cs : List Client) :
    clientView (r.change cs .accepted) = clientView r := by
  simp only [ServerState.change]
  split <;> rfl

/-- From `wg.Wait()` to the return is not seen. -/
theorem clientView_waited (r : ServerState) (cs : List Client) :
    clientView (r.change cs .waited) = clientView r := by
  simp only [ServerState.change]
  split
  · rename_i hdone
    simp only [clientView, hdone.1]
    rfl
  · rfl

/-- The server itself reports nothing. -/
theorem change_metrics (r : ServerState) (cs : List Client) (g : ServerEvent) :
    (r.change cs g).metrics = r.metrics := by
  have hstep := change_step r cs g
  generalize r.change cs g = r' at hstep ⊢
  cases hstep <;> rfl

/-- What a client can see of an event depends on what it could see before. -/
theorem clientView_change {r r₁ : ServerState} (hview : clientView r₁ = clientView r)
    (cs cs₁ : List Client) (g : ServerEvent) :
    clientView (r₁.change cs₁ g) = clientView (r.change cs g) := by
  have htable : r₁.resolver = r.resolver := congrArg Prod.fst hview
  have hctx : r₁.cancelled = r.cancelled := congrArg (·.2.1) hview
  have hloop : AcceptLoop.seen r₁.loop = AcceptLoop.seen r.loop := congrArg (·.2.2) hview
  obtain ⟨hacc, hsleep⟩ := AcceptLoop.seen_eq hloop
  cases g with
  | accepted => rw [clientView_accepted, clientView_accepted, hview]
  | waited => rw [clientView_waited, clientView_waited, hview]
  | acceptFailed errClosed =>
      simp only [ServerState.change, hctx, ne_eq, hacc]
      split
      · exact hview
      · split <;> simp [clientView, htable, AcceptLoop.seen]
  | timer =>
      simp only [ServerState.change, hsleep]
      split
      · simp [clientView, htable, hctx, AcceptLoop.seen]
      · exact hview
  | woken =>
      simp only [ServerState.change, hsleep, hctx]
      split
      · simp [clientView, htable, AcceptLoop.seen]
      · exact hview
  | cancel => simp [ServerState.change, clientView, htable, hloop]
  | admin op => simp [ServerState.change, clientView, htable, hctx, hloop]

/-- A client gets along in `r₁` as it does in `r`: it sees the same, and the instruments are not
switched on. -/
structure GetsAlong (r r₁ : ServerState) : Prop where
  view : clientView r₁ = clientView r
  metrics : r₁.metrics.isSome = true → r.metrics.isSome = true

/-- The clients do not see each other. -/
theorem process_independent (X : Server) : System.Independent (process X) GetsAlong where
  other := by
    intro r r₁ c x r' c' hsame hact
    have hstep := act_step hact
    obtain ⟨htable, hctx, hloop, -⟩ := hstep.shared
    refine ⟨?_, ?_⟩
    · rw [hsame.view]
      simp only [clientView, htable, hctx, hloop]
    · rw [hstep.metrics]
      exact hsame.metrics
  own := by
    intro r r₁ c x r' c' hsame hact
    have htable : r₁.resolver = r.resolver := congrArg Prod.fst hsame.view
    have hctx : r₁.cancelled = r.cancelled := congrArg (·.2.1) hsame.view
    obtain ⟨r₁', hact₁⟩ := act_part htable hctx hsame.metrics hact
    have hstep := act_step hact
    have hstep₁ := act_step hact₁
    refine ⟨r₁', hact₁, ?_, ?_⟩
    · obtain ⟨htable, hctx, hloop, -⟩ := hstep.shared
      obtain ⟨htable₁, hctx₁, hloop₁, -⟩ := hstep₁.shared
      have hview := hsame.view
      simp only [clientView] at hview ⊢
      rw [htable, hctx, hloop, htable₁, hctx₁, hloop₁]
      exact hview
    · rw [hstep.metrics, hstep₁.metrics]
      exact hsame.metrics
  common := by
    intro r r₁ cs cs₁ g hsame
    refine ⟨clientView_change hsame.view cs cs₁ g, ?_⟩
    show (r₁.change cs₁ g).metrics.isSome = true → (r.change cs g).metrics.isSome = true
    rw [change_metrics, change_metrics]
    exact hsame.metrics
  spawn := by
    intro r r₁ g hsame
    have hloop : AcceptLoop.seen r₁.loop = AcceptLoop.seen r.loop :=
      congrArg (·.2.2) hsame.view
    cases g with
    | accepted => simp only [process, ServerState.spawn, (AcceptLoop.seen_eq hloop).1]
    | _ => rfl

/-- A client gets exactly as far when the events of the other clients are left out of the run,
with the instruments it had, with others, or with none. Only switching them on is left out: a
request of a tenant whose id is no label value then panics. -/
theorem client_alone {X : Server} {table : MemoryResolver} {metrics : Option Metrics}
    {es : List (Move ClientEvent ServerEvent)} {s : Joint ServerState Client}
    (h : (process X).run (listening table metrics) es = some s) (i : Nat)
    (metrics' : Option Metrics) (hmetrics : metrics'.isSome = true → metrics.isSome = true) :
    ∃ t, (process X).run (listening table metrics') (es.filter (Move.concerns i)) = some t ∧
      t.parts[i]? = s.parts[i]? ∧ t.shared.resolver = s.shared.resolver ∧
      t.shared.cancelled = s.shared.cancelled := by
  have hstart : System.Alike GetsAlong i (listening table metrics)
      (listening table metrics') := ⟨⟨rfl, hmetrics⟩, rfl, rfl⟩
  obtain ⟨t, ht, halike⟩ := System.run_alone (process_independent X) h hstart
  exact ⟨t, ht, halike.part, congrArg Prod.fst halike.shared.view,
    congrArg (·.2.1) halike.shared.view⟩

/-- The network of a client that meets no errors and no upstream. -/
def quietNet : ClientNet := { dial := fun _ => .error Framing.ioEOF }

/-- Two clients that ask for the API versions. The frame of the first comes in two pieces, and
the second is served in between. -/
def twoClients : List (Move ClientEvent ServerEvent) :=
  let request := requestFrame apiVersionsKey 0 7 []
  [.common .accepted, .common .accepted, .own 0 (.turn quietNet), .own 1 (.turn quietNet),
    .own 0 (.turn quietNet), .own 1 (.turn quietNet),
    .own 0 (.arrive [0, 0]), .own 0 (.turn quietNet),
    .own 1 (.arrive ([0, 0, 0, 10] ++ request)), .own 1 (.turn quietNet),
    .own 0 (.arrive ([0, 10] ++ request)), .own 0 (.turn quietNet)]

/-- Both clients of the run have a frame handed on. -/
theorem twoClients_run :
    ∃ s, (process relayServer).run (listening acmeTable (some {})) twoClients = some s ∧
      s.parts.map (·.frames.length) = [1, 1] :=
  Option.map_eq_some_iff.mp (by decide +kernel)

/-- The first client without the second, and without instruments. -/
theorem client_alone_two :
    ∃ s t, (process relayServer).run (listening acmeTable (some {})) twoClients = some s ∧
      (process relayServer).run (listening acmeTable none)
        (twoClients.filter (Move.concerns 0)) = some t ∧ t.parts[0]? = s.parts[0]? := by
  obtain ⟨s, hs, -⟩ := twoClients_run
  obtain ⟨t, ht, hpart, -⟩ := client_alone hs 0 none nofun
  exact ⟨s, t, hs, ht, hpart⟩

/-! ### Each client lives in a world of its own -/

/-- The changes of the tenant table in a run of the server. -/
def serverOps (es : List (Move ClientEvent ServerEvent)) : List MemoryResolver.Op :=
  es.filterMap fun
    | .common (.admin op) => some op
    | _ => none

/-- The changes of the tenant table in the life of a connection. -/
def adminOps (inputs : List Input) : List MemoryResolver.Op :=
  inputs.filterMap fun
    | .frame _ _ => none
    | .admin op => some op

/-- The client has gone through `inputs`, as the model of one connection has it. -/
structure Lived (X : Server) (table : MemoryResolver) (inputs : List Input) (r : ServerState)
    (c : Client) : Prop where
  conn : (World.run X (World.start table) inputs).conn = c.conn
  resolver : (World.run X (World.start table) inputs).resolver = r.resolver
  /-- The goroutine stops with the connection, or for a reason of its own. -/
  stopped : c.phase.isReturned = false → (World.run X (World.start table) inputs).stopped = none
  frames : clientFrames inputs = c.frames

section
variable {X : Server} {table : MemoryResolver} {r r' : ServerState} {c c' : Client}
variable {inputs : List Input}

/-- A step that leaves the connection alone adds nothing to its life. -/
theorem Lived.same (h : Lived X table inputs r c) (hconn : c'.conn = c.conn)
    (htable : r'.resolver = r.resolver) (hframes : c'.frames = c.frames)
    (hphase : c'.phase.isReturned = false → c.phase.isReturned = false) :
    Lived X table inputs r' c' where
  conn := h.conn.trans hconn.symm
  resolver := h.resolver.trans htable.symm
  stopped := fun hopen => h.stopped (hphase hopen)
  frames := h.frames.trans hframes.symm

/-- A frame that the client's goroutine handled is handled in the world the same way. -/
theorem Lived.frame {net : Net} {frame : Bytes} {m : Metered} (h : Lived X table inputs r c)
    (hopen : c.phase.isReturned = false) (htable : r'.resolver = r.resolver)
    (hconn : c'.conn = m.conn) (hframes : c'.frames = c.frames ++ [frame])
    (hrun : Metered.serveFrame X { net with resolver := r.resolver } frame
        ⟨c.conn, r.metrics⟩ = .ok () m ∨
      c'.phase.isReturned = true ∧ ∃ e, Metered.serveFrame X { net with resolver := r.resolver }
        frame ⟨c.conn, r.metrics⟩ = .error (.err e) m) :
    Lived X table (inputs ++ [.frame frame net]) r' c' := by
  have hworld : World.run X (World.start table) inputs = ⟨r.resolver, c.conn, none⟩ := by
    rw [← h.conn, ← h.resolver, ← h.stopped hopen]
  have hafter : ∃ stopped, World.run X (World.start table) (inputs ++ [.frame frame net]) =
      ⟨r.resolver, m.conn, stopped⟩ ∧ (c'.phase.isReturned = false → stopped = none) := by
    rw [run_concat, hworld]
    -- The reports are not seen, so the world takes the step without them.
    rcases hrun with hok | ⟨hret, e, herr⟩
    · have hplain := (Metered.serveFrame_of_ok hok).1
      exact ⟨none, by simp only [World.step, hplain], fun _ => rfl⟩
    · have hplain := (Metered.serveFrame_of_err herr).1
      refine ⟨some (.err e), by simp only [World.step, hplain], fun hnot => ?_⟩
      rw [hret] at hnot
      cases hnot
  obtain ⟨stopped, hstep, hstopped⟩ := hafter
  refine ⟨by rw [hstep, hconn], by rw [hstep, htable], ?_, ?_⟩
  · intro hopen'
    rw [hstep]
    exact hstopped hopen'
  · rw [clientFrames_concat, h.frames, hframes]
    rfl

/-- One event of a client is at most one frame more in its life. -/
theorem Lived.step (h : Lived X table inputs r c) (hstep : ClientStep X r c r' c') :
    ∃ inputs', Lived X table inputs' r' c' ∧ adminOps inputs' = adminOps inputs := by
  have hops : ∀ frame net, adminOps (inputs ++ [.frame frame net]) = adminOps inputs := by
    simp [adminOps]
  cases hstep with
  | idle => exact ⟨inputs, h, rfl⟩
  | arrived bytes => exact ⟨inputs, h.same rfl rfl rfl id, rfl⟩
  | hungUp => exact ⟨inputs, h.same rfl rfl rfl id, rfl⟩
  | started phase => exact ⟨inputs, h.same rfl rfl rfl fun _ => by rw [phase]; rfl, rfl⟩
  | reads phase live => exact ⟨inputs, h.same rfl rfl rfl fun _ => by rw [phase]; rfl, rfl⟩
  | ended err phase => exact ⟨inputs, h.same rfl rfl rfl (fun hnot => by cases hnot), rfl⟩
  | served net frame rest m phase polled run =>
      exact ⟨_, h.frame (by rw [phase]; rfl) rfl rfl rfl (Or.inl run), hops frame net⟩
  | failed net frame rest e m phase polled run =>
      exact ⟨_, h.frame (by rw [phase]; rfl) rfl rfl rfl (Or.inr ⟨rfl, _, run⟩), hops frame net⟩

/-- A change of the table is part of every life. -/
theorem Lived.admin (h : Lived X table inputs r c) (op : MemoryResolver.Op)
    (htable : r'.resolver = r.resolver.apply op) :
    Lived X table (inputs ++ [.admin op]) r' c := by
  refine ⟨?_, ?_, ?_, ?_⟩
  · rw [run_concat]
    exact h.conn
  · rw [run_concat, htable, ← h.resolver]
    rfl
  · intro hopen
    rw [run_concat]
    exact h.stopped hopen
  · rw [clientFrames_concat, h.frames]
    simp [clientFrames]

end

/-- A connection that has just been accepted has only seen the table change. -/
theorem Lived.accepted (X : Server) (table : MemoryResolver) (ops : List MemoryResolver.Op)
    {r : ServerState} (h : r.resolver = ops.foldl MemoryResolver.apply table) :
    Lived X table (ops.map .admin) r {} := by
  have hrun : World.run X (World.start table) (ops.map .admin) =
      World.start (ops.foldl MemoryResolver.apply table) := by
    clear h
    induction ops generalizing table with
    | nil => rfl
    | cons op ops ih => exact ih (table.apply op)
  refine ⟨?_, ?_, ?_, ?_⟩
  · rw [hrun]
    rfl
  · rw [hrun, h]
    rfl
  · intro _
    rw [hrun]
    rfl
  · simp [clientFrames]

/-- The admin calls of a run that has nothing else. -/
theorem adminOps_map_admin (ops : List MemoryResolver.Op) : adminOps (ops.map .admin) = ops := by
  simp [adminOps, List.filterMap_map]

/-- The calls of a run with one more event. -/
theorem serverOps_concat (es : List (Move ClientEvent ServerEvent))
    (e : Move ClientEvent ServerEvent) :
    serverOps (es ++ [e]) = serverOps es ++ serverOps [e] := List.filterMap_append

/-- Only the admin service changes the table. -/
theorem change_resolver (r : ServerState) (cs : List Client) (g : ServerEvent) :
    (r.change cs g).resolver = (serverOps [.common g]).foldl MemoryResolver.apply r.resolver := by
  have hstep := change_step r cs g
  generalize r.change cs g = r' at hstep ⊢
  cases hstep with
  | stutter _ spawn table ctx =>
      cases g with
      | admin op => exact absurd rfl (table op)
      | _ => rfl
  | _ => rfl

/-- An event of the server is at most one change of the table in each life. -/
theorem Lived.common {X : Server} {table : MemoryResolver} {inputs : List Input}
    {r : ServerState} {c : Client} (h : Lived X table inputs r c) (cs : List Client)
    (g : ServerEvent) : ∃ inputs', Lived X table inputs' (r.change cs g) c ∧
      adminOps inputs' = adminOps inputs ++ serverOps [.common g] := by
  have htable := change_resolver r cs g
  cases g with
  | admin op => exact ⟨_, h.admin op htable, by simp [adminOps, serverOps]⟩
  | _ => exact ⟨inputs, h.same rfl htable rfl id, by simp [serverOps]⟩

/-- What each client of a running server goes through, it can go through alone: frame by frame
as `World.run` has it, with the same changes of the table. -/
theorem client_lives {X : Server} {table : MemoryResolver} {metrics : Option Metrics}
    {es : List (Move ClientEvent ServerEvent)} {s : Joint ServerState Client}
    (h : (process X).run (listening table metrics) es = some s) :
    ∀ c ∈ s.parts, ∃ inputs, Lived X table inputs s.shared c ∧
      adminOps inputs = serverOps es := by
  refine (System.run_induction (P := fun es t =>
    t.shared.resolver = (serverOps es).foldl MemoryResolver.apply table ∧
      ∀ c ∈ t.parts, ∃ inputs, Lived X table inputs t.shared c ∧
        adminOps inputs = serverOps es) ?_ ?_ h).2
  · exact ⟨rfl, fun c hc => by cases hc⟩
  · intro es t e t' hinv hstep
    obtain ⟨htable, hlives⟩ := hinv
    obtain ⟨i, x, rfl, -, rfl⟩ | ⟨i, x, c, r, c', rfl, hi, hact, rfl⟩ | ⟨g, rfl, rfl⟩ :=
      System.step_cases hstep
    · have hsame : serverOps (es ++ [.own i x]) = serverOps es := by simp [serverOps]
      rw [hsame]
      exact ⟨htable, hlives⟩
    · have hsame : serverOps (es ++ [.own i x]) = serverOps es := by simp [serverOps]
      have hclient := act_step hact
      rw [hsame]
      refine ⟨hclient.shared.1.trans htable, ?_⟩
      intro d hd
      rcases List.mem_or_eq_of_mem_set hd with hd | rfl
      · -- Another client sees the same table.
        obtain ⟨inputs, hlived, hops⟩ := hlives d hd
        exact ⟨inputs, hlived.same rfl hclient.shared.1 rfl id, hops⟩
      · obtain ⟨inputs, hlived, hops⟩ := hlives c (List.mem_of_getElem? hi)
        obtain ⟨inputs', hlived', hops'⟩ := hlived.step hclient
        exact ⟨inputs', hlived', hops'.trans hops⟩
    · have hchange : (t.shared.change t.parts g).resolver =
          (serverOps (es ++ [.common g])).foldl MemoryResolver.apply table := by
        rw [change_resolver, htable, serverOps_concat, List.foldl_append]
      refine ⟨hchange, ?_⟩
      intro d hd
      rcases List.mem_append.mp hd with hd | hd
      · obtain ⟨inputs, hlived, hops⟩ := hlives d hd
        obtain ⟨inputs', hlived', hops'⟩ := hlived.common t.parts g
        exact ⟨inputs', hlived', by rw [hops', hops, serverOps_concat]⟩
      · -- A new client was not there for the changes before it.
        obtain ⟨rfl, -⟩ := mem_spawn hd
        exact ⟨_, Lived.accepted X table _ hchange, adminOps_map_admin _⟩

end Kroxy.Proofs
