import Kroxy.Kmsg.Wire
import Kroxy.Proofs.AuthGate
import Kroxy.Proofs.Ordering

/-!
# `Kroxy.Proofs.ScramRelay`: which rounds authenticate a SCRAM client

The proxy relays a SCRAM client's messages and counts the rounds the upstream accepted. Two
accepted rounds authenticate the client. The count and the relay state survive a rejected
round, so the two rounds need not be the two of one exchange.

`Completed` is what an authenticated client should have behind it: exactly two rounds, both
accepted, the first with the user name that selected the tenant, the second no other
client-first message. `completed_run_iff` says in which runs that holds throughout: in those
without a late acceptance (`LateAcceptance`), which is the second accepted round of a relay
that has a rejected round behind it or starts a new exchange with this one.
`rejected_round_is_forgotten` is a run with one.
-/

set_option autoImplicit false

namespace Kroxy.Proofs

open Kroxy.Go
open Kroxy.Lib
open Kroxy.Kmsg
open Kroxy.Protocol
open Kroxy.Auth
open Kroxy.Resolver
open Kroxy.Proxy
open Kroxy.Upstream (Peer)

/-- The upstream accepted the round. -/
def RoundAccepted (round : SaslRound) : Prop := round.2 = some 0

instance (round : SaslRound) : Decidable (RoundAccepted round) :=
  inferInstanceAs (Decidable (_ = _))

/-- The first round carries a user name, and `tenant` is what it was looked up as. -/
def SelectedBy (c : Conn) (first : SaslRound) : Prop :=
  ∃ username, parseSCRAMClientFirstUsername first.1 = .ok username ∧
    (username, c.tenant) ∈ c.resolved

/-- A client-first message. It opens an exchange with a GS2 header, whose channel-binding flag
is `n`, `y` or `p=`. A client-final message starts with `c=`. -/
def isClientFirst (payload : Bytes) : Bool :=
  hasPrefix payload (goString "n,") || hasPrefix payload (goString "y,") ||
    hasPrefix payload (goString "p=")

/-- A message the proxy reads a user name from is a client-first message. -/
theorem isClientFirst_of_parsed {payload : Bytes} {username : GoString}
    (h : parseSCRAMClientFirstUsername payload = .ok username) :
    isClientFirst payload = true := by
  unfold parseSCRAMClientFirstUsername at h
  split at h
  · cases h
  · rename_i cb rest hcut
    obtain ⟨rfl, -⟩ := cutByte_eq_some.mp hcut
    -- Only the flag `n` passes the check.
    have hflag : cb = goString "n" := by
      by_contra hne
      unfold checkCbindFlag at h
      rw [if_neg hne] at h
      split at h <;> cases h
    rw [hflag]
    rfl

/-- A completed exchange: two relayed rounds, both accepted. The first of them selected the
tenant, and the second does not open another exchange. -/
def Completed (X : Server) (c : Conn) : Prop :=
  ∃ up first second, c.upstream = some up ∧ saslRounds X.codec up.log = [first, second] ∧
    RoundAccepted first ∧ RoundAccepted second ∧ SelectedBy c first ∧
    isClientFirst second.1 = false

/-- `bytes` is a SaslAuthenticate request with this payload. -/
def SaslRequest (X : Server) (bytes payload : Bytes) : Prop :=
  ∃ hdr body, parseRequestHeader bytes = .ok hdr ∧ sliceFrom bytes hdr.headerSize = .ok body ∧
    hdr.apiKey = saslAuthenticateKey ∧
    X.codec.readSASLAuthenticateRequest hdr.apiVersion body = .ok payload

/-- `payload` is relayed as the second accepted round, and it does not end the exchange of the
first: a round between them was rejected, or it opens an exchange of its own. -/
structure LateAcceptance (X : Server) (c : Conn) (payload : Bytes) (up : Upstream.Conn) :
    Prop where
  mech : isSCRAMMechanism c.clientMechanism = true
  state : c.state = .relaySaslInFlight
  upstream : c.upstream = some up
  counted : c.scramRoundsCompleted = 1
  late : (∃ round ∈ saslRounds X.codec up.log, ¬ RoundAccepted round) ∨
    isClientFirst payload = true
  accepted : ∃ r up', Upstream.relaySASLAuthenticate X.codec payload up = .ok r up' ∧
    r.errCode = 0

/-! ### The invariant of a relay -/

/-- A relay in flight: the tenant was selected by the first round, and the counter counts
the accepted rounds, of which there is at most one. -/
structure Relaying (X : Server) (c : Conn) (up : Upstream.Conn) : Prop where
  rounds : ∃ first rest, saslRounds X.codec up.log = first :: rest ∧ SelectedBy c first
  counted : c.scramRoundsCompleted =
    (saslRounds X.codec up.log).countP fun round => RoundAccepted round
  unfinished : c.scramRoundsCompleted < 2

/-- What the SASL state of an open connection says about its rounds. -/
structure ScramSound (X : Server) (c : Conn) : Prop where
  early : c.state = .awaitHandshake ∨ c.state = .awaitAuth → c.scramRoundsCompleted = 0
  relaying : c.state = .relaySaslInFlight → ∃ up, c.upstream = some up ∧ Relaying X c up
  done : c.state = .authenticated → isSCRAMMechanism c.clientMechanism = true →
    Completed X c

/-- A fresh connection is sound. -/
theorem ScramSound.start (X : Server) : ScramSound X {} where
  early := fun _ => rfl
  relaying := fun h => by cases h
  done := fun h => by cases h

/-- A connection that relays satisfies the invariant by its relay alone. -/
theorem Relaying.scramSound {X : Server} {c : Conn} {up : Upstream.Conn}
    (h : Relaying X c up) (hstate : c.state = .relaySaslInFlight)
    (hup : c.upstream = some up) : ScramSound X c where
  early := fun hs => by
    rw [hstate] at hs
    simp at hs
  relaying := fun _ => ⟨up, hup, h⟩
  done := fun hs => by cases hstate.symm.trans hs

/-- So does an authenticated one by its completed exchange. -/
theorem Completed.scramSound {X : Server} {c : Conn} (h : Completed X c)
    (hstate : c.state = .authenticated) : ScramSound X c where
  early := fun hs => by
    rw [hstate] at hs
    simp at hs
  relaying := fun hs => by cases hstate.symm.trans hs
  done := fun _ _ => h

/-- One accepted round and no rejected one make a single round. -/
theorem exists_eq_singleton {rounds : List SaslRound}
    (hcount : rounds.countP (fun round => RoundAccepted round) = 1)
    (hall : ∀ round ∈ rounds, RoundAccepted round) : ∃ round, rounds = [round] := by
  have hlen : rounds.countP (fun round => RoundAccepted round) = rounds.length :=
    List.countP_eq_length.mpr fun round hround => decide_eq_true (hall round hround)
  exact List.length_eq_one_iff.mp (hlen.symm.trans hcount)

/-- A round that is answered, on a relay with at most one accepted round so far. The result is
a relay again, or a completed exchange. -/
theorem afterRound_sound {X : Server} {c : Conn} {up up' : Upstream.Conn}
    {payload reply : Bytes} {resp : SASLAuthenticateResponse}
    (hstate : c.state = .relaySaslInFlight)
    (hround : Round (saslPacket up payload) reply up up')
    (hresp : X.codec.readSASLAuthenticateResponse 1 (reply.drop 4) = .ok resp)
    (hfirst : ∃ first rest, saslRounds X.codec up'.log = first :: rest ∧ SelectedBy c first)
    (hcounted : c.scramRoundsCompleted =
      (saslRounds X.codec up.log).countP fun round => RoundAccepted round)
    (hunfinished : c.scramRoundsCompleted < 2)
    (hlate : c.scramRoundsCompleted = 1 → resp.errorCode = 0 →
      (∀ round ∈ saslRounds X.codec up.log, RoundAccepted round) ∧
        isClientFirst payload = false) :
    ScramSound X (afterRound c up' resp.errorCode) := by
  have hrounds := saslRounds_round X.codec hround
  rw [saslCode_of_decoded hresp] at hrounds
  unfold afterRound
  by_cases hcode : resp.errorCode ≠ 0
  · -- A rejected round: nothing moves but the history.
    rw [if_pos hcode]
    have hrelaying : Relaying X { c with upstream := some up' } up' := by
      refine ⟨hfirst, ?_, hunfinished⟩
      rw [hrounds, List.countP_append, ← hcounted]
      simp [RoundAccepted, hcode]
    exact hrelaying.scramSound hstate rfl
  · have hzero : resp.errorCode = 0 := not_not.mp hcode
    rw [if_neg hcode]
    by_cases htwo : c.scramRoundsCompleted + 1 ≥ 2
    · -- The second accepted round: no rejected one may stand before it.
      rw [if_pos htwo]
      have hone : c.scramRoundsCompleted = 1 := by omega
      obtain ⟨hall, hfinal⟩ := hlate hone hzero
      obtain ⟨first, hold⟩ := exists_eq_singleton (hcounted.symm.trans hone) hall
      obtain ⟨first', rest, hlist, hselected⟩ := hfirst
      rw [hold, hzero] at hrounds
      cases hlist.symm.trans hrounds
      have hacc : RoundAccepted first := hall first (by simp [hold])
      refine Completed.scramSound ?_ rfl
      exact ⟨up', first, (payload, some 0), rfl, hrounds, hacc, rfl, hselected, hfinal⟩
    · -- The first accepted round: the relay goes on with the count at one.
      rw [if_neg htwo]
      have hrelaying : Relaying X
          { c with upstream := some up', scramRoundsCompleted := c.scramRoundsCompleted + 1 }
          up' := by
        refine ⟨hfirst, ?_, by show c.scramRoundsCompleted + 1 < 2; omega⟩
        show c.scramRoundsCompleted + 1 = _
        rw [hrounds, List.countP_append, ← hcounted]
        simp [RoundAccepted, hzero]
      exact hrelaying.scramSound hstate rfl

/-- The invariant does not read what was written or closed. -/
theorem ScramSound.outside {X : Server} {c : Conn} (h : ScramSound X c)
    (written : List Bytes) (closed : List Upstream.Conn) :
    ScramSound X { c with written := written, closed := closed } := by
  refine ⟨h.early, ?_, h.done⟩
  intro hrelay
  obtain ⟨up, hup, hrelaying⟩ := h.relaying hrelay
  exact ⟨up, hup, hrelaying.rounds, hrelaying.counted, hrelaying.unfinished⟩

/-! ### Turns and runs -/

/-- A relayed round keeps the invariant, unless the connection ends inside the relay. -/
theorem RelayTurn.scramSound {X : Server} {hdr : RequestHeader} {payload : Bytes}
    {c c' : Conn} {up : Upstream.Conn} {out : Option Bytes}
    (h : RelayTurn X hdr payload c up out c') (hstate : c.state = .relaySaslInFlight)
    (hfirst : ∀ (up' : Upstream.Conn) (reply : Bytes), saslRounds X.codec up'.log =
        saslRounds X.codec up.log ++ [(payload, saslCode X.codec reply)] →
      ∃ first rest, saslRounds X.codec up'.log = first :: rest ∧ SelectedBy c first)
    (hcounted : c.scramRoundsCompleted =
      (saslRounds X.codec up.log).countP fun round => RoundAccepted round)
    (hunfinished : c.scramRoundsCompleted < 2)
    (hlate : ∀ r up', Upstream.relaySASLAuthenticate X.codec payload up = .ok r up' →
      r.errCode = 0 → c.scramRoundsCompleted = 1 →
      (∀ round ∈ saslRounds X.codec up.log, RoundAccepted round) ∧
        isClientFirst payload = false) :
    ScramSound X c' ∨ (out = none ∧ c'.state = .relaySaslInFlight) := by
  cases h with
  -- The relay broke off with a payload sent and no round to show for it.
  | broken up' traffic => exact Or.inr ⟨rfl, hstate⟩
  | answered up' reply resp _ round decoded answer ran =>
      refine Or.inl (afterRound_sound hstate round decoded
        (hfirst up' reply (saslRounds_round X.codec round)) hcounted hunfinished ?_)
      intro hone hzero
      obtain ⟨r, hran, hcode⟩ := ran
      exact hlate r up' hran (hcode.trans hzero) hone

/-- A client request leaves a completed exchange as it is. -/
theorem Completed.forward {X : Server} {E : Env} {c : Conn} {up up' : Upstream.Conn}
    (h : Completed X c) (hup : HasUpstream X E c up)
    (hrounds : saslRounds X.codec up'.log = saslRounds X.codec up.log) :
    Completed X { c with upstream := some up' } := by
  obtain ⟨up₀, first, second, hsome, hlist, hrest⟩ := h
  -- The exchange was completed on the connection that is there, so nothing is dialled.
  have hsame : up = up₀ := by
    rcases hup with hsome' | ⟨hnone, -⟩
    · exact Option.some.inj (hsome'.symm.trans hsome)
    · rw [hsome] at hnone
      cases hnone
  refine ⟨up', first, second, rfl, ?_, hrest⟩
  rw [hrounds, hsame, hlist]

/-- Client requests add no SASL round. -/
theorem ScramSound.forward {X : Server} {E : Env} {c : Conn} {up up' : Upstream.Conn}
    (h : ScramSound X c) (hstate : c.state = .authenticated) (hup : HasUpstream X E c up)
    (hrounds : saslRounds X.codec up'.log = saslRounds X.codec up.log) :
    ScramSound X { c with upstream := some up' } where
  early := h.early
  relaying := fun hrelay => by
    have hrelay' : c.state = .relaySaslInFlight := hrelay
    rw [hstate] at hrelay'
    cases hrelay'
  done := fun _ hscram => (h.done hstate hscram).forward hup hrounds

/-- A turn without a late acceptance keeps the invariant, unless the connection ends inside the
relay. -/
theorem ScramSound.turn {X : Server} {E : Env} {hdr : RequestHeader} {frame body : Bytes}
    {c c' : Conn} {out : Option Bytes} (h : ScramSound X c)
    (hlate : ∀ payload up, hdr.apiKey = saslAuthenticateKey →
      X.codec.readSASLAuthenticateRequest hdr.apiVersion body = .ok payload →
      ¬ LateAcceptance X c payload up)
    (hturn : Turn X E hdr frame body c out c') :
    ScramSound X c' ∨ (out = none ∧ c'.state = .relaySaslInFlight) := by
  cases hturn with
  | idle _ own key => exact Or.inl h
  | early key state => exact Or.inl h
  | chose mech _ own key state =>
      refine Or.inl ⟨fun _ => h.early (Or.inl state), ?_, ?_⟩
      · intro hs
        cases hs
      · intro hs
        cases hs
  | plain payload creds tenant _ own key state mech request parsed known =>
      refine Or.inl ⟨fun _ => h.early (Or.inr state), ?_, ?_⟩
      · intro hs
        cases hs
      · intro _ hscram
        have hscram' : isSCRAMMechanism c.clientMechanism = true := hscram
        rw [mech] at hscram'
        cases hscram'
  | undialled payload username tenant closed _ own key state mech request parsed known only =>
      refine Or.inl ⟨fun _ => h.early (Or.inr state), ?_, ?_⟩
      · intro hs
        cases state.symm.trans hs
      · intro hs
        cases state.symm.trans hs
  | opened payload username tenant up _ _ key state mech request parsed known handshaking rounds
      relayed =>
      -- The first round of the connection: no round before it, and its user name was looked up.
      have hzero : c.scramRoundsCompleted = 0 := h.early (Or.inr state)
      refine relayed.scramSound rfl ?_ ?_ ?_ ?_
      · intro up' reply hrounds
        rw [rounds, List.nil_append] at hrounds
        exact ⟨_, [], hrounds, username, parsed, by simp⟩
      · rw [rounds]
        exact hzero
      · show c.scramRoundsCompleted < 2
        omega
      · intro _ _ _ _ hone
        cases hzero.symm.trans hone
  | relayed payload up _ _ key state mech request upstream relayed =>
      obtain ⟨up₁, hup₁, hrelaying⟩ := h.relaying state
      cases upstream.symm.trans hup₁
      obtain ⟨first, rest, hlist, hselected⟩ := hrelaying.rounds
      refine relayed.scramSound state ?_ hrelaying.counted hrelaying.unfinished ?_
      · intro up' reply hrounds
        rw [hlist, List.cons_append] at hrounds
        exact ⟨first, _, hrounds, hselected⟩
      · intro r up' hran hcode hone
        have hnot : ¬ _ := fun hwhy => hlate payload up key request
          ⟨mech, state, upstream, hone, hwhy, r, up', hran, hcode⟩
        -- Neither way of being late is left.
        obtain ⟨hrejected, hfirst⟩ := not_or.mp hnot
        exact ⟨by simpa using hrejected, by simpa using hfirst⟩
  | unreachable closed key state upstream dialled only =>
      exact Or.inl (h.outside _ _)
  | unsent up up' key state upstream quiet why =>
      exact Or.inl (h.forward state upstream (by rw [quiet.log]))
  | failed up up' packet key state upstream ready forwarded packetKey sends =>
      rw [← packetKey] at key
      exact Or.inl (h.forward state upstream
        (sends.saslRounds X.codec (saslPayload_of_needsAuth key)))
  | answered up up' packet reply resp key state upstream ready forwarded packetKey round
      answer =>
      rw [← packetKey] at key
      exact Or.inl (h.forward state upstream
        (round.sends.saslRounds X.codec (saslPayload_of_needsAuth key)))

/-- No frame of the run brings a late acceptance. -/
def NoLateAcceptance (X : Server) (r : MemoryResolver) (inputs : List Input) : Prop :=
  ∀ pre bytes net payload up, pre ++ [Input.frame bytes net] <+: inputs →
    (World.run X (World.start r) pre).stopped = none → SaslRequest X bytes payload →
    ¬ LateAcceptance X (World.run X (World.start r) pre).conn payload up

/-- What holds of a run holds of its beginning. -/
theorem NoLateAcceptance.of_prefix {X : Server} {r : MemoryResolver} {pre inputs : List Input}
    (h : NoLateAcceptance X r inputs) (hpre : pre <+: inputs) : NoLateAcceptance X r pre :=
  fun pre' bytes net payload up hpre' =>
    h pre' bytes net payload up (hpre'.trans hpre)

/-- Open connections keep the invariant, and a connection that ended authenticated has kept
it too. -/
theorem scramSound_run (X : Server) (r : MemoryResolver) (inputs : List Input)
    (h : NoLateAcceptance X r inputs) :
    ScramSound X (World.run X (World.start r) inputs).conn ∨
      ((World.run X (World.start r) inputs).stopped.isSome ∧
        (World.run X (World.start r) inputs).conn.state = .relaySaslInFlight) := by
  -- The hypothesis is about the whole run, so it is part of what the induction proves.
  revert h
  refine run_induction (P := fun inputs w => NoLateAcceptance X r inputs →
    ScramSound X w.conn ∨ (w.stopped.isSome ∧ w.conn.state = .relaySaslInFlight))
    ?_ ?_ ?_ ?_ inputs
  · intro _
    exact Or.inl (ScramSound.start X)
  · intro inputs op ih h
    exact ih (h.of_prefix (List.prefix_append _ _))
  · intro inputs _ _ _ _ ih h
    exact ih (h.of_prefix (List.prefix_append _ _))
  · intro inputs bytes net w' hopen ih hstep h
    have hsound : ScramSound X (World.run X (World.start r) inputs).conn := by
      rcases ih (h.of_prefix (List.prefix_append _ _)) with hsound | ⟨hsome, -⟩
      · exact hsound
      · rw [hopen] at hsome
        cases hsome
    have hlate := fun payload up => h inputs bytes net payload up (List.prefix_refl _) hopen
    cases hstep with
    | answered hdr body resp c parsed sliced turn =>
        rcases hsound.turn (fun payload up key request =>
          hlate payload up ⟨hdr, body, parsed, sliced, key, request⟩) turn with
          hnext | ⟨hnone, -⟩
        · exact Or.inl (hnext.outside _ _)
        · cases hnone
    | ended stop hdr body c parsed sliced turn =>
        rcases hsound.turn (fun payload up key request =>
          hlate payload up ⟨hdr, body, parsed, sliced, key, request⟩) turn with
          hnext | ⟨-, hrelay⟩
        · exact Or.inl hnext
        · exact Or.inr ⟨rfl, hrelay⟩
    | malformed stop => exact Or.inl hsound

/-! ### A late acceptance authenticates -/

/-- The client is authenticated after `payload` was relayed over `up` and accepted, although no
exchange was completed. -/
structure LateLogin (X : Server) (c : Conn) (payload : Bytes) (up : Upstream.Conn)
    (c' : Conn) : Prop where
  state : c'.state = .authenticated
  mech : c'.clientMechanism = c.clientMechanism
  rounds : ∃ up', c'.upstream = some up' ∧
    saslRounds X.codec up'.log = saslRounds X.codec up.log ++ [(payload, some 0)]

/-- What the connection has written plays no part. -/
theorem LateLogin.written {X : Server} {c c' : Conn} {payload : Bytes} {up : Upstream.Conn}
    (h : LateLogin X c payload up c') (frames : List Bytes) :
    LateLogin X c payload up { c' with written := frames } := ⟨h.state, h.mech, h.rounds⟩

/-- The second accepted round authenticates, whether or not the answer reaches the client. -/
theorem LateAcceptance.relayRound {X : Server} {E : Env} {hdr : RequestHeader} {c : Conn}
    {payload : Bytes} {up : Upstream.Conn} (h : LateAcceptance X c payload up) :
    Ends (Proxy.relayRound X E hdr payload) (fun _ => LateLogin X c payload up)
      (fun _ => LateLogin X c payload up) c := by
  obtain ⟨r, up', hran, hcode⟩ := h.accepted
  obtain ⟨reply, resp, hround, hresp, rfl⟩ :=
    (relaySASLAuthenticate_spec X.codec payload up).of_ok hran
  have hzero : resp.errorCode = 0 := hcode
  have hrounds := saslRounds_round X.codec hround
  rw [saslCode_of_decoded hresp, hzero] at hrounds
  refine Ends.bind (ends_wrapErr ?_)
  show Ends (onUpstream _) _ _ c
  unfold Ends onUpstream
  rw [h.upstream]
  dsimp only
  rw [hran]
  dsimp only
  show Ends (if resp.errorCode ≠ 0 then _ else _) _ _ _
  rw [if_neg (not_not.mpr hzero)]
  -- The count was one, so the state is set before the answer is written.
  have hlogin : LateLogin X c payload up
      { c with
          upstream := some up'
          scramRoundsCompleted := c.scramRoundsCompleted + 1
          state := if c.scramRoundsCompleted + 1 ≥ 2 then .authenticated else c.state } := by
    refine ⟨?_, rfl, up', rfl, hrounds⟩
    show (if c.scramRoundsCompleted + 1 ≥ 2 then _ else _) = _
    rw [if_pos (by rw [h.counted])]
  refine Ends.bind (Ends.modify (ends_wrapErr ?_))
  unfold writeFrame
  split
  · exact Ends.throw hlogin
  · exact Ends.modify (hlogin.written _)

/-- So does the frame that carries it. -/
theorem LateAcceptance.serveFrame {X : Server} {E : Env} {bytes : Bytes} {c : Conn}
    {payload : Bytes} {up : Upstream.Conn} (hrequest : SaslRequest X bytes payload)
    (h : LateAcceptance X c payload up) :
    Ends (Proxy.serveFrame X E bytes) (fun _ => LateLogin X c payload up)
      (fun _ => LateLogin X c payload up) c := by
  obtain ⟨hdr, body, hparse, hslice, key, hread⟩ := hrequest
  refine serveFrame_ends hparse hslice ?_
  rw [dispatch_authenticate key]
  refine Ends.bind (Ends.get ?_)
  rw [if_pos h.mech]
  unfold handleSaslAuthenticateSCRAM
  rw [hread]
  refine Ends.bind (Ends.pure (Ends.bind (Ends.get ?_)))
  rw [if_neg (by rw [h.state]; decide), if_pos h.state]
  exact h.relayRound

/-- After a late acceptance no exchange is completed. -/
theorem LateLogin.not_completed {X : Server} {c c' : Conn} {payload : Bytes}
    {up : Upstream.Conn} (h : LateAcceptance X c payload up)
    (hlogin : LateLogin X c payload up c') : ¬ Completed X c' := by
  rintro ⟨up₁, first, second, hup₁, hlist, hfirst, -, -, hfinal⟩
  obtain ⟨up', hup', hrounds⟩ := hlogin.rounds
  cases hup'.symm.trans hup₁
  -- The two rounds of the exchange would be one round of the relay before, and this one.
  have hsplit : [first] ++ [second] = saslRounds X.codec up.log ++ [(payload, some 0)] :=
    hlist.symm.trans hrounds
  obtain ⟨hold, hlast⟩ := List.append_inj' hsplit rfl
  cases hlast
  rcases h.late with ⟨round, hmem, hrejected⟩ | hopens
  · rw [← hold, List.mem_singleton] at hmem
    exact hrejected (hmem ▸ hfirst)
  · exact Bool.false_ne_true (hfinal.symm.trans hopens)

/-- The runs in which every state with an authenticated SCRAM client has a completed exchange
behind it: two rounds, both accepted, the first with the user name that selected the tenant
and the second of the same exchange. They are the runs without a late acceptance. -/
theorem completed_run_iff (X : Server) (r : MemoryResolver) (inputs : List Input) :
    (∀ pre, pre <+: inputs →
      (World.run X (World.start r) pre).conn.state = .authenticated →
      isSCRAMMechanism (World.run X (World.start r) pre).conn.clientMechanism = true →
      Completed X (World.run X (World.start r) pre).conn) ↔
    NoLateAcceptance X r inputs := by
  constructor
  · intro hall pre bytes net payload up hpre hopen hrequest hlate
    have hstep := hlate.serveFrame
      (E := { net with resolver := (World.run X (World.start r) pre).resolver }) hrequest
    have hlogin : LateLogin X (World.run X (World.start r) pre).conn payload up
        (World.run X (World.start r) (pre ++ [.frame bytes net])).conn := by
      rw [run_concat]
      exact step_ends hopen hstep
    refine hlogin.not_completed hlate (hall _ hpre hlogin.state ?_)
    rw [hlogin.mech]
    exact hlate.mech
  · intro h pre hpre hauth hscram
    rcases scramSound_run X r pre (h.of_prefix hpre) with hsound | ⟨-, hrelay⟩
    · exact hsound.done hauth hscram
    · rw [hauth] at hrelay
      cases hrelay

/-! ### Two runs

A client of one tenant over one upstream connection. The broker answers the rounds with the
given codes. -/

/-- A deployment that relays SASL. -/
def relayServer : Server where
  codec := .sasl
  scram := ⟨fun _ _ _ _ => .error errNotEnoughData⟩
  labels := .utf8
  cfg := { advertised := goString "proxy:9092" }

/-- A table with the tenant `acme`. -/
def acmeTable : MemoryResolver :=
  MemoryResolver.empty.apply (.set ⟨goString "acme", goString "acme.", goString "kafka:9092"⟩)

/-- A broker that accepts the handshake and answers the rounds with `codes`. -/
def saslBroker (codes : List Int16) : Peer where
  reply
    | 0 => some (appendInt32 1 ++ appendInt16 0 ++ appendInt32 0)
    | 1 => some (appendInt32 2 ++ Kmsg.appendSASLHandshakeResponse ⟨0, []⟩)
    | i + 2 => codes[i]?.map fun code =>
        appendInt32 (Int32.ofNat (i + 3)) ++
          Kmsg.appendSASLAuthenticateResponse 1 ⟨code, none, [], 0⟩
  fault := fun _ => none

/-- A SCRAM client that sends `payloads` to a broker that answers with `codes`. -/
def scramClient (payloads : List String) (codes : List Int16) : List Input :=
  let net : Net := { dial := fun _ => .ok (saslBroker codes) }
  .frame (requestFrame saslHandshakeKey 1 1 (appendString mechanismSCRAMSHA256)) net ::
    payloads.map fun payload =>
      .frame (requestFrame saslAuthenticateKey 1 2 (appendBytes (goString payload))) net

/-- The two messages of one exchange, both accepted, authenticate the client. -/
example :
    let c := (World.run relayServer (World.start acmeTable)
      (scramClient ["n,,n=acme,r=abc", "c=biws,r=abcdef,p=cHJvb2Y="] [0, 0])).conn
    c.state = .authenticated ∧ c.resolved.map (·.1) = [goString "acme"] ∧
      (c.upstream.map fun up => saslRounds relayServer.codec up.log) =
        some [(goString "n,,n=acme,r=abc", some 0),
          (goString "c=biws,r=abcdef,p=cHJvb2Y=", some 0)] := by decide +kernel

/-- So do two client-first messages of different users, without any rejected round. -/
example :
    let c := (World.run relayServer (World.start acmeTable)
      (scramClient ["n,,n=acme,r=abc", "n,,n=mallory,r=xyz"] [0, 0])).conn
    c.state = .authenticated ∧ c.resolved.map (·.1) = [goString "acme"] ∧
      (c.upstream.map fun up => saslRounds relayServer.codec up.log) =
        some [(goString "n,,n=acme,r=abc", some 0),
          (goString "n,,n=mallory,r=xyz", some 0)] := by decide +kernel

/-- The broker rejects the proof and accepts a new client-first message, which names someone
else. The client is authenticated as `acme`. -/
theorem rejected_round_is_forgotten :
    let c := (World.run relayServer (World.start acmeTable)
      (scramClient ["n,,n=acme,r=abc", "c=biws,r=abcdef,p=d3Jvbmc=", "n,,n=mallory,r=xyz"]
        [0, 58, 0])).conn
    c.state = .authenticated ∧ isSCRAMMechanism c.clientMechanism = true ∧
      c.tenant.id = goString "acme" ∧
      (c.upstream.map fun up => saslRounds relayServer.codec up.log) =
        some [(goString "n,,n=acme,r=abc", some 0),
          (goString "c=biws,r=abcdef,p=d3Jvbmc=", some 58),
          (goString "n,,n=mallory,r=xyz", some 0)] ∧
      ¬ Completed relayServer c := by
  intro c
  have hrounds : (c.upstream.map fun up => saslRounds relayServer.codec up.log) =
      some [(goString "n,,n=acme,r=abc", some 0),
        (goString "c=biws,r=abcdef,p=d3Jvbmc=", some 58),
        (goString "n,,n=mallory,r=xyz", some 0)] := by decide +kernel
  refine ⟨by decide +kernel, by decide +kernel, by decide +kernel, hrounds, ?_⟩
  rintro ⟨up, first, second, hup, hlist, -⟩
  -- A completed exchange has two rounds, and this connection has three.
  rw [hup, Option.map_some, hlist] at hrounds
  cases hrounds

end Kroxy.Proofs
