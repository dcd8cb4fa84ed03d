import Kroxy.Proofs.Crash
import Kroxy.Proofs.Forwarding

/-!
# `Kroxy.Proofs.Revocation`: what deleting a tenant does to a running server

The admin service deletes a tenant while connections come and go. A connection reads the tenant
table once, when its client presents a user name, and keeps the record it got.

`deleted_locked_out` says what follows, for every order of events after the deletion in which
the tenant is not set again:

* No connection looks the tenant up any more, and none that is accepted later gets to be it.
* A connection that had logged in stays logged in, with the record it had. So deleting a tenant
  does not end its connections, and they may still dial the upstream of the deleted record.
* A SCRAM exchange that was under way may still complete. This is the one way in which a
  connection becomes the tenant's after the deletion.
-/

set_option autoImplicit false

namespace Kroxy.Proofs

open Kroxy.Go
open Kroxy.Lib
open Kroxy.Kmsg
open Kroxy.Protocol
open Kroxy.Auth
open Kroxy.Proxy
open Kroxy.Resolver
open Kroxy.Observability

/-! ### The table -/

/-- The table has no record for `id`. -/
def Lacks (table : MemoryResolver) (id : GoString) : Prop := ∀ t, table.get id ≠ .ok t

/-- A table lacks an id when no record has it. -/
theorem lacks_iff {table : MemoryResolver} {id : GoString} :
    Lacks table id ↔ ∀ t ∈ table.list, t.id ≠ id := by
  constructor
  · intro hlacks t ht hid
    obtain ⟨e, he, rfl⟩ := List.mem_map.mp ht
    have hkey : e.1 = id := (table.wf.keyed e he).symm.trans hid
    have hsome : (Store.get id table.tenants).isSome :=
      Store.get_isSome_iff.mpr (List.mem_map.mpr ⟨e, he, hkey⟩)
    obtain ⟨t, ht⟩ := Option.isSome_iff_exists.mp hsome
    exact hlacks t (by rw [MemoryResolver.get, ht])
  · intro hall t hget
    have hmem := MemoryResolver.get_eq_ok hget
    exact hall t (List.mem_map.mpr ⟨_, hmem, rfl⟩) (MemoryResolver.id_of_get_eq_ok hget)

/-- After a deletion the table has no record for the id, whether there was one or not. -/
theorem lacks_delete (table : MemoryResolver) (id : GoString) :
    Lacks (table.apply (.delete id)) id := by
  intro t hget
  cases hdel : table.delete id with
  | ok m' =>
      rw [MemoryResolver.apply, hdel] at hget
      have hmem := MemoryResolver.get_eq_ok hget
      rw [(MemoryResolver.delete_eq_ok hdel).2] at hmem
      simp [Store.erase] at hmem
  | error e =>
      rw [MemoryResolver.apply, hdel] at hget
      have hget : table.get id = .ok t := hget
      have hmem := MemoryResolver.get_eq_ok hget
      -- `Delete` fails on an empty id, which no record has, or because there is no record.
      unfold MemoryResolver.delete at hdel
      split at hdel
      · rename_i hempty
        have hvalid := validateTenant_eq_ok.mp (MemoryResolver.valid_of_get_eq_ok hget)
        exact hvalid.1 ((MemoryResolver.id_of_get_eq_ok hget).trans hempty)
      · split at hdel
        · cases hdel
        · rename_i hnone
          exact hnone (Store.get_isSome_iff.mpr (List.mem_map.mpr ⟨_, hmem, rfl⟩))

/-- Only setting the tenant brings it back. -/
theorem Lacks.apply {table : MemoryResolver} {id : GoString} (h : Lacks table id)
    {op : MemoryResolver.Op} (hop : ∀ t, op = .set t → t.id ≠ id) :
    Lacks (table.apply op) id := by
  rw [lacks_iff] at h ⊢
  intro t ht
  rcases MemoryResolver.mem_list_apply ht with hold | hset
  · exact h t hold
  · exact hop t hset

/-! ### One connection -/

/-- The connection did not look `id` up on its way from `c` to `c'`, and kept its login. -/
structure LockedOut (id : GoString) (c c' : Conn) : Prop where
  lookups : ∃ more, c'.resolved = c.resolved ++ more ∧ ∀ e ∈ more, e.1 ≠ id
  login : c.state = .authenticated → c'.state = .authenticated ∧ c'.tenant = c.tenant

namespace LockedOut

variable {id : GoString} {a b c c' : Conn}

/-- Nothing happened yet. -/
theorem refl (id : GoString) (c : Conn) : LockedOut id c c :=
  ⟨⟨[], by simp, by simp⟩, fun h => ⟨h, rfl⟩⟩

/-- Two such steps are one. -/
theorem trans (hab : LockedOut id a b) (hbc : LockedOut id b c) : LockedOut id a c := by
  obtain ⟨⟨more, hmore, hne⟩, hlogin⟩ := hab
  obtain ⟨⟨more', hmore', hne'⟩, hlogin'⟩ := hbc
  refine ⟨⟨more ++ more', by rw [hmore', hmore, List.append_assoc], ?_⟩, ?_⟩
  · intro e he
    rcases List.mem_append.mp he with he | he
    · exact hne e he
    · exact hne' e he
  · intro hstate
    obtain ⟨hb, htenant⟩ := hlogin hstate
    obtain ⟨hc, htenant'⟩ := hlogin' hb
    exact ⟨hc, htenant'.trans htenant⟩

/-- A step that looks nothing up and touches neither the state nor the tenant. -/
theorem of_eq (hresolved : c'.resolved = c.resolved) (hstate : c'.state = c.state)
    (htenant : c'.tenant = c.tenant) : LockedOut id c c' :=
  ⟨⟨[], by simp [hresolved], by simp⟩, fun h => ⟨hstate.trans h, htenant⟩⟩

/-- A step of a client that is not logged in, and that looks up someone else. -/
theorem of_lookup {username : GoString} {tenant : Tenant} (hne : username ≠ id)
    (hresolved : c'.resolved = c.resolved ++ [(username, tenant)])
    (hstate : c.state ≠ .authenticated) : LockedOut id c c' :=
  ⟨⟨_, hresolved, by simpa using hne⟩, fun h => absurd h hstate⟩

end LockedOut

section
variable {X : Server} {E : Env} {hdr : RequestHeader} {frame body : Bytes} {id : GoString}

/-- One frame, with a table that lacks the tenant. -/
theorem Turn.lockedOut {c c' : Conn} {out : Option Bytes} (hlacks : Lacks E.resolver id)
    (h : Turn X E hdr frame body c out c') : LockedOut id c c' := by
  have hother : ∀ {username : GoString} {tenant : Tenant},
      E.resolver.get username = .ok tenant → username ≠ id := by
    rintro username tenant hget rfl
    exact hlacks tenant hget
  have hawait : c.state = .awaitAuth → c.state ≠ .authenticated := by
    intro hstate
    rw [hstate]
    exact nofun
  cases h with
  | idle out own key => exact .refl id c
  | early key state => exact .refl id c
  | chose mech out own key state =>
      refine ⟨⟨[], by simp, by simp⟩, fun h => ?_⟩
      rw [state] at h
      cases h
  | plain payload creds tenant out own key state mech request parsed known =>
      exact .of_lookup (hother known) rfl (hawait state)
  | undialled payload username tenant closed out own key state mech request parsed known only =>
      exact .of_lookup (hother known) rfl (hawait state)
  | opened payload username tenant up out c' key state mech request parsed known handshaking
      rounds relayed =>
      exact .of_lookup (hother known) relayed.resolved (hawait state)
  | relayed payload up out c' key state mech request upstream relayed =>
      refine ⟨⟨[], by simp [relayed.resolved], by simp⟩, fun h => ?_⟩
      rw [state] at h
      cases h
  | unreachable closed key state upstream dialled only => exact .of_eq rfl rfl rfl
  | unsent up up' key state upstream quiet why => exact .of_eq rfl rfl rfl
  | failed up up' packet key state upstream ready forwarded packetKey sends =>
      exact .of_eq rfl rfl rfl
  | answered up up' packet reply resp key state upstream ready forwarded packetKey round
      answer => exact .of_eq rfl rfl rfl

/-- A looked-up record is the one of the user name that was looked up. -/
def Keyed (c : Conn) : Prop := ∀ e ∈ c.resolved, e.2.id = e.1

/-- A turn looks a tenant up under its own id. -/
theorem Keyed.turn {c c' : Conn} {out : Option Bytes} (h : Keyed c)
    (turn : Turn X E hdr frame body c out c') : Keyed c' := by
  intro e he
  rcases turn.resolved with hsame | ⟨username, tenant, hnew, -, known⟩
  · rw [hsame] at he
    exact h e he
  · rw [hnew, List.mem_append, List.mem_singleton] at he
    rcases he with he | rfl
    · exact h e he
    · exact MemoryResolver.id_of_get_eq_ok known

end

/-! ### Every interleaving -/

section
variable {X : Server}

/-- While the table lacks an id, no step looks it up. -/
theorem ClientStep.lockedOut {r r' : ServerState} {c c' : Client} {id : GoString}
    (hlacks : Lacks r.resolver id) (h : ClientStep X r c r' c') :
    LockedOut id c.conn c'.conn := by
  rcases h.conn_turn with hsame | ⟨E, hdr, frame, body, out, conn, frames, htable, turn, hconn⟩
  · rw [hsame]
    exact .refl id _
  · rw [hconn]
    rw [← htable] at hlacks
    exact (turn.lockedOut hlacks).trans (.of_eq rfl rfl rfl)

variable {table : MemoryResolver} {metrics : Option Metrics} {id : GoString}
variable {pre es : List (Move ClientEvent ServerEvent)} {s s' : Joint ServerState Client}

/-- The tenant stays away while nobody sets it. -/
theorem lacks_run (h : (process X).run s es = some s') (hlacks : Lacks s.shared.resolver id)
    (hset : ∀ t, .common (.admin (.set t)) ∈ es → t.id ≠ id) : Lacks s'.shared.resolver id := by
  induction es generalizing s with
  | nil =>
      cases h
      exact hlacks
  | cons e es ih =>
      obtain ⟨t, hstep, hrest⟩ := System.run_cons_eq_some h
      refine ih hrest ?_ fun t ht => hset t (List.mem_cons_of_mem _ ht)
      obtain ⟨i, x, rfl, -, rfl⟩ | ⟨i, x, c, r, c', rfl, -, hact, rfl⟩ | ⟨g, rfl, rfl⟩ :=
        System.step_cases hstep
      · exact hlacks
      · show Lacks r.resolver id
        rw [(act_step hact).shared.1]
        exact hlacks
      · show Lacks (s.shared.change s.parts g).resolver id
        have hchange := change_step s.shared s.parts g
        generalize s.shared.change s.parts g = r at hchange ⊢
        cases hchange with
        | admin op =>
            refine hlacks.apply ?_
            rintro t rfl
            exact hset t List.mem_cons_self
        | _ => exact hlacks

/-- Every client of a run is keyed. -/
theorem keyed_clients (h : (process X).run (listening table metrics) es = some s) :
    ∀ c ∈ s.parts, Keyed c.conn := by
  intro c hc
  obtain ⟨inputs, hlived, -⟩ := client_lives h c hc
  rw [← hlived.conn]
  exact run_invariant (P := Keyed) (by simp [Keyed, World.start])
    (fun _ _ _ _ _ _ _ h turn => h.turn turn) (fun _ _ h => h) inputs

/-- From the deletion of a tenant on, and until it is set again, no connection looks it up, what
is logged in stays so with the record it has, and a connection that is the tenant's had looked it
up before the deletion. -/
theorem deleted_locked_out
    (hpre : (process X).run (listening table metrics)
      (pre ++ [.common (.admin (.delete id))]) = some s)
    (h : (process X).run s es = some s')
    (hset : ∀ t, .common (.admin (.set t)) ∈ es → t.id ≠ id) {i : Nat} {c' : Client}
    (hc : s'.parts[i]? = some c') :
    ∃ c, (s.parts[i]? = some c ∨ s.parts[i]? = none ∧ c = {}) ∧
      LockedOut id c.conn c'.conn ∧
      (c'.conn.state = .authenticated → c'.conn.tenant.id = id →
        (id, c'.conn.tenant) ∈ c.conn.resolved) := by
  have hdeleted : Lacks s.shared.resolver id := by
    rw [System.run_append] at hpre
    obtain ⟨t, -, hlast⟩ := Option.bind_eq_some_iff.mp hpre
    cases hlast
    exact lacks_delete t.shared.resolver id
  have hwhole : (process X).run (listening table metrics)
      (pre ++ [.common (.admin (.delete id))] ++ es) = some s' := by
    rw [System.run_append, hpre]
    exact h
  have hlacks : ∀ pre t, pre <+: es → (process X).run s pre = some t →
      Lacks t.shared.resolver id := by
    intro pre t hinit hrun
    exact lacks_run hrun hdeleted fun u hu => hset u (hinit.subset hu)
  obtain ⟨c, hfrom, hout⟩ := System.evolves (T := fun c c' => LockedOut id c.conn c'.conn)
    (fun c => .refl id c.conn) (fun _ _ _ => .trans)
    (fun _ _ _ _ _ hlacks hact => (act_step hact).lockedOut hlacks) h hlacks hc
  refine ⟨c, ?_, hout, ?_⟩
  · rcases hfrom with hold | ⟨hnone, r, g, hnew⟩
    · exact Or.inl hold
    · exact Or.inr ⟨hnone, (mem_spawn hnew).1⟩
  · intro hstate hid
    have hmem := List.mem_of_getElem? hc
    obtain ⟨username, hknown⟩ := (sound_clients hwhole c' hmem).known (Or.inr hstate)
    have hname : c'.conn.tenant.id = username := keyed_clients hwhole c' hmem _ hknown
    rw [← hname, hid] at hknown
    obtain ⟨more, hmore, hne⟩ := hout.lookups
    rw [hmore] at hknown
    -- The lookup is not one of those after the deletion.
    rcases List.mem_append.mp hknown with hbefore | hafter
    · exact hbefore
    · exact absurd rfl (hne _ hafter)

end

/-- A client logs in as `acme`, and the tenant is deleted. -/
def beforeDeletion : List (Move ClientEvent ServerEvent) :=
  [.common .accepted, .own 0 (.turn quietNet)] ++
    sends (saslBroker [0]) 0 ((clientSession "acme" []).take 2)

/-- A second client tries to log in as `acme`. -/
def afterDeletion : List (Move ClientEvent ServerEvent) :=
  [.common .accepted, .own 1 (.turn quietNet)] ++
    sends (saslBroker [0]) 1 ((clientSession "acme" []).take 2)

/-- The client before the deletion stays logged in, the one after it does not get in. -/
theorem deletion_run :
    ∃ s, (process relayServer).run (listening acmeTable none)
      (beforeDeletion ++ [.common (.admin (.delete (goString "acme")))] ++ afterDeletion) =
        some s ∧
      s.parts.map (fun c => (c.conn.tenant.id, c.conn.state, c.conn.resolved.length,
        c.frames.length)) = [(goString "acme", .authenticated, 1, 2), ([], .awaitAuth, 0, 2)] :=
  Option.map_eq_some_iff.mp (by decide +kernel)

/-- The first client stays logged in, and the second could not have looked the tenant up. -/
theorem deleted_locked_out_acme :
    ∃ s s' c d, (process relayServer).run (listening acmeTable none)
        (beforeDeletion ++ [.common (.admin (.delete (goString "acme")))]) = some s ∧
      (process relayServer).run s afterDeletion = some s' ∧ s'.parts = [c, d] ∧
      c.conn.state = .authenticated ∧ c.conn.tenant.id = goString "acme" ∧
      d.frames.length = 2 ∧ ∃ d₀ : Client,
        (s.parts[1]? = some d₀ ∨ s.parts[1]? = none ∧ d₀ = {}) ∧
        LockedOut (goString "acme") d₀.conn d.conn := by
  obtain ⟨s', hs', hparts⟩ := deletion_run
  rw [System.run_append] at hs'
  obtain ⟨s, hs, hrest⟩ := Option.bind_eq_some_iff.mp hs'
  obtain ⟨c, d, hcd⟩ := List.length_eq_two.mp (by simpa using congrArg List.length hparts)
  rw [hcd] at hparts
  simp only [List.map_cons, List.map_nil, List.cons.injEq, Prod.mk.injEq, and_true] at hparts
  obtain ⟨⟨hid, hstate, -⟩, -, -, -, hframes⟩ := hparts
  have hset : ∀ t, Move.common (.admin (.set t)) ∈ afterDeletion → t.id ≠ goString "acme" := by
    intro t ht
    simp [afterDeletion, sends, clientSession] at ht
  have hd : s'.parts[1]? = some d := by simp [hcd]
  obtain ⟨d₀, hfrom, hout, -⟩ := deleted_locked_out hs hrest hset hd
  exact ⟨s, s', c, d, hs, hrest, hcd, hstate, hid, hframes, d₀, hfrom, hout⟩

end Kroxy.Proofs
